import MaskedPath.Proofs.Attribution
import MaskedPath.Proofs.ModuleNames
import MaskedPath.Proofs.Session
import MaskedPath.Proofs.Shown

/-!
# Stacked masking resolvers

A masking resolver judges a module by the resource that its parent locates, while the module comes
from what its parent resolves. The two differ where a masking resolver in between veils the resource:
where its name masks hide the resource's path but not the module's name. A module whose resource is
not veiled comes from no masked library; one whose resource is veiled gets past every library mask.
-/

namespace MaskedPath

open MaskedPath.Action

/-! ## Towers -/

namespace Resolver

/-- Whether a resolver is made of searches and masking resolvers only. -/
def IsTower : Resolver → Prop
  | .nowhere => True
  | .fixed _ _ => False
  | .search _ parent => parent.IsTower
  | .masking _ parent => parent.IsTower

def core : Resolver → Resolver
  | .masking _ parent => parent.core
  | r => r

def veils (judges : Nat → Judge) (resource : Text) : Resolver → Bool
  | .masking id parent =>
    (judges id).registry.hidesResource resource || parent.veils judges resource
  | _ => false

variable {fs : FileSystem} {judges : Nat → Judge} {name : Text} {finalize : Bool} {m : Module}

/-- What a resolver locates among a module's candidates when its core finds the module in one of them:
the same if that one is not veiled, and nothing if it is. -/
structure Views [Runtime] (fs : FileSystem) (judges : Nat → Judge) (name : Text) (r : Resolver)
    (resource : Text) (location : Location) : Prop where
  found : FirstFound (r.core.replies fs judges).locate (ModuleName.candidates name) resource location
  clear : r.veils judges resource = false →
    FirstFound (r.replies fs judges).locate (ModuleName.candidates name) resource location
  veiled : r.veils judges resource = true →
    ∀ candidate ∈ ModuleName.candidates name, (r.replies fs judges).locate candidate = .ok none

theorem hidesResource_after {registry : Registry} {before after : List Text} {resource : Text}
    (split : ModuleName.candidates name = before ++ resource :: after)
    (hidden : registry.hidesResource resource = true) :
    ∀ later ∈ after, registry.hidesResource later = true := by
  intro later member
  rcases before with _ | ⟨first, before⟩
  · obtain ⟨rfl, rfl⟩ := List.cons_eq_cons.mp split
    rw [List.mem_singleton.mp member]
    exact Registry.hidesResource_package hidden
  · have short := congrArg List.length split
    simp only [ModuleName.candidates, List.length_append, List.length_cons, List.length_nil] at short
    have nothing : after = [] := List.length_eq_zero_iff.mp (by omega)
    rw [nothing] at member
    cases member

theorem Views.masking [Runtime] {id : Nat} {parent : Resolver} {resource : Text} {location : Location}
    (views : parent.Views fs judges name resource location)
    (judged : ∃ origin, (judges id).originOfFirst (parent.replies fs judges).locate
      (ModuleName.candidates name) = .ok origin ∧ origin ≠ .masked) :
    (Resolver.masking id parent).Views fs judges name resource location := by
  obtain ⟨origin, judged, notMasked⟩ := judged
  refine ⟨views.found, fun clear => ?_, fun veiled => ?_⟩
  · simp only [veils, Bool.or_eq_false_iff] at clear
    have first := views.clear clear.2
    rw [Judge.originOfFirst_of_firstFound first] at judged
    obtain ⟨before, after, split, absent, located⟩ := first
    refine ⟨before, after, split, fun missing member => ?_, ?_⟩
    · exact Replies.masked_locate_of_none (absent missing member)
    · exact Replies.masked_locate_of_passes clear.1 located ⟨origin, judged, notMasked⟩
  · cases below : parent.veils judges resource with
    | true =>
        intro candidate member
        exact Replies.masked_locate_of_none (views.veiled below candidate member)
    | false =>
        simp only [veils, below, Bool.or_false] at veiled
        obtain ⟨before, after, split, absent, located⟩ := views.clear below
        intro candidate member
        rw [split, List.mem_append, List.mem_cons] at member
        rcases member with earlier | rfl | later
        · exact Replies.masked_locate_of_none (absent candidate earlier)
        · exact Replies.locate_of_hidden veiled
        · exact Replies.locate_of_hidden (hidesResource_after split veiled candidate later)

/-- A module that a tower resolves is found by the core of the tower. -/
theorem views_of_resolve [Runtime] {r : Resolver} (tower : r.IsTower)
    (resolved : (r.replies fs judges).resolve name finalize = .ok (some m)) :
    ∃ resource, r.Views fs judges name resource m.location := by
  induction r with
  | nowhere => cases resolved
  | fixed id answers => exact tower.elim
  | search entries parent ih =>
      obtain ⟨resource, first⟩ := Search.firstFound_of_resolve resolved
      exact ⟨resource, first, fun _ => first, fun veiled => by simp [veils] at veiled⟩
  | masking id parent ih =>
      obtain ⟨-, below, judged⟩ := Replies.masked_resolve_eq_some resolved
      obtain ⟨resource, views⟩ := ih tower below
      exact ⟨resource, views.masking judged⟩

end Resolver

/-! ## Library masks above a tower -/

def Store.withLibraries (s : Store) (id : Nat) (libraries : List Library) : Store :=
  s.setMasking id
    { s.masking id with registry := { (s.masking id).registry with libraries := libraries } }

def Judge.withLibraries (j : Judge) (libraries : List Library) : Judge :=
  { j with registry := { j.registry with libraries := libraries } }

theorem Store.withLibraries_updates [Runtime] (fs : FileSystem) {s : Store} {id : Nat}
    (known : id < s.maskings.length) (libraries : List Library) :
    s.Updates fs id ((s.judge fs id).withLibraries libraries) (s.withLibraries id libraries) :=
  Store.updates_setRegistry known _

theorem Judge.origin_of_matches {j : Judge} {location : Location} {key : Text}
    {library mask : Library} (archive : Location.archiveKey? location = some key)
    (attributed : j.libraryOf key = .ok (some library)) (real : ¬ library.IsVoid)
    {libraries : List Library} (member : mask ∈ libraries) (same : mask.Matches library) :
    (j.withLibraries libraries).origin location = .ok .masked :=
  (Judge.origin_eq_masked_iff _ location).mpr
    ⟨key, library, archive, attributed, real, mask, member, same⟩

/-- Where a masking resolver over a tower resolves a module, the core finds the module in one of its
resources. If no masking resolver in between veils that resource, the module's location is not
masked; if one does, the module is resolved whatever the library masks are, those included that
match the library of its location. -/
theorem resolve_not_masked_iff_not_veiled [Runtime] {fs : FileSystem} {s : Store}
    (reached : Reachable fs s) {id : Nat} (known : id < s.maskings.length) {parent : Resolver} (tower : parent.IsTower)
    (below : parent.Below id) {name : Text} {finalize : Bool} {m : Module}
    (resolved :
      (((Resolver.masking id parent).resolve fs name finalize).run s).1 = .ok (some m)) :
    let answer (store : Store) := ((Resolver.masking id parent).resolve fs name finalize).run store
    let origin (store : Store) := ((Masking.locationOrigin fs id m.location).run store).1
    ∃ resource, FirstFound (parent.core.replies fs (s.judge fs)).locate (ModuleName.candidates name)
        resource m.location ∧
      (parent.veils (s.judge fs) resource = false → origin (answer s).2 ≠ .ok .masked) ∧
      (parent.veils (s.judge fs) resource = true → ∀ libraries,
        let store := s.withLibraries id libraries
        (answer store).1 = .ok (some m) ∧
          ∀ key library mask, Location.archiveKey? m.location = some key →
            (s.judge fs id).libraryOf key = .ok (some library) → ¬ library.IsVoid →
            mask ∈ libraries → mask.Matches library → origin (answer store).2 = .ok .masked) := by
  intro answer origin
  have judged_after : ∀ store : Store, store.Faithful fs →
      origin (answer store).2 = (store.judge fs id).origin m.location := by
    intro store faithful
    have kept : store.Keeps fs (answer store).2 :=
      (Resolver.gives_resolve (.masking id parent) name finalize store faithful rfl).2
    exact (Masking.gives_locationOrigin id m.location _ (kept.faithful faithful) kept.judge_eq).1
  have faithful := reached.faithful
  rw [Resolver.resolve_run faithful] at resolved
  obtain ⟨shown, underneath, origin', judged, notMasked⟩ :=
    Replies.masked_resolve_eq_some resolved
  obtain ⟨resource, views⟩ := Resolver.views_of_resolve tower underneath
  refine ⟨resource, views.found, fun clear => ?_, fun veiled libraries => ?_⟩
  · rw [Judge.originOfFirst_of_firstFound (views.clear clear)] at judged
    rw [judged_after s faithful, judged]
    intro same
    exact notMasked (Except.ok.inj same)
  · intro store
    have updated : s.Updates fs id ((s.judge fs id).withLibraries libraries) store :=
      Store.withLibraries_updates fs known libraries
    have unmoved : parent.replies fs (store.judge fs) = parent.replies fs (s.judge fs) := by
      apply Resolver.replies_congr below
      intro i less
      rw [updated.judge_eq, Function.update_of_ne (Nat.ne_of_lt less)]
    refine ⟨?_, fun key library mask archive attributed real member same => ?_⟩
    · have still : ((s.judge fs id).withLibraries libraries).registry.hidesName name = false :=
        shown
      change (((Resolver.masking id parent).resolve fs name finalize).run store).1 = _
      rw [Resolver.resolve_run (updated.faithful faithful), Resolver.replies, unmoved, updated.own,
        Replies.masked_resolve_of_none still (views.veiled veiled)]
      exact underneath
    · rw [judged_after store (updated.faithful faithful), updated.own]
      exact Judge.origin_of_matches archive attributed real member same

/-! ## A package under a mask that ends in a dot -/

namespace Stacked

open scoped MaskedPath.Standard

def files : FileSystem := OneArchive.files Packaged.bytes

def location : Location := Location.ofMemberAt OneArchive.key Packaged.package.name

def inner : Resolver := .masking 0 OneArchive.search

def outer : Resolver := .masking 1 inner

def bare : Store :=
  ((inner.mask [] (.identifier {}) .keepAll).run
    ((OneArchive.search.mask [['p', '.']] (.identifier {}) .keepAll).run .empty).2).2

def store : Store :=
  (((Masking.Operation.addLibraries [some Packaged.library]).perform files 1 inner).run bare).2

theorem reachable : Reachable files store :=
  .perform (.mask (.mask .start OneArchive.search [['p', '.']] (.identifier {}) .keepAll) inner []
    (.identifier {}) .keepAll) 1 (by decide) inner (.addLibraries [some Packaged.library])

def found : Module := ⟨['p'], location, [], true, true⟩

variable (judges : Nat → Judge)

theorem firstFound_search : FirstFound (OneArchive.search.replies files judges).locate
    (ModuleName.candidates ['p']) (ModuleName.package ['p']) location := by
  have absent : (OneArchive.search.replies files judges).locate (ModuleName.plain ['p']) =
      .ok none := by
    have missing : (Packaged.archive.member? (ModuleName.plain ['p'])).isSome = false := by
      decide
    have located := OneArchive.locate_search Packaged.parse_bytes
      (show Search.plainName (ModuleName.plain ['p']) = _ by decide) (by decide) judges
    rw [missing] at located
    exact located
  have located : (OneArchive.search.replies files judges).locate (ModuleName.package ['p']) =
      .ok (some location) := by
    have located := OneArchive.locate_search Packaged.parse_bytes
      (show Search.plainName Packaged.package.name = _ by decide) (by decide) judges
    rw [Packaged.member?_package] at located
    exact located
  exact .cons absent (.head located [])

theorem resolve_search :
    (OneArchive.search.replies files judges).resolve ['p'] true = .ok (some found) :=
  Search.resolve_of_firstFound (firstFound_search judges)
    (OneArchive.read_location Packaged.parse_bytes (by decide) Packaged.member?_package
      Packaged.extract_package)

theorem origin_location (registry : Registry) :
    (OneArchive.judge Packaged.bytes registry).origin location =
      .ok (if registry.hidesLibrary (some Packaged.library) then .masked else .notMasked) :=
  OneArchive.origin_eq (Packaged.libraryAt_eq (OneArchive.read_entry Packaged.bytes)) registry _

theorem resolve_store : ((outer.resolve files ['p'] true).run store).1 = .ok (some found) := by
  have first := firstFound_search (store.judge files)
  have judged : (store.judge files 0).origin location = .ok .notMasked := origin_location _
  have views : inner.Views files (store.judge files) ['p'] (ModuleName.package ['p']) location := by
    refine Resolver.Views.masking ⟨first, fun _ => first, fun veiled => ?_⟩ ⟨.notMasked, ?_, by simp⟩
    · simp [OneArchive.search, Resolver.veils] at veiled
    · rw [Judge.originOfFirst_of_firstFound first, judged]
  have veiled : inner.veils (store.judge files) (ModuleName.package ['p']) = true := rfl
  have below : (inner.replies files (store.judge files)).resolve ['p'] true = .ok (some found) := by
    change (Replies.masked _ (OneArchive.search.replies files _)).resolve ['p'] true = _
    rw [Replies.masked_resolve_of_passes rfl first ⟨.notMasked, judged, by simp⟩]
    exact resolve_search _
  rw [Resolver.resolve_run reachable.faithful]
  change (Replies.masked _ (inner.replies files _)).resolve ['p'] true = _
  rw [Replies.masked_resolve_of_none rfl (views.veiled veiled)]
  exact below

end Stacked

open scoped MaskedPath.Standard in
theorem resolve_not_masked_iff_not_veiled_package :
    let r := Stacked.outer
    let judges := Stacked.store.judge Stacked.files
    Stacked.inner.Below 1 ∧
      FirstFound (OneArchive.search.replies Stacked.files judges).locate (ModuleName.candidates ['p'])
        (ModuleName.package ['p']) Stacked.location ∧
      Stacked.inner.veils judges (ModuleName.package ['p']) = true ∧ ∀ libraries,
        ((r.resolve Stacked.files ['p'] true).run (Stacked.store.withLibraries 1 libraries)).1 =
          .ok (some Stacked.found) := by
  intro r judges
  have below : Stacked.inner.Below 1 := ⟨Nat.zero_lt_one, trivial⟩
  obtain ⟨resource, first, -, veiled⟩ := resolve_not_masked_iff_not_veiled Stacked.reachable
    (show 1 < Stacked.store.maskings.length by decide) (show Stacked.inner.IsTower from trivial)
    below Stacked.resolve_store
  obtain rfl := first.unique (Stacked.firstFound_search judges)
  exact ⟨below, first, rfl, fun libraries => (veiled rfl libraries).1⟩

open scoped MaskedPath.Standard in
/-- A module whose file is veiled by the mask beneath gets past a mask on its own library. -/
theorem veiled_module_is_masked :
    let r := Stacked.outer
    let after := ((r.resolve Stacked.files ['p'] true).run Stacked.store).2
    Reachable Stacked.files Stacked.store ∧ Stacked.inner.IsTower ∧
      ((r.resolve Stacked.files ['p'] true).run Stacked.store).1 = .ok (some Stacked.found) ∧
      ((Masking.locationOrigin Stacked.files 1 Stacked.found.location).run after).1 =
        .ok .masked := by
  intro r after
  have faithful := Stacked.reachable.faithful
  have kept : Stacked.store.Keeps Stacked.files after :=
    (Resolver.gives_resolve Stacked.outer ['p'] true _ faithful rfl).2
  refine ⟨Stacked.reachable, trivial, Stacked.resolve_store, ?_⟩
  rw [(Masking.gives_locationOrigin 1 _ after (kept.faithful faithful) kept.judge_eq).1]
  exact Stacked.origin_location _

end MaskedPath
