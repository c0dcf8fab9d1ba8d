import MaskedPath.Proofs.AttributionFailures
import MaskedPath.Proofs.LibraryMasks
import MaskedPath.Proofs.Stacking

namespace MaskedPath

/-! ## Modules of a search -/

namespace Search

variable [Runtime] {fs : FileSystem} {locate : Text → Except Failure (Option Location)} {name : Text}
  {finalize : Bool} {resources : List Text}

theorem located_of_resolved {m : Module}
    (resolved : resources.findSomeM? (moduleIn fs locate name finalize) = .ok (some m)) :
    resources.findSomeM? locate = .ok (some m.location) ∧
      Location.read fs m.location = .ok m.source := by
  induction resources with
  | nil => cases resolved
  | cons resource rest ih =>
      rw [List.findSomeM?_cons] at resolved ⊢
      obtain ⟨answer, first, resolved⟩ := bind_eq_ok.mp resolved
      cases answer with
      | none =>
          rw [moduleIn_eq_none first]
          exact ih resolved
      | some found =>
          cases resolved
          obtain ⟨located, read, -⟩ := moduleIn_eq_some first
          rw [located]
          exact ⟨rfl, read⟩

theorem absent_of_unresolved
    (unresolved : resources.findSomeM? (moduleIn fs locate name finalize) = .ok none) :
    ∀ resource ∈ resources, locate resource = .ok none := by
  induction resources with
  | nil => simp
  | cons resource rest ih =>
      rw [List.findSomeM?_cons] at unresolved
      obtain ⟨answer, first, unresolved⟩ := bind_eq_ok.mp unresolved
      cases answer with
      | some found => cases unresolved
      | none =>
          have later := ih unresolved
          intro other member
          rcases List.mem_cons.mp member with rfl | member
          · exact moduleIn_eq_none first
          · exact later other member

theorem resolved_of_unlocated
    (missing : ∀ location, resources.findSomeM? locate ≠ .ok (some location)) :
    resources.findSomeM? (moduleIn fs locate name finalize) =
      resources.findSomeM? locate >>= fun _ => .ok none := by
  induction resources with
  | nil => rfl
  | cons resource rest ih =>
      rw [List.findSomeM?_cons] at missing ⊢
      rw [List.findSomeM?_cons]
      cases located : locate resource with
      | error e =>
          unfold moduleIn
          rw [located]
          rfl
      | ok answer =>
          rw [located] at missing
          cases answer with
          | some location => exact absurd rfl (missing location)
          | none =>
              rw [moduleIn_of_none located]
              exact ih missing

end Search

/-- A chain of searches looks for a module among the candidates that it locates. -/
theorem Resolver.IsChain.resolve_eq [Runtime] {fs : FileSystem} {judges : Nat → Judge}
    {parent : Resolver} (chain : parent.IsChain) (name : Text) (finalize : Bool) :
    (parent.replies fs judges).resolve name finalize = (ModuleName.candidates name).findSomeM?
      (Search.moduleIn fs (parent.replies fs judges).locate name finalize) := by
  cases parent with
  | nowhere => rfl
  | search entries parent => rfl
  | fixed id answers => exact chain.elim
  | masking id parent => exact chain.elim

/-! ## Verdicts -/

namespace Replies

variable {fs : FileSystem} {j : Judge} {p : Replies} {name : Text}

theorem masked_resolve_of_judged {origin : Origin} (shown : j.registry.hidesName name = false)
    (judged : j.originOfFirst p.locate (ModuleName.candidates name) = .ok origin) (finalize : Bool) :
    (p.masked j).resolve name finalize =
      if origin = .masked then .ok none else p.resolve name finalize := by
  simp [masked, shown, judged]

theorem masked_resolve_of_unjudged {e : Failure} (shown : j.registry.hidesName name = false)
    (failed : j.originOfFirst p.locate (ModuleName.candidates name) = .error e) (finalize : Bool) :
    (p.masked j).resolve name finalize = .error e := by
  simp [masked, shown, failed]

theorem masked_resolve_of_unlocated [Runtime] {finalize : Bool}
    (shown : j.registry.hidesName name = false)
    (resolves : p.resolve name finalize = (ModuleName.candidates name).findSomeM?
      (Search.moduleIn fs p.locate name finalize))
    (missing : ∀ location, (ModuleName.candidates name).findSomeM? p.locate ≠ .ok (some location)) :
    (p.masked j).resolve name finalize = p.resolve name finalize := by
  have below := resolves.trans (Search.resolved_of_unlocated missing)
  cases located : (ModuleName.candidates name).findSomeM? p.locate with
  | error e =>
      rw [located] at below
      rw [masked_resolve_of_unjudged (e := e) shown (by simp [Judge.originOfFirst, located]), below]
      rfl
  | ok answer =>
      cases answer with
      | some location => exact absurd located (missing location)
      | none =>
          have judged : j.originOfFirst p.locate (ModuleName.candidates name) = .ok .notMasked := by
            simp [Judge.originOfFirst, located]
          rw [masked_resolve_of_judged shown judged, if_neg (by simp)]

end Replies

theorem Judge.originOfFirst_of_located {j : Judge}
    {locate : Text → Except Failure (Option Location)} {resources : List Text} {location : Location}
    (located : resources.findSomeM? locate = .ok (some location)) :
    j.originOfFirst locate resources = j.origin location := by
  unfold originOfFirst
  rw [located]
  rfl

/-- Where a chain resolves a module, it is read from the first location of its candidates, the one
that the origin of the module is that of; where it resolves none, no candidate has a location. So a
masking resolver above gives nothing for a name that is masked, or whose first location is of a masked
library, fails where that location cannot be judged, and else gives what the chain gives. -/
theorem verdict_on_resolved_location [Runtime] {fs : FileSystem} {s : Store} (reached : Reachable fs s)
    {parent : Resolver} (chain : parent.IsChain) (id : Nat) (name : Text) (finalize : Bool) :
    let below := parent.answers fs s
    let above := (Resolver.masking id parent).answers fs s
    let first := (ModuleName.candidates name).findSomeM? below.locate
    let origin := fun location => ((Masking.locationOrigin fs id location).run s).1
    let hidden := (s.masking id).registry.hidesName name
    (∀ m, below.resolve name finalize = .ok (some m) → first = .ok (some m.location) ∧
      Location.read fs m.location = .ok m.source ∧
        ((Resolver.moduleOrigin fs id parent name).run s).1 = origin m.location) ∧
    (below.resolve name finalize = .ok none →
      ∀ candidate ∈ ModuleName.candidates name, below.locate candidate = .ok none) ∧
    (hidden = true → above.resolve name finalize = .ok none) ∧
    (∀ location, first = .ok (some location) → origin location = .ok .masked →
      above.resolve name finalize = .ok none) ∧
    (hidden = false → ∀ location, first = .ok (some location) → ∀ e, origin location = .error e →
      above.resolve name finalize = .error e) ∧
    (hidden = false →
      (∀ location, first = .ok (some location) → ∃ verdict, origin location = .ok verdict ∧
        verdict ≠ .masked) →
      above.resolve name finalize = below.resolve name finalize) := by
  intro below above first origin hidden
  have faithful := reached.faithful
  have below_eq : below = parent.replies fs (s.judge fs) :=
    Resolver.answers_eq_replies faithful parent
  have above_eq : above = below.masked (s.judge fs id) := by
    rw [below_eq]
    exact Resolver.answers_eq_replies faithful _
  have origin_eq : ∀ location, origin location = (s.judge fs id).origin location := fun location =>
    (Masking.gives_locationOrigin id location s faithful rfl).1
  have verdict_eq : ((Resolver.moduleOrigin fs id parent name).run s).1 =
      (s.judge fs id).originOfFirst below.locate (ModuleName.candidates name) := by
    rw [below_eq]
    exact (Masking.gives_originOfFirst id (Resolver.gives_locate parent) _ s faithful rfl).1
  have resolve_eq : below.resolve name finalize =
      (ModuleName.candidates name).findSomeM? (Search.moduleIn fs below.locate name finalize) := by
    rw [below_eq]
    exact chain.resolve_eq name finalize
  have judged : ∀ location, first = .ok (some location) →
      (s.judge fs id).originOfFirst below.locate (ModuleName.candidates name) = origin location := by
    intro location located
    rw [origin_eq]
    exact Judge.originOfFirst_of_located located
  rw [above_eq]
  refine ⟨?_, ?_, ?_, ?_, ?_, ?_⟩
  · intro m resolved
    rw [resolve_eq] at resolved
    obtain ⟨located, read⟩ := Search.located_of_resolved resolved
    exact ⟨located, read, verdict_eq.trans (judged _ located)⟩
  · intro unresolved
    rw [resolve_eq] at unresolved
    exact Search.absent_of_unresolved unresolved
  · intro masked
    exact Replies.resolve_of_hidden masked finalize
  · intro location located masked
    cases shown : hidden with
    | true => exact Replies.resolve_of_hidden shown finalize
    | false =>
        rw [Replies.masked_resolve_of_judged shown ((judged location located).trans masked)]
        rfl
  · intro shown location located e failed
    exact Replies.masked_resolve_of_unjudged shown ((judged location located).trans failed) finalize
  · intro shown passes
    by_cases found : ∃ location, first = .ok (some location)
    · obtain ⟨location, located⟩ := found
      obtain ⟨verdict, passed, notMasked⟩ := passes location located
      rw [Replies.masked_resolve_of_judged shown ((judged location located).trans passed),
        if_neg notMasked]
    · exact Replies.masked_resolve_of_unlocated shown resolve_eq (not_exists.mp found)

/-! ## A package of a masked library -/

namespace Judged

open scoped MaskedPath.Standard

def files : FileSystem := OneArchive.files Packaged.bytes

def store : Store :=
  (((Masking.Operation.addLibraries [some Packaged.library]).perform files 0 OneArchive.search).run
    ((OneArchive.search.mask [] (.identifier {}) .keepAll).run .empty).2).2

theorem reachable : Reachable files store :=
  .perform (.mask .start OneArchive.search [] (.identifier {}) .keepAll) 0 (by decide)
    OneArchive.search (.addLibraries [some Packaged.library])

theorem resolve_search : (OneArchive.search.answers files store).resolve ['p'] true =
    .ok (some Stacked.found) := by
  rw [Resolver.answers_eq_replies reachable.faithful]
  exact Stacked.resolve_search _

theorem origin_location :
    ((Masking.locationOrigin files 0 Stacked.location).run store).1 = .ok .masked := by
  rw [(Masking.gives_locationOrigin 0 _ store reachable.faithful rfl).1]
  exact Stacked.origin_location _

end Judged

open scoped MaskedPath.Standard in
theorem verdict_on_resolved_location_package :
    let below := OneArchive.search.answers Judged.files Judged.store
    let above := (Resolver.masking 0 OneArchive.search).answers Judged.files Judged.store
    OneArchive.search.IsChain ∧ below.resolve ['p'] true = .ok (some Stacked.found) ∧
      (ModuleName.candidates ['p']).findSomeM? below.locate = .ok (some Stacked.location) ∧
      Location.read Judged.files Stacked.location = .ok [] ∧
      above.resolve ['p'] true = .ok none := by
  intro below above
  have chain : OneArchive.search.IsChain := trivial
  obtain ⟨resolved, -, -, masked, -⟩ :=
    verdict_on_resolved_location Judged.reachable chain 0 ['p'] true
  obtain ⟨located, read, -⟩ := resolved _ Judged.resolve_search
  exact ⟨chain, Judged.resolve_search, located, read, masked _ located Judged.origin_location⟩

/-! ## A module beside a member without a name -/

theorem OneArchive.origin_of_failed [Runtime] {bytes : Bytes} {e : Failure}
    (failed : ({} : Identifier).libraryAt (files bytes) entry = .error e) (registry : Registry)
    (name : Text) :
    (judge bytes registry).origin (Location.ofMemberAt key name) = .error e := by
  have at_key : ({} : Identifier).libraryAt (files bytes) keyPath = .error e := by
    rw [← failed]
    exact Identifier.libraryAt_eq_of_read (read_keyPath bytes) (read_entry bytes)
  have unattributed : (judge bytes registry).libraryOf key = .error e := by
    change (Attributor.identifier {}).library (files bytes) key = _
    rw [Attributor.library_identifier path?_key, at_key]
    rfl
  unfold Judge.origin
  rw [Location.archiveKey?_ofMemberAt (by decide)]
  change ((judge bytes registry).libraryOf key >>= _) = _
  rw [unattributed]
  rfl

namespace Unjudged

open scoped MaskedPath.Standard

def bytes : Bytes :=
  Packaged.bytesOf ("PK\x03\x04\x14\x00\x00\x00\x00\x00\x00\x00!\x00\x00\x00\x00\x00" ++
    "\x00\x00\x00\x00\x00\x00\x00\x00\x04\x00\x00\x00x.py") ++
  Packaged.bytesOf ("PK\x03\x04\x14\x00\x00\x00\x00\x00\x00\x00!\x00\x00\x00\x00\x00" ++
    "\x00\x00\x00\x00\x00\x00\x00\x00\x00\x00\x00\x00") ++
  Packaged.bytesOf ("PK\x01\x02\x14\x00\x14\x00\x00\x00\x00\x00\x00\x00!\x00\x00\x00\x00\x00" ++
    "\x00\x00\x00\x00\x00\x00\x00\x00\x04\x00\x00\x00\x00\x00\x00\x00\x00\x00\x00\x00\x80" ++
    "\x01\x00\x00\x00\x00x.py") ++
  Packaged.bytesOf ("PK\x01\x02\x14\x00\x14\x00\x00\x00\x00\x00\x00\x00!\x00\x00\x00\x00\x00" ++
    "\x00\x00\x00\x00\x00\x00\x00\x00\x00\x00\x00\x00\x00\x00\x00\x00\x00\x00\x00\x00\x80" ++
    "\x01\x22\x00\x00\x00") ++
  Packaged.bytesOf "PK\x05\x06\x00\x00\x00\x00\x02\x00\x02\x00`\x00\x00\x00@\x00\x00\x00\x00\x00"

def code : Member where
  rawName := "x.py".toList
  flags := 0
  method := 0
  checksum := 0
  packedSize := 0
  size := 0
  attributes := 0x1800000
  headerOffset := 0
  limit := 34

def unnamed : Member := { code with rawName := [], headerOffset := 34, limit := 64 }

set_option maxRecDepth 4000 in
theorem parse_bytes : Archive.parse bytes = .ok ⟨bytes, [code, unnamed]⟩ := by
  cbv

def files : FileSystem := OneArchive.files bytes

def store : Store := ((OneArchive.search.mask [] (.identifier {}) .keepAll).run .empty).2

theorem reachable : Reachable files store :=
  .mask .start OneArchive.search [] (.identifier {}) .keepAll

def location : Location := Location.ofMemberAt OneArchive.key code.name

def found : Module := ⟨['x'], location, [], false, false⟩

theorem member?_code : (Archive.mk bytes [code, unnamed]).member? code.name = some code := by
  decide

theorem locate_search (judges : Nat → Judge) :
    (OneArchive.search.replies files judges).locate (ModuleName.plain ['x']) =
      .ok (some location) := by
  have located := OneArchive.locate_search parse_bytes
    (show Search.plainName code.name = code.name by decide) (by decide) judges
  rw [member?_code] at located
  exact located

theorem read_location : Location.read files location = .ok [] := by
  refine OneArchive.read_location parse_bytes (by decide) member?_code ?_
  apply eq_ok_of_toOption
  decide

theorem resolve_search :
    (OneArchive.search.answers files store).resolve ['x'] false = .ok (some found) := by
  rw [Resolver.answers_eq_replies reachable.faithful]
  exact Search.resolve_of_firstFound (.head (locate_search _) [ModuleName.package ['x']])
    read_location

theorem origin_location :
    ((Masking.locationOrigin files 0 location).run store).1 = .error .unnamedMember := by
  have readable := FileSystem.readArchive_of_read (OneArchive.read_entry bytes) parse_bytes
  have failed : ({} : Identifier).libraryAt files OneArchive.entry = .error .unnamedMember :=
    Identifier.libraryAt_eq_error_iff.mpr
      (.unnamedMember readable ⟨[code], [], rfl, by decide⟩ rfl)
  rw [(Masking.gives_locationOrigin 0 _ store reachable.faithful rfl).1]
  exact OneArchive.origin_of_failed failed _ _

end Unjudged

open scoped MaskedPath.Standard in
/-- A chain resolves a module of an archive that cannot be attributed, but a masking resolver above
it, without any mask, fails. -/
theorem unattributed_module_fails :
    let below := OneArchive.search.answers Unjudged.files Unjudged.store
    let above := (Resolver.masking 0 OneArchive.search).answers Unjudged.files Unjudged.store
    let origin := (Masking.locationOrigin Unjudged.files 0 Unjudged.location).run Unjudged.store
    Reachable Unjudged.files Unjudged.store ∧ OneArchive.search.IsChain ∧
      (Unjudged.store.masking 0).registry.hidesName ['x'] = false ∧
      (ModuleName.candidates ['x']).findSomeM? below.locate = .ok (some Unjudged.location) ∧
      origin.1 ≠ .ok .masked ∧
      below.resolve ['x'] false = .ok (some Unjudged.found) ∧
      above.resolve ['x'] false = .error .unnamedMember := by
  intro below above origin
  have below_eq : below =
      OneArchive.search.replies Unjudged.files (Unjudged.store.judge Unjudged.files) :=
    Resolver.answers_eq_replies Unjudged.reachable.faithful _
  have above_eq : above = below.masked (Unjudged.store.judge Unjudged.files 0) := by
    rw [below_eq]
    exact Resolver.answers_eq_replies Unjudged.reachable.faithful _
  have first : (ModuleName.candidates ['x']).findSomeM? below.locate =
      .ok (some Unjudged.location) := by
    rw [below_eq, ModuleName.candidates, List.findSomeM?_cons, Unjudged.locate_search]
    rfl
  have shown : (Unjudged.store.masking 0).registry.hidesName ['x'] = false := by decide
  have unjudged : (Unjudged.store.judge Unjudged.files 0).originOfFirst below.locate
      (ModuleName.candidates ['x']) = .error .unnamedMember := by
    rw [Judge.originOfFirst_of_located first, ← Unjudged.origin_location]
    exact (Masking.gives_locationOrigin 0 _ _ Unjudged.reachable.faithful rfl).1.symm
  refine ⟨Unjudged.reachable, trivial, shown, first, ?_, Unjudged.resolve_search, ?_⟩
  · rw [show origin.1 = _ from Unjudged.origin_location]
    simp
  · rw [above_eq]
    exact Replies.masked_resolve_of_unjudged shown unjudged false

end MaskedPath
