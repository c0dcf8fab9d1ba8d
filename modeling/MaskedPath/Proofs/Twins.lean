import MaskedPath.Proofs.Session

namespace MaskedPath

def Registry.NoVoid (r : Registry) : Prop := ∀ library ∈ r.libraries, ¬ library.IsVoid

theorem Registry.not_isVoid_of_mem_maskable {entries : List (Option Library)} {library : Library}
    (member : library ∈ maskable entries) : ¬ library.IsVoid := by
  obtain ⟨entry, -, kept⟩ := List.mem_filterMap.mp member
  simpa using (Option.filter_eq_some_iff.mp kept).2

theorem Registry.NoVoid.addLibraries {r : Registry} (noVoid : r.NoVoid)
    (entries : List (Option Library)) : (r.addLibraries entries).NoVoid := by
  intro library member
  rcases List.mem_append.mp member with old | new
  · exact noVoid library old
  · exact not_isVoid_of_mem_maskable new

theorem Registry.NoVoid.maskable_eq {r : Registry} (noVoid : r.NoVoid) :
    maskable (r.libraries.map some) = r.libraries := by
  unfold maskable
  rw [List.filterMap_map]
  have kept : ∀ library ∈ r.libraries, ((fun entry : Option Library =>
      entry.filter fun l => !decide l.IsVoid) ∘ some) library = some library := by
    intro library member
    simp [Option.filter, noVoid library member]
  rw [List.filterMap_congr kept, List.filterMap_some]

structure Masking.Alike (m m' : Masking) : Prop where
  registry_eq : m'.registry = m.registry
  cache_eq : m'.cache = m.cache
  attributor_eq : m'.attributor = m.attributor

theorem Masking.Alike.refl (m : Masking) : m.Alike m := ⟨rfl, rfl, rfl⟩

namespace Store

structure Twins (id id' : Nat) (s s' : Store) : Prop where
  known : id < s.maskings.length
  known' : id' < s'.maskings.length
  le : id ≤ id'
  own : (s.masking id).Alike (s'.masking id')
  below : ∀ i < id, (s.masking i).Alike (s'.masking i)
  noVoid : (s.masking id).registry.NoVoid

def Paired (id id' i i' : Nat) : Prop := i = id ∧ i' = id' ∨ i < id ∧ i' = i

variable {id id' i i' : Nat} {s s' t t' : Store}

theorem Twins.refl (known : id < s.maskings.length) (noVoid : (s.masking id).registry.NoVoid) :
    s.Twins id id s :=
  ⟨known, known, Nat.le_refl id, .refl _, fun _ _ => .refl _, noVoid⟩

theorem Twins.of_maskings_eq (twins : s.Twins id id' s') (same : t.maskings = s.maskings)
    (same' : t'.maskings = s'.maskings) : t.Twins id id' t' := by
  obtain ⟨known, known', le, own, below, noVoid⟩ := twins
  rw [← masking_congr same] at own below noVoid
  rw [← masking_congr same'] at own below
  exact ⟨same ▸ known, same' ▸ known', le, own, below, noVoid⟩

theorem Twins.alike (twins : s.Twins id id' s') (paired : Paired id id' i i') :
    (s.masking i).Alike (s'.masking i') := by
  rcases paired with ⟨rfl, rfl⟩ | ⟨less, rfl⟩
  · exact twins.own
  · exact twins.below _ less

theorem Twins.setMasking (twins : s.Twins id id' s') (paired : Paired id id' i i') {m m' : Masking}
    (alike : m.Alike m') (noVoid : (s.masking i).registry.NoVoid → m.registry.NoVoid) :
    (s.setMasking i m).Twins id id' (s'.setMasking i' m') := by
  have le := twins.le
  have known := twins.known
  have known' := twins.known'
  have all {k k' : Nat} (other : Paired id id' k k') :
      ((s.setMasking i m).masking k).Alike ((s'.setMasking i' m').masking k') := by
    rw [masking_setMasking, masking_setMasking]
    unfold Paired at paired other
    by_cases here : i = k
    · rw [if_pos ⟨here, by omega⟩, if_pos ⟨by omega, by omega⟩]
      exact alike
    · rw [if_neg fun h => here h.1, if_neg fun h => here (by omega)]
      exact twins.alike other
  refine ⟨?_, ?_, le, all (.inl ⟨rfl, rfl⟩), fun k less => all (.inr ⟨less, rfl⟩), ?_⟩
  · simpa [Store.setMasking] using known
  · simpa [Store.setMasking] using known'
  · rw [masking_setMasking]
    split_ifs with here
    · exact noVoid (here.1 ▸ twins.noVoid)
    · exact twins.noVoid

end Store

namespace Action

open Store

variable {α β : Type} {id id' i i' : Nat}

/-- From twins the two actions give the same and leave twins. -/
def Agree (id id' : Nat) (a a' : Action α) : Prop :=
  ∀ s s' : Store, s.Twins id id' s' →
    (a'.run s').1 = (a.run s).1 ∧ (a.run s).2.Twins id id' (a'.run s').2

theorem Yields.agree {a : Action α} {r : Except Failure α} (yields : Yields a r) :
    Agree id id' a a := by
  intro s s' twins
  obtain ⟨given, same⟩ := yields s
  obtain ⟨given', same'⟩ := yields s'
  exact ⟨given'.trans given.symm, twins.of_maskings_eq same same'⟩

theorem agree_pure (x : α) : Agree id id' (pure x) (pure x) := (yields_pure x).agree

theorem agree_ofExcept (e : Except Failure α) : Agree id id' (ofExcept e) (ofExcept e) :=
  (yields_ofExcept e).agree

theorem agree_emit (e : Event) : Agree id id' (emit e) (emit e) := (yields_emit e).agree

theorem Agree.bind {a a' : Action α} {f f' : α → Action β} (first : Agree id id' a a')
    (next : ∀ x, Agree id id' (f x) (f' x)) : Agree id id' (a >>= f) (a' >>= f') := by
  intro s s' twins
  obtain ⟨given, twins⟩ := first s s' twins
  rw [run_bind, run_bind]
  cases result : a.run s with
  | mk answer t =>
      cases result' : a'.run s' with
      | mk answer' t' =>
          rw [result, result'] at given twins
          obtain rfl : answer' = answer := given
          cases answer' with
          | error e => exact ⟨rfl, twins⟩
          | ok x => exact next x t t' twins

theorem agree_afterGet (paired : Paired id id' i i') {f f' : Masking → Action β}
    (next : ∀ m m' : Masking, m.Alike m' → Agree id id' (f m) (f' m')) :
    Agree id id' (getMasking i >>= f) (getMasking i' >>= f') :=
  fun s s' twins => next _ _ (twins.alike paired) s s' twins

theorem agree_modify (paired : Paired id id' i i') {change change' : Masking → Masking}
    (alike : ∀ m m' : Masking, m.Alike m' → (change m).Alike (change' m'))
    (noVoid : ∀ m : Masking, m.registry.NoVoid → (change m).registry.NoVoid) :
    Agree id id' (modifyMasking i change) (modifyMasking i' change') :=
  fun _ _ twins => ⟨rfl, twins.setMasking paired (alike _ _ (twins.alike paired)) (noVoid _)⟩

theorem agree_setCache (paired : Paired id id' i i') (change : Cache → Cache) :
    Agree id id' (modifyMasking i fun m => { m with cache := change m.cache })
      (modifyMasking i' fun m => { m with cache := change m.cache }) :=
  agree_modify paired
    (fun _ _ alike => ⟨alike.registry_eq, congrArg change alike.cache_eq, alike.attributor_eq⟩)
    fun _ noVoid => noVoid

end Action

/-! ## Origins -/

namespace Masking

open MaskedPath.Action Store

variable {fs : FileSystem} {id id' i i' : Nat} (paired : Paired id id' i i')

include paired

theorem agree_libraryOf [Runtime] (key : Text) :
    Agree id id' (libraryOf fs i key) (libraryOf fs i' key) := by
  refine agree_afterGet paired fun m m' alike => ?_
  have events : lookupEvents fs m' key = lookupEvents fs m key := by
    unfold lookupEvents
    rw [alike.cache_eq, alike.attributor_eq]
  rw [alike.cache_eq, alike.attributor_eq, events]
  let change : Masking → Masking := fun own => { own with
    cache := (m.cache.getOrCompute (m.attributor.library fs) key).2
    computed := own.computed ++ (m.cache.computed (.get key)).toList }
  have stored : Agree id id' (modifyMasking i change) (modifyMasking i' change) :=
    agree_modify paired (fun _ _ alike => ⟨alike.registry_eq, rfl, alike.attributor_eq⟩)
      fun _ noVoid => noVoid
  exact stored.bind fun _ => (yields_emitAll _).agree.bind fun _ => agree_ofExcept _

theorem agree_locationOrigin [Runtime] (location : Location) :
    Agree id id' (locationOrigin fs i location) (locationOrigin fs i' location) := by
  unfold locationOrigin
  cases Location.archiveKey? location with
  | none => exact agree_pure _
  | some key =>
      refine (agree_libraryOf paired key).bind fun library => ?_
      refine agree_afterGet paired fun m m' alike => ?_
      rw [alike.registry_eq]
      split
      · cases library with
        | none => exact agree_pure _
        | some library => exact (agree_emit _).bind fun _ => agree_pure _
      · exact agree_pure _

theorem agree_originOfFirst [Runtime] {locate : Text → Action (Option Location)}
    (asks : ∀ name, Agree id id' (locate name) (locate name)) (resources : List Text) :
    Agree id id' (originOfFirst fs i locate resources) (originOfFirst fs i' locate resources) := by
  induction resources with
  | nil => exact agree_pure _
  | cons resource rest ih =>
      refine (asks resource).bind fun location => ?_
      cases location with
      | some location => exact agree_locationOrigin paired location
      | none => exact ih

theorem agree_visible [Runtime] (locations : List Location) :
    Agree id id' (visible fs i locations) (visible fs i' locations) := by
  induction locations with
  | nil => exact agree_pure _
  | cons location rest ih =>
      refine (agree_locationOrigin paired location).bind fun origin => ih.bind fun others => ?_
      exact agree_pure _

end Masking

/-! ## The three questions -/

namespace Resolver

open MaskedPath.Action Store

variable {fs : FileSystem} {id id' i i' : Nat}

theorem agree_unlessMasked {α : Type} {judged judged' : Action Origin}
    {ask : Action (Option α)} (first : Agree id id' judged judged') (next : Agree id id' ask ask) :
    Agree id id' (do if (← judged) = .masked then return none else ask)
      (do if (← judged') = .masked then return none else ask) := by
  refine first.bind fun origin => ?_
  split
  · exact agree_pure _
  · exact next

section

variable {parent : Resolver} (paired : Paired id id' i i')

include paired

theorem agree_masking_locate [Runtime]
    (asks : ∀ name, Agree id id' (parent.locate fs name) (parent.locate fs name)) (name : Text) :
    Agree id id' ((masking i parent).locate fs name) ((masking i' parent).locate fs name) := by
  refine agree_afterGet paired fun m m' alike => ?_
  rw [alike.registry_eq]
  split
  · exact (agree_emit _).bind fun _ => agree_pure _
  · exact agree_unlessMasked (Masking.agree_originOfFirst paired asks [name]) (asks name)

theorem agree_masking_enumerate [Runtime] {name : Text}
    (asks : Agree id id' (parent.enumerate fs name) (parent.enumerate fs name)) :
    Agree id id' ((masking i parent).enumerate fs name) ((masking i' parent).enumerate fs name) := by
  refine agree_afterGet paired fun m m' alike => ?_
  rw [alike.registry_eq]
  split
  · exact agree_pure _
  · exact asks.bind fun locations => Masking.agree_visible paired locations

theorem agree_masking_resolve [Runtime] {name : Text} {finalize : Bool}
    (locates : ∀ name, Agree id id' (parent.locate fs name) (parent.locate fs name))
    (resolves : Agree id id' (parent.resolve fs name finalize) (parent.resolve fs name finalize)) :
    Agree id id' ((masking i parent).resolve fs name finalize)
      ((masking i' parent).resolve fs name finalize) := by
  refine agree_afterGet paired fun m m' alike => ?_
  rw [alike.registry_eq]
  split
  · exact (agree_emit _).bind fun _ => agree_pure _
  · exact agree_unlessMasked
      (Masking.agree_originOfFirst paired locates (ModuleName.candidates name)) resolves

end

theorem agree_locate [Runtime] {r : Resolver} (below : r.Below id) (name : Text) :
    Agree id id' (r.locate fs name) (r.locate fs name) := by
  induction r generalizing name with
  | nowhere => exact agree_pure _
  | fixed i answers => exact ((yields_record _ _).after (yields_ofExcept _)).agree
  | search entries parent ih =>
      refine (ih below name).bind fun location => ?_
      cases location with
      | some location => exact agree_pure _
      | none =>
          dsimp only
          split
          · exact agree_pure _
          · exact (Search.yields_locate _ _).agree
  | masking i parent ih => exact agree_masking_locate (.inr ⟨below.1, rfl⟩) (ih below.2) name

theorem agree_enumerate [Runtime] {r : Resolver} (below : r.Below id) (name : Text) :
    Agree id id' (r.enumerate fs name) (r.enumerate fs name) := by
  induction r with
  | nowhere => exact agree_pure _
  | fixed i answers => exact ((yields_record _ _).after (yields_ofExcept _)).agree
  | search entries parent ih =>
      refine (ih below).bind fun locations => ?_
      dsimp only
      split
      · exact agree_pure _
      · exact (Search.yields_enumerate _ _).agree.bind fun _ => agree_pure _
  | masking i parent ih => exact agree_masking_enumerate (.inr ⟨below.1, rfl⟩) (ih below.2)

theorem agree_firstModule [Runtime] {locate : Text → Action (Option Location)}
    (asks : ∀ resource, Agree id id' (locate resource) (locate resource)) (name : Text)
    (finalize : Bool) (resources : List Text) :
    Agree id id' (firstModule fs locate name finalize resources)
      (firstModule fs locate name finalize resources) := by
  induction resources with
  | nil => exact agree_pure _
  | cons resource rest ih =>
      refine (asks resource).bind fun location => ?_
      cases location with
      | none => exact ih
      | some location =>
          refine (agree_ofExcept _).bind fun source => ?_
          cases finalize with
          | false => exact (agree_emit _).bind fun _ => agree_pure _
          | true =>
              exact (agree_ofExcept _).bind fun _ => (agree_emit _).bind fun _ => agree_pure _

theorem agree_resolve [Runtime] {r : Resolver} (below : r.Below id) (name : Text) (finalize : Bool) :
    Agree id id' (r.resolve fs name finalize) (r.resolve fs name finalize) := by
  induction r with
  | nowhere => exact agree_pure _
  | fixed i answers => exact ((yields_record _ _).after (yields_ofExcept _)).agree
  | search entries parent ih =>
      have asks : ∀ resource, Agree id id' ((search entries parent).locate fs resource)
          ((search entries parent).locate fs resource) := agree_locate below
      exact agree_firstModule asks name finalize (ModuleName.candidates name)
  | masking i parent ih =>
      exact agree_masking_resolve (.inr ⟨below.1, rfl⟩) (agree_locate below.2) (ih below.2)

end Resolver

/-! ## Operations -/

namespace Masking

open MaskedPath.Action Store

variable {fs : FileSystem} {id id' : Nat}

theorem agree_setRegistry {change : Registry → Registry}
    (noVoid : ∀ r : Registry, r.NoVoid → (change r).NoVoid) :
    Agree id id' (modifyMasking id fun m => { m with registry := change m.registry })
      (modifyMasking id' fun m => { m with registry := change m.registry }) :=
  agree_modify (.inl ⟨rfl, rfl⟩)
    (fun _ _ alike => ⟨congrArg change alike.registry_eq, alike.cache_eq, alike.attributor_eq⟩)
    fun m => noVoid m.registry

theorem agree_addName (name : Text) :
    Agree id id' (addName id (some name)) (addName id' (some name)) := by
  have keeps : ∀ r : Registry, r.NoVoid → (r.addName name).NoVoid := fun _ noVoid => noVoid
  exact (agree_setRegistry keeps).bind fun _ => agree_emit _

theorem agree_addLibraries (entries : List (Option Library)) :
    Agree id id' (addLibraries id entries) (addLibraries id' entries) := by
  unfold addLibraries
  dsimp only
  split
  · exact agree_pure _
  · refine (agree_setRegistry fun r noVoid => noVoid.addLibraries entries).bind fun _ => ?_
    exact (agree_emit _).bind fun _ => agree_pure _

/-- Twins perform every operation alike. -/
theorem agree_perform [Runtime] {parent : Resolver} (below : parent.Below id) (op : Operation) :
    Agree id id' (op.perform fs id parent) (op.perform fs id' parent) := by
  have paired : Paired id id' id id' := .inl ⟨rfl, rfl⟩
  have locates : ∀ name, Agree id id' (parent.locate fs name) (parent.locate fs name) :=
    Resolver.agree_locate below
  have answered {α : Type} {a a' : Action α} (f : α → Answer) (agree : Agree id id' a a') :
      Agree id id' (do return f (← a)) (do return f (← a')) := agree.bind fun _ => agree_pure _
  cases op with
  | addName name =>
      cases name with
      | none => exact agree_pure _
      | some name => exact (agree_addName name).bind fun _ => agree_pure _
  | addLibraries entries => exact answered .added (agree_addLibraries entries)
  | loadLibraries resource =>
      refine Agree.bind ?_ fun _ => agree_pure _
      unfold loadLibraries
      dsimp only
      refine (yields_emitAll _).agree.bind fun _ => ?_
      exact (agree_addLibraries _).bind fun _ => agree_pure _
  | clearCache =>
      exact (agree_setCache paired fun c => c.clear).bind fun _ => agree_pure _
  | evict key =>
      refine Agree.bind ?_ fun _ => agree_pure _
      refine agree_afterGet paired fun m m' alike => ?_
      rw [alike.cache_eq]
      exact (agree_setCache paired fun _ => (m.cache.evict key).2).bind fun _ => agree_pure _
  | locationOrigin location => exact answered .origin (agree_locationOrigin paired location)
  | resourceOrigin name => exact answered .origin (agree_originOfFirst paired locates [name])
  | moduleOrigin name =>
      exact answered .origin (agree_originOfFirst paired locates (ModuleName.candidates name))
  | locate name => exact answered .location (Resolver.agree_masking_locate paired locates name)
  | enumerate name =>
      exact answered .locations
        (Resolver.agree_masking_enumerate paired (Resolver.agree_enumerate below name))
  | resolve name finalize =>
      exact answered .module (Resolver.agree_masking_resolve paired locates
        (Resolver.agree_resolve below name finalize))

end Masking

end MaskedPath
