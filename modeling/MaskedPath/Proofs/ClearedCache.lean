import MaskedPath.Proofs.Twins
import MaskedPath.Proofs.Attribution

/-!
# A cleared cache forgets everything

Files change in the course of a session, and a cache keeps what an archive was attributed to when it
was first asked for. A masking resolver whose cache is cleared is from then on the twin of one that is
newly made with the same masks: to every later sequence of operations, with the files changing in
between, both give the same answers, and after each step their caches hold the same entries in the
same order.
-/

namespace MaskedPath

open MaskedPath.Action

/-! ## Sessions among changing files -/

namespace Masking

/-- A step of a session: an operation, or a change of the files, after which they are `fs`. -/
inductive Step
  | perform (op : Operation)
  | files (fs : FileSystem)

end Masking

structure Scene where
  files : FileSystem
  store : Store

namespace Scene

open Masking

variable [Runtime]

def take (id : Nat) (parent : Resolver) (scene : Scene) :
    Step → Option (Except Failure Answer) × Scene
  | .perform op =>
    let (answer, store) := (op.perform scene.files id parent).run scene.store
    (some answer, { scene with store := store })
  | .files fs => (none, { scene with files := fs })

def after (id : Nat) (parent : Resolver) (steps : List Step) (scene : Scene) : Scene :=
  steps.foldl (fun scene step => (scene.take id parent step).2) scene

def transcript (id : Nat) (parent : Resolver) :
    List Step → Scene → List (Option (Except Failure Answer) × Cache)
  | [], _ => []
  | step :: steps, scene =>
    let (answer, scene) := scene.take id parent step
    (answer, (scene.store.masking id).cache) :: transcript id parent steps scene

structure Twins (id id' : Nat) (scene scene' : Scene) : Prop where
  files_eq : scene'.files = scene.files
  stores : scene.store.Twins id id' scene'.store

variable {id id' : Nat} {parent : Resolver} {scene scene' : Scene}

theorem Twins.take (below : parent.Below id) (twins : scene.Twins id id' scene') (step : Step) :
    (scene'.take id' parent step).1 = (scene.take id parent step).1 ∧
      (scene.take id parent step).2.Twins id id' (scene'.take id' parent step).2 := by
  obtain ⟨same, stores⟩ := twins
  cases step with
  | files fs => exact ⟨rfl, rfl, stores⟩
  | perform op =>
      obtain ⟨answered, stores⟩ := agree_perform below op _ _ stores
      unfold Scene.take
      rw [same]
      exact ⟨congrArg some answered, rfl, stores⟩

theorem Twins.after (below : parent.Below id) (twins : scene.Twins id id' scene')
    (steps : List Step) :
    (scene.after id parent steps).Twins id id' (scene'.after id' parent steps) := by
  induction steps generalizing scene scene' with
  | nil => exact twins
  | cons step steps ih => exact ih (twins.take below step).2

theorem Twins.transcript_eq (below : parent.Below id) (twins : scene.Twins id id' scene')
    (steps : List Step) : transcript id' parent steps scene' = transcript id parent steps scene := by
  induction steps generalizing scene scene' with
  | nil => rfl
  | cons step steps ih =>
      obtain ⟨answered, twins⟩ := twins.take below step
      have cached := twins.stores.own.cache_eq
      exact congrArg₂ List.cons (Prod.ext answered cached) (ih twins)

theorem transcript_perform (op : Operation) :
    (transcript id parent [.perform op] scene).map (·.1) =
      [some ((op.perform scene.files id parent).run scene.store).1] := rfl

theorem after_cleared (before : List Step) :
    let ended := scene.after id parent before
    let m := ended.store.masking id
    scene.after id parent (before ++ [.perform .clearCache]) =
      ⟨ended.files, ended.store.setMasking id { m with cache := m.cache.clear }⟩ := by
  unfold Scene.after
  rw [List.foldl_concat]
  rfl

theorem cache_cleared {before : List Step}
    (known : id < (scene.after id parent before).store.maskings.length) :
    let m := (scene.after id parent (before ++ [.perform .clearCache])).store.masking id
    m.cache = .empty m.cache.policy := by
  intro m
  have emptied : m = _ := congrArg (fun ended : Scene => ended.store.masking id) (after_cleared before)
  rw [emptied, Store.masking_setMasking, if_pos ⟨rfl, known⟩]
  rfl

end Scene

/-! ## Making a masking resolver anew -/

theorem Registry.ofNames_eq (names : List Text) : ofNames names = ⟨names, []⟩ :=
  foldl_addName names empty

namespace Resolver

open Store

/-- A masking resolver over `parent` made anew with all that `m` is made with, and with the masks
that `m` has now. -/
def remake (parent : Resolver) (m : Masking) : Action Resolver := do
  let id := (← get).maskings.length
  let r ← parent.mask m.registry.names m.attributor m.cache.policy
  let _ ← Masking.addLibraries id (m.registry.libraries.map some)
  return r

/-- What is made anew differs from what it is made after in nothing but the cache, which is empty, and
in the record of the keys computed. -/
theorem remake_masking (parent : Resolver) {m : Masking} (noVoid : m.registry.NoVoid) (s : Store) :
    ((parent.remake m).run s).1 = .ok (masking s.maskings.length parent) ∧
      ((parent.remake m).run s).2.masking = Function.update s.masking s.maskings.length
        ⟨m.registry, .empty m.cache.policy, m.attributor, []⟩ ∧
      ((parent.remake m).run s).2.maskings.length = s.maskings.length + 1 := by
  obtain ⟨made, masking_eq, count_eq⟩ :=
    mask_masking parent m.registry.names m.attributor m.cache.policy s
  obtain ⟨added, sets⟩ := Masking.addLibraries_sets (m.registry.libraries.map some)
    (show s.maskings.length < _ by rw [count_eq]; exact Nat.lt_succ_self _)
  have run_eq : (parent.remake m).run s =
      ((parent.mask m.registry.names m.attributor m.cache.policy >>= fun r =>
        Masking.addLibraries s.maskings.length (m.registry.libraries.map some) >>= fun _ =>
          pure r : Action Resolver)).run s := rfl
  have registry_eq : (Registry.ofNames m.registry.names).addLibraries
      (m.registry.libraries.map some) = m.registry := by
    unfold Registry.addLibraries
    rw [noVoid.maskable_eq, Registry.ofNames_eq]
    rfl
  have masked := sets.masking_eq
  rw [masking_eq, Function.update_self, Function.update_idem, registry_eq] at masked
  rw [run_eq, run_bind_ok made, run_bind_ok added]
  exact ⟨rfl, masked, sets.count_eq.trans count_eq⟩

end Resolver

/-! ## Cleared and made anew -/

theorem Store.twins_remake {s : Store} {id : Nat} (known : id < s.maskings.length)
    (noVoid : (s.masking id).registry.NoVoid)
    (emptied : (s.masking id).cache = .empty (s.masking id).cache.policy) (parent : Resolver) :
    s.Twins id s.maskings.length ((parent.remake (s.masking id)).run s).2 := by
  obtain ⟨-, masking_eq, count_eq⟩ := Resolver.remake_masking parent noVoid s
  refine ⟨known, by rw [count_eq]; exact Nat.lt_succ_self _, Nat.le_of_lt known, ?_, ?_, noVoid⟩
  · rw [masking_eq, Function.update_self]
    exact ⟨rfl, emptied.symm, rfl⟩
  · intro i less
    rw [masking_eq, Function.update_of_ne (Nat.ne_of_lt (Nat.lt_trans less known))]
    exact .refl _

/-- After any session, a masking resolver whose cache is then cleared and one that is then made anew
over the same parent, with the masks that the first one has, its attributor and its policy, answer
every later session alike, and their caches are equal after each step of it. -/
theorem cleared_eq_remade [Runtime] (fs : FileSystem) (s : Store) {parent : Resolver}
    (below : parent.Below s.maskings.length) (names : List Text) (attributor : Attributor)
    (policy : Policy) (before after : List Masking.Step) :
    let id := s.maskings.length
    let made := ((parent.mask names attributor policy).run s).2
    let cleared := Scene.after id parent (before ++ [.perform .clearCache]) ⟨fs, made⟩
    let m := cleared.store.masking id
    let fresh := cleared.store.maskings.length
    let remade := ((parent.remake m).run cleared.store).2
    ((parent.remake m).run cleared.store).1 = .ok (.masking fresh parent) ∧
      (remade.masking fresh).registry = m.registry ∧
      Scene.transcript fresh parent after ⟨cleared.files, remade⟩ =
        Scene.transcript id parent after cleared := by
  intro id made cleared m fresh remade
  obtain ⟨-, masking_eq, count_eq⟩ := Resolver.mask_masking parent names attributor policy s
  have made_noVoid : (made.masking id).registry.NoVoid := by
    rw [masking_eq, Function.update_self, Registry.ofNames_eq]
    exact fun _ member => absurd member List.not_mem_nil
  have start : Scene.Twins id id ⟨fs, made⟩ ⟨fs, made⟩ :=
    ⟨rfl, .refl (by rw [count_eq]; exact Nat.lt_succ_self _) made_noVoid⟩
  have history := (start.after below (before ++ [.perform .clearCache])).stores
  have emptied : m.cache = .empty m.cache.policy :=
    Scene.cache_cleared (start.after below before).stores.known
  obtain ⟨answered, remade_masking, -⟩ :=
    Resolver.remake_masking parent history.noVoid cleared.store
  refine ⟨answered, by rw [remade_masking, Function.update_self], ?_⟩
  have twins : Scene.Twins id fresh cleared ⟨cleared.files, remade⟩ :=
    ⟨rfl, Store.twins_remake history.known history.noVoid emptied parent⟩
  exact twins.transcript_eq below after

/-! ## An archive that appears late -/

namespace Appearing

open Masking
open scoped MaskedPath.Standard

def absent : FileSystem where
  nodes := [([['t']], .directory)]
  home := [['t']]

def present : FileSystem := OneArchive.files Packaged.bytes

def location : Location := Location.ofMemberAt OneArchive.key Packaged.package.name

def made : Store := ((OneArchive.search.mask [] (.identifier {}) .keepAll).run .empty).2

def before : List Step :=
  [.perform (.addLibraries [some Packaged.library]), .perform (.locationOrigin location),
    .files present, .perform (.locationOrigin location)]

def stale : Scene := Scene.after 0 OneArchive.search before ⟨absent, made⟩

def cleared : Scene :=
  Scene.after 0 OneArchive.search (before ++ [.perform .clearCache]) ⟨absent, made⟩

def maskingWith (cache : Cache) : Masking :=
  ⟨⟨[], [Packaged.library]⟩, cache, .identifier {}, [OneArchive.key]⟩

set_option maxRecDepth 4000 in
theorem maskings_stale :
    stale.store.maskings = [maskingWith ⟨.keepAll, [(OneArchive.key, some .void)]⟩] := by
  cbv

theorem maskings_cleared : cleared.store.maskings = [maskingWith (.empty .keepAll)] := by
  unfold cleared
  rw [Scene.after_cleared]
  change stale.store.maskings.set 0 { stale.store.masking 0 with
    cache := (stale.store.masking 0).cache.clear } = _
  rw [Store.masking, maskings_stale]
  rfl

theorem faithful_cleared : cleared.store.Faithful present := by
  intro id
  have own : (cleared.store.masking id).cache.entries = [] := by
    rw [Store.masking, maskings_cleared]
    cases id <;> rfl
  intro entry member
  rw [own] at member
  cases member

theorem origin_location : (cleared.store.judge present 0).origin location = .ok .masked := by
  rw [Store.judge, Store.masking, maskings_cleared]
  exact OneArchive.origin_eq (Packaged.libraryAt_eq (OneArchive.read_entry Packaged.bytes)) _ _

theorem files_cleared : cleared.files = present := rfl

theorem masked_cleared :
    (Scene.transcript 0 OneArchive.search [.perform (.locationOrigin location)] cleared).map (·.1) =
      [some (.ok (.origin .masked))] := by
  have known : 0 < cleared.store.maskings.length := by
    rw [maskings_cleared]
    decide
  have answered := (perform_replies known faithful_cleared OneArchive.search
    (.locationOrigin location)).1
  have replied : ((Operation.locationOrigin location).reply present
      (OneArchive.search.replies present (cleared.store.judge present))
      (cleared.store.judge present 0)).1 = .ok (.origin .masked) := by
    change ((cleared.store.judge present 0).origin location >>= _) = _
    rw [origin_location]
    rfl
  rw [replied] at answered
  rw [Scene.transcript_perform, files_cleared, answered]

end Appearing

open scoped MaskedPath.Standard in
theorem cleared_eq_remade_appearing :
    let m := Appearing.cleared.store.masking 0
    let fresh := Appearing.cleared.store.maskings.length
    let remade := ((OneArchive.search.remake m).run Appearing.cleared.store).2
    OneArchive.search.Below 0 ∧
      (Appearing.stale.store.masking 0).cache.entries = [(OneArchive.key, some .void)] ∧
      (Scene.transcript fresh OneArchive.search [.perform (.locationOrigin Appearing.location)]
        ⟨Appearing.cleared.files, remade⟩).map (·.1) = [some (.ok (.origin .masked))] := by
  intro m fresh remade
  have below : OneArchive.search.Below 0 := trivial
  have alike := (cleared_eq_remade Appearing.absent .empty below [] (.identifier {}) .keepAll
    Appearing.before [.perform (.locationOrigin Appearing.location)]).2.2
  refine ⟨below, ?_, ?_⟩
  · rw [Store.masking, Appearing.maskings_stale]
    rfl
  · exact (congrArg (List.map (·.1)) alike).trans Appearing.masked_cleared

end MaskedPath
