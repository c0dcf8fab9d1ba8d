import MaskedPath.Proofs.Queries
import Mathlib.Logic.Function.Basic

/-!
# Sessions

A session is a sequence of operations on one masking resolver: its masks grow, its cache is emptied
in part or whole, and it is asked. `Masking.Operation.reply` says what each operation answers and how it
changes the judge, with no cache at all. Main statements:

* `Masking.perform_replies`: one operation on a faithful store answers its reply;
* `Reachable.faithful`: every store that resolvers reach from the empty one is faithful.
-/

namespace MaskedPath

/-! ## Judges that change -/

def Resolver.Below (n : Nat) : Resolver → Prop
  | .nowhere => True
  | .fixed _ _ => True
  | .search _ parent => parent.Below n
  | .masking id parent => id < n ∧ parent.Below n

/-- The replies of a resolver depend on the judges of its own masking resolvers only. -/
theorem Resolver.replies_congr [Runtime] {fs : FileSystem} {judges judges' : Nat → Judge} {n : Nat}
    {r : Resolver} (below : r.Below n) (same : ∀ i < n, judges i = judges' i) :
    r.replies fs judges = r.replies fs judges' := by
  induction r with
  | nowhere => rfl
  | fixed id answers => rfl
  | search entries parent ih => rw [replies, replies, ih below]
  | masking id parent ih => rw [replies, replies, ih below.2, same id below.1]

namespace Store

section

variable {s s' s'' : Store} {id : Nat}

structure Sets (id : Nat) (m : Masking) (s s' : Store) : Prop where
  masking_eq : s'.masking = Function.update s.masking id m
  count_eq : s'.maskings.length = s.maskings.length

variable {m m' : Masking}

theorem Sets.trans (first : s.Sets id m s') (second : s'.Sets id m' s'') : s.Sets id m' s'' :=
  ⟨by rw [second.masking_eq, first.masking_eq, Function.update_idem],
    second.count_eq.trans first.count_eq⟩

theorem Sets.own (sets : s.Sets id m s') : s'.masking id = m := by
  rw [sets.masking_eq, Function.update_self]

theorem Sets.of_maskings_eq (sets : s.Sets id m s') (same : s''.maskings = s'.maskings) :
    s.Sets id m s'' :=
  ⟨(masking_congr same).trans sets.masking_eq, (congrArg List.length same).trans sets.count_eq⟩

theorem sets_self (s : Store) (id : Nat) : s.Sets id (s.masking id) s :=
  ⟨(Function.update_eq_self id _).symm, rfl⟩

theorem sets_setMasking (known : id < s.maskings.length) (m : Masking) :
    s.Sets id m (s.setMasking id m) := by
  refine ⟨funext fun i => ?_, by simp [setMasking]⟩
  rw [masking_setMasking]
  by_cases here : i = id
  · subst here
    rw [if_pos ⟨rfl, known⟩, Function.update_self]
  · rw [if_neg fun h => here h.1.symm, Function.update_of_ne here]

theorem masking_push (s : Store) (m : Masking) (i : Nat) :
    ({ s with maskings := s.maskings ++ [m] } : Store).masking i =
      if i = s.maskings.length then m else s.masking i := by
  unfold masking
  rw [List.getD_eq_getElem?_getD, List.getD_eq_getElem?_getD]
  rcases Nat.lt_trichotomy i s.maskings.length with less | rfl | more
  · rw [List.getElem?_append_left less, if_neg (Nat.ne_of_lt less)]
  · rw [List.getElem?_concat_length, if_pos rfl, Option.getD_some]
  · rw [List.getElem?_eq_none (by simp; omega), List.getElem?_eq_none (by omega),
      if_neg (Nat.ne_of_gt more)]

end

variable [Runtime]

structure Updates (fs : FileSystem) (id : Nat) (j : Judge) (s s' : Store) : Prop where
  judge_eq : s'.judge fs = Function.update (s.judge fs) id j
  count_eq : s'.maskings.length = s.maskings.length
  faithful : s.Faithful fs → s'.Faithful fs

variable {fs : FileSystem} {s s' s'' : Store} {id : Nat} {j j' : Judge}

theorem Keeps.updates (kept : s.Keeps fs s') : s.Updates fs id (s.judge fs id) s' :=
  ⟨by rw [kept.judge_eq, Function.update_eq_self], kept.count_eq, kept.faithful⟩

theorem Updates.trans (first : s.Updates fs id j s') (second : s'.Updates fs id j' s'') :
    s.Updates fs id j' s'' :=
  ⟨by rw [second.judge_eq, first.judge_eq, Function.update_idem],
    second.count_eq.trans first.count_eq, second.faithful ∘ first.faithful⟩

theorem Updates.own (h : s.Updates fs id j s') : s'.judge fs id = j := by
  rw [h.judge_eq, Function.update_self]

/-- What a resolver made of earlier masking resolvers replies is not changed. -/
theorem Updates.replies_below (h : s.Updates fs id j s') {r : Resolver} (below : r.Below id) :
    r.replies fs (s'.judge fs) = r.replies fs (s.judge fs) := by
  apply Resolver.replies_congr below
  intro i less
  rw [h.judge_eq, Function.update_of_ne (Nat.ne_of_lt less)]

theorem judge_of_masking_eq {m : Masking} (masking_eq : s'.masking = Function.update s.masking id m) :
    s'.judge fs = Function.update (s.judge fs) id (m.judge fs) := by
  funext i
  rw [judge, masking_eq]
  exact Function.apply_update (fun _ m => m.judge fs) s.masking id m i

theorem faithful_of_masking_eq {m : Masking}
    (masking_eq : s'.masking = Function.update s.masking id m)
    (own : m.cache.Faithful (m.judge fs).libraryOf) (faithful : s.Faithful fs) : s'.Faithful fs := by
  intro i
  rw [judge, masking_eq]
  by_cases same : i = id
  · subst same
    rw [Function.update_self]
    exact own
  · rw [Function.update_of_ne same]
    exact faithful i

theorem Sets.updates {m : Masking} (sets : s.Sets id m s')
    (faithful : s.Faithful fs → m.cache.Faithful (m.judge fs).libraryOf) :
    s.Updates fs id (m.judge fs) s' :=
  ⟨judge_of_masking_eq sets.masking_eq, sets.count_eq,
    fun before => faithful_of_masking_eq sets.masking_eq (faithful before) before⟩

theorem updates_setRegistry (known : id < s.maskings.length) (registry : Registry) :
    s.Updates fs id { s.judge fs id with registry := registry }
      (s.setMasking id { s.masking id with registry := registry }) :=
  (sets_setMasking known { s.masking id with registry := registry }).updates
    fun faithful => faithful id

structure Gains (fs : FileSystem) (j : Judge) (s s' : Store) : Prop where
  judge_below : ∀ i < s.maskings.length, s'.judge fs i = s.judge fs i
  judge_new : s'.judge fs s.maskings.length = j
  count_eq : s'.maskings.length = s.maskings.length + 1
  faithful : s.Faithful fs → s'.Faithful fs

theorem gains_of_masking_eq {m : Masking}
    (masking_eq : s'.masking = Function.update s.masking s.maskings.length m)
    (count_eq : s'.maskings.length = s.maskings.length + 1)
    (own : m.cache.Faithful (m.judge fs).libraryOf) : s.Gains fs (m.judge fs) s' := by
  have judges : s'.judge fs = Function.update (s.judge fs) s.maskings.length (m.judge fs) :=
    judge_of_masking_eq masking_eq
  refine ⟨fun i less => ?_, ?_, count_eq, faithful_of_masking_eq masking_eq own⟩
  · rw [judges, Function.update_of_ne (Nat.ne_of_lt less)]
  · rw [judges, Function.update_self]

end Store

/-! ## Operations -/

theorem Registry.foldl_addName (names : List Text) (r : Registry) :
    names.foldl addName r = ⟨r.names ++ names, r.libraries⟩ := by
  induction names generalizing r with
  | nil => simp
  | cons name names ih => simp [ih, addName]

theorem Registry.addLibraries_of_nothing {r : Registry} {entries : List (Option Library)}
    (nothing : maskable entries = []) : r.addLibraries entries = r := by
  simp [addLibraries, nothing]

namespace Masking

open MaskedPath.Action

inductive Operation
  | addName (name : Option Text)
  | addLibraries (entries : List (Option Library))
  | loadLibraries (resource : Text)
  | clearCache
  | evict (key : Text)
  | locationOrigin (location : Location)
  | resourceOrigin (name : Text)
  | moduleOrigin (name : Text)
  | locate (name : Text)
  | enumerate (name : Text)
  | resolve (name : Text) (finalize : Bool)

/-- What is answered to an operation. Whether a key that is evicted was cached is no part of it. -/
inductive Answer
  | done
  | added (count : Nat)
  | origin (origin : Origin)
  | location (location : Option Location)
  | locations (locations : List Location)
  | module (m : Option Module)

def Operation.perform [Runtime] (fs : FileSystem) (id : Nat) (parent : Resolver) :
    Operation → Action Answer
  | .addName name => do
    Masking.addName id name
    return .done
  | .addLibraries entries => return .added (← Masking.addLibraries id entries)
  | .loadLibraries resource => do
    Masking.loadLibraries fs id resource
    return .done
  | .clearCache => do
    Masking.clearCache id
    return .done
  | .evict key => do
    let _ ← Masking.evict id key
    return .done
  | .locationOrigin location => return .origin (← Masking.locationOrigin fs id location)
  | .resourceOrigin name => return .origin (← Resolver.resourceOrigin fs id parent name)
  | .moduleOrigin name => return .origin (← Resolver.moduleOrigin fs id parent name)
  | .locate name => return .location (← (Resolver.masking id parent).locate fs name)
  | .enumerate name => return .locations (← (Resolver.masking id parent).enumerate fs name)
  | .resolve name finalize => return .module (← (Resolver.masking id parent).resolve fs name finalize)

def performAll [Runtime] (fs : FileSystem) (id : Nat) (parent : Resolver) :
    List Operation → Store → List (Except Failure Answer) × Store
  | [], s => ([], s)
  | op :: ops, s =>
    let (answer, s) := (op.perform fs id parent).run s
    let (answers, s) := performAll fs id parent ops s
    (answer :: answers, s)

/-! ## Replies without a cache -/

def addedLibraries (j : Judge) (entries : List (Option Library)) : Judge :=
  { j with registry := j.registry.addLibraries entries }

/-- What an operation answers over a parent that replies `p`, and the judge after it; attributions
are computed each time they are needed. -/
def Operation.reply (fs : FileSystem) (p : Replies) (j : Judge) :
    Operation → Except Failure Answer × Judge
  | .addName none => (.ok .done, j)
  | .addName (some name) => (.ok .done, { j with registry := j.registry.addName name })
  | .addLibraries entries =>
    (.ok (.added (Registry.maskable entries).length), addedLibraries j entries)
  | .loadLibraries resource =>
    (.ok .done, addedLibraries j ((MaskList.read fs resource).1.map some))
  | .clearCache => (.ok .done, j)
  | .evict _ => (.ok .done, j)
  | .locationOrigin location => (return .origin (← j.origin location), j)
  | .resourceOrigin name => (return .origin (← j.originOfFirst p.locate [name]), j)
  | .moduleOrigin name =>
    (return .origin (← j.originOfFirst p.locate (ModuleName.candidates name)), j)
  | .locate name => (return .location (← (p.masked j).locate name), j)
  | .enumerate name => (return .locations (← (p.masked j).enumerate name), j)
  | .resolve name finalize => (return .module (← (p.masked j).resolve name finalize), j)

def replyAll (fs : FileSystem) (p : Replies) : List Operation → Judge → List (Except Failure Answer)
  | [], _ => []
  | op :: ops, j => (op.reply fs p j).1 :: replyAll fs p ops (op.reply fs p j).2

/-! ## Adding masks -/

section

variable {s : Store} {id : Nat}

theorem addName_sets (known : id < s.maskings.length) (name : Text) :
    ((addName id (some name)).run s).1 = .ok () ∧
      s.Sets id { s.masking id with registry := (s.masking id).registry.addName name }
        ((addName id (some name)).run s).2 :=
  ⟨rfl, (Store.sets_setMasking known _).of_maskings_eq rfl⟩

theorem addNames_sets (names : List Text) (known : id < s.maskings.length) :
    ((names.forM fun name => addName id (some name)).run s).1 = .ok () ∧
      s.Sets id { s.masking id with
          registry := names.foldl Registry.addName (s.masking id).registry }
        ((names.forM fun name => addName id (some name)).run s).2 := by
  induction names generalizing s with
  | nil => exact ⟨rfl, s.sets_self id⟩
  | cons name names ih =>
      obtain ⟨-, first⟩ := addName_sets known name
      obtain ⟨done, rest⟩ := ih (by rw [first.count_eq]; exact known)
      rw [first.own] at rest
      change ((addName id (some name) >>= fun _ =>
        names.forM fun name => addName id (some name)).run s).1 = _ ∧ _
      exact ⟨done, first.trans rest⟩

theorem addLibraries_sets (entries : List (Option Library)) (known : id < s.maskings.length) :
    ((addLibraries id entries).run s).1 = .ok (Registry.maskable entries).length ∧
      s.Sets id { s.masking id with registry := (s.masking id).registry.addLibraries entries }
        ((addLibraries id entries).run s).2 := by
  unfold addLibraries
  by_cases nothing : Registry.maskable entries = []
  · rw [Registry.addLibraries_of_nothing nothing]
    simp only [nothing, if_true]
    exact ⟨rfl, s.sets_self id⟩
  · simp only [nothing, if_false]
    exact ⟨rfl, (Store.sets_setMasking known _).of_maskings_eq rfl⟩

end

/-! ## One operation -/

section

variable (fs : FileSystem) {s : Store} {id : Nat}

theorem loadLibraries_sets (known : id < s.maskings.length) (resource : Text) :
    ((loadLibraries fs id resource).run s).1 = .ok () ∧
      s.Sets id { s.masking id with
          registry := (s.masking id).registry.addLibraries ((MaskList.read fs resource).1.map some) }
        ((loadLibraries fs id resource).run s).2 := by
  obtain ⟨done, same⟩ := yields_emitAll (MaskList.read fs resource).2 s
  unfold loadLibraries
  dsimp only
  rw [run_bind_ok done]
  generalize (((MaskList.read fs resource).2.forM emit).run s).2 = s' at same ⊢
  have emitted : s.Sets id (s.masking id) s' := (s.sets_self id).of_maskings_eq same
  obtain ⟨added, sets⟩ := addLibraries_sets ((MaskList.read fs resource).1.map some)
    (show id < s'.maskings.length by rw [same]; exact known)
  rw [run_bind_ok added]
  rw [emitted.own] at sets
  exact ⟨rfl, emitted.trans sets⟩

variable [Runtime]

theorem addLibraries_updates (known : id < s.maskings.length) (entries : List (Option Library)) :
    ((addLibraries id entries).run s).1 = .ok (Registry.maskable entries).length ∧
      s.Updates fs id (addedLibraries (s.judge fs id) entries)
        ((addLibraries id entries).run s).2 := by
  obtain ⟨added, sets⟩ := addLibraries_sets entries known
  exact ⟨added, sets.updates fun faithful => faithful id⟩

theorem loadLibraries_updates (known : id < s.maskings.length) (resource : Text) :
    ((loadLibraries fs id resource).run s).1 = .ok () ∧
      s.Updates fs id
        (addedLibraries (s.judge fs id) ((MaskList.read fs resource).1.map some))
        ((loadLibraries fs id resource).run s).2 := by
  obtain ⟨done, sets⟩ := loadLibraries_sets fs known resource
  exact ⟨done, sets.updates fun faithful => faithful id⟩

theorem clearCache_keeps : s.Keeps fs ((clearCache id).run s).2 :=
  Store.keeps_setMasking rfl fun _ => Cache.faithful_empty _

theorem evict_keeps (key : Text) : s.Keeps fs ((evict id key).run s).2 :=
  Store.keeps_setMasking rfl fun faithful => (faithful id).evict key

end

variable [Runtime]

theorem replies_of_gives {α : Type} {fs : FileSystem} {s : Store} {id : Nat} {a : Action α}
    {r : Except Failure α} (f : α → Answer) (faithful : s.Faithful fs)
    (gives : Gives fs (s.judge fs) a r) :
    ((do return f (← a) : Action Answer).run s).1 = (do return f (← r)) ∧
      s.Updates fs id (s.judge fs id) ((do return f (← a) : Action Answer).run s).2 := by
  have mapped : Gives fs (s.judge fs) (do return f (← a)) (do return f (← r)) :=
    gives.bind fun _ _ => gives_pure _
  obtain ⟨given, kept⟩ := mapped s faithful rfl
  exact ⟨given, kept.updates⟩

theorem perform_replies {fs : FileSystem} {s : Store} {id : Nat}
    (known : id < s.maskings.length) (faithful : s.Faithful fs) (parent : Resolver)
    (op : Operation) :
    ((op.perform fs id parent).run s).1 =
        (op.reply fs (parent.replies fs (s.judge fs)) (s.judge fs id)).1 ∧
      s.Updates fs id (op.reply fs (parent.replies fs (s.judge fs)) (s.judge fs id)).2
        ((op.perform fs id parent).run s).2 := by
  cases op with
  | addName name =>
      cases name with
      | none => exact ⟨rfl, (Store.Keeps.refl s).updates⟩
      | some name => exact ⟨rfl, (addName_sets known name).2.updates fun before => before id⟩
  | addLibraries entries =>
      obtain ⟨given, updated⟩ := addLibraries_updates fs known entries
      unfold Operation.perform
      rw [run_bind_ok given]
      exact ⟨rfl, updated⟩
  | loadLibraries resource =>
      obtain ⟨given, updated⟩ := loadLibraries_updates fs known resource
      unfold Operation.perform
      rw [run_bind_ok given]
      exact ⟨rfl, updated⟩
  | clearCache => exact ⟨rfl, (clearCache_keeps fs).updates⟩
  | evict key => exact ⟨rfl, (evict_keeps fs key).updates⟩
  | locationOrigin location =>
      exact replies_of_gives .origin faithful (gives_locationOrigin id location)
  | resourceOrigin name =>
      exact replies_of_gives .origin faithful
        (gives_originOfFirst id (Resolver.gives_locate parent) [name])
  | moduleOrigin name =>
      exact replies_of_gives .origin faithful
        (gives_originOfFirst id (Resolver.gives_locate parent) (ModuleName.candidates name))
  | locate name =>
      exact replies_of_gives .location faithful (Resolver.gives_locate (.masking id parent) name)
  | enumerate name =>
      exact replies_of_gives .locations faithful
        (Resolver.gives_enumerate (.masking id parent) name)
  | resolve name finalize =>
      exact replies_of_gives .module faithful
        (Resolver.gives_resolve (.masking id parent) name finalize)

/-! ## Sequences of operations -/

def judgeAfter (fs : FileSystem) (p : Replies) (ops : List Operation) (j : Judge) : Judge :=
  ops.foldl (fun j op => (op.reply fs p j).2) j

theorem performAll_replies {fs : FileSystem} {id : Nat} {parent : Resolver}
    (below : parent.Below id) {s : Store} (known : id < s.maskings.length)
    (faithful : s.Faithful fs) (ops : List Operation) :
    (performAll fs id parent ops s).1 =
        replyAll fs (parent.replies fs (s.judge fs)) ops (s.judge fs id) ∧
      s.Updates fs id (judgeAfter fs (parent.replies fs (s.judge fs)) ops (s.judge fs id))
        (performAll fs id parent ops s).2 := by
  induction ops generalizing s with
  | nil => exact ⟨rfl, (Store.Keeps.refl s).updates⟩
  | cons op ops ih =>
      obtain ⟨answered, updated⟩ := perform_replies known faithful parent op
      obtain ⟨rest, updated'⟩ := ih (by rw [updated.count_eq]; exact known)
        (updated.faithful faithful)
      rw [updated.replies_below below, updated.own] at rest updated'
      refine ⟨?_, updated.trans updated'⟩
      unfold performAll replyAll
      exact congrArg₂ List.cons answered rest

theorem answers_afterSession {fs : FileSystem} {id : Nat} {parent : Resolver}
    (below : parent.Below id) {s : Store} (known : id < s.maskings.length)
    (faithful : s.Faithful fs) (ops : List Operation) :
    (Resolver.masking id parent).answers fs (performAll fs id parent ops s).2 =
      (parent.replies fs (s.judge fs)).masked
        (judgeAfter fs (parent.replies fs (s.judge fs)) ops (s.judge fs id)) := by
  obtain ⟨-, updated⟩ := performAll_replies below known faithful ops
  rw [Resolver.answers_eq_replies (updated.faithful faithful), Resolver.replies,
    updated.replies_below below, updated.own]

end Masking

/-! ## Making masking resolvers -/

namespace Resolver

open MaskedPath.Action

theorem mask_masking (parent : Resolver) (names : List Text) (attributor : Attributor)
    (policy : Policy) (s : Store) :
    ((parent.mask names attributor policy).run s).1 = .ok (masking s.maskings.length parent) ∧
      ((parent.mask names attributor policy).run s).2.masking = Function.update s.masking
        s.maskings.length ⟨.ofNames names, .empty policy, attributor, []⟩ ∧
      ((parent.mask names attributor policy).run s).2.maskings.length = s.maskings.length + 1 := by
  let new : Masking := ⟨.empty, .empty policy, attributor, []⟩
  let pushed : Store := { s with maskings := s.maskings ++ [new] }
  have pushed_masking : pushed.masking = Function.update s.masking s.maskings.length new := by
    funext i
    rw [Store.masking_push, Function.update_apply]
  obtain ⟨done, sets⟩ := Masking.addNames_sets (s := pushed) names
    (show s.maskings.length < pushed.maskings.length by simp [pushed])
  have run_eq : (parent.mask names attributor policy).run s =
      (((names.forM fun name => Masking.addName s.maskings.length (some name)) >>= fun _ =>
        pure (masking s.maskings.length parent) : Action Resolver)).run pushed := rfl
  have named := sets.masking_eq
  rw [pushed_masking, Function.update_self, Function.update_idem] at named
  rw [run_eq, run_bind_ok done]
  exact ⟨rfl, named, sets.count_eq.trans (by simp [pushed])⟩

theorem mask_gains [Runtime] (fs : FileSystem) (parent : Resolver) (names : List Text)
    (attributor : Attributor) (policy : Policy) (s : Store) :
    ((parent.mask names attributor policy).run s).1 = .ok (.masking s.maskings.length parent) ∧
      s.Gains fs ⟨.ofNames names, attributor.library fs⟩
        ((parent.mask names attributor policy).run s).2 := by
  obtain ⟨made, masking_eq, count_eq⟩ := mask_masking parent names attributor policy s
  exact ⟨made, Store.gains_of_masking_eq masking_eq count_eq (Cache.faithful_empty policy)⟩

end Resolver

/-! ## Reachable stores -/

variable [Runtime]

/-- The stores that resolvers reach from the empty one, on a file system that stays the same. -/
inductive Reachable (fs : FileSystem) : Store → Prop
  | start : Reachable fs .empty
  | mask {s : Store} (before : Reachable fs s) (parent : Resolver) (names : List Text)
      (attributor : Attributor) (policy : Policy) :
      Reachable fs (Action.run (parent.mask names attributor policy) s).2
  | perform {s : Store} (before : Reachable fs s) (id : Nat) (known : id < s.maskings.length)
      (parent : Resolver) (op : Masking.Operation) :
      Reachable fs (Action.run (op.perform fs id parent) s).2

theorem Reachable.faithful {fs : FileSystem} {s : Store} (reached : Reachable fs s) :
    s.Faithful fs := by
  induction reached with
  | start => exact Store.faithful_empty
  | mask before parent names attributor policy ih =>
      exact (Resolver.mask_gains fs parent names attributor policy _).2.faithful ih
  | perform before id known parent op ih =>
      exact (Masking.perform_replies known ih parent op).2.faithful ih

end MaskedPath
