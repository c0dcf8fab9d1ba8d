import MaskedPath.Proofs.Faithful

namespace MaskedPath

namespace Action

variable {α β : Type} {fs : FileSystem} {judges : Nat → Judge}

/-! ## Running actions -/

theorem run_bind (a : Action α) (f : α → Action β) (s : Store) :
    (a >>= f).run s = match a.run s with
      | (.ok x, s') => (f x).run s'
      | (.error e, s') => (.error e, s') := by
  change ExceptT.bind a f s = _
  unfold run ExceptT.bind ExceptT.mk ExceptT.bindCont
  simp only [bind, StateT.bind]
  rcases a s with ⟨_ | _, _⟩ <;> rfl

theorem run_bind_ok {a : Action α} {x : α} {s : Store} (done : (a.run s).1 = .ok x)
    (f : α → Action β) : (a >>= f).run s = (f x).run (a.run s).2 := by
  rw [run_bind, show a.run s = (.ok x, (a.run s).2) from Prod.ext done rfl]

theorem run_ofExcept (e : Except Failure α) (s : Store) : (ofExcept e : Action α).run s = (e, s) := by
  cases e <;> rfl

/-! ## Yielding a result -/

def Yields (a : Action α) (r : Except Failure α) : Prop :=
  ∀ s : Store, (a.run s).1 = r ∧ (a.run s).2.maskings = s.maskings

theorem yields_pure (x : α) : Yields (pure x) (.ok x) := fun _ => ⟨rfl, rfl⟩

theorem yields_throw (e : Failure) : Yields (throw e : Action α) (.error e) := fun _ => ⟨rfl, rfl⟩

theorem yields_ofExcept (e : Except Failure α) : Yields (ofExcept e) e := by
  intro s
  rw [run_ofExcept]
  exact ⟨rfl, rfl⟩

theorem yields_emit (e : Event) : Yields (emit e) (.ok ()) := fun _ => ⟨rfl, rfl⟩

theorem yields_record (id : Nat) (q : Query) : Yields (record id q) (.ok ()) := fun _ => ⟨rfl, rfl⟩

theorem Yields.bind {a : Action α} {f : α → Action β} {r : Except Failure α}
    {g : α → Except Failure β} (first : Yields a r) (next : ∀ x, r = .ok x → Yields (f x) (g x)) :
    Yields (a >>= f) (r >>= g) := by
  intro s
  obtain ⟨given, same⟩ := first s
  rw [run_bind]
  cases result : a.run s with
  | mk answer s' =>
      rw [result] at given same
      subst given
      cases answer with
      | error e => exact ⟨rfl, same⟩
      | ok x =>
          obtain ⟨given, same'⟩ := next x rfl s'
          exact ⟨given, same'.trans same⟩

theorem Yields.after {a : Action Unit} {b : Action β} {r : Except Failure β}
    (done : Yields a (.ok ())) (next : Yields b r) : Yields (a >>= fun _ => b) r :=
  done.bind fun _ _ => next

theorem yields_emitAll (events : List Event) : Yields (events.forM emit) (.ok ()) := by
  induction events with
  | nil => exact yields_pure ()
  | cons e events ih => exact (yields_emit e).after ih

/-! ## Giving a result -/

variable [Runtime]

/-- From every faithful store with these judges, `a` gives `r` and keeps the store. -/
def Gives (fs : FileSystem) (judges : Nat → Judge) (a : Action α) (r : Except Failure α) : Prop :=
  ∀ s : Store, s.Faithful fs → s.judge fs = judges → (a.run s).1 = r ∧ s.Keeps fs (a.run s).2

theorem Yields.gives {a : Action α} {r : Except Failure α} (yields : Yields a r) :
    Gives fs judges a r :=
  fun s _ _ => ⟨(yields s).1, Store.keeps_of_maskings_eq (yields s).2⟩

theorem gives_pure (x : α) : Gives fs judges (pure x) (.ok x) := (yields_pure x).gives

theorem gives_ofExcept (e : Except Failure α) : Gives fs judges (ofExcept e) e :=
  (yields_ofExcept e).gives

theorem Gives.bind {a : Action α} {f : α → Action β} {r : Except Failure α}
    {g : α → Except Failure β} (first : Gives fs judges a r)
    (next : ∀ x, r = .ok x → Gives fs judges (f x) (g x)) :
    Gives fs judges (a >>= f) (r >>= g) := by
  intro s faithful same
  obtain ⟨given, kept⟩ := first s faithful same
  rw [run_bind]
  cases result : a.run s with
  | mk answer s' =>
      rw [result] at given kept
      subst given
      cases answer with
      | error e => exact ⟨rfl, kept⟩
      | ok x =>
          obtain ⟨given, kept'⟩ := next x rfl s' (kept.faithful faithful) (kept.judge_eq.trans same)
          exact ⟨given, kept.trans kept'⟩

theorem Gives.afterRecord {a : Action Unit} {b : Action β} {r : Except Failure β}
    (done : Yields a (.ok ())) (next : Gives fs judges b r) :
    Gives fs judges (a >>= fun _ => b) r :=
  done.gives.bind fun _ _ => next

theorem Gives.afterEmit {e : Event} {b : Action β} {r : Except Failure β}
    (next : Gives fs judges b r) : Gives fs judges (emit e >>= fun _ => b) r :=
  next.afterRecord (yields_emit e)

theorem gives_afterGet {id : Nat} {f : Masking → Action β} {r : Except Failure β}
    (next : ∀ m : Masking, m.judge fs = judges id → m.cache.Faithful (judges id).libraryOf →
      Gives fs judges (f m) r) :
    Gives fs judges (getMasking id >>= f) r := by
  intro s faithful same
  have own : (s.masking id).judge fs = judges id := congrFun same id
  exact next (s.masking id) own (by rw [← own]; exact faithful id) s faithful same

end Action

/-! ## Origins -/

namespace Masking

open MaskedPath.Action

variable [Runtime] {fs : FileSystem} {judges : Nat → Judge}

def lookedUp (fs : FileSystem) (m : Masking) (key : Text) : Masking :=
  { m with
    cache := (m.cache.getOrCompute (m.attributor.library fs) key).2
    computed := m.computed ++ (m.cache.computed (.get key)).toList }

theorem libraryOf_run (s : Store) (id : Nat) (key : Text) :
    ((libraryOf fs id key).run s).1 =
        ((s.masking id).cache.getOrCompute ((s.masking id).attributor.library fs) key).1 ∧
      ((libraryOf fs id key).run s).2.maskings =
        (s.setMasking id ((s.masking id).lookedUp fs key)).maskings := by
  let events := (s.masking id).lookupEvents fs key
  have run_eq : (libraryOf fs id key).run s = (events.forM emit >>= fun _ => ofExcept
      ((s.masking id).cache.getOrCompute ((s.masking id).attributor.library fs) key).1).run
        (s.setMasking id ((s.masking id).lookedUp fs key)) := rfl
  rw [run_eq]
  exact (yields_emitAll events).after (yields_ofExcept _) _

theorem gives_libraryOf (id : Nat) (key : Text) :
    Gives fs judges (libraryOf fs id key) ((judges id).libraryOf key) := by
  intro s faithful same
  subst same
  obtain ⟨given, maskings_eq⟩ := @libraryOf_run _ fs s id key
  have own := (faithful id).getOrCompute key
  have kept : s.Keeps fs (s.setMasking id ((s.masking id).lookedUp fs key)) :=
    Store.keeps_setMasking rfl fun _ => own.2
  exact ⟨given.trans own.1, kept.trans (Store.keeps_of_maskings_eq maskings_eq)⟩

theorem gives_locationOrigin (id : Nat) (location : Location) :
    Gives fs judges (locationOrigin fs id location) ((judges id).origin location) := by
  unfold locationOrigin Judge.origin
  cases Location.archiveKey? location with
  | none => exact gives_pure _
  | some key =>
      refine (gives_libraryOf id key).bind fun library _ => ?_
      refine gives_afterGet fun m own _ => ?_
      have registry_eq : m.registry = (judges id).registry := congrArg Judge.registry own
      rw [registry_eq]
      split
      · cases library with
        | none => exact gives_pure _
        | some library => exact (gives_pure _).afterEmit
      · exact gives_pure _

theorem gives_originOfFirst (id : Nat) {locate : Text → Action (Option Location)}
    {found : Text → Except Failure (Option Location)}
    (gives : ∀ name, Gives fs judges (locate name) (found name)) (resources : List Text) :
    Gives fs judges (originOfFirst fs id locate resources)
      ((judges id).originOfFirst found resources) := by
  induction resources with
  | nil => exact gives_pure _
  | cons resource rest ih =>
      rw [Judge.originOfFirst_cons]
      refine (gives resource).bind fun location _ => ?_
      cases location with
      | some location => exact gives_locationOrigin id location
      | none => exact ih

theorem gives_visible (id : Nat) (locations : List Location) :
    Gives fs judges (visible fs id locations) ((judges id).visible locations) := by
  induction locations with
  | nil => exact gives_pure _
  | cons location rest ih =>
      rw [Judge.visible_cons]
      refine (gives_locationOrigin id location).bind fun origin _ => ih.bind fun others _ => ?_
      exact gives_pure _

end Masking

/-! ## Searches -/

namespace Search

open MaskedPath.Action

variable {fs : FileSystem}

theorem yields_archiveHas (entry : Path) (name : Text) :
    Yields (archiveHas fs entry name) (holdsMember fs entry name) := by
  unfold archiveHas holdsMember
  cases fs.readArchive entry with
  | ok archive => exact yields_pure _
  | error e =>
      dsimp only
      split
      · exact (yields_emit _).after (yields_pure _)
      · exact yields_throw _

theorem yields_locateInEntry (name : Text) (entry : Path) :
    Yields (locateInEntry fs name entry) (located fs name entry) := by
  unfold locateInEntry located
  refine (yields_ofExcept _).bind fun isDirectory _ => ?_
  cases isDirectory with
  | true =>
      refine (yields_ofExcept _).bind fun isFile _ => ?_
      cases isFile with
      | true => exact (yields_ofExcept _).bind fun _ _ => yields_pure _
      | false => exact yields_pure _
  | false =>
      refine (yields_ofExcept _).bind fun isFile _ => ?_
      cases isFile with
      | true =>
          refine (yields_archiveHas entry name).bind fun has _ => ?_
          cases has with
          | true => exact (yields_ofExcept _).bind fun _ _ => yields_pure _
          | false => exact yields_pure _
      | false => exact yields_pure _

theorem yields_locate (name : Text) (entries : List Path) :
    Yields (locate fs name entries) (entries.findSomeM? (located fs name)) := by
  induction entries with
  | nil => exact yields_pure _
  | cons entry entries ih =>
      rw [List.findSomeM?_cons]
      refine (yields_locateInEntry name entry).bind fun location _ => ?_
      cases location with
      | some location => exact yields_pure _
      | none => exact ih

theorem yields_enumerate (name : Text) (entries : List Path) :
    Yields (enumerate fs name entries)
      (return (← entries.mapM (located fs name)).reduceOption) := by
  induction entries with
  | nil => exact yields_pure _
  | cons entry entries ih =>
      simp only [List.mapM_cons, bind_assoc, pure_bind]
      refine (yields_locateInEntry name entry).bind fun first _ => ?_
      have rest := ih.bind (f := fun others => pure (first.toList ++ others))
        (g := fun others => .ok (first.toList ++ others)) fun _ _ => yields_pure _
      convert rest using 1
      rw [bind_assoc]
      refine bind_congr fun others => ?_
      cases first <;> rfl

end Search

/-! ## The three questions -/

namespace Resolver

open MaskedPath.Action

variable [Runtime] {fs : FileSystem} {judges : Nat → Judge}

theorem gives_unlessMasked {α : Type} {judged : Action Origin} {origin : Except Failure Origin}
    {ask : Action (Option α)} {reply : Except Failure (Option α)}
    (first : Gives fs judges judged origin) (next : Gives fs judges ask reply) :
    Gives fs judges (do if (← judged) = .masked then return none else ask)
      (do if (← origin) = .masked then return none else reply) := by
  refine first.bind fun origin _ => ?_
  split
  · exact gives_pure _
  · exact next

theorem gives_locate (r : Resolver) (name : Text) :
    Gives fs judges (r.locate fs name) ((r.replies fs judges).locate name) := by
  induction r generalizing name with
  | nowhere => exact gives_pure _
  | fixed id answers => exact (gives_ofExcept _).afterRecord (yields_record _ _)
  | search entries parent ih =>
      refine (ih name).bind fun location _ => ?_
      cases location with
      | some location => exact gives_pure _
      | none =>
          dsimp only
          split
          · exact gives_pure _
          · exact (Search.yields_locate _ _).gives
  | masking id parent ih =>
      refine gives_afterGet fun m own _ => ?_
      have registry_eq : m.registry = (judges id).registry := congrArg Judge.registry own
      rw [registry_eq]
      simp only [replies, Replies.masked]
      split
      · exact (gives_pure _).afterEmit
      · exact gives_unlessMasked (Masking.gives_originOfFirst id ih [name]) (ih name)

theorem gives_enumerate (r : Resolver) (name : Text) :
    Gives fs judges (r.enumerate fs name) ((r.replies fs judges).enumerate name) := by
  induction r generalizing name with
  | nowhere => exact gives_pure _
  | fixed id answers => exact (gives_ofExcept _).afterRecord (yields_record _ _)
  | search entries parent ih =>
      refine (ih name).bind fun locations _ => ?_
      dsimp only
      split
      · exact gives_pure _
      · have own : Gives fs judges
            (Search.enumerate fs (Search.plainName name) entries >>= fun own =>
              pure (locations ++ own)) _ :=
          (Search.yields_enumerate _ _).gives.bind fun _ _ => gives_pure _
        rw [bind_assoc] at own
        exact own
  | masking id parent ih =>
      refine gives_afterGet fun m own _ => ?_
      have registry_eq : m.registry = (judges id).registry := congrArg Judge.registry own
      rw [registry_eq]
      simp only [replies, Replies.masked]
      split
      · exact gives_pure _
      · exact (ih name).bind fun locations _ => Masking.gives_visible id locations

theorem gives_firstModule {locate : Text → Action (Option Location)}
    {found : Text → Except Failure (Option Location)}
    (gives : ∀ resource, Gives fs judges (locate resource) (found resource)) (name : Text)
    (finalize : Bool) (resources : List Text) :
    Gives fs judges (firstModule fs locate name finalize resources)
      (resources.findSomeM? (Search.moduleIn fs found name finalize)) := by
  induction resources with
  | nil => exact gives_pure _
  | cons resource rest ih =>
      rw [List.findSomeM?_cons, Search.moduleIn, bind_assoc]
      refine (gives resource).bind fun location _ => ?_
      cases location with
      | none => exact ih
      | some location =>
          dsimp only
          rw [bind_assoc]
          refine (gives_ofExcept _).bind fun source _ => ?_
          cases finalize with
          | false => exact (gives_pure _).afterEmit
          | true =>
              simp only [if_true]
              rw [bind_assoc]
              exact (gives_ofExcept _).bind fun _ _ => (gives_pure _).afterEmit

theorem gives_resolve (r : Resolver) (name : Text) (finalize : Bool) :
    Gives fs judges (r.resolve fs name finalize) ((r.replies fs judges).resolve name finalize) := by
  induction r generalizing name with
  | nowhere => exact gives_pure _
  | fixed id answers => exact (gives_ofExcept _).afterRecord (yields_record _ _)
  | search entries parent ih =>
      exact gives_firstModule (gives_locate (.search entries parent)) name finalize _
  | masking id parent ih =>
      refine gives_afterGet fun m own _ => ?_
      have registry_eq : m.registry = (judges id).registry := congrArg Judge.registry own
      rw [registry_eq]
      simp only [replies, Replies.masked]
      split
      · exact (gives_pure _).afterEmit
      · exact gives_unlessMasked
          (Masking.gives_originOfFirst id (gives_locate parent) (ModuleName.candidates name))
          (ih name)

/-! ## Answers from faithful stores -/

theorem locate_run {s : Store} (faithful : s.Faithful fs) (r : Resolver) (name : Text) :
    ((r.locate fs name).run s).1 = (r.replies fs (s.judge fs)).locate name :=
  (gives_locate r name s faithful rfl).1

theorem enumerate_run {s : Store} (faithful : s.Faithful fs) (r : Resolver) (name : Text) :
    ((r.enumerate fs name).run s).1 = (r.replies fs (s.judge fs)).enumerate name :=
  (gives_enumerate r name s faithful rfl).1

theorem resolve_run {s : Store} (faithful : s.Faithful fs) (r : Resolver) (name : Text)
    (finalize : Bool) :
    ((r.resolve fs name finalize).run s).1 = (r.replies fs (s.judge fs)).resolve name finalize :=
  (gives_resolve r name finalize s faithful rfl).1

def answers (fs : FileSystem) (s : Store) (r : Resolver) : Replies where
  locate name := ((r.locate fs name).run s).1
  enumerate name := ((r.enumerate fs name).run s).1
  resolve name finalize := ((r.resolve fs name finalize).run s).1

theorem answers_eq_replies {s : Store} (faithful : s.Faithful fs) (r : Resolver) :
    r.answers fs s = r.replies fs (s.judge fs) := by
  unfold answers
  simp only [locate_run faithful, enumerate_run faithful, resolve_run faithful]

end Resolver

end MaskedPath
