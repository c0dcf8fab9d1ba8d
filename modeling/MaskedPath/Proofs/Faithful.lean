import MaskedPath.Proofs.Meaning

/-!
# Faithful caches

A cache is faithful if each entry is what its key is computed to. A store is faithful if the caches
of its masking resolvers are, on a file system that stays the same. `Store.Keeps` says what queries
leave as it was: they keep a faithful store faithful and change no mask.
-/

namespace MaskedPath

/-! ## Caches -/

namespace Cache

variable {libraryOf : Text → Except Failure (Option Library)} {c : Cache}

def Faithful (libraryOf : Text → Except Failure (Option Library)) (c : Cache) : Prop :=
  ∀ entry ∈ c.entries, libraryOf entry.1 = .ok entry.2

theorem mem_of_stored? {key : Text} {library : Library} (h : c.stored? key = some library) :
    (key, some library) ∈ c.entries := by
  have found : c.entries.lookup key = some (some library) := Option.join_eq_some_iff.mp h
  obtain ⟨before, after, split, -⟩ := List.lookup_eq_some_iff.mp found
  simp [split]

theorem mem_of_mem_touch {key : Text} {entry : Text × Option Library}
    (h : entry ∈ (c.touch key).entries) : entry ∈ c.entries := by
  unfold touch at h
  split at h
  · exact h
  · rcases List.mem_append.mp h with h | h
    · exact List.mem_of_mem_filter h
    · exact List.mem_of_mem_filter h

theorem mem_of_mem_setEntry {key : Text} {value : Option Library} {entry : Text × Option Library}
    {entries : List (Text × Option Library)} (h : entry ∈ setEntry key value entries) :
    entry = (key, value) ∨ entry ∈ entries := by
  induction entries with
  | nil => exact Or.inl (by simpa [setEntry] using h)
  | cons first rest ih =>
      obtain ⟨k, v⟩ := first
      simp only [setEntry] at h
      split at h
      next same =>
        rcases List.mem_cons.mp h with rfl | h
        · exact Or.inl (by rw [same])
        · exact Or.inr (List.mem_cons_of_mem _ h)
      next =>
        rcases List.mem_cons.mp h with rfl | h
        · exact Or.inr List.mem_cons_self
        · exact (ih h).imp_right (List.mem_cons_of_mem _)

theorem mem_of_mem_insert {key : Text} {value : Option Library} {entry : Text × Option Library}
    (h : entry ∈ (c.insert key value).entries) : entry = (key, value) ∨ entry ∈ c.entries := by
  have h : entry ∈ c.stored key value := List.mem_of_mem_drop h
  unfold stored at h
  split at h
  · exact mem_of_mem_setEntry h
  · rcases List.mem_append.mp h with h | h
    · exact Or.inr (List.mem_of_mem_filter h)
    · exact Or.inl (List.mem_singleton.mp h)

theorem Faithful.libraryOf_eq {key : Text} {library : Library} (faithful : c.Faithful libraryOf)
    (h : c.stored? key = some library) : libraryOf key = .ok (some library) :=
  faithful _ (mem_of_stored? h)

theorem faithful_empty (policy : Policy) : (empty policy).Faithful libraryOf := by
  intro entry member
  cases member

theorem Faithful.touch (faithful : c.Faithful libraryOf) (key : Text) :
    (c.touch key).Faithful libraryOf :=
  fun entry member => faithful entry (mem_of_mem_touch member)

theorem Faithful.insert {key : Text} {value : Option Library} (faithful : c.Faithful libraryOf)
    (computed : libraryOf key = .ok value) : (c.insert key value).Faithful libraryOf := by
  intro entry member
  rcases mem_of_mem_insert member with rfl | member
  · exact computed
  · exact faithful entry member

theorem Faithful.evict (faithful : c.Faithful libraryOf) (key : Text) :
    (c.evict key).2.Faithful libraryOf :=
  fun entry member => faithful entry (List.mem_of_mem_filter member)

theorem Faithful.getOrCompute (faithful : c.Faithful libraryOf) (key : Text) :
    (c.getOrCompute libraryOf key).1 = libraryOf key ∧
      (c.getOrCompute libraryOf key).2.Faithful libraryOf := by
  unfold Cache.getOrCompute
  cases stored : c.stored? key with
  | some library => exact ⟨(faithful.libraryOf_eq stored).symm, faithful.touch key⟩
  | none =>
      cases computed : libraryOf key with
      | error e => exact ⟨rfl, faithful⟩
      | ok value => exact ⟨rfl, faithful.insert computed⟩

end Cache

/-! ## Stores -/

namespace Store

variable {s s' : Store}

theorem masking_congr (same : s'.maskings = s.maskings) : s'.masking = s.masking := by
  funext id
  rw [masking, masking, same]

theorem masking_setMasking (s : Store) (id : Nat) (m : Masking) (i : Nat) :
    (s.setMasking id m).masking i =
      if id = i ∧ i < s.maskings.length then m else s.masking i := by
  by_cases same : id = i
  · subst same
    by_cases known : id < s.maskings.length <;> simp [setMasking, masking, known]
  · simp [setMasking, masking, same]

end Store

variable [Runtime]

def Masking.judge (fs : FileSystem) (m : Masking) : Judge := ⟨m.registry, m.attributor.library fs⟩

namespace Store

def judge (fs : FileSystem) (s : Store) (id : Nat) : Judge := (s.masking id).judge fs

def Faithful (fs : FileSystem) (s : Store) : Prop :=
  ∀ id, (s.masking id).cache.Faithful (s.judge fs id).libraryOf

/-- What queries leave as it was: the judges, the number of masking resolvers, and that the caches
are faithful. -/
structure Keeps (fs : FileSystem) (s s' : Store) : Prop where
  judge_eq : s'.judge fs = s.judge fs
  count_eq : s'.maskings.length = s.maskings.length
  faithful : s.Faithful fs → s'.Faithful fs

variable {fs : FileSystem} {s s' s'' : Store}

theorem Keeps.refl (s : Store) : s.Keeps fs s := ⟨rfl, rfl, id⟩

theorem Keeps.trans (first : s.Keeps fs s') (second : s'.Keeps fs s'') : s.Keeps fs s'' :=
  ⟨second.judge_eq.trans first.judge_eq, second.count_eq.trans first.count_eq,
    second.faithful ∘ first.faithful⟩

theorem faithful_empty : empty.Faithful fs :=
  fun _ => Cache.faithful_empty _

theorem keeps_of_maskings_eq (same : s'.maskings = s.maskings) : s.Keeps fs s' := by
  have masking_eq := masking_congr same
  refine ⟨?_, by rw [same], ?_⟩
  · funext id
    rw [judge, judge, masking_eq]
  · intro faithful id
    rw [judge, masking_eq]
    exact faithful id

theorem keeps_setMasking {id : Nat} {m : Masking} (same : m.judge fs = s.judge fs id)
    (faithful : s.Faithful fs → m.cache.Faithful (s.judge fs id).libraryOf) :
    s.Keeps fs (s.setMasking id m) := by
  have judges : ∀ i, (s.setMasking id m).judge fs i = s.judge fs i := by
    intro i
    rw [judge, masking_setMasking]
    split_ifs with h
    · rw [same, h.1]
    · rfl
  refine ⟨funext judges, by simp [setMasking], ?_⟩
  intro before i
  rw [judges, masking_setMasking]
  split_ifs with h
  · rw [← h.1]
    exact faithful before
  · exact before i

end Store

end MaskedPath
