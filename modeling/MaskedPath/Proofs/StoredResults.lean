import MaskedPath.Proofs.Dictionaries
import MaskedPath.Proofs.RecentKeys

namespace MaskedPath.Cache

variable {ε : Type} {c : Cache}

/-! ## Entries of distinct keys -/

theorem mem_setEntry_iff {key : Text} {value : Option Library} {entry : Text × Option Library}
    {entries : List (Text × Option Library)} (distinct : (entries.map Prod.fst).Nodup) :
    entry ∈ setEntry key value entries ↔
      entry = (key, value) ∨ entry ∈ entries ∧ entry.1 ≠ key := by
  induction entries with
  | nil => simp [setEntry]
  | cons first rest ih =>
      obtain ⟨k, v⟩ := first
      obtain ⟨fresh, distinct⟩ := List.nodup_cons.mp distinct
      by_cases same : k = key
      · subst same
        have others : entry ∈ rest → entry.1 ≠ k := by
          intro member same
          exact fresh (List.mem_map.mpr ⟨entry, member, same⟩)
        simp only [setEntry, if_true, List.mem_cons]
        constructor
        · rintro (rfl | member)
          · exact .inl rfl
          · exact .inr ⟨.inr member, others member⟩
        · rintro (rfl | ⟨rfl | member, different⟩)
          · exact .inl rfl
          · exact absurd rfl different
          · exact .inr member
      · simp only [setEntry, same, if_false, List.mem_cons, ih distinct]
        constructor
        · rintro (rfl | rfl | ⟨member, different⟩)
          · exact .inr ⟨.inl rfl, same⟩
          · exact .inl rfl
          · exact .inr ⟨.inr member, different⟩
        · rintro (rfl | ⟨rfl | member, different⟩)
          · exact .inr (.inl rfl)
          · exact .inl rfl
          · exact .inr (.inr ⟨member, different⟩)

theorem eq_or_other_of_mem_insert (distinct : c.keys.Nodup) {key : Text} {value : Option Library}
    {entry : Text × Option Library} (member : entry ∈ (c.insert key value).entries) :
    entry = (key, value) ∨ entry ∈ c.entries ∧ entry.1 ≠ key := by
  have member : entry ∈ c.stored key value := List.mem_of_mem_drop member
  unfold stored at member
  split at member
  next => exact (mem_setEntry_iff distinct).mp member
  next =>
    rcases List.mem_append.mp member with other | new
    · obtain ⟨there, different⟩ := List.mem_filter.mp other
      exact .inr ⟨there, by simpa using different⟩
    · exact .inl (List.mem_singleton.mp new)

theorem stored?_eq_some_iff (distinct : c.keys.Nodup) {key : Text} {library : Library} :
    c.stored? key = some library ↔ (key, some library) ∈ c.entries := by
  unfold stored?
  rw [Option.join_eq_some_iff, lookup_eq_some_iff_mem distinct]

theorem evict_eq_true_iff (distinct : c.keys.Nodup) (key : Text) :
    (c.evict key).1 = true ↔ c.contains key = true ∧ (key, none) ∉ c.entries := by
  have present : c.contains key = true ↔ ∃ value, (key, value) ∈ c.entries := by
    simp [contains, keys]
  change (c.stored? key).isSome = true ↔ _
  rw [present, Option.isSome_iff_exists]
  constructor
  · rintro ⟨library, stored⟩
    have member := (stored?_eq_some_iff distinct).mp stored
    refine ⟨⟨_, member⟩, fun void => ?_⟩
    have same := (lookup_eq_some_iff_mem distinct).mpr member
    rw [(lookup_eq_some_iff_mem distinct).mpr void] at same
    cases same
  · rintro ⟨⟨value, member⟩, filled⟩
    cases value with
    | none => exact absurd member filled
    | some library => exact ⟨library, (stored?_eq_some_iff distinct).mpr member⟩

/-! ## What was computed -/

def Call.result? (call : Call ε) (c : Cache) : Option (Text × Option Library) := do
  let key ← c.computed call.operation
  match call.compute key with
  | .ok value => return (key, value)
  | .error _ => none

def results (c : Cache) : List (Call ε) → List (Text × Option Library)
  | [] => []
  | call :: calls =>
    (call.result? c).toList ++ results (c.step call.compute call.operation).2 calls

theorem results_concat (c : Cache) (calls : List (Call ε)) (call : Call ε) :
    c.results (calls ++ [call]) = c.results calls ++ (call.result? (c.after calls)).toList := by
  induction calls generalizing c with
  | nil => simp [results, after]
  | cons first calls ih =>
      rw [List.cons_append, results, ih, results, List.append_assoc]
      rfl

def last? (results : List (Text × Option Library)) (key : Text) : Option (Option Library) :=
  results.reverse.lookup key

theorem last?_concat (results : List (Text × Option Library)) (key : Text) (value : Option Library)
    (other : Text) :
    last? (results ++ [(key, value)]) other =
      if other = key then some value else last? results other :=
  lookup_reverse_concat results key value other

structure Holds (c : Cache) (results : List (Text × Option Library)) : Prop where
  distinct : c.keys.Nodup
  latest : ∀ entry ∈ c.entries, last? results entry.1 = some entry.2

variable {known : List (Text × Option Library)}

theorem holds_empty (policy : Policy) : (empty policy).Holds [] where
  distinct := List.nodup_nil
  latest _ there := absurd there List.not_mem_nil

/-- Entries that are taken away, or change places, take nothing else with them. -/
theorem Holds.mono {c' : Cache} (holds : c.Holds known) (distinct : c'.keys.Nodup)
    (subset : ∀ entry ∈ c'.entries, entry ∈ c.entries) : c'.Holds known :=
  ⟨distinct, fun entry there => holds.latest entry (subset entry there)⟩

theorem nodup_keys_touch (distinct : c.keys.Nodup) (key : Text) : (c.touch key).keys.Nodup := by
  obtain ⟨policy, entries⟩ := c
  cases policy with
  | keepAll => exact distinct
  | keepRecent capacity pos =>
      change ((without key entries ++ entries.filter (·.1 = key)).map (·.1)).Nodup
      have order : List.Perm (without key entries ++ entries.filter (·.1 = key)) entries := by
        unfold without
        simpa using
          List.filter_append_perm (fun entry : Text × Option Library => entry.1 ≠ key) entries
      exact (order.map _).nodup_iff.mpr distinct

theorem Holds.touch (holds : c.Holds known) (key : Text) : (c.touch key).Holds known :=
  holds.mono (nodup_keys_touch holds.distinct key) fun _ => mem_of_mem_touch

theorem Holds.insert (holds : c.Holds known) (key : Text) (value : Option Library) :
    (c.insert key value).Holds (known ++ [(key, value)]) where
  distinct := by
    rw [keys_insert]
    exact nodup_keysGot holds.distinct key
  latest entry there := by
    rw [last?_concat]
    rcases eq_or_other_of_mem_insert holds.distinct there with rfl | ⟨before, different⟩
    · exact if_pos rfl
    · rw [if_neg different]
      exact holds.latest entry before

theorem Holds.evict (holds : c.Holds known) (key : Text) : (c.evict key).2.Holds known := by
  refine holds.mono ?_ fun _ => List.mem_of_mem_filter
  change ((without key c.entries).map (·.1)).Nodup
  rw [keys_without]
  exact holds.distinct.filter _

/-! ## Traces -/

theorem Holds.get (holds : c.Holds known) (compute : Text → Except ε (Option Library)) (key : Text) :
    (c.getOrCompute compute key).2.Holds
      (known ++ ((Call.mk compute (.get key)).result? c).toList) := by
  unfold getOrCompute
  -- Only a computation that does not fail adds to what is known; an entry without a library is computed.
  cases stored : c.stored? key with
  | some library =>
      have nothing : (Call.mk compute (.get key)).result? c = none := by
        simp [Call.result?, computed, stored]
      rw [nothing, Option.toList_none, List.append_nil]
      exact holds.touch key
  | none =>
      cases found : compute key with
      | error e =>
          have nothing : (Call.mk compute (.get key)).result? c = none := by
            simp [Call.result?, computed, stored, found]
          rw [nothing, Option.toList_none, List.append_nil]
          exact holds
      | ok value =>
          have result : (Call.mk compute (.get key)).result? c = some (key, value) := by
            simp [Call.result?, computed, stored, found]
          rw [result]
          exact holds.insert key value

theorem Holds.step (holds : c.Holds known) (call : Call ε) :
    (c.step call.compute call.operation).2.Holds (known ++ (call.result? c).toList) := by
  obtain ⟨compute, op⟩ := call
  cases op with
  | get key => exact holds.get compute key
  | evict key =>
      change (c.evict key).2.Holds (known ++ [])
      rw [List.append_nil]
      exact holds.evict key
  | clear =>
      change c.clear.Holds (known ++ [])
      rw [List.append_nil]
      exact holds.mono List.nodup_nil fun _ there => absurd there List.not_mem_nil
  | contains key =>
      change c.Holds (known ++ [])
      rwa [List.append_nil]
  | size =>
      change c.Holds (known ++ [])
      rwa [List.append_nil]

theorem holds_after (policy : Policy) (calls : List (Call ε)) :
    ((empty policy).after calls).Holds ((empty policy).results calls) := by
  induction calls using List.reverseRecOn with
  | nil => exact holds_empty policy
  | append_singleton calls call ih =>
      rw [after_concat, results_concat]
      exact ih.step call

theorem Holds.mem_entries_iff (holds : c.Holds known) {key : Text} {value : Option Library} :
    (key, value) ∈ c.entries ↔ c.contains key = true ∧ last? known key = some value := by
  constructor
  · intro member
    exact ⟨by simpa [contains, keys] using ⟨value, member⟩, holds.latest _ member⟩
  · rintro ⟨present, latest⟩
    obtain ⟨other, member⟩ : ∃ other, (key, other) ∈ c.entries := by
      simpa [contains, keys] using present
    have same := holds.latest _ member
    rw [latest] at same
    rwa [Option.some.inj same]

theorem exists_call_of_mem_results {key : Text} {value : Option Library} {calls : List (Call ε)}
    (member : (key, value) ∈ c.results calls) : ∃ call ∈ calls, call.compute key = .ok value := by
  induction calls generalizing c with
  | nil => cases member
  | cons call calls ih =>
      rcases List.mem_append.mp member with now | later
      · obtain ⟨other, -, found⟩ := Option.bind_eq_some_iff.mp (Option.mem_toList.mp now)
        split at found
        next result computed =>
          obtain ⟨rfl, rfl⟩ := Prod.mk.inj (Option.some.inj found)
          exact ⟨call, List.mem_cons_self, computed⟩
        next => cases found
      · obtain ⟨other, inside, computed⟩ := ih later
        exact ⟨other, List.mem_cons_of_mem _ inside, computed⟩

/-- An entry of a cache is a key that the cache has, with what the key was last computed to. Evicting a
key tells whether the cache had it with a library. So where no computation gives nothing, every entry
has a library and evicting a key tells whether the cache had it. -/
theorem evict_tells_of_last_result (policy : Policy) (calls : List (Call ε)) :
    let c := (empty policy).after calls
    let last := last? ((empty policy).results calls)
    (∀ key value, (key, value) ∈ c.entries ↔ c.contains key = true ∧ last key = some value) ∧
      (∀ key, (c.evict key).1 = true ↔ c.contains key = true ∧ last key ≠ some none) ∧
      ((∀ call ∈ calls, ∀ key, call.compute key ≠ .ok none) →
        (∀ entry ∈ c.entries, entry.2 ≠ none) ∧ ∀ key, (c.evict key).1 = c.contains key) := by
  intro c last
  have holds : c.Holds ((empty policy).results calls) := holds_after policy calls
  have evicts : ∀ key, (c.evict key).1 = true ↔ c.contains key = true ∧ (key, none) ∉ c.entries :=
    evict_eq_true_iff holds.distinct
  refine ⟨fun key value => holds.mem_entries_iff, fun key => ?_, fun finds => ?_⟩
  · rw [evicts, holds.mem_entries_iff]
    exact and_congr_right fun present => not_congr (and_iff_right present)
  · have filled : ∀ key, (key, none) ∉ c.entries := by
      intro key member
      obtain ⟨call, inside, computed⟩ :=
        exists_call_of_mem_results (mem_of_lookup_reverse (holds.latest _ member))
      exact finds call inside key computed
    refine ⟨?_, fun key => ?_⟩
    · rintro ⟨key, value⟩ member rfl
      exact filled key member
    · rw [Bool.eq_iff_iff, evicts]
      exact and_iff_left (filled key)

/-! ## A key without a library -/

namespace Unattributed

def compute (key : Text) : Except Failure (Option Library) :=
  .ok (if key = ['n'] then none else some ⟨none, wide key⟩)

def computeAll (key : Text) : Except Failure (Option Library) := .ok (some ⟨none, wide key⟩)

def trace : List Operation := [.get ['a'], .get ['n'], .contains ['n'], .get ['b'], .size]

theorem finds : ∀ call ∈ trace.map (Call.mk computeAll), ∀ key, call.compute key ≠ .ok none := by
  intro call member key
  obtain ⟨op, -, rfl⟩ := List.mem_map.mp member
  simp [computeAll]

end Unattributed

theorem evict_tells_of_last_result_unattributed :
    let c := (empty (.keepRecent 2 (by decide))).after
      (Unattributed.trace.map (.mk Unattributed.compute))
    let all := (empty (.keepRecent 2 (by decide))).after
      (Unattributed.trace.map (.mk Unattributed.computeAll))
    (['n'], none) ∈ c.entries ∧ (c.evict ['n']).1 = false ∧ (c.evict ['b']).1 = true ∧
      (∀ call ∈ Unattributed.trace.map (Call.mk Unattributed.computeAll), ∀ key,
        call.compute key ≠ .ok none) ∧
      (all.evict ['n']).1 = true ∧ (all.evict ['a']).1 = false := by
  intro c all
  obtain ⟨entries, evicted, -⟩ := evict_tells_of_last_result (.keepRecent 2 (by decide))
    (Unattributed.trace.map (Call.mk Unattributed.compute))
  obtain ⟨-, -, agree⟩ := evict_tells_of_last_result (.keepRecent 2 (by decide))
    (Unattributed.trace.map (Call.mk Unattributed.computeAll))
  have present := (agree Unattributed.finds).2
  refine ⟨(entries ['n'] none).mpr (by decide), ?_, (evicted ['b']).mpr (by decide),
    Unattributed.finds, (present ['n']).trans (by decide), (present ['a']).trans (by decide)⟩
  exact Bool.eq_false_iff.mpr fun told => ((evicted ['n']).mp told).2 (by decide)

/-- A cache stores that a key has no library, and its eviction then tells of no key. -/
theorem missing_library_stored_and_evicted_unseen :
    let c := (empty .standard).after [Call.mk (fun _ => (.ok none : Except Failure _)) (.get ['k'])]
    (['k'], none) ∈ c.entries ∧ c.contains ['k'] = true ∧ (c.evict ['k']).1 = false := by
  decide

end MaskedPath.Cache
