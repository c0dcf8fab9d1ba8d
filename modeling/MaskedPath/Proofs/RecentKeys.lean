import MaskedPath.Cache.Trace
import MaskedPath.Proofs.Faithful
import Mathlib.Data.List.DropRight
import Mathlib.Data.List.Dedup

namespace MaskedPath

/-! ## The end of a list -/

section

variable {α : Type} {l l' : List α} {n m : Nat}

theorem rtake_suffix (l : List α) (n : Nat) : l.rtake n <:+ l := List.drop_suffix _ _

theorem length_rtake (l : List α) (n : Nat) : (l.rtake n).length = min n l.length := by
  unfold List.rtake
  rw [List.length_drop]
  omega

theorem rtake_of_length_le (le : l.length ≤ n) : l.rtake n = l :=
  (rtake_suffix l n).eq_of_length (by rw [length_rtake, Nat.min_eq_right le])

theorem suffix_rtake (suffix : l <:+ l') (short : l.length ≤ n) : l <:+ l'.rtake n := by
  refine List.suffix_of_suffix_length_le suffix (rtake_suffix l' n) ?_
  rw [length_rtake]
  exact Nat.le_min.mpr ⟨short, suffix.length_le⟩

theorem rtake_suffix_rtake (suffix : l <:+ l') (le : n ≤ m) : l.rtake n <:+ l'.rtake m := by
  refine suffix_rtake ((rtake_suffix l n).trans suffix) ?_
  rw [length_rtake]
  exact (Nat.min_le_left _ _).trans le

theorem mem_rtake_iff {a : α} {back : List α} (distinct : l.Nodup) (suffix : a :: back <:+ l) :
    a ∈ l.rtake n ↔ back.length < n := by
  constructor
  · intro member
    by_contra long
    have later : l.rtake n <:+ back := by
      refine List.suffix_of_suffix_length_le (rtake_suffix l n)
        ((List.suffix_cons a back).trans suffix) ?_
      rw [length_rtake]
      omega
    have absent := (List.nodup_cons.mp (distinct.sublist suffix.sublist)).1
    exact absent (later.subset member)
  · intro short
    exact (suffix_rtake suffix short).subset List.mem_cons_self

variable [DecidableEq α]

theorem length_filter_ne_of_mem {a : α} (distinct : l.Nodup) (member : a ∈ l) :
    (l.filter (· ≠ a)).length + 1 = l.length := by
  have erased : l.erase a = l.filter (· ≠ a) := by
    rw [distinct.erase_eq_filter]
    exact List.filter_congr fun b _ => by by_cases same : b = a <;> simp [same]
  have nonempty := List.length_pos_of_mem member
  rw [← erased, List.length_erase_of_mem member]
  omega

theorem filter_ne_of_not_mem {a : α} (absent : a ∉ l) : l.filter (· ≠ a) = l := by
  refine List.filter_eq_self.mpr fun b member => ?_
  have different : b ≠ a := fun same => absent (same ▸ member)
  simpa using different

theorem length_le_filter_ne (distinct : l.Nodup) (a : α) :
    l.length ≤ (l.filter (· ≠ a)).length + 1 := by
  by_cases member : a ∈ l
  · exact (length_filter_ne_of_mem distinct member).ge
  · rw [filter_ne_of_not_mem member]
    exact Nat.le_succ _

theorem filter_eq_of_mem {a : α} (distinct : l.Nodup) (member : a ∈ l) :
    l.filter (· = a) = [a] := by
  rw [List.filter_eq, List.count_eq_one_of_mem distinct member]
  rfl

theorem rtake_filter_rtake (distinct : l.Nodup) (a : α) :
    ((l.rtake (n + 1)).filter (· ≠ a)).rtake n = (l.filter (· ≠ a)).rtake n := by
  by_cases whole : l.length ≤ n + 1
  · rw [rtake_of_length_le whole]
  · have kept := length_le_filter_ne (distinct.sublist (rtake_suffix l (n + 1)).sublist) a
    have inside := (rtake_suffix l (n + 1)).filter (fun b => decide (b ≠ a))
    have length := inside.length_le
    rw [length_rtake] at kept
    apply (rtake_suffix_rtake inside (Nat.le_refl n)).eq_of_length
    rw [length_rtake, length_rtake]
    omega

/-! ## The last occurrences -/

theorem dedup_concat (l : List α) (a : α) : (l ++ [a]).dedup = l.dedup.filter (· ≠ a) ++ [a] := by
  induction l with
  | nil => simp
  | cons b l ih =>
      rw [List.cons_append, List.dedup_cons, List.dedup_cons, ih]
      by_cases same : b = a
      · subst same
        by_cases later : b ∈ l <;> simp [later]
      · by_cases later : b ∈ l <;> simp [same, later]

theorem exists_last {a : α} (member : a ∈ l) : ∃ front, l = front ++ a :: l.rtakeWhile (· ≠ a) := by
  induction l using List.reverseRecOn with
  | nil => cases member
  | append_singleton l b ih =>
      rw [List.rtakeWhile_concat]
      by_cases same : b = a
      · exact ⟨l, by simp [same]⟩
      · have earlier : a ∈ l := by simpa [Ne.symm same] using member
        obtain ⟨front, split⟩ := ih earlier
        refine ⟨front, ?_⟩
        rw [if_pos (by simpa using same), ← List.cons_append, ← List.append_assoc, ← split]

/-- What stands after the last occurrence of an element stands after it among the last
occurrences. -/
theorem dedup_suffix {a : α} (member : a ∈ l) :
    a :: (l.rtakeWhile (· ≠ a)).dedup <:+ l.dedup := by
  obtain ⟨front, split⟩ := exists_last member
  have absent : a ∉ l.rtakeWhile (· ≠ a) := by
    intro later
    simpa using List.mem_rtakeWhile_imp later
  have last : (a :: l.rtakeWhile (· ≠ a)).dedup = a :: (l.rtakeWhile (· ≠ a)).dedup :=
    List.dedup_cons_of_notMem absent
  rw [← last]
  nth_rewrite 2 [split]
  rw [List.dedup_append]
  exact List.suffix_union_right _ _

end

namespace Cache

variable {ε : Type} {c : Cache}

/-! ## Keys after an operation -/

def Attributes (compute : Text → Except ε (Option Library)) : Prop :=
  ∀ key, ∃ library, compute key = .ok (some library)

structure WellKept (c : Cache) : Prop where
  distinct : c.keys.Nodup
  filled : ∀ entry ∈ c.entries, entry.2.isSome
  bounded : ∀ {capacity pos}, c.policy = .keepRecent capacity pos → c.keys.length ≤ capacity

def keysGot (policy : Policy) (keys : List Text) (key : Text) : List Text :=
  match policy with
  | .keepAll => if keys.contains key then keys else keys ++ [key]
  | .keepRecent capacity _ => (keys.filter (· ≠ key) ++ [key]).rtake capacity

theorem keysGot_keepAll (keys : List Text) (key : Text) :
    keysGot .keepAll keys key = if key ∈ keys then keys else keys ++ [key] := by
  simp [keysGot]

def keysAfter (policy : Policy) (keys : List Text) : Operation → List Text
  | .get key => keysGot policy keys key
  | .evict key => keys.filter (· ≠ key)
  | .clear => []
  | .contains _ => keys
  | .size => keys

theorem stored?_isSome_iff (filled : ∀ entry ∈ c.entries, entry.2.isSome) (key : Text) :
    (c.stored? key).isSome ↔ key ∈ c.keys := by
  unfold stored? keys
  constructor
  · intro stored
    obtain ⟨library, found⟩ := Option.isSome_iff_exists.mp stored
    obtain ⟨front, back, split, -⟩ := List.lookup_eq_some_iff.mp (Option.join_eq_some_iff.mp found)
    simp [split]
  · intro member
    obtain ⟨entry, inside, rfl⟩ := List.mem_map.mp member
    have found : (c.entries.lookup entry.1).isSome :=
      List.lookup_isSome_iff.mpr ⟨entry, inside, beq_self_eq_true _⟩
    obtain ⟨value, found⟩ := Option.isSome_iff_exists.mp found
    obtain ⟨front, back, split, -⟩ := List.lookup_eq_some_iff.mp found
    have library := filled (entry.1, value) (by simp [split])
    rw [found]
    cases value with
    | none => cases library
    | some library => rfl

theorem WellKept.computed_get_iff (kept : c.WellKept) {key : Text} :
    c.computed (.get key) = some key ↔ key ∉ c.keys := by
  rw [← stored?_isSome_iff kept.filled]
  simp [computed]

theorem keys_without (key : Text) (entries : List (Text × Option Library)) :
    (without key entries).map (·.1) = (entries.map (·.1)).filter (· ≠ key) := by
  rw [List.filter_map]
  rfl

theorem keys_setEntry (key : Text) (value : Option Library)
    (entries : List (Text × Option Library)) :
    (setEntry key value entries).map (·.1) =
      if key ∈ entries.map (·.1) then entries.map (·.1) else entries.map (·.1) ++ [key] := by
  induction entries with
  | nil => rfl
  | cons first rest ih =>
      obtain ⟨k, v⟩ := first
      by_cases same : k = key
      · simp [setEntry, same]
      · simp only [setEntry, same, if_false, List.map_cons, List.mem_cons, Ne.symm same, false_or, ih]
        split <;> rfl

theorem keys_touch (kept : c.WellKept) {key : Text} (member : key ∈ c.keys) :
    (c.touch key).keys = keysGot c.policy c.keys key := by
  obtain ⟨policy, entries⟩ := c
  cases policy with
  | keepAll => exact ((keysGot_keepAll _ key).trans (if_pos member)).symm
  | keepRecent capacity pos =>
      have moved : (entries.filter (·.1 = key)).map (·.1) = [key] := by
        rw [← filter_eq_of_mem kept.distinct member, keys, List.filter_map]
        rfl
      have room : ((entries.map (·.1)).filter (· ≠ key) ++ [key]).length ≤ capacity := by
        rw [List.length_append, List.length_singleton]
        exact (length_filter_ne_of_mem kept.distinct member).trans_le (kept.bounded rfl)
      change (without key entries ++ entries.filter (·.1 = key)).map (·.1) =
        ((entries.map (·.1)).filter (· ≠ key) ++ [key]).rtake capacity
      rw [rtake_of_length_le room, List.map_append, keys_without, moved]

theorem keys_insert (c : Cache) (key : Text) (value : Option Library) :
    (c.insert key value).keys = keysGot c.policy c.keys key := by
  obtain ⟨policy, entries⟩ := c
  cases policy with
  | keepAll => exact (keys_setEntry key value entries).trans (keysGot_keepAll _ key).symm
  | keepRecent capacity pos =>
      change ((without key entries ++ [(key, value)]).rtake capacity).map (·.1) =
        ((entries.map (·.1)).filter (· ≠ key) ++ [key]).rtake capacity
      unfold List.rtake
      rw [List.map_drop, List.map_append, ← keys_without, List.length_append, List.length_append,
        List.length_map]
      rfl

/-! ## One operation -/

/-- What an operation leaves of a cache, if every key is computed to a library. -/
structure Leaves (c : Cache) (op : Operation) (c' : Cache) : Prop where
  policy_eq : c'.policy = c.policy
  keys_eq : c'.keys = keysAfter c.policy c.keys op
  filled : (∀ entry ∈ c.entries, entry.2.isSome) → ∀ entry ∈ c'.entries, entry.2.isSome

theorem leaves_touch (kept : c.WellKept) {key : Text} (member : key ∈ c.keys) :
    c.Leaves (.get key) (c.touch key) where
  policy_eq := by
    obtain ⟨policy, entries⟩ := c
    cases policy <;> rfl
  keys_eq := keys_touch kept member
  filled filled entry there := filled entry (mem_of_mem_touch there)

theorem leaves_insert (c : Cache) (key : Text) (library : Library) :
    c.Leaves (.get key) (c.insert key (some library)) where
  policy_eq := rfl
  keys_eq := keys_insert c key _
  filled filled entry there := by
    rcases mem_of_mem_insert there with rfl | before
    · rfl
    · exact filled entry before

theorem leaves_get {compute : Text → Except ε (Option Library)} (kept : c.WellKept)
    (attributes : Attributes compute) (key : Text) :
    c.Leaves (.get key) (c.getOrCompute compute key).2 := by
  unfold getOrCompute
  cases stored : c.stored? key with
  | some library =>
      have member : key ∈ c.keys := (stored?_isSome_iff kept.filled key).mp (by rw [stored]; rfl)
      exact leaves_touch kept member
  | none =>
      obtain ⟨library, computed⟩ := attributes key
      rw [computed]
      exact leaves_insert c key library

theorem leaves_step {compute : Text → Except ε (Option Library)} (kept : c.WellKept)
    (attributes : Attributes compute) (op : Operation) : c.Leaves op (c.step compute op).2 := by
  cases op with
  | get key => exact leaves_get kept attributes key
  | evict key =>
      exact ⟨rfl, keys_without key c.entries, fun filled entry there =>
        filled entry (List.mem_of_mem_filter there)⟩
  | clear => exact ⟨rfl, rfl, fun _ entry there => absurd there List.not_mem_nil⟩
  | contains key => exact ⟨rfl, rfl, id⟩
  | size => exact ⟨rfl, rfl, id⟩

theorem nodup_keysGot {policy : Policy} {keys : List Text} (distinct : keys.Nodup) (key : Text) :
    (keysGot policy keys key).Nodup := by
  cases policy with
  | keepAll =>
      rw [keysGot_keepAll]
      split
      next => exact distinct
      next absent => simpa using distinct.concat absent
  | keepRecent capacity pos =>
      have others : key ∉ keys.filter (· ≠ key) := by simp
      refine List.Nodup.sublist (rtake_suffix _ capacity).sublist ?_
      simpa using (distinct.filter _).concat others

theorem nodup_keysAfter {policy : Policy} {keys : List Text} (distinct : keys.Nodup)
    (op : Operation) : (keysAfter policy keys op).Nodup := by
  cases op with
  | get key => exact nodup_keysGot distinct key
  | evict key => exact distinct.filter _
  | clear => exact List.nodup_nil
  | contains key => exact distinct
  | size => exact distinct

theorem length_keysAfter_le {capacity : Nat} {pos : 0 < capacity} {keys : List Text}
    (bounded : keys.length ≤ capacity) (op : Operation) :
    (keysAfter (.keepRecent capacity pos) keys op).length ≤ capacity := by
  cases op with
  | get key =>
      change (List.rtake _ _).length ≤ _
      rw [length_rtake]
      exact Nat.min_le_left _ _
  | evict key => exact (List.length_filter_le _ _).trans bounded
  | clear => exact Nat.zero_le _
  | contains key => exact bounded
  | size => exact bounded

theorem Leaves.wellKept {op : Operation} {c' : Cache} (leaves : c.Leaves op c')
    (kept : c.WellKept) : c'.WellKept where
  distinct := by
    rw [leaves.keys_eq]
    exact nodup_keysAfter kept.distinct op
  filled := leaves.filled kept.filled
  bounded {capacity pos} policy := by
    rw [leaves.policy_eq] at policy
    rw [leaves.keys_eq, policy]
    exact length_keysAfter_le (kept.bounded policy) op

theorem wellKept_empty (policy : Policy) : (empty policy).WellKept where
  distinct := List.nodup_nil
  filled _ there := absurd there List.not_mem_nil
  bounded _ := Nat.zero_le _

/-! ## Traces -/

structure Call (ε : Type) where
  compute : Text → Except ε (Option Library)
  operation : Operation

def after (c : Cache) (calls : List (Call ε)) : Cache :=
  calls.foldl (fun c call => (c.step call.compute call.operation).2) c

theorem after_concat (c : Cache) (calls : List (Call ε)) (call : Call ε) :
    c.after (calls ++ [call]) = ((c.after calls).step call.compute call.operation).2 :=
  List.foldl_concat _ _ _ _

theorem run_eq_after (compute : Text → Except ε (Option Library)) (c : Cache)
    (ops : List Operation) : (c.run compute ops).2 = c.after (ops.map (Call.mk compute)) := by
  induction ops generalizing c with
  | nil => rfl
  | cons op ops ih => exact ih _

def keysAfterAll (policy : Policy) (ops : List Operation) : List Text :=
  ops.foldl (keysAfter policy) []

theorem keysAfterAll_concat (policy : Policy) (ops : List Operation) (op : Operation) :
    keysAfterAll policy (ops ++ [op]) = keysAfter policy (keysAfterAll policy ops) op := by
  rw [keysAfterAll, List.foldl_concat, keysAfterAll]

theorem after_empty (policy : Policy) {calls : List (Call ε)}
    (attributes : ∀ call ∈ calls, Attributes call.compute) :
    ((empty policy).after calls).WellKept ∧ ((empty policy).after calls).policy = policy ∧
      ((empty policy).after calls).keys = keysAfterAll policy (calls.map Call.operation) := by
  induction calls using List.reverseRecOn with
  | nil => exact ⟨wellKept_empty policy, rfl, rfl⟩
  | append_singleton calls call ih =>
      obtain ⟨kept, policy_eq, keys_eq⟩ := ih fun other member =>
        attributes other (List.mem_append_left _ member)
      have leaves := leaves_step kept (attributes call (by simp)) call.operation
      rw [after_concat]
      refine ⟨leaves.wellKept kept, leaves.policy_eq.trans policy_eq, ?_⟩
      rw [leaves.keys_eq, policy_eq, keys_eq, List.map_append, List.map_singleton,
        keysAfterAll_concat]

theorem computed_after_iff (policy : Policy) {calls : List (Call ε)}
    (attributes : ∀ call ∈ calls, Attributes call.compute) {key : Text} :
    ((empty policy).after calls).computed (.get key) = some key ↔
      key ∉ keysAfterAll policy (calls.map Call.operation) := by
  obtain ⟨kept, -, keys_eq⟩ := after_empty policy attributes
  rw [kept.computed_get_iff, keys_eq]

/-! ## Keys that were got -/

def Operation.got? : Operation → Option Text
  | .get key => some key
  | _ => none

/-- The keys that were got after the last clearing, in the order in which they were. -/
def gotSinceClear (ops : List Operation) : List Text :=
  (ops.rtakeWhile (· ≠ .clear)).filterMap Operation.got?

theorem gotSinceClear_concat (ops : List Operation) (op : Operation) :
    gotSinceClear (ops ++ [op]) =
      if op = .clear then [] else gotSinceClear ops ++ op.got?.toList := by
  unfold gotSinceClear
  rw [List.rtakeWhile_concat]
  by_cases clears : op = .clear
  · simp [clears]
  · cases got : op.got? <;> simp [clears, got]

/-- A bounded cache forgets no key among those that were got last. -/
theorem keysAfterAll_recent {capacity : Nat} (pos : 0 < capacity) {ops : List Operation}
    (unforced : ∀ op ∈ ops, ∀ key, op ≠ .evict key) :
    keysAfterAll (.keepRecent capacity pos) ops = (gotSinceClear ops).dedup.rtake capacity := by
  induction ops using List.reverseRecOn with
  | nil => simp [keysAfterAll, gotSinceClear]
  | append_singleton ops op ih =>
      have before := ih fun other member => unforced other (List.mem_append_left _ member)
      rw [keysAfterAll_concat, gotSinceClear_concat, before]
      cases op with
      | get key =>
          obtain ⟨rest, rfl⟩ := Nat.exists_eq_succ_of_ne_zero pos.ne'
          simp only [keysAfter, keysGot, reduceCtorEq, if_false, Operation.got?, Option.toList_some,
            dedup_concat, List.rtake_concat_succ]
          rw [rtake_filter_rtake (List.nodup_dedup _)]
      | evict key => exact absurd rfl (unforced _ (by simp) key)
      | clear => simp [keysAfter]
      | contains key => simp [keysAfter, Operation.got?]
      | size => simp [keysAfter, Operation.got?]

/-- The keys of a bounded cache are the last ones of those got since it was cleared, each taken where
it was got for the last time. So a key is computed exactly if it was not got since then, or if as many
other keys as the cache can hold were got after it. -/
theorem keys_are_most_recent {capacity : Nat} (pos : 0 < capacity) {calls : List (Call ε)}
    (attributes : ∀ call ∈ calls, Attributes call.compute)
    (unforced : ∀ call ∈ calls, ∀ key, call.operation ≠ .evict key) :
    let c := (empty (.keepRecent capacity pos)).after calls
    let got := gotSinceClear (calls.map Call.operation)
    c.keys = got.dedup.rtake capacity ∧
      ∀ key, c.computed (.get key) = some key ↔
        key ∉ got ∨ capacity ≤ (got.rtakeWhile (· ≠ key)).dedup.length := by
  intro c got
  have operations : ∀ op ∈ calls.map Call.operation, ∀ key, op ≠ .evict key := by
    intro op member
    obtain ⟨call, inside, rfl⟩ := List.mem_map.mp member
    exact unforced call inside
  have recent : keysAfterAll (.keepRecent capacity pos) (calls.map Call.operation) =
      got.dedup.rtake capacity := keysAfterAll_recent pos operations
  refine ⟨(after_empty _ attributes).2.2.trans recent, fun key => ?_⟩
  rw [computed_after_iff _ attributes, recent]
  by_cases member : key ∈ got
  · rw [mem_rtake_iff (List.nodup_dedup got) (dedup_suffix member), not_lt]
    exact ⟨.inr, fun far => far.resolve_left (not_not_intro member)⟩
  · have absent : key ∉ got.dedup.rtake capacity := fun inside =>
      member (List.mem_dedup.mp ((rtake_suffix _ _).subset inside))
    exact iff_of_true absent (.inl member)

/-! ## A cache of two -/

namespace Two

def calls : List (Call Failure) :=
  [⟨fun _ => .ok (some .void), .get ['d']⟩, ⟨fun _ => .ok (some .void), .clear⟩] ++
    [Operation.get ['a'], .get ['b'], .get ['a'], .size, .contains ['b'], .get ['c']].map
      (Call.mk fun key => .ok (some ⟨none, wide key⟩))

end Two

theorem keys_are_most_recent_two :
    let c := (empty (.keepRecent 2 (by decide))).after Two.calls
    (∀ call ∈ Two.calls, Attributes call.compute) ∧
      (∀ call ∈ Two.calls, ∀ key, call.operation ≠ .evict key) ∧
      c.keys = [['a'], ['c']] ∧ c.computed (.get ['a']) ≠ some ['a'] ∧
      c.computed (.get ['b']) = some ['b'] ∧ c.computed (.get ['d']) = some ['d'] := by
  intro c
  have attributes : ∀ call ∈ Two.calls, Attributes call.compute := by
    intro call member key
    simp only [Two.calls, List.map_cons, List.map_nil, List.mem_append, List.mem_cons,
      List.not_mem_nil, or_false] at member
    rcases member with (rfl | rfl) | rfl | rfl | rfl | rfl | rfl | rfl <;> exact ⟨_, rfl⟩
  have unforced : ∀ call ∈ Two.calls, ∀ key, call.operation ≠ .evict key := by
    simp [Two.calls]
  obtain ⟨keys, computed⟩ := keys_are_most_recent (by decide : 0 < 2) attributes unforced
  refine ⟨attributes, unforced, keys.trans (by decide), ?_, ?_, ?_⟩
  · exact fun again => absurd ((computed ['a']).mp again) (by decide)
  · exact (computed ['b']).mpr (by decide)
  · exact (computed ['d']).mpr (by decide)

end Cache

end MaskedPath
