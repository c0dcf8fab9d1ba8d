import MaskedPath.Proofs.RecentKeys

namespace MaskedPath

namespace Cache

variable {ε : Type} {n m : Nat} {keys keys' : List Text}

/-! ## One operation -/

theorem keysGot_suffix (posn : 0 < n) (posm : 0 < m) (le : n ≤ m) (suffix : keys <:+ keys')
    (key : Text) :
    keysGot (.keepRecent n posn) keys key <:+ keysGot (.keepRecent m posm) keys' key := by
  have others : keys.filter (· ≠ key) <:+ keys'.filter (· ≠ key) := suffix.filter _
  obtain ⟨more, split⟩ := others
  have last : keys.filter (· ≠ key) ++ [key] <:+ keys'.filter (· ≠ key) ++ [key] :=
    ⟨more, by rw [← split, List.append_assoc]⟩
  exact rtake_suffix_rtake last le

theorem keysAfter_suffix (posn : 0 < n) (posm : 0 < m) (le : n ≤ m) (suffix : keys <:+ keys')
    (op : Operation) :
    keysAfter (.keepRecent n posn) keys op <:+ keysAfter (.keepRecent m posm) keys' op := by
  cases op with
  | get key => exact keysGot_suffix posn posm le suffix key
  | evict key => exact suffix.filter _
  | clear => exact List.suffix_rfl
  | contains key => exact suffix
  | size => exact suffix

theorem mem_keysGot {policy : Policy} {key other : Text}
    (member : other ∈ keysGot policy keys key) :
    other ∈ keys ∨ other = key := by
  cases policy with
  | keepAll =>
      rw [keysGot_keepAll] at member
      split at member
      next => exact .inl member
      next => simpa using member
  | keepRecent capacity pos =>
      rcases List.mem_append.mp ((rtake_suffix _ _).subset member) with before | got
      · exact .inl (List.mem_of_mem_filter before)
      · exact .inr (List.mem_singleton.mp got)

theorem mem_keysGot_keepAll {key other : Text} :
    other ∈ keysGot .keepAll keys key ↔ other ∈ keys ∨ other = key := by
  refine ⟨mem_keysGot, fun member => ?_⟩
  rw [keysGot_keepAll]
  split
  next present =>
    rcases member with before | rfl
    · exact before
    · exact present
  next => simpa using member

theorem keysAfter_subset (policy : Policy) (subset : keys ⊆ keys') (op : Operation) :
    keysAfter policy keys op ⊆ keysAfter .keepAll keys' op := by
  cases op with
  | get key =>
      intro other member
      exact mem_keysGot_keepAll.mpr ((mem_keysGot member).imp_left (subset ·))
  | evict key => exact List.filter_subset _ subset
  | clear => exact List.Subset.refl _
  | contains key => exact subset
  | size => exact subset

/-! ## Traces -/

theorem keysAfterAll_suffix (posn : 0 < n) (posm : 0 < m) (le : n ≤ m) (ops : List Operation) :
    keysAfterAll (.keepRecent n posn) ops <:+ keysAfterAll (.keepRecent m posm) ops := by
  induction ops using List.reverseRecOn with
  | nil => exact List.suffix_rfl
  | append_singleton ops op ih =>
      rw [keysAfterAll_concat, keysAfterAll_concat]
      exact keysAfter_suffix posn posm le ih op

theorem keysAfterAll_subset (policy : Policy) (ops : List Operation) :
    keysAfterAll policy ops ⊆ keysAfterAll .keepAll ops := by
  induction ops using List.reverseRecOn with
  | nil => exact List.Subset.refl _
  | append_singleton ops op ih =>
      rw [keysAfterAll_concat, keysAfterAll_concat]
      exact keysAfter_subset policy ih op

theorem run_empty (policy : Policy) {compute : Text → Except ε (Option Library)}
    (attributes : Attributes compute) (ops : List Operation) :
    ((empty policy).run compute ops).2.WellKept ∧
      ((empty policy).run compute ops).2.keys = keysAfterAll policy ops := by
  have all : ∀ call ∈ ops.map (Call.mk compute), Attributes call.compute := by
    intro call member
    obtain ⟨op, -, rfl⟩ := List.mem_map.mp member
    exact attributes
  obtain ⟨kept, -, keys_eq⟩ := after_empty policy all
  rw [run_eq_after]
  refine ⟨kept, keys_eq.trans ?_⟩
  rw [List.map_map]
  exact congrArg _ (List.map_id ops)

theorem got_of_computed {c : Cache} {op : Operation} {key : Text}
    (computed : c.computed op = some key) : op = .get key := by
  cases op with
  | get other =>
      obtain ⟨-, same⟩ := Option.ite_none_right_eq_some.mp computed
      exact congrArg _ (Option.some.inj same)
  | evict other => cases computed
  | clear => cases computed
  | contains other => cases computed
  | size => cases computed

/-- A larger cache never does worse: after any trace, it has the keys of the smaller one behind what
others it has, and what it computes next, the smaller one computes too. -/
theorem larger_cache_computes_less (posn : 0 < n) (posm : 0 < m) (le : n ≤ m)
    {compute : Text → Except ε (Option Library)} (attributes : Attributes compute)
    (trace : List Operation) :
    let small := ((empty (.keepRecent n posn)).run compute trace).2
    let large := ((empty (.keepRecent m posm)).run compute trace).2
    let whole := ((empty .keepAll).run compute trace).2
    small.keys <:+ large.keys ∧
      (∀ op key, large.computed op = some key → small.computed op = some key) ∧
      small.keys ⊆ whole.keys ∧ large.keys ⊆ whole.keys := by
  intro small large whole
  obtain ⟨kept, keys⟩ : small.WellKept ∧ small.keys = _ := run_empty _ attributes trace
  obtain ⟨kept', keys'⟩ : large.WellKept ∧ large.keys = _ := run_empty _ attributes trace
  obtain ⟨-, all⟩ : whole.WellKept ∧ whole.keys = _ := run_empty _ attributes trace
  have suffix : small.keys <:+ large.keys := by
    rw [keys, keys']
    exact keysAfterAll_suffix posn posm le trace
  refine ⟨suffix, ?_, ?_, ?_⟩
  · intro op key computed
    obtain rfl := got_of_computed computed
    have missing := kept'.computed_get_iff.mp computed
    exact kept.computed_get_iff.mpr fun present => missing (suffix.subset present)
  · rw [keys, all]
    exact keysAfterAll_subset _ trace
  · rw [keys', all]
    exact keysAfterAll_subset _ trace

/-! ## Caches of one and of two -/

namespace Sizes

def compute : Text → Except Failure (Option Library) := fun key => .ok (some ⟨none, wide key⟩)

def trace : List Operation :=
  [.get ['a'], .get ['b'], .get ['c'], .evict ['b'], .contains ['c'], .get ['d'], .size]

theorem attributes : Attributes compute := fun _ => ⟨_, rfl⟩

end Sizes

theorem larger_cache_computes_less_two :
    let small := ((empty (.keepRecent 1 (by decide))).run Sizes.compute Sizes.trace).2
    let large := ((empty (.keepRecent 2 (by decide))).run Sizes.compute Sizes.trace).2
    0 < 1 ∧ 0 < 2 ∧ 1 ≤ 2 ∧ Attributes Sizes.compute ∧
      large.keys = [['c'], ['d']] ∧ small.keys <:+ [['c'], ['d']] ∧
      large.computed (.get ['a']) = some ['a'] ∧ small.computed (.get ['a']) = some ['a'] := by
  intro small large
  obtain ⟨suffix, computed, -⟩ := larger_cache_computes_less (by decide : 0 < 1) (by decide : 0 < 2)
    (by decide) Sizes.attributes Sizes.trace
  have keys : large.keys = [['c'], ['d']] := by decide
  have missing : large.computed (.get ['a']) = some ['a'] := by decide
  exact ⟨by decide, by decide, by decide, Sizes.attributes, keys, keys ▸ suffix, missing,
    computed _ _ missing⟩

end Cache

end MaskedPath
