import MaskedPath.Proofs.FinderOrder

namespace MaskedPath.Finder

variable {ι β : Type}

/-- Blocks that follow each other, each with the blocks nested in it. -/
inductive Nesting (ι : Type)
  | done
  | block (finder : ι) (body rest : Nesting ι)

namespace Nesting

def calls : Nesting ι → List (ι × Operation)
  | done => []
  | block f body rest => (f, .enter) :: (body.calls ++ (f, .leave) :: rest.calls)

def finders : Nesting ι → List ι
  | done => []
  | block f body rest => f :: (body.finders ++ rest.finders)

theorem mem_finders_of_mem_calls {blocks : Nesting ι} {call : ι × Operation}
    (member : call ∈ blocks.calls) : call.1 ∈ blocks.finders := by
  induction blocks with
  | done => cases member
  | block f body rest ihBody ihRest =>
      simp only [calls, List.mem_cons, List.mem_append] at member
      rcases member with rfl | within | rfl | after
      · exact List.mem_cons_self
      · exact List.mem_cons_of_mem _ (List.mem_append_left _ (ihBody within))
      · exact List.mem_cons_self
      · exact List.mem_cons_of_mem _ (List.mem_append_right _ (ihRest after))

theorem leave_mem_calls {blocks : Nesting ι} {f : ι} (entered : f ∈ blocks.finders) :
    (f, .leave) ∈ blocks.calls := by
  induction blocks with
  | done => cases entered
  | block g body rest ihBody ihRest =>
      simp only [finders, List.mem_cons, List.mem_append] at entered
      simp only [calls, List.mem_cons, List.mem_append]
      rcases entered with rfl | within | after
      · exact .inr (.inr (.inl rfl))
      · exact .inr (.inl (ihBody within))
      · exact .inr (.inr (.inr (ihRest after)))

theorem installs_iff_of_mem_calls {blocks : Nesting ι} {call : ι × Operation}
    (member : call ∈ blocks.calls) : call.2.installs = true ↔ call.2 ≠ .leave := by
  induction blocks with
  | done => cases member
  | block f body rest ihBody ihRest =>
      simp only [calls, List.mem_cons, List.mem_append] at member
      rcases member with rfl | within | rfl | after
      · simp [Operation.installs]
      · exact ihBody within
      · simp [Operation.installs]
      · exact ihRest after

end Nesting

section

variable [DecidableEq ι] [DecidableEq β] {others : List β} {calls : List (ι × Operation)}
  {blocks : Nesting ι} {f : ι}

/-! ## After blocks -/

theorem run_append (installed : List ι) (calls more : List (ι × Operation)) :
    run installed (calls ++ more) = run (run installed calls) more :=
  List.foldl_append

theorem erase_filter_insert {installed : List ι} (distinct : installed.Nodup) (f : ι)
    (keep : ι → Bool) : ((installed.insert f).filter keep).erase f =
      installed.filter fun g => decide (g ≠ f) && keep g := by
  have others : (fun g => g != f && keep g) = fun g => decide (g ≠ f) && keep g := by
    funext g
    by_cases same : g = f <;> simp [same]
  rw [(distinct.insert.filter keep).erase_eq_filter, List.filter_filter, others]
  by_cases there : f ∈ installed
  · rw [List.insert_of_mem there]
  · rw [List.insert_of_not_mem there, List.filter_cons_of_neg (by simp)]

theorem run_blocks {installed : List ι} (distinct : installed.Nodup) (blocks : Nesting ι) :
    run installed blocks.calls = installed.filter (· ∉ blocks.finders) := by
  -- The nested blocks start where the finder has been entered, those that follow where it has been left.
  induction blocks generalizing installed with
  | done => simp [Nesting.calls, Nesting.finders, run]
  | block f body rest ihBody ihRest =>
      have entered : (step installed f .enter).Nodup := nodup_step distinct f .enter
      have left : step (run (step installed f .enter) body.calls) f .leave =
          installed.filter fun g => decide (g ≠ f) && decide (g ∉ body.finders) := by
        rw [ihBody entered, step_of_not_installs rfl, step_of_installs rfl]
        exact erase_filter_insert distinct f _
      change run (step installed f .enter) (body.calls ++ (f, .leave) :: rest.calls) = _
      rw [run_append]
      change run (step (run (step installed f .enter) body.calls) f .leave) rest.calls = _
      rw [left, ihRest (distinct.filter _), List.filter_filter]
      refine List.filter_congr fun g _ => ?_
      rw [← Bool.decide_and, ← Bool.decide_and]
      refine decide_eq_decide.mpr ?_
      simp only [Nesting.finders, List.mem_cons, List.mem_append, not_or]
      tauto

theorem path_blocks (others : List β) (calls : List (ι × Operation)) (blocks : Nesting ι) :
    path others (calls ++ blocks.calls) =
      (path others calls).filter fun entry => ∀ f ∈ blocks.finders, entry ≠ .inl f := by
  have behind : (others.map Sum.inr).filter
      (fun entry : ι ⊕ β => ∀ f ∈ blocks.finders, entry ≠ .inl f) = others.map Sum.inr :=
    List.filter_eq_self.mpr (by simp)
  rw [path_eq, path_eq, run_append, run_blocks (nodup_run calls), List.filter_append,
    List.filter_map, behind]
  congr 2
  refine List.filter_congr fun g _ => decide_eq_decide.mpr ?_
  exact ⟨fun apart f entered same => apart (Sum.inl.inj same ▸ entered),
    fun apart entered => apart g entered rfl⟩

/-! ## Within a block -/

theorem lastCall?_append (calls more : List (ι × Operation)) (f : ι) :
    lastCall? (calls ++ more) f = (lastCall? more f).or (lastCall? calls f) := by
  unfold lastCall?
  rw [List.reverse_append, List.lookup_append]

theorem lastCall?_entered (calls part : List (ι × Operation)) (f : ι) :
    lastCall? (calls ++ (f, .enter) :: part) f = (lastCall? part f).or (some .enter) := by
  have first : lastCall? (calls ++ [(f, .enter)]) f = some .enter := by simp [lastCall?_concat]
  rw [List.append_cons, lastCall?_append, first]

theorem mem_path_within (part : List (ι × Operation)) (begins : part <+: blocks.calls) :
    .inl f ∈ path others (calls ++ (f, .enter) :: part) ↔ lastCall? part f ≠ some .leave := by
  rw [mem_path_iff, mem_run_iff, lastCall?_entered]
  cases last : lastCall? part f with
  | none => simp [Operation.installs]
  | some op =>
      have member : (f, op) ∈ blocks.calls := begins.subset (mem_of_lookup_reverse last)
      simpa using Nesting.installs_iff_of_mem_calls member

theorem stays_within_iff :
    (∀ part, part <+: blocks.calls → .inl f ∈ path others (calls ++ (f, .enter) :: part)) ↔
      f ∉ blocks.finders := by
  constructor
  · intro stays entered
    obtain ⟨before, after, split⟩ := List.append_of_mem (Nesting.leave_mem_calls entered)
    have begins : before ++ [(f, .leave)] <+: blocks.calls := ⟨after, by simp [split]⟩
    refine (mem_path_within _ begins).mp (stays _ begins) ?_
    rw [lastCall?_concat, if_pos rfl]
  · intro apart part begins
    refine (mem_path_within part begins).mpr fun last => apart ?_
    exact Nesting.mem_finders_of_mem_calls (begins.subset (mem_of_lookup_reverse last))

/-- After any calls and then some blocks, the path is as it was before them without the finders that
they entered, so it is as it was if and only if none of these was on it. Within a block its finder
stays on the path to the end if and only if no block of the same finder is nested in it; at any moment
it is on the path unless the last call on it since the block began was to leave it. -/
theorem blocks_take_their_finders (others : List β) (calls : List (ι × Operation))
    (blocks : Nesting ι) :
    let before := path others calls
    let after := path others (calls ++ blocks.calls)
    after = before.filter (fun entry => ∀ f ∈ blocks.finders, entry ≠ .inl f) ∧
      (after = before ↔ ∀ f ∈ blocks.finders, .inl f ∉ before) ∧
      ∀ f,
        ((∀ part, part <+: blocks.calls → .inl f ∈ path others (calls ++ (f, .enter) :: part)) ↔
          f ∉ blocks.finders) ∧
        ∀ part, part <+: blocks.calls →
          (.inl f ∈ path others (calls ++ (f, .enter) :: part) ↔ lastCall? part f ≠ some .leave) := by
  intro before after
  have removed : after = _ := path_blocks others calls blocks
  refine ⟨removed, ?_, fun f => ⟨stays_within_iff, fun part begins => mem_path_within part begins⟩⟩
  rw [removed, List.filter_eq_self]
  constructor
  · intro kept f entered there
    exact of_decide_eq_true (kept (.inl f) there) f entered rfl
  · intro fresh entry there
    refine decide_eq_true fun f entered same => ?_
    exact fresh f entered (same ▸ there)

end

/-! ## A block around a block -/

namespace Nested

def calls : List (Nat × Operation) := [(2, .install)]

def body : Nesting Nat := .block 2 .done .done

def blocks : Nesting Nat := .block 1 body (.block 3 .done .done)

end Nested

theorem blocks_take_their_finders_nested :
    path ["builtin"] Nested.calls = [.inl 2, .inr "builtin"] ∧
      path ["builtin"] (Nested.calls ++ Nested.blocks.calls) = [.inr "builtin"] ∧
      [(2, .enter)] <+: Nested.body.calls ∧
      .inl 1 ∈ path ["builtin"] (Nested.calls ++ [(1, .enter), (2, .enter)]) := by
  have begins : [(2, .enter)] <+: Nested.body.calls := ⟨[(2, .leave)], rfl⟩
  obtain ⟨after, -⟩ := blocks_take_their_finders ["builtin"] Nested.calls Nested.blocks
  obtain ⟨-, -, within⟩ := blocks_take_their_finders ["builtin"] Nested.calls Nested.body
  exact ⟨by decide, after.trans (by decide), begins, ((within 1).2 _ begins).mpr (by decide)⟩

/-- A block takes away a finder that was installed before it, and the finder of a block around it. -/
theorem block_takes_installed_finder :
    path ([] : List Unit) [(0, .install)] = [.inl 0] ∧
      path ([] : List Unit) ([(0, .install)] ++ (Nesting.block 0 .done .done).calls) = [] ∧
      path ([] : List Unit) ([] ++ (0, .enter) :: (Nesting.block 0 .done .done).calls) = [] := by
  decide

end MaskedPath.Finder
