import MaskedPath.Proofs.Dictionaries
import MaskedPath.Resolver.Import
import Mathlib.Data.List.Basic
import Mathlib.Data.List.Induction
import Mathlib.Data.Sum.Basic
import Mathlib.Logic.Function.Basic

namespace MaskedPath.Finder

def Operation.installs : Operation → Bool
  | .install | .enter => true
  | .uninstall | .leave => false

/-! ## One call -/

section

variable {α : Type} [DecidableEq α] {installed : List α} {f g : α} {op : Operation}

theorem step_of_installs (installs : op.installs = true) :
    step installed f op = installed.insert f := by
  have put : step installed f op = if f ∈ installed then installed else f :: installed := by
    cases op with
    | install => rfl
    | enter => rfl
    | uninstall => cases installs
    | leave => cases installs
  rw [put]
  split
  next there => rw [List.insert_of_mem there]
  next absent => rw [List.insert_of_not_mem absent]

theorem step_of_not_installs (uninstalls : op.installs = false) :
    step installed f op = installed.erase f := by
  cases op with
  | install => cases uninstalls
  | enter => cases uninstalls
  | uninstall => rfl
  | leave => rfl

theorem nodup_step (distinct : installed.Nodup) (f : α) (op : Operation) :
    (step installed f op).Nodup := by
  cases installs : op.installs with
  | true =>
      rw [step_of_installs installs]
      exact distinct.insert
  | false =>
      rw [step_of_not_installs installs]
      exact distinct.erase f

theorem mem_step_iff (distinct : installed.Nodup) :
    g ∈ step installed f op ↔ if g = f then op.installs = true else g ∈ installed := by
  cases installs : op.installs with
  | true =>
      rw [step_of_installs installs, List.mem_insert_iff]
      by_cases same : g = f <;> simp [same]
  | false =>
      rw [step_of_not_installs installs, distinct.mem_erase_iff]
      by_cases same : g = f <;> simp [same]

/-- A call puts its finder in front of the others, or moves none of them. -/
theorem step_eq_cons_or_sublist (installed : List α) (f : α) (op : Operation) :
    (f ∉ installed ∧ step installed f op = f :: installed) ∨
      (step installed f op).Sublist installed := by
  cases installs : op.installs with
  | true =>
      rw [step_of_installs installs]
      by_cases there : f ∈ installed
      · rw [List.insert_of_mem there]
        exact .inr (List.Sublist.refl _)
      · exact .inl ⟨there, List.insert_of_not_mem there⟩
  | false =>
      rw [step_of_not_installs installs]
      exact .inr List.erase_sublist

theorem step_append {others : List α} (absent : f ∉ others) :
    step (installed ++ others) f op = step installed f op ++ others := by
  cases installs : op.installs with
  | true =>
      rw [step_of_installs installs, step_of_installs installs]
      by_cases there : f ∈ installed
      · rw [List.insert_of_mem there, List.insert_of_mem (List.mem_append_left _ there)]
      · rw [List.insert_of_not_mem there, List.insert_of_not_mem (by simp [there, absent])]
        rfl
  | false =>
      rw [step_of_not_installs installs, step_of_not_installs installs, List.erase_append]
      by_cases there : f ∈ installed
      · rw [if_pos there]
      · rw [if_neg there, List.erase_of_not_mem there, List.erase_of_not_mem absent]

theorem step_map {γ : Type} [DecidableEq γ] {e : α → γ} (injective : Function.Injective e) :
    step (installed.map e) (e f) op = (step installed f op).map e := by
  cases installs : op.installs with
  | true =>
      rw [step_of_installs installs, step_of_installs installs]
      by_cases there : f ∈ installed
      · rw [List.insert_of_mem there, List.insert_of_mem (List.mem_map_of_mem there)]
      · have absent : e f ∉ installed.map e := by simpa [injective.eq_iff] using there
        rw [List.insert_of_not_mem there, List.insert_of_not_mem absent, List.map_cons]
  | false =>
      rw [step_of_not_installs installs, step_of_not_installs installs, List.map_erase injective]

theorem run_concat (installed : List α) (calls : List (α × Operation)) (f : α) (op : Operation) :
    run installed (calls ++ [(f, op)]) = step (run installed calls) f op :=
  List.foldl_concat _ _ _ _

end

/-! ## The path -/

section

variable {ι β : Type} [DecidableEq ι] [DecidableEq β] {others : List β}
  {calls : List (ι × Operation)} {f g : ι} {op : Operation}

def path (others : List β) (calls : List (ι × Operation)) : List (ι ⊕ β) :=
  run (others.map .inr) (calls.map fun call => (.inl call.1, call.2))

theorem path_eq (others : List β) (calls : List (ι × Operation)) :
    path others calls = (run [] calls).map .inl ++ others.map .inr := by
  induction calls using List.reverseRecOn with
  | nil => rfl
  | append_singleton calls call ih =>
      unfold path at ih ⊢
      rw [List.map_append, List.map_singleton, run_concat, ih, step_append (by simp),
        step_map Sum.inl_injective, ← run_concat]

theorem mem_path_iff : .inl f ∈ path others calls ↔ f ∈ run [] calls := by
  simp [path_eq]

theorem nodup_run (calls : List (ι × Operation)) : (run [] calls).Nodup := by
  induction calls using List.reverseRecOn with
  | nil => exact List.nodup_nil
  | append_singleton calls call ih =>
      rw [run_concat]
      exact nodup_step ih call.1 call.2

/-! ## The last call on a finder -/

def lastCall? (calls : List (ι × Operation)) (f : ι) : Option Operation := calls.reverse.lookup f

theorem lastCall?_concat (calls : List (ι × Operation)) (f : ι) (op : Operation) (g : ι) :
    lastCall? (calls ++ [(f, op)]) g = if g = f then some op else lastCall? calls g :=
  lookup_reverse_concat calls f op g

theorem mem_run_iff : f ∈ run [] calls ↔ ∃ op, lastCall? calls f = some op ∧ op.installs = true := by
  induction calls using List.reverseRecOn with
  | nil => simp [run, lastCall?]
  | append_singleton calls call ih =>
      rw [run_concat, mem_step_iff (nodup_run calls), lastCall?_concat]
      by_cases same : f = call.1
      · simp [same]
      · simpa [same] using ih

/-! ## Arrivals -/

/-- The call at position `i` takes the finder from absent to present. -/
def Arrives (others : List β) (calls : List (ι × Operation)) (f : ι) (i : Nat) : Prop :=
  .inl f ∉ path others (calls.take i) ∧ .inl f ∈ path others (calls.take (i + 1))

structure ArrivesLast (others : List β) (calls : List (ι × Operation)) (f : ι) (i : Nat) : Prop where
  arrives : Arrives others calls f i
  last : ∀ j, Arrives others calls f j → j ≤ i

theorem Arrives.lt {i : Nat} (arrives : Arrives others calls f i) : i < calls.length := by
  by_contra beyond
  obtain ⟨absent, present⟩ := arrives
  rw [List.take_of_length_le (by omega)] at absent present
  exact absent present

theorem arrives_concat_iff {call : ι × Operation} {i : Nat} :
    Arrives others (calls ++ [call]) f i ↔ Arrives others calls f i ∨
      i = calls.length ∧ f ∉ run [] calls ∧ f ∈ run [] (calls ++ [call]) := by
  rcases Nat.lt_trichotomy i calls.length with before | rfl | after
  · have same : ∀ n ≤ calls.length, (calls ++ [call]).take n = calls.take n :=
      fun n le => List.take_append_of_le_length le
    unfold Arrives
    rw [same i (Nat.le_of_lt before), same (i + 1) before]
    exact ⟨.inl, fun arrives => arrives.resolve_right fun now => Nat.ne_of_lt before now.1⟩
  · have now : Arrives others (calls ++ [call]) f calls.length ↔
        f ∉ run [] calls ∧ f ∈ run [] (calls ++ [call]) := by
      unfold Arrives
      rw [List.take_left, List.take_of_length_le (by simp), mem_path_iff, mem_path_iff]
    rw [now]
    exact ⟨fun arrives => .inr ⟨rfl, arrives⟩, fun arrives =>
      arrives.elim (fun earlier => absurd earlier.lt (Nat.lt_irrefl _)) And.right⟩
  · constructor
    · intro arrives
      have lt := arrives.lt
      rw [List.length_append, List.length_singleton] at lt
      omega
    · rintro (earlier | ⟨rfl, -⟩)
      · exact absurd earlier.lt (by omega)
      · omega

theorem ArrivesLast.concat {i : Nat} (there : f ∈ run [] calls) (last : ArrivesLast others calls f i)
    (call : ι × Operation) : ArrivesLast others (calls ++ [call]) f i where
  arrives := arrives_concat_iff.mpr (.inl last.arrives)
  last j arrives := by
    rcases arrives_concat_iff.mp arrives with earlier | ⟨-, absent, -⟩
    · exact last.last j earlier
    · exact absurd there absent

theorem arrivesLast_now {call : ι × Operation} (absent : f ∉ run [] calls)
    (present : f ∈ run [] (calls ++ [call])) :
    ArrivesLast others (calls ++ [call]) f calls.length where
  arrives := arrives_concat_iff.mpr (.inr ⟨rfl, absent, present⟩)
  last j arrives := by
    rcases arrives_concat_iff.mp arrives with earlier | ⟨rfl, -⟩
    · exact Nat.le_of_lt earlier.lt
    · exact Nat.le_refl _

theorem exists_arrivals (others : List β) (calls : List (ι × Operation)) :
    ∃ time : ι → Nat, (∀ f ∈ run [] calls, ArrivesLast others calls f (time f)) ∧
      (run [] calls).Pairwise fun f g => time g < time f := by
  induction calls using List.reverseRecOn with
  | nil => exact ⟨fun _ => 0, by simp [run], List.Pairwise.nil⟩
  | append_singleton calls call ih =>
      obtain ⟨time, last, order⟩ := ih
      rcases step_eq_cons_or_sublist (run [] calls) call.1 call.2 with ⟨absent, front⟩ | kept
      -- Whoever comes to the front arrives with this call, which is later than all arrivals before.
      · rw [← run_concat] at front
        have present : call.1 ∈ run [] (calls ++ [call]) := by
          rw [front]
          exact List.mem_cons_self
        have unchanged : ∀ g ∈ run [] calls,
            Function.update time call.1 calls.length g = time g := by
          intro g member
          have different : g ≠ call.1 := by
            rintro rfl
            exact absent member
          exact Function.update_of_ne different _ _
        refine ⟨Function.update time call.1 calls.length, ?_, ?_⟩
        · intro g member
          rw [front] at member
          rcases List.mem_cons.mp member with rfl | before
          · rw [Function.update_self]
            exact arrivesLast_now absent present
          · rw [unchanged g before]
            exact (last g before).concat before call
        · rw [front]
          refine List.pairwise_cons.mpr ⟨fun g member => ?_, ?_⟩
          · rw [unchanged g member, Function.update_self]
            exact (last g member).arrives.lt
          · refine order.imp_of_mem fun first second later => ?_
            rwa [unchanged _ first, unchanged _ second]
      · rw [← run_concat] at kept
        exact ⟨time, fun g member => (last g (kept.subset member)).concat (kept.subset member) call,
          order.sublist kept⟩

/-- After any calls the finders stand on the path before the others, which keep their order. Each
stands there once, if the last call on it put it there, and in the order in which each came onto the
path for the last time, the latest first. -/
theorem path_follows_calls (others : List β) (calls : List (ι × Operation)) :
    ∃ installed : List ι, path others calls = installed.map .inl ++ others.map .inr ∧
      installed.Nodup ∧
      (∀ f, f ∈ installed ↔ ∃ op, lastCall? calls f = some op ∧ op.installs = true) ∧
      ∃ time : ι → Nat, (∀ f ∈ installed, ArrivesLast others calls f (time f)) ∧
        installed.Pairwise fun f g => time g < time f :=
  ⟨run [] calls, path_eq others calls, nodup_run calls, fun _ => mem_run_iff,
    exists_arrivals others calls⟩

example : path ["builtin"] [(1, .enter), (2, .install), (3, .enter), (1, .install), (2, .leave),
    (2, .enter)] = [.inl 2, .inl 3, .inl 1, .inr "builtin"] := by
  decide

end

end MaskedPath.Finder
