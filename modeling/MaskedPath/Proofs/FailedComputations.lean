import MaskedPath.Cache.Trace
import MaskedPath.Proofs.Queries
import MaskedPath.Standard.Runtime

namespace MaskedPath

namespace Cache

variable {ε : Type} {c : Cache} {compute : Text → Except ε (Option Library)}

theorem getOrCompute_eq_error_iff {key : Text} {e : ε} :
    (c.getOrCompute compute key).1 = .error e ↔ c.stored? key = none ∧ compute key = .error e := by
  unfold getOrCompute
  cases c.stored? key with
  | some library => simp
  | none => cases compute key <;> simp

theorem getOrCompute_of_error {key : Text} {e : ε} (missing : c.stored? key = none)
    (failed : compute key = .error e) : c.getOrCompute compute key = (.error e, c) := by
  unfold getOrCompute
  rw [missing, failed]

/-! ## Traces -/

def Answer.isFailure : Answer ε → Bool
  | .library (.error _) => true
  | _ => false

theorem step_of_failure {op : Operation} (failed : (c.step compute op).1.isFailure = true) :
    (c.step compute op).2 = c := by
  cases op with
  | get key =>
      cases got : (c.getOrCompute compute key).1 with
      | ok library => simp [step, got, Answer.isFailure] at failed
      | error e =>
          obtain ⟨missing, cause⟩ := getOrCompute_eq_error_iff.mp got
          exact congrArg Prod.snd (getOrCompute_of_error missing cause)
  | evict key => cases failed
  | clear => cases failed
  | contains key => cases failed
  | size => cases failed

theorem run_cons (op : Operation) (trace : List Operation) :
    c.run compute (op :: trace) =
      ((c.step compute op).1 :: ((c.step compute op).2.run compute trace).1,
        ((c.step compute op).2.run compute trace).2) :=
  rfl

def succeeding (compute : Text → Except ε (Option Library)) (c : Cache) (trace : List Operation) :
    List (Operation × Answer ε) :=
  (trace.zip (c.run compute trace).1).filter fun call => !call.2.isFailure

section

variable {op : Operation}

theorem succeeding_of_failure (failed : (c.step compute op).1.isFailure = true)
    (trace : List Operation) :
    c.succeeding compute (op :: trace) = c.succeeding compute trace := by
  unfold succeeding
  rw [run_cons, List.zip_cons_cons, List.filter_cons_of_neg (by simp [failed]),
    step_of_failure failed]

theorem succeeding_of_success (succeeded : (c.step compute op).1.isFailure = false)
    (trace : List Operation) :
    c.succeeding compute (op :: trace) =
      (op, (c.step compute op).1) :: (c.step compute op).2.succeeding compute trace := by
  unfold succeeding
  rw [run_cons, List.zip_cons_cons, List.filter_cons_of_pos (by simp [succeeded])]

end

theorem run_succeeding (c : Cache) (trace : List Operation) :
    c.run compute ((c.succeeding compute trace).map (·.1)) =
      ((c.succeeding compute trace).map (·.2), (c.run compute trace).2) := by
  induction trace generalizing c with
  | nil => rfl
  | cons op trace ih =>
      rw [run_cons]
      cases failed : (c.step compute op).1.isFailure with
      | true =>
          rw [succeeding_of_failure failed, step_of_failure failed]
          exact ih c
      | false =>
          rw [succeeding_of_success failed, List.map_cons, List.map_cons, run_cons, ih]

end Cache

/-! ## Masking resolvers -/

theorem Masking.libraryOf_of_failed [Runtime] {fs : FileSystem} {s : Store} {id : Nat} {key : Text}
    {e : Failure} (failed : ((libraryOf fs id key).run s).1 = .error e) (i : Nat) :
    (((libraryOf fs id key).run s).2.masking i).cache = (s.masking i).cache := by
  obtain ⟨given, maskings_eq⟩ := @libraryOf_run _ fs s id key
  rw [given] at failed
  obtain ⟨missing, cause⟩ := Cache.getOrCompute_eq_error_iff.mp failed
  rw [Store.masking_congr maskings_eq, Store.masking_setMasking]
  split_ifs with own
  · unfold lookedUp
    rw [Cache.getOrCompute_of_error missing cause, own.1]
  · rfl

namespace Cache

/-- A call fails exactly if its key has no library in the cache and the computation fails; its error is
that of the computation, and the cache is what it was, the order of its entries included. So a trace
without its failing calls gives the same other answers and the same cache. It is the same for the caches
of masking resolvers. -/
theorem failed_computation_changes_nothing [Runtime] (compute : Text → Except ε (Option Library))
    (c : Cache) (trace : List Operation) :
    (∀ key e, (c.getOrCompute compute key).1 = .error e ↔
        c.stored? key = none ∧ compute key = .error e) ∧
      (∀ key e, (c.getOrCompute compute key).1 = .error e → (c.getOrCompute compute key).2 = c) ∧
      c.run compute ((c.succeeding compute trace).map (·.1)) =
        ((c.succeeding compute trace).map (·.2), (c.run compute trace).2) ∧
      ∀ (fs : FileSystem) (s : Store) (id : Nat) (key : Text) (e : Failure),
        ((Masking.libraryOf fs id key).run s).1 = .error e →
          ∀ i, (((Masking.libraryOf fs id key).run s).2.masking i).cache = (s.masking i).cache := by
  refine ⟨fun key e => getOrCompute_eq_error_iff, fun key e failed => ?_, run_succeeding c trace,
    fun fs s id key e failed i => Masking.libraryOf_of_failed failed i⟩
  obtain ⟨missing, cause⟩ := getOrCompute_eq_error_iff.mp failed
  rw [getOrCompute_of_error missing cause]

/-! ## A full cache -/

namespace Full

def compute (key : Text) : Except Failure (Option Library) :=
  if key = ['b'] then .error (.reported ['!']) else .ok (some ⟨none, wide key⟩)

def start : Cache := ((empty (.keepRecent 2 (by decide))).run compute [.get ['a'], .get ['c']]).2

def trace : List Operation :=
  [.get ['b'], .contains ['b'], .get ['a'], .get ['b'], .get ['d'], .size, .get ['b']]

end Full

open scoped MaskedPath.Standard in
theorem failed_computation_changes_nothing_full :
    (Full.start.getOrCompute Full.compute ['b']).1 = .error (.reported ['!']) ∧
      (Full.start.getOrCompute Full.compute ['b']).2 = Full.start ∧
      Full.start.keys = [['a'], ['c']] ∧
      (Full.start.succeeding Full.compute Full.trace).map (·.1) =
        [.contains ['b'], .get ['a'], .get ['d'], .size] ∧
      (Full.start.run Full.compute [.contains ['b'], .get ['a'], .get ['d'], .size]).2 =
        (Full.start.run Full.compute Full.trace).2 := by
  obtain ⟨-, unchanged, kept, -⟩ :=
    failed_computation_changes_nothing Full.compute Full.start Full.trace
  have failed : (Full.start.getOrCompute Full.compute ['b']).1 = .error (.reported ['!']) := by decide
  have succeeding : (Full.start.succeeding Full.compute Full.trace).map (·.1) =
      [.contains ['b'], .get ['a'], .get ['d'], .size] := by decide
  rw [succeeding] at kept
  refine ⟨failed, unchanged _ _ failed, by decide, succeeding, ?_⟩
  rw [kept]

end Cache

end MaskedPath
