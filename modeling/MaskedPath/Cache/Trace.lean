import MaskedPath.Cache.Basic

namespace MaskedPath.Cache

inductive Operation
  | get (key : Text)
  | evict (key : Text)
  | clear
  | contains (key : Text)
  | size
deriving DecidableEq

inductive Answer (ε : Type)
  | library (l : Except ε (Option Library))
  | flag (b : Bool)
  | count (n : Nat)
  | done

variable {ε : Type}

def computed (c : Cache) : Operation → Option Text
  | .get key => if (c.stored? key).isNone then some key else none
  | _ => none

/-- A call is answered by the computation exactly if its key is computed. -/
theorem computed_eq_some_iff {c : Cache} {key : Text} : c.computed (.get key) = some key ↔
    ∀ compute : Text → Except Unit (Option Library), (c.getOrCompute compute key).1 = compute key := by
  unfold computed getOrCompute
  cases stored : c.stored? key with
  | some library =>
      refine iff_of_false (by simp [stored]) fun same => ?_
      cases same fun _ => .error ()
  | none =>
      refine iff_of_true (by simp [stored]) fun compute => ?_
      cases compute key <;> simp

theorem getOrCompute_of_not_computed {c : Cache} {key : Text} (cached : c.computed (.get key) = none)
    (compute compute' : Text → Except ε (Option Library)) :
    c.getOrCompute compute key = c.getOrCompute compute' key := by
  unfold computed at cached
  unfold getOrCompute
  cases stored : c.stored? key with
  | some library => rfl
  | none => simp [stored] at cached

def step (compute : Text → Except ε (Option Library)) (c : Cache) :
    Operation → Answer ε × Cache
  | .get key =>
    let (result, c) := c.getOrCompute compute key
    (.library result, c)
  | .evict key =>
    let (present, c) := c.evict key
    (.flag present, c)
  | .clear => (.done, c.clear)
  | .contains key => (.flag (c.contains key), c)
  | .size => (.count c.size, c)

def run (compute : Text → Except ε (Option Library)) (c : Cache) :
    List Operation → List (Answer ε) × Cache
  | [] => ([], c)
  | op :: rest =>
    let (answer, c) := c.step compute op
    let (answers, c) := run compute c rest
    (answer :: answers, c)

end MaskedPath.Cache
