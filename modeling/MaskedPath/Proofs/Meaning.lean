import MaskedPath.Resolver.Mask
import Mathlib.Data.List.ReduceOption

namespace MaskedPath

/-! ## Results that may be failures -/

section

variable {ε α β : Type}

@[simp] theorem pure_eq_ok (x : α) : (pure x : Except ε α) = .ok x := rfl

@[simp] theorem ok_bind (x : α) (f : α → Except ε β) : (Except.ok x >>= f) = f x := rfl

@[simp] theorem error_bind (e : ε) (f : α → Except ε β) : (Except.error e >>= f) = .error e := rfl

theorem bind_eq_ok {r : Except ε α} {f : α → Except ε β} {y : β} :
    (r >>= f) = .ok y ↔ ∃ x, r = .ok x ∧ f x = .ok y := by
  cases r <;> simp

theorem bind_eq_error {r : Except ε α} {f : α → Except ε β} {e : ε} :
    (r >>= f) = .error e ↔ r = .error e ∨ ∃ x, r = .ok x ∧ f x = .error e := by
  cases r <;> simp

theorem map_eq_ok {r : Except ε α} {f : α → β} {y : β} :
    r.map f = .ok y ↔ ∃ x, r = .ok x ∧ f x = y := by
  cases r <;> simp [Except.map]

theorem map_eq_error {r : Except ε α} {f : α → β} {e : ε} :
    r.map f = .error e ↔ r = .error e := by
  cases r <;> simp [Except.map]

theorem throw_eq_error (e : ε) : (throw e : Except ε α) = .error e := rfl

variable {δ : Type} {r : Except ε α} {f : ε → δ}

theorem mapError_eq_ok {x : α} : r.mapError f = .ok x ↔ r = .ok x := by
  cases r <;> simp [Except.mapError]

theorem mapError_eq_error {e : δ} :
    r.mapError f = .error e ↔ ∃ cause, r = .error cause ∧ f cause = e := by
  cases r <;> simp [Except.mapError]

end

/-! ## Judges -/

/-- What a masking resolver judges by: its masks, and what it attributes an archive's key to. -/
structure Judge where
  registry : Registry
  libraryOf : Text → Except Failure (Option Library)

namespace Judge

def origin (j : Judge) (location : Location) : Except Failure Origin :=
  match Location.archiveKey? location with
  | none => .ok .indeterminate
  | some key => do
    let library ← j.libraryOf key
    return if j.registry.hidesLibrary library then .masked else .notMasked

def originOfFirst (j : Judge) (locate : Text → Except Failure (Option Location))
    (resources : List Text) : Except Failure Origin := do
  match ← resources.findSomeM? locate with
  | some location => j.origin location
  | none => return .notMasked

def visible (j : Judge) (locations : List Location) : Except Failure (List Location) := do
  let origins ← locations.mapM j.origin
  return ((locations.zip origins).filter (·.2 ≠ .masked)).map (·.1)

theorem origin_eq_masked_iff (j : Judge) (location : Location) :
    j.origin location = .ok .masked ↔ ∃ key library, Location.archiveKey? location = some key ∧
      j.libraryOf key = .ok (some library) ∧ ¬ library.IsVoid ∧
      ∃ mask ∈ j.registry.libraries, mask.Matches library := by
  unfold origin
  cases Location.archiveKey? location with
  | none => simp
  | some key =>
      cases attributed : j.libraryOf key with
      | error e => simp [attributed]
      | ok library =>
          cases library with
          | none => simp [attributed, Registry.hidesLibrary]
          | some library =>
              simp [attributed, Registry.hidesLibrary]

theorem originOfFirst_cons (j : Judge) (locate : Text → Except Failure (Option Location))
    (resource : Text) (rest : List Text) :
    j.originOfFirst locate (resource :: rest) = locate resource >>= fun
      | some location => j.origin location
      | none => j.originOfFirst locate rest := by
  unfold originOfFirst
  rw [List.findSomeM?_cons, bind_assoc]
  refine bind_congr fun location => ?_
  cases location <;> rfl

theorem visible_cons (j : Judge) (location : Location) (rest : List Location) :
    j.visible (location :: rest) = (do
      let origin ← j.origin location
      let others ← j.visible rest
      return if origin = .masked then others else location :: others) := by
  simp only [visible, List.mapM_cons, bind_assoc, pure_bind]
  refine bind_congr fun origin => bind_congr fun origins => ?_
  by_cases masked : origin = .masked <;> simp [masked]

end Judge

namespace Search

def holdsMember (fs : FileSystem) (entry : Path) (name : Text) : Except Failure Bool :=
  match fs.readArchive entry with
  | .ok archive => .ok (archive.member? name).isSome
  | .error e => if e.isSkippable then .ok false else .error e

def located (fs : FileSystem) (name : Text) (entry : Path) : Except Failure (Option Location) := do
  if ← orFail .path (fs.isDirectory entry) then
    if ← orFail .path (fs.isFile (entry.join name)) then
      return some (← orFail .path (Location.ofFile fs (entry.join name)))
    else return none
  else if ← orFail .path (fs.isFile entry) then
    if ← holdsMember fs entry name then
      return some (← orFail .path (Location.ofMember fs entry name))
    else return none
  else return none

def moduleIn [Runtime] (fs : FileSystem) (locate : Text → Except Failure (Option Location)) (name : Text)
    (finalize : Bool) (resource : Text) : Except Failure (Option Module) := do
  match ← locate resource with
  | some location =>
    let source ← Location.read fs location
    if finalize then orFail .compilation (Runtime.compile source location)
    return some ⟨name, location, source, ModuleName.isPackageFile resource, finalize⟩
  | none => return none

end Search

/-- Replies to the three questions. -/
structure Replies where
  locate : Text → Except Failure (Option Location)
  enumerate : Text → Except Failure (List Location)
  resolve : Text → Bool → Except Failure (Option Module)

namespace Replies

def nothing : Replies := ⟨fun _ => .ok none, fun _ => .ok [], fun _ _ => .ok none⟩

def ofAnswers (answers : Answers) : Replies :=
  ⟨answers.locate, answers.enumerate, answers.resolve⟩

def searchedLocation (fs : FileSystem) (entries : List Path) (p : Replies) (name : Text) :
    Except Failure (Option Location) := do
  match ← p.locate name with
  | some location => return some location
  | none =>
    if Search.plainName name = [] then return none
    else entries.findSomeM? (Search.located fs (Search.plainName name))

def searched [Runtime] (fs : FileSystem) (entries : List Path) (p : Replies) : Replies where
  locate := searchedLocation fs entries p
  enumerate name := do
    let locations ← p.enumerate name
    let own ← if Search.plainName name = [] then pure []
      else entries.mapM (Search.located fs (Search.plainName name))
    return locations ++ own.reduceOption
  resolve name finalize :=
    (ModuleName.candidates name).findSomeM?
      (Search.moduleIn fs (searchedLocation fs entries p) name finalize)

def masked (j : Judge) (p : Replies) : Replies where
  locate name := do
    if j.registry.hidesResource name then return none
    else if (← j.originOfFirst p.locate [name]) = .masked then return none
    else p.locate name
  enumerate name := do
    if j.registry.hidesResource name then return []
    else j.visible (← p.enumerate name)
  resolve name finalize := do
    if j.registry.hidesName name then return none
    else if (← j.originOfFirst p.locate (ModuleName.candidates name)) = .masked then return none
    else p.resolve name finalize

end Replies

/-- The replies of a resolver, where `judges` gives the judge of each masking resolver. -/
def Resolver.replies [Runtime] (fs : FileSystem) (judges : Nat → Judge) : Resolver → Replies
  | .nowhere => .nothing
  | .fixed _ answers => .ofAnswers answers
  | .search entries parent => .searched fs entries (parent.replies fs judges)
  | .masking id parent => .masked (judges id) (parent.replies fs judges)

end MaskedPath
