import MaskedPath.Number.Binary
import MaskedPath.Settings.Basic
import MaskedPath.Text.Blank
import MaskedPath.Text.Utf8
import MaskedPath.Text.Numeral

namespace MaskedPath

namespace Settings

inductive Field
  | searchPath
  | nameMasks
  | maskFiles
  | libraryMasks
  | capacity
deriving DecidableEq, Repr

def Field.name : Field → String
  | .searchPath => "search_path"
  | .nameMasks => "name_masks"
  | .maskFiles => "library_mask_files"
  | .libraryMasks => "library_masks"
  | .capacity => "cache_max_entries"

inductive Datum
  | text (t : WideText)
  | bytes (b : Bytes)
  | bool (b : Bool)
  | int (n : Int)
  | float (x : Float)
  | list (items : List Datum)
  | other

inductive Misfit
  | notAList
  | notAText
  | notUnicode
  | notANumber
  | notANumeral
  | numeralTooLong
  | notFinite
  | notWhole
  | negative
deriving DecidableEq, Repr

def Misfit.name : Misfit → String
  | .notAList => "list_type"
  | .notAText => "string_type"
  | .notUnicode => "string_unicode"
  | .notANumber => "int_type"
  | .notANumeral => "int_parsing"
  | .numeralTooLong => "int_parsing_size"
  | .notFinite => "finite_number"
  | .notWhole => "int_from_float"
  | .negative => "greater_than_equal"

structure Issue where
  field : Field
  index : Option Nat
  misfit : Misfit
deriving DecidableEq, Repr

/-! ## Texts -/

def textOf : Datum → Except Misfit Text
  | .text t =>
    match narrow? t with
    | some t => .ok t
    | none => .error .notUnicode
  | .bytes b => (Utf8.decode b).mapError fun _ => .notUnicode
  | _ => .error .notAText

def textsFrom (field : Field) (n : Nat) : List Datum → Except (List Issue) (List Text)
  | [] => .ok []
  | item :: items =>
    match textOf item, textsFrom field (n + 1) items with
    | .ok t, .ok ts => .ok (t :: ts)
    | .ok _, .error issues => .error issues
    | .error m, .ok _ => .error [⟨field, some n, m⟩]
    | .error m, .error issues => .error (⟨field, some n, m⟩ :: issues)

def textsOf (field : Field) : Datum → Except (List Issue) (List Text)
  | .list items => textsFrom field 0 items
  | _ => .error [⟨field, none, .notAList⟩]

/-! ## The number -/

def isMargin (c : CodePoint) : Bool := isBlank c.val && !(0x1c ≤ c.val && c.val ≤ 0x1f)

def separates : Text → Bool
  | [] => true
  | ['_'] => false
  | '_' :: '_' :: _ => false
  | _ :: rest => separates rest

def withoutZeros : Text → Option Text
  | '0' :: rest => go '0' rest
  | c :: rest => if '1' ≤ c ∧ c ≤ '9' then some (c :: rest) else none
  | [] => none
where
  /-- What follows the zeros and underscores, the last of which is `previous`. -/
  go (previous : Char) : Text → Option Text
    | [] => some [previous]
    | c :: rest =>
      if c = '0' then go '0' rest
      else if c = '_' then if previous = '_' then none else go '_' rest
      else if '1' ≤ c ∧ c ≤ '9' then some (c :: rest)
      else if c = '.' then some (previous :: c :: rest)
      else none

def withoutFraction (t : Text) : Text :=
  match cutAt? (· = '.') t with
  | some (whole, fraction) => if fraction.all (· = '0') then whole else t
  | none => t

def cutSign (t : Text) : Option (Bool × Text) :=
  match t with
  | '+' :: '-' :: _ => none
  | '+' :: rest => some (false, rest)
  | '-' :: rest => some (true, rest)
  | rest => some (false, rest)

def longestNumeral : Nat := 4300

def numberOfText (t : WideText) : Except Misfit Int :=
  let digits : Option (Bool × Text) := do
    let (negative, t) ← cutSign (← narrow? (trimBoth isMargin t))
    let t := withoutFraction (← withoutZeros t)
    if separates t ∧ t.head? ≠ some '_' then some (negative, t.filter (· ≠ '_')) else none
  match digits with
  | none => .error .notANumeral
  | some (negative, t) =>
    if t ≠ [] ∧ t.all fun c => '0' ≤ c ∧ c ≤ '9' then
      if longestNumeral < t.length then .error .numeralTooLong
      else .ok (if negative then -(Decimal.digitsValue t : Int) else Decimal.digitsValue t)
    else .error .notANumeral

def floatLimit : Int := Nat.pow 2 63

def numberOfFloat (x : Float) : Except Misfit Int :=
  match Binary.ofFloat? x with
  | none => .error .notFinite
  | some b =>
    match b.toInt? with
    | none => .error .notWhole
    | some n => if -floatLimit < n ∧ n < floatLimit then .ok n else .error .numeralTooLong

def numberOf : Datum → Except Misfit Int
  | .int n => .ok n
  | .bool b => .ok (if b then 1 else 0)
  | .float x => numberOfFloat x
  | .text t => numberOfText t
  | .bytes b =>
    match Utf8.decode b with
    | .ok t => numberOfText (wide t)
    | .error _ => .error .notANumeral
  | _ => .error .notANumber

def capacityOf (d : Datum) : Except (List Issue) Nat :=
  match numberOf d with
  | .error m => .error [⟨.capacity, none, m⟩]
  | .ok n => if n < 0 then .error [⟨.capacity, none, .negative⟩] else .ok n.toNat

/-! ## All fields -/

def issuesOf {α : Type} : Except (List Issue) α → List Issue
  | .ok _ => []
  | .error issues => issues

def ofData (data : List (WideText × Datum)) : Except (List Issue) Settings :=
  let given (field : Field) : Option Datum := data.lookup (wideOf field.name)
  let texts (field : Field) : Except (List Issue) (List Text) :=
    ((given field).map (textsOf field)).getD (.ok [])
  let capacity := ((given .capacity).map capacityOf).getD (.ok standard.capacity)
  match texts .searchPath, texts .nameMasks, texts .maskFiles, texts .libraryMasks, capacity with
  | .ok searchPath, .ok nameMasks, .ok maskFiles, .ok libraryMasks, .ok capacity =>
    .ok ⟨searchPath, nameMasks, maskFiles, libraryMasks, capacity⟩
  | searchPath, nameMasks, maskFiles, libraryMasks, capacity =>
    .error (issuesOf searchPath ++ issuesOf nameMasks ++ issuesOf maskFiles ++
      issuesOf libraryMasks ++ issuesOf capacity)

end Settings

end MaskedPath
