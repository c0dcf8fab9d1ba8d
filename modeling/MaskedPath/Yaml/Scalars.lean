import MaskedPath.Number.Decimal
import MaskedPath.Yaml.Graph

namespace MaskedPath.Yaml

inductive Atom
  | null
  | bool (b : Bool)
  | int (n : Int)
  | float (x : Float)
  | text (t : WideText)
  | bytes (b : Bytes)
  | moment (t : Timestamp)

def withoutUnderscores (t : WideText) : WideText := t.filter (· ≠ .ofChar '_')

def cutSign (t : WideText) : Bool × WideText :=
  match t with
  | c :: rest => if c = '-' then (true, rest) else if c = '+' then (false, rest) else (false, t)
  | [] => (false, [])

def sexagesimal (parts : List Int) : Int := parts.foldl (fun n part => n * 60 + part) 0

/-! ## Truth values -/

def boolOf (t : WideText) : Except ScalarError Bool :=
  let small : WideText := t.map fun c => match c.toChar? with
    | some d => .ofChar d.toLower
    | none => c
  match boolWords.find? fun w => wideOf w.1 = small with
  | some (_, b) => .ok b
  | none => .error (.unknownWord small)

/-! ## Whole numbers -/

def numeral (base : Nat) (t : WideText) : Except ScalarError Int :=
  let digits := (Numeral.spelling t).filter isDigit
  match Numeral.parse? base t with
  | none => .error (.badNumeral base t)
  | some n =>
    if base = 10 ∧ longestNumeral < digits.length then .error (.longNumeral digits.length)
    else .ok n

def magnitude (t : WideText) : Except ScalarError Int :=
  let isFront (front : String) : Bool := (wideOf front).isPrefixOf t
  match t with
  | [] => .error .emptyNumeral
  | c :: _ =>
    if t = wideOf "0" then .ok 0
    else if isFront "0b" then numeral 2 (t.drop 2)
    else if isFront "0x" then numeral 16 (t.drop 2)
    else if c = '0' then numeral 8 t
    else if t.contains (.ofChar ':') then
      sexagesimal <$> (splitWhere (· = .ofChar ':') t).mapM (numeral 10)
    else numeral 10 t

def intOf (t : WideText) : Except ScalarError Int :=
  let (negative, rest) := cutSign (withoutUnderscores t)
  (fun n => if negative then -n else n) <$> magnitude rest

/-! ## Numbers with a point -/

def isMantissa (t : Text) : Bool :=
  match cutAt? (· = '.') t with
  | none => t ≠ [] && t.all isDigit
  | some (whole, fraction) =>
    (whole ++ fraction) ≠ [] && whole.all isDigit && fraction.all isDigit

def isDecimal (t : Text) : Bool :=
  match cutAt? (fun c => c = 'e' || c = 'E') t with
  | none => isMantissa t
  | some (mantissa, exponent) =>
    let digits := unsigned exponent
    isMantissa mantissa && digits ≠ [] && digits.all isDigit

def unsignedFloat? (t : Text) : Option Float :=
  if isDecimal t then some (Decimal.ofNumeral t).toFloat
  else
    let small := lowerAscii t
    if small = "inf".toList ∨ small = "infinity".toList then some (1 / 0)
    else if small = "nan".toList then some (0 / 0)
    else none

def decimalFloat (t : WideText) : Except ScalarError Float :=
  let body := trimBoth Numeral.isAsciiBlank (Numeral.spelling t)
  match body with
  | '-' :: rest => match unsignedFloat? rest with
    | some x => .ok (-x)
    | none => .error (.badDecimal t)
  | rest => match unsignedFloat? (unsigned rest) with
    | some x => .ok x
    | none => .error (.badDecimal t)

def sexagesimalFloat (parts : List Float) : Float :=
  (parts.reverse.foldl (fun (sum, unit) part => (sum + part * unit, unit * 60))
    ((0 : Float), (1 : Float))).1

def floatOf (t : WideText) : Except ScalarError Float :=
  let lowered : WideText := (withoutUnderscores t).map fun c => match c.toChar? with
    | some d => .ofChar d.toLower
    | none => c
  if lowered = [] then .error .emptyNumeral
  else
    let (negative, rest) := cutSign lowered
    let value : Except ScalarError Float :=
      if rest = wideOf ".inf" then .ok (1 / 0)
      else if rest = wideOf ".nan" then .ok (0 / 0)
      else if rest.contains (.ofChar ':') then
        sexagesimalFloat <$> (splitWhere (· = .ofChar ':') rest).mapM decimalFloat
      else decimalFloat rest
    (fun x => if negative then -x else x) <$> value

/-! ## Binary data -/

def sextet? (c : Char) : Option Nat :=
  if 'A' ≤ c ∧ c ≤ 'Z' then some (c.toNat - 65)
  else if 'a' ≤ c ∧ c ≤ 'z' then some (c.toNat - 71)
  else if isDigit c then some (c.toNat + 4)
  else if c = '+' then some 62
  else if c = '/' then some 63
  else none

def readSextets (position left pads : Nat) : Text → Option Bytes
  | [] => if position = 0 then some [] else none
  | c :: rest =>
    if c = '=' then
      if 2 ≤ position ∧ 4 ≤ position + pads + 1 then some []
      else readSextets position left (if 2 ≤ position then pads + 1 else pads) rest
    else match sextet? c with
      | none => readSextets position left pads rest
      | some n =>
        match position with
        | 0 => readSextets 1 n 0 rest
        | 1 => (readSextets 2 (n % 16) 0 rest).map (UInt8.ofNat (left * 4 + n / 16) :: ·)
        | 2 => (readSextets 3 (n % 4) 0 rest).map (UInt8.ofNat (left * 16 + n / 4) :: ·)
        | _ => (readSextets 0 0 0 rest).map (UInt8.ofNat (left * 64 + n) :: ·)

def bytesOf (t : WideText) : Except Error Bytes :=
  if t.all (·.val < 128) then
    match readSextets 0 0 0 (t.filterMap CodePoint.toChar?) with
    | some bytes => .ok bytes
    | none => refuse .notBase64
  else refuse .notBase64

/-! ## Timestamps -/

def momentOf (t : WideText) : Except ScalarError Timestamp :=
  match (narrow? t).bind fun t => Timestamp.digits? (withoutBreak t) with
  | some digits => Timestamp.ofDigits digits
  | none => .error .notATimestamp

def Tag.isScalar : Tag → Bool
  | .null | .bool | .int | .float | .binary | .timestamp | .text => true
  | _ => false

def Atom.read (tag : Tag) (t : WideText) : Except Error Atom :=
  match tag with
  | .null => .ok .null
  | .bool => (Atom.bool <$> boolOf t).mapError .scalar
  | .int => (Atom.int <$> intOf t).mapError .scalar
  | .float => (Atom.float <$> floatOf t).mapError .scalar
  | .binary => Atom.bytes <$> bytesOf t
  | .timestamp => (Atom.moment <$> momentOf t).mapError .scalar
  | _ => .ok (.text t)

end MaskedPath.Yaml
