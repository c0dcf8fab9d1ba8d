import MaskedPath.Calendar
import MaskedPath.FileSystem.Basic
import MaskedPath.Json.Display
import MaskedPath.Number.Rounded

namespace MaskedPath.Log

structure Timestamp where
  seconds : Int
  millionths : Nat
deriving DecidableEq, Repr

namespace Timestamp

inductive Error
  | notANumber
  | outOfRange
  | notInt (kind : String)
  | uncountableYear
  | year (year : Int)
deriving DecidableEq, Repr

def Error.message : Error → Text
  | .notANumber => "Invalid value NaN (not a number)".toList
  | .outOfRange => "timestamp out of range for platform time_t".toList
  | .notInt kind =>
    ['\''] ++ kind.toList ++ "' object cannot be interpreted as an integer".toList
  | .uncountableYear => Errno.valueTooLarge.message.toList
  | .year n => "year ".toList ++ decimalInt n ++ " is out of range".toList

def secondsBound : Int := Nat.pow 2 63

def ofSeconds (seconds : Int) (millionths : Nat) : Except Error Timestamp :=
  if -secondsBound ≤ seconds ∧ seconds < secondsBound then .ok ⟨seconds, millionths⟩
  else .error .outOfRange

def perSecond : Nat := 1000000

def ofFloat (x : Float) : Except Error Timestamp :=
  match Binary.ofFloat? x with
  | none => if x.isNaN then .error .notANumber else .error .outOfRange
  | some b =>
    let magnitude : Nat := b.mantissa * Nat.pow 2 b.exponent.toNat / Nat.pow 2 (-b.exponent).toNat
    let whole : Int := if b.negative then -(magnitude : Int) else magnitude
    let rest := if 0 ≤ b.exponent then 0 else b.mantissa % Nat.pow 2 (-b.exponent).toNat
    let fraction := (Float.ofNat rest).scaleB b.exponent * Float.ofNat perSecond
    let millionths : Nat := ((Binary.ofFloat? fraction).map (·.roundedTo 0)).getD 0
    let total : Int := if b.negative then -(millionths : Int) else millionths
    ofSeconds (whole + total.fdiv perSecond) (total.fmod perSecond).toNat

def ofJson : Json → Except Error Timestamp
  | .float x => ofFloat x
  | .int n => ofSeconds n 0
  | .bool b => ofSeconds (if b then 1 else 0) 0
  | other => .error (.notInt other.kind)

def daySeconds : Int := 86400

def yearRange : Int × Int := (1, 9999)

def yearBound : Int := Nat.pow 2 31

/-- A year as it is reported, in 32 bits with a sign. -/
def reported (year : Int) : Int := year.bmod (Nat.pow 2 32)

def padded (width n : Nat) : Text := Binary.padDigits width (decimal n)

def render (t : Timestamp) : Except Error Text :=
  let date := Calendar.dateAfter (t.seconds.fdiv daySeconds)
  let second := (t.seconds.fmod daySeconds).toNat
  let counted := date.year - 1900
  if counted < -yearBound ∨ yearBound ≤ counted then .error .uncountableYear
  else if date.year < yearRange.1 ∨ yearRange.2 < date.year then .error (.year (reported date.year))
  else
    .ok (padded 4 date.year.toNat ++ '-' :: padded 2 date.month ++ '-' :: padded 2 date.day ++
      'T' :: padded 2 (second / 3600) ++ ':' :: padded 2 (second / 60 % 60) ++
      ':' :: padded 2 (second % 60) ++ '.' :: padded 3 (t.millionths / 1000) ++
      "+00:00".toList)

end Timestamp

end MaskedPath.Log
