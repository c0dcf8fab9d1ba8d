import MaskedPath.Number.Binary

namespace MaskedPath.Binary

def roundedTo (b : Binary) (unit : Int) : Nat :=
  let lower := b.quotient unit
  if b.isNearerAbove lower unit then lower + 1 else lower

def padDigits (count : Nat) (digits : Text) : Text :=
  List.replicate (count - digits.length) '0' ++ digits

def withPoint (keepsPoint : Bool) (whole fraction : Text) : Text :=
  if fraction = [] ∧ ¬ keepsPoint then whole else whole ++ '.' :: fraction

def fixedParts (b : Binary) (places : Nat) : Text × Text :=
  let digits := padDigits (places + 1) (decimal (b.roundedTo (-(places : Int))))
  digits.splitAt (digits.length - places)

def fixed (b : Binary) (places : Nat) (keepsPoint : Bool) : Text :=
  let (whole, fraction) := b.fixedParts places
  withPoint keepsPoint whole fraction

def significantDigits (b : Binary) (count : Nat) : Text × Int :=
  if b.mantissa = 0 then (List.replicate count '0', 0)
  else
    let k := b.scale
    let digits := decimal (b.roundedTo (k - count))
    if count < digits.length then (digits.take count, k) else (digits, k - 1)

def scientific (b : Binary) (places : Nat) (keepsPoint : Bool) : Text :=
  let (digits, exponent) := b.significantDigits (places + 1)
  withPoint keepsPoint (digits.take 1) (digits.drop 1) ++ 'e' :: exponentText exponent

def withoutZeros (fraction : Text) : Text :=
  (fraction.reverse.dropWhile (· = '0')).reverse

/-- A number with `count` significant digits, positional for the exponents from `-4` up to `count`.
Zeros at the end of the fraction stay, with the point, only if `keepsPoint`. -/
def general (b : Binary) (count : Nat) (keepsPoint : Bool) : Text :=
  let count := max count 1
  let (digits, exponent) := b.significantDigits count
  let finish (whole fraction : Text) : Text :=
    withPoint keepsPoint whole (if keepsPoint then fraction else withoutZeros fraction)
  if -4 ≤ exponent ∧ exponent < count then
    let (whole, fraction) := b.fixedParts (count - 1 - exponent).toNat
    finish whole fraction
  else finish (digits.take 1) (digits.drop 1) ++ 'e' :: exponentText exponent

end MaskedPath.Binary
