import MaskedPath.Text.Basic

namespace MaskedPath

structure Decimal where
  digits : Nat
  exponent : Int
deriving DecidableEq, Repr

namespace Decimal

def scale (d : Decimal) : Int := (decimal d.digits).length + d.exponent

def infiniteScale : Int := 320

def zeroScale : Int := -340

def toFloat (d : Decimal) : Float :=
  if d.digits = 0 then 0
  else if infiniteScale ≤ d.scale then 1 / 0
  else if d.scale ≤ zeroScale then 0
  else Float.ofScientific d.digits (decide (d.exponent < 0)) d.exponent.natAbs

def digitsValue (t : Text) : Nat := t.foldl (fun n c => n * 10 + (c.toNat - 48)) 0

def signedValue : Text → Int
  | '-' :: t => -(digitsValue t : Int)
  | '+' :: t => digitsValue t
  | t => digitsValue t

def ofParts (whole fraction : Text) (exponent : Int) : Decimal :=
  ⟨digitsValue (whole ++ fraction), exponent - fraction.length⟩

def ofNumeral (t : Text) : Decimal :=
  let mantissa := t.takeWhile fun c => c ≠ 'e' ∧ c ≠ 'E'
  let exponent := signedValue (t.drop (mantissa.length + 1))
  ofParts (mantissa.takeWhile (· ≠ '.')) ((mantissa.dropWhile (· ≠ '.')).drop 1) exponent

end Decimal

end MaskedPath
