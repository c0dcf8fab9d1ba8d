import MaskedPath.Number.Decimal

/-!
# Floating-point numbers, exactly

A finite floating-point number is a whole number scaled by a power of two. Its text has the fewest
digits that read back as the number, and of several such texts the nearest; it is positional for the
scales from `-3` to `16` and has an exponent otherwise.
-/

namespace MaskedPath

/-- The number `± mantissa · 2 ^ exponent`. Above the smallest mantissa of an exponent the numbers
are twice as far apart as below it; `isBoundary` marks it. -/
structure Binary where
  negative : Bool
  mantissa : Nat
  exponent : Int
  isBoundary : Bool
deriving DecidableEq, Repr

namespace Binary

def ofFloat? (x : Float) : Option Binary :=
  let bits : Nat := x.toBits.toNat
  let negative := bits.testBit 63
  let biased : Nat := bits / Nat.pow 2 52 % Nat.pow 2 11
  let fraction : Nat := bits % Nat.pow 2 52
  if biased = 2047 then none
  else if biased = 0 then some ⟨negative, fraction, -1074, false⟩
  else some ⟨negative, Nat.pow 2 52 + fraction, (biased : Int) - 1075, fraction = 0 ∧ 1 < biased⟩

def toInt? (b : Binary) : Option Int :=
  let magnitude : Option Nat :=
    if 0 ≤ b.exponent then some (b.mantissa * Nat.pow 2 b.exponent.toNat)
    else
      let unit := Nat.pow 2 (-b.exponent).toNat
      if b.mantissa % unit = 0 then some (b.mantissa / unit) else none
  magnitude.map fun n => if b.negative then -(n : Int) else n

def compareScaled (a : Nat) (i : Int) (b : Nat) (j : Int) : Ordering :=
  compare (a * Nat.pow 10 i.toNat * Nat.pow 2 (-j).toNat)
    (b * Nat.pow 2 j.toNat * Nat.pow 10 (-i).toNat)

def isReadBy (b : Binary) (d : Decimal) : Bool :=
  let low := if b.isBoundary then 4 * b.mantissa - 1 else 4 * b.mantissa - 2
  let high := 4 * b.mantissa + 2
  let closed := b.mantissa % 2 = 0
  let below := compareScaled d.digits d.exponent low (b.exponent - 2)
  let above := compareScaled d.digits d.exponent high (b.exponent - 2)
  (below = .gt ∨ (closed ∧ below = .eq)) ∧ (above = .lt ∨ (closed ∧ above = .eq))

def raiseScale (b : Binary) : (steps : Nat) → Int → Int
  | 0, k => k
  | steps + 1, k =>
    if compareScaled 1 k b.mantissa b.exponent = .gt then k else b.raiseScale steps (k + 1)

/-- The least power of ten above the number. A binary digit is worth a little less than 30103
hundred-thousandths of a decimal one. -/
def scale (b : Binary) : Int :=
  b.raiseScale 4 (Int.fdiv ((b.mantissa.log2 + b.exponent) * 30103) 100000 - 1)

def quotient (b : Binary) (unit : Int) : Nat :=
  b.mantissa * Nat.pow 2 b.exponent.toNat * Nat.pow 10 (-unit).toNat /
    (Nat.pow 2 (-b.exponent).toNat * Nat.pow 10 unit.toNat)

def isNearerAbove (b : Binary) (lower : Nat) (unit : Int) : Bool :=
  match compareScaled (2 * lower + 1) unit (2 * b.mantissa) b.exponent with
  | .lt => true
  | .eq => lower % 2 = 1
  | .gt => false

def decimalWith? (b : Binary) (k : Int) (count : Nat) : Option Decimal :=
  let unit := k - count
  let lower : Decimal := ⟨b.quotient unit, unit⟩
  let upper : Decimal := ⟨lower.digits + 1, unit⟩
  match b.isReadBy lower, b.isReadBy upper with
  | true, true => some (if b.isNearerAbove lower.digits unit then upper else lower)
  | true, false => some lower
  | false, true => some upper
  | false, false => none

def mostDigits : Nat := 17

def shortest (b : Binary) : Decimal :=
  let k := b.scale
  let counts := (List.range mostDigits).map (· + 1)
  (counts.findSome? (b.decimalWith? k)).getD ⟨b.quotient (k - mostDigits), k - mostDigits⟩

/-! ## Text -/

def exponentText (e : Int) : Text :=
  let digits := decimal e.natAbs
  (if e < 0 then '-' else '+') :: (if digits.length < 2 then '0' :: digits else digits)

def layout (digits : Text) (k : Int) : Text :=
  if -4 < k ∧ k ≤ 0 then ['0', '.'] ++ List.replicate (-k).toNat '0' ++ digits
  else if 0 < k ∧ k ≤ 16 then
    let whole := digits.take k.toNat ++ List.replicate (k.toNat - digits.length) '0'
    let fraction := digits.drop k.toNat
    whole ++ '.' :: (if fraction = [] then ['0'] else fraction)
  else
    let fraction := digits.drop 1
    digits.take 1 ++ (if fraction = [] then [] else '.' :: fraction) ++ 'e' :: exponentText (k - 1)

def significant (d : Decimal) : Text :=
  ((decimal d.digits).reverse.dropWhile (· = '0')).reverse

def render (b : Binary) : Text :=
  let sign := if b.negative then ['-'] else []
  if b.mantissa = 0 then sign ++ ['0', '.', '0']
  else
    let d := b.shortest
    sign ++ layout (significant d) d.scale

end Binary

end MaskedPath
