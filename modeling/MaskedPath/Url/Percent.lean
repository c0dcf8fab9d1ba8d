import MaskedPath.Text.Utf8

namespace MaskedPath.Percent

def isAlphanumeric (n : Nat) : Bool :=
  (48 ≤ n && n ≤ 57) || (65 ≤ n && n ≤ 90) || (97 ≤ n && n ≤ 122)

def isKept (b : UInt8) : Bool :=
  isAlphanumeric b.toNat || b == 0x5f || b == 0x2e || b == 0x2d || b == 0x7e || b == 0x2f

def upperDigit (n : Nat) : Char :=
  if n < 10 then Char.ofNat (48 + n) else Char.ofNat (55 + n)

def encodeByte (b : UInt8) : Text :=
  if isKept b then [Char.ofNat b.toNat]
  else ['%', upperDigit (b.toNat / 16), upperDigit (b.toNat % 16)]

def encode (t : Text) : Text := (Utf8.encode t).flatMap encodeByte

def digit? (c : Char) : Option Nat :=
  let n := c.toNat
  if 48 ≤ n ∧ n ≤ 57 then some (n - 48)
  else if 65 ≤ n ∧ n ≤ 70 then some (n - 55)
  else if 97 ≤ n ∧ n ≤ 102 then some (n - 87)
  else none

def byte? (high low : Char) : Option UInt8 := do
  let h ← digit? high
  let l ← digit? low
  return (h * 16 + l).toUInt8

def bytesOf : Text → Bytes
  | [] => []
  | [c] => [c.toNat.toUInt8]
  | [c, d] => [c.toNat.toUInt8, d.toNat.toUInt8]
  | c :: h :: l :: rest =>
    if c = '%' then
      match byte? h l with
      | some b => b :: bytesOf rest
      | none => c.toNat.toUInt8 :: bytesOf (h :: l :: rest)
    else c.toNat.toUInt8 :: bytesOf (h :: l :: rest)

def isAscii (c : Char) : Bool := c.toNat < 128

def decode : Text → Text
  | [] => []
  | c :: rest =>
    if isAscii c then
      have : (rest.dropWhile isAscii).length ≤ rest.length :=
        (List.dropWhile_sublist isAscii).length_le
      Utf8.decodeReplacing (bytesOf (c :: rest.takeWhile isAscii)) ++ decode (rest.dropWhile isAscii)
    else c :: decode rest
termination_by t => t.length
decreasing_by all_goals simp only [List.length_cons]; omega

end MaskedPath.Percent
