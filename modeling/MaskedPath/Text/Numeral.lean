import MaskedPath.Text.Blank
import MaskedPath.Text.Digit

namespace MaskedPath.Numeral

def isAsciiBlank (c : Char) : Bool :=
  c == ' ' || (9 ≤ c.toNat && c.toNat ≤ 13)

def asciiSpelling (c : CodePoint) : Char :=
  if c.val < 127 then Char.ofNat c.val
  else if isBlank c.val then ' '
  else match digitValue? c.val with
    | some d => Char.ofNat (48 + d)
    | none => '?'

def spelling (w : WideText) : Text :=
  if w.all (·.val < 128) then w.map fun c => Char.ofNat c.val else w.map asciiSpelling

def digit? (base : Nat) (c : Char) : Option Nat :=
  let n := c.toNat
  let value :=
    if 48 ≤ n ∧ n ≤ 57 then n - 48
    else if 97 ≤ n ∧ n ≤ 122 then n - 87
    else if 65 ≤ n ∧ n ≤ 90 then n - 55
    else 36
  if value < base then some value else none

def digitsAfter (base value : Nat) : Text → Option Nat
  | [] => some value
  | [c] => (digit? base c).map (value * base + ·)
  | c :: d :: rest =>
    if c = '_' then do
      let k ← digit? base d
      digitsAfter base (value * base + k) rest
    else do
      let k ← digit? base c
      digitsAfter base (value * base + k) (d :: rest)

def digits? (base : Nat) : Text → Option Nat
  | [] => none
  | c :: rest => do
    let k ← digit? base c
    digitsAfter base k rest

def baseLetter? (base : Nat) : Option Char :=
  if base = 16 then some 'x' else if base = 8 then some 'o' else if base = 2 then some 'b' else none

def unsigned? (base : Nat) (t : Text) : Option Nat :=
  match t with
  | '0' :: c :: rest =>
    if baseLetter? base = some c.toLower then
      match rest with
      | '_' :: rest => digits? base rest
      | _ => digits? base rest
    else digits? base t
  | _ => digits? base t

def parse? (base : Nat) (w : WideText) : Option Int :=
  match trimBoth isAsciiBlank (spelling w) with
  | '-' :: rest => (unsigned? base rest).map fun n => -(n : Int)
  | '+' :: rest => (unsigned? base rest).map Int.ofNat
  | t => (unsigned? base t).map Int.ofNat

end MaskedPath.Numeral
