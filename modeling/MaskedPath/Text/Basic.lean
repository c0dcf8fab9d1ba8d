/-!
# Text

Two kinds of text. `Text` is a sequence of characters; paths, names, locations and keys are of this
kind. `WideText` is a sequence of code points that may hold lone surrogates: a `\uXXXX` escape of a
properties document can name one, and it stays what it is.

Main statement: `narrow?_wide` (widening loses nothing).
-/

namespace MaskedPath

abbrev Text := List Char

/-- A code point, surrogates included. -/
structure CodePoint where
  val : Nat
  val_lt : val < 0x110000
deriving DecidableEq, Repr

abbrev WideText := List CodePoint

namespace CodePoint

theorem char_lt (c : Char) : c.toNat < 0x110000 := by
  have h := c.valid
  simp only [UInt32.isValidChar, Nat.isValidChar] at h
  simp only [Char.toNat, UInt32.toNat] at *
  omega

def ofChar (c : Char) : CodePoint := ⟨c.toNat, char_lt c⟩

instance : Coe Char CodePoint := ⟨ofChar⟩

def toChar? (c : CodePoint) : Option Char :=
  if h : c.val.isValidChar then some (Char.ofNatAux c.val h) else none

def ofByte (b : UInt8) : CodePoint :=
  ⟨b.toNat, Nat.lt_trans b.toNat_lt (by decide)⟩

@[simp] theorem toChar?_ofChar (c : Char) : (ofChar c).toChar? = some c := by
  have h : (ofChar c).val.isValidChar := c.valid
  rw [toChar?, dif_pos h]
  exact congrArg some (Char.ext rfl)

end CodePoint

def wide (t : Text) : WideText := t.map .ofChar

def wideOf (s : String) : WideText := wide s.toList

def narrow? (w : WideText) : Option Text := w.mapM CodePoint.toChar?

@[simp] theorem narrow?_wide (t : Text) : narrow? (wide t) = some t := by
  induction t with
  | nil => rfl
  | cons c t ih =>
    simp only [narrow?, wide] at ih
    simp [narrow?, wide, ih]

def decimal (n : Nat) : Text := (Nat.toDigits 10 n)

def decimalInt : Int → Text
  | .ofNat n => decimal n
  | .negSucc n => '-' :: decimal (n + 1)

def hexDigit (n : Nat) : Char :=
  if n < 10 then Char.ofNat (48 + n) else Char.ofNat (87 + n)

def hexPadded : (width : Nat) → Nat → Text
  | 0, _ => []
  | w + 1, n => hexPadded w (n / 16) ++ [hexDigit (n % 16)]

def lowerAscii (t : Text) : Text := t.map Char.toLower

def splitWhere {α : Type} (isSeparator : α → Bool) : List α → List (List α)
  | [] => [[]]
  | c :: rest =>
    if isSeparator c then [] :: splitWhere isSeparator rest
    else match splitWhere isSeparator rest with
      | [] => [[c]]
      | piece :: pieces => (c :: piece) :: pieces

def cutAt? {α : Type} (isSeparator : α → Bool) : List α → Option (List α × List α)
  | [] => none
  | c :: rest =>
    if isSeparator c then some ([], rest)
    else (cutAt? isSeparator rest).map fun p => (c :: p.1, p.2)

def joinWith {α : Type} (separator : List α) : List (List α) → List α
  | [] => []
  | [piece] => piece
  | piece :: pieces => piece ++ separator ++ joinWith separator pieces

def trimBoth {α : Type} (drops : α → Bool) (l : List α) : List α :=
  (((l.dropWhile drops).reverse).dropWhile drops).reverse

end MaskedPath
