import MaskedPath.Text.Basic

namespace MaskedPath

abbrev Bytes := List UInt8

namespace Utf8

def encode (t : Text) : Bytes := t.flatMap String.utf8EncodeChar

inductive Fault
  | invalidStart
  | invalidContinuation
  | unexpectedEnd
deriving DecidableEq, Repr

inductive Front
  | character (c : Char) (more : Nat)
  | illFormed (fault : Fault) (more : Nat)
deriving DecidableEq, Repr

def continuation? (b : UInt8) : Option Nat :=
  if 0x80 ≤ b ∧ b < 0xc0 then some (b.toNat - 0x80) else none

/-- The payload of the second byte, which some first bytes restrict further. -/
def second? (first b : UInt8) : Option Nat :=
  if (first = 0xe0 ∧ b < 0xa0) ∨ (first = 0xed ∧ 0xa0 ≤ b) ∨ (first = 0xf0 ∧ b < 0x90) ∨
      (first = 0xf4 ∧ 0x90 ≤ b) then none
  else continuation? b

def front (first : UInt8) (rest : Bytes) : Front :=
  if first < 0x80 then .character (Char.ofNat first.toNat) 0
  else if first < 0xc2 ∨ 0xf5 ≤ first then .illFormed .invalidStart 0
  else match rest with
    | [] => .illFormed .unexpectedEnd 0
    | b₂ :: rest =>
      match second? first b₂ with
      | none => .illFormed .invalidContinuation 0
      | some p₂ =>
        if first < 0xe0 then .character (Char.ofNat ((first.toNat - 0xc0) * 64 + p₂)) 1
        else match rest with
          | [] => .illFormed .unexpectedEnd 1
          | b₃ :: rest =>
            match continuation? b₃ with
            | none => .illFormed .invalidContinuation 1
            | some p₃ =>
              if first < 0xf0 then
                .character (Char.ofNat (((first.toNat - 0xe0) * 64 + p₂) * 64 + p₃)) 2
              else match rest with
                | [] => .illFormed .unexpectedEnd 2
                | b₄ :: _ =>
                  match continuation? b₄ with
                  | none => .illFormed .invalidContinuation 2
                  | some p₄ =>
                    .character
                      (Char.ofNat ((((first.toNat - 0xf0) * 64 + p₂) * 64 + p₃) * 64 + p₄)) 3

structure Error where
  bytes : Bytes
  position : Nat
  fault : Fault
deriving DecidableEq, Repr

def decodeAt (position : Nat) : Bytes → Except Error Text
  | [] => .ok []
  | b :: rest =>
    match front b rest with
    | .character c more =>
      (decodeAt (position + 1 + more) (rest.drop more)).map (c :: ·)
    | .illFormed fault more => .error ⟨b :: rest.take more, position, fault⟩
termination_by bytes => bytes.length
decreasing_by simp only [List.length_drop, List.length_cons]; omega

def decode (bytes : Bytes) : Except Error Text := decodeAt 0 bytes

def replacement : Char := '\uFFFD'

def decodeReplacing : Bytes → Text
  | [] => []
  | b :: rest =>
    match front b rest with
    | .character c more => c :: decodeReplacing (rest.drop more)
    | .illFormed _ more => replacement :: decodeReplacing (rest.drop more)
termination_by bytes => bytes.length
decreasing_by all_goals simp only [List.length_drop, List.length_cons]; omega

end Utf8

end MaskedPath
