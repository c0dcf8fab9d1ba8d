import MaskedPath.Archive.Huffman
import MaskedPath.Text.Utf8

namespace MaskedPath.Inflate

open Huffman

inductive Error
  | badBlockType
  | badStoredLength
  | tooManyCodes
  | badLengthCode
  | badRepeat
  | noEndOfBlock
  | badLiteralCode
  | badDistanceCode
  | unknownLiteral
  | unknownDistance
  | tooFarBack
deriving DecidableEq, Repr

def Error.text : Error → String
  | .badBlockType => "invalid block type"
  | .badStoredLength => "invalid stored block lengths"
  | .tooManyCodes => "too many length or distance symbols"
  | .badLengthCode => "invalid code lengths set"
  | .badRepeat => "invalid bit length repeat"
  | .noEndOfBlock => "invalid code -- missing end-of-block"
  | .badLiteralCode => "invalid literal/lengths set"
  | .badDistanceCode => "invalid distances set"
  | .unknownLiteral => "invalid literal/length code"
  | .unknownDistance => "invalid distance code"
  | .tooFarBack => "invalid distance too far back"

/-! ## Reading bits -/

inductive Read (α : Type) (bits : List Bool)
  | value (a : α) (rest : List Bool) (le : rest.length ≤ bits.length)
  | cutShort
  | corrupt (e : Error)

namespace Read

variable {α β : Type} {bits : List Bool}

def andThen (r : Read α bits) (next : α → (rest : List Bool) → Read β rest) : Read β bits :=
  match r with
  | .value a rest le =>
    match next a rest with
    | .value b rest' le' => .value b rest' (Nat.le_trans le' le)
    | .cutShort => .cutShort
    | .corrupt e => .corrupt e
  | .cutShort => .cutShort
  | .corrupt e => .corrupt e

def done (a : α) (bits : List Bool) : Read α bits := .value a bits (Nat.le_refl _)

def number : (count : Nat) → (bits : List Bool) → Read Nat bits
  | 0, bits => done 0 bits
  | _ + 1, [] => .cutShort
  | count + 1, bit :: bits =>
    match number count bits with
    | .value n rest le => .value (bit.toNat + 2 * n) rest (Nat.le_succ_of_le le)
    | .cutShort => .cutShort
    | .corrupt e => .corrupt e

def word (unknown : Error) : (tree : Tree) → (bits : List Bool) → Read Nat bits
  | .empty, _ => .corrupt unknown
  | .leaf s, bits => done s bits
  | .node _ _, [] => .cutShort
  | .node zero one, bit :: bits =>
    match if bit then word unknown one bits else word unknown zero bits with
    | .value s rest le => .value s rest (Nat.le_succ_of_le le)
    | .cutShort => .cutShort
    | .corrupt e => .corrupt e

end Read

def bitsOfByte (b : UInt8) : List Bool := (List.range 8).map fun k => b.toNat.testBit k

/-! ## Codes -/

def fixedLiterals : Code :=
  .ofLengths (.replicate 144 8 ++ .replicate 112 9 ++ .replicate 24 7 ++ .replicate 8 8)

def fixedDistances : Code := .ofLengths (.replicate 32 5)

def lengthBases : List (Nat × Nat) := [
  (3, 0), (4, 0), (5, 0), (6, 0), (7, 0), (8, 0), (9, 0), (10, 0), (11, 1), (13, 1), (15, 1), (17, 1),
  (19, 2), (23, 2), (27, 2), (31, 2), (35, 3), (43, 3), (51, 3), (59, 3), (67, 4), (83, 4), (99, 4),
  (115, 4), (131, 5), (163, 5), (195, 5), (227, 5), (258, 0)]

def distanceBases : List (Nat × Nat) := [
  (1, 0), (2, 0), (3, 0), (4, 0), (5, 1), (7, 1), (9, 2), (13, 2), (17, 3), (25, 3), (33, 4), (49, 4),
  (65, 5), (97, 5), (129, 6), (193, 6), (257, 7), (385, 7), (513, 8), (769, 8), (1025, 9), (1537, 9),
  (2049, 10), (3073, 10), (4097, 11), (6145, 11), (8193, 12), (12289, 12), (16385, 13), (24577, 13)]

def lengthOrder : List Nat := [16, 17, 18, 0, 8, 7, 9, 6, 10, 5, 11, 4, 12, 3, 13, 2, 14, 1, 15]

def isUsable (lengths : List Nat) : Bool :=
  match filling lengths with
  | .exact => true
  | .oversubscribed => false
  | .incomplete => lengths.all (· ≤ 1)

def readSymbol (unknown : Error) (code : Code) : (bits : List Bool) → Read Nat bits
  | [] => .cutShort
  | bit :: bits =>
    match Read.word unknown (code.branch bit) bits with
    | .value s rest le => .value s rest (Nat.le_succ_of_le le)
    | .cutShort => .cutShort
    | .corrupt e => .corrupt e

def readRepeat (symbol : Nat) (bits : List Bool) : Read Nat bits :=
  if symbol < 16 then .done 1 bits
  else if symbol = 16 then (Read.number 2 bits).andThen fun n rest => .done (3 + n) rest
  else if symbol = 17 then (Read.number 3 bits).andThen fun n rest => .done (3 + n) rest
  else (Read.number 7 bits).andThen fun n rest => .done (11 + n) rest

def readLengths (code : Code) (total : Nat) (done : List Nat) :
    (bits : List Bool) → Read (List Nat) bits
  | [] => if total ≤ done.length then .done done.reverse [] else .cutShort
  | bit :: bits =>
    if total ≤ done.length then .done done.reverse (bit :: bits)
    else match Read.word .badLengthCode (code.branch bit) bits with
      | .cutShort => .cutShort
      | .corrupt e => .corrupt e
      | .value symbol afterSymbol le =>
        match readRepeat symbol afterSymbol with
        | .cutShort => .cutShort
        | .corrupt e => .corrupt e
        | .value times rest le' =>
          have shorter : rest.length < (bit :: bits).length := by simp; omega
          let length? :=
            if symbol < 16 then some symbol else if symbol = 16 then done.head? else some 0
          match length? with
          | none => .corrupt .badRepeat
          | some length =>
            if total < done.length + times then .corrupt .badRepeat
            else match readLengths code total (.replicate times length ++ done) rest with
              | .value a rest' le'' => .value a rest' (by omega)
              | .cutShort => .cutShort
              | .corrupt e => .corrupt e
termination_by bits => bits.length
decreasing_by exact shorter

def orderedLengths (given : List Nat) : List Nat :=
  (List.range 19).map fun symbol => ((lengthOrder.zip given).lookup symbol).getD 0

def readGiven : (count : Nat) → (bits : List Bool) → Read (List Nat) bits
  | 0, bits => .done [] bits
  | count + 1, bits =>
    (Read.number 3 bits).andThen fun length rest =>
      (readGiven count rest).andThen fun lengths rest => .done (length :: lengths) rest

/-- The code of code lengths; with no word at all every bit stands for zero. -/
def codeOfLengths (lengths : List Nat) : Read Code [] :=
  if lengths.all (· = 0) then .done ⟨.leaf 0, .leaf 0⟩ []
  else if filling lengths = .exact then .done (.ofLengths lengths) []
  else .corrupt .badLengthCode

def codesOf (literals : Nat) (lengths : List Nat) (rest : List Bool) :
    Read (Code × Code) rest :=
  let literalLengths := lengths.take literals
  let distanceLengths := lengths.drop literals
  if literalLengths[256]? = some 0 then .corrupt .noEndOfBlock
  else if !isUsable literalLengths then .corrupt .badLiteralCode
  else if !isUsable distanceLengths then .corrupt .badDistanceCode
  else .done (.ofLengths literalLengths, .ofLengths distanceLengths) rest

def readCodes (bits : List Bool) : Read (Code × Code) bits :=
  (Read.number 5 bits).andThen fun hlit rest =>
    (Read.number 5 rest).andThen fun hdist rest =>
      (Read.number 4 rest).andThen fun hclen rest =>
        if 286 < hlit + 257 ∨ 30 < hdist + 1 then .corrupt .tooManyCodes
        else (readGiven (hclen + 4) rest).andThen fun given rest =>
          match codeOfLengths (orderedLengths given) with
          | .corrupt e => .corrupt e
          | .cutShort => .cutShort
          | .value code _ _ =>
            (readLengths code (hlit + 257 + hdist + 1) [] rest).andThen fun lengths rest =>
              codesOf (hlit + 257) lengths rest

/-! ## Blocks -/

def readMatch (distances : Code) (symbol : Nat) (bits : List Bool) : Read (Nat × Nat) bits :=
  match lengthBases[symbol - 257]? with
  | none => .corrupt .unknownLiteral
  | some (least, more) =>
    (Read.number more bits).andThen fun n rest =>
      (readSymbol .unknownDistance distances rest).andThen fun d rest =>
        match distanceBases[d]? with
        | none => .corrupt .unknownDistance
        | some (nearest, more) =>
          (Read.number more rest).andThen fun k rest => .done (least + n, nearest + k) rest

inductive Item
  | literal (b : UInt8)
  | endOfBlock
  | copy (length distance : Nat)

def endSymbol : Nat := 256

def readItem (distances : Code) (symbol : Nat) (bits : List Bool) : Read Item bits :=
  if symbol < endSymbol then .done (.literal symbol.toUInt8) bits
  else if symbol = endSymbol then .done .endOfBlock bits
  else (readMatch distances symbol bits).andThen fun (length, distance) rest =>
    .done (.copy length distance) rest

def copyBack (out : Array UInt8) (distance : Nat) : (count : Nat) → Array UInt8
  | 0 => out
  | count + 1 => copyBack (out.push (out.getD (out.size - distance) 0)) distance count

inductive Part (bits : List Bool)
  | ended (out : Array UInt8) (rest : List Bool) (le : rest.length ≤ bits.length)
  | cutShort (out : Array UInt8)
  | corrupt (e : Error)

def Part.widen {few many : List Bool} (h : few.length ≤ many.length) : Part few → Part many
  | .ended out rest le => .ended out rest (Nat.le_trans le h)
  | .cutShort out => .cutShort out
  | .corrupt e => .corrupt e

def expandSymbols (literals distances : Code) (out : Array UInt8) : (bits : List Bool) → Part bits
  | [] => .cutShort out
  | bit :: bits =>
    match (Read.word .unknownLiteral (literals.branch bit) bits).andThen (readItem distances) with
    | .cutShort => .cutShort out
    | .corrupt e => .corrupt e
    | .value item rest le =>
      have shorter : rest.length < (bit :: bits).length := Nat.lt_succ_of_le le
      match item with
      | .literal b =>
        (expandSymbols literals distances (out.push b) rest).widen (Nat.le_of_lt shorter)
      | .endOfBlock => .ended out rest (Nat.le_of_lt shorter)
      | .copy length distance =>
        if out.size < distance then .corrupt .tooFarBack
        else (expandSymbols literals distances (copyBack out distance length) rest).widen
          (Nat.le_of_lt shorter)
termination_by bits => bits.length
decreasing_by all_goals exact shorter

def byteOfBits (bits : List Bool) : UInt8 :=
  (bits.foldr (fun (bit : Bool) n => bit.toNat + 2 * n) 0).toUInt8

def copyStored (out : Array UInt8) : (count : Nat) → (bits : List Bool) → Part bits
  | 0, bits => .ended out bits (Nat.le_refl _)
  | count + 1, bits =>
    if bits.length < 8 then .cutShort out
    else (copyStored (out.push (byteOfBits (bits.take 8))) count (bits.drop 8)).widen (by simp)

def expandStored (out : Array UInt8) (bits : List Bool) : Part bits :=
  let aligned := bits.drop (bits.length % 8)
  have h : aligned.length ≤ bits.length := by simp [aligned]
  match (Read.number 16 aligned).andThen fun length rest =>
      (Read.number 16 rest).andThen fun complement rest => .done (length, complement) rest with
  | .cutShort => .cutShort out
  | .corrupt e => .corrupt e
  | .value (length, complement) rest le =>
    if length + complement ≠ 0xffff then .corrupt .badStoredLength
    else (copyStored out length rest).widen (by omega)

def expandBlock (out : Array UInt8) (high low : Bool) (bits : List Bool) : Part bits :=
  match high, low with
  | false, false => expandStored out bits
  | false, true => expandSymbols fixedLiterals fixedDistances out bits
  | true, false =>
    match readCodes bits with
    | .cutShort => .cutShort out
    | .corrupt e => .corrupt e
    | .value (literals, distances) rest le => (expandSymbols literals distances out rest).widen le
  | true, true => .corrupt .badBlockType

inductive Expansion
  | complete (out : Bytes)
  | cutShort (out : Bytes)
  | corrupt (e : Error)
deriving DecidableEq, Repr

def expandBlocks (out : Array UInt8) : List Bool → Expansion
  | last :: low :: high :: bits =>
    match expandBlock out high low bits with
    | .cutShort out => .cutShort out.toList
    | .corrupt e => .corrupt e
    | .ended out rest _ => if last then .complete out.toList else expandBlocks out rest
  | _ => .cutShort out.toList
termination_by bits => bits.length
decreasing_by simp only [List.length_cons]; omega

def expand (data : Bytes) : Expansion := expandBlocks #[] (data.flatMap bitsOfByte)

end MaskedPath.Inflate
