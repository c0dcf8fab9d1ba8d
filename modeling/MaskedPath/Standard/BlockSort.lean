import MaskedPath.Archive.Inflate

/-!
# Block sorting

A stream has a size for its blocks, blocks, and a check sum at its end. A block is the last column of the
sorted rotations of its text, in which runs of four are counted; the column is written as places in a list
of bytes that moves each byte it gives to its front, and these places in codes that take turns.
-/

namespace MaskedPath.Standard.BlockSort

inductive Stop
  | cutShort
  | corrupt

abbrev Reader := StateT (List Bool) (Except Stop)

def fail {α : Type} : Reader α := throw .corrupt

def bit : Reader Bool
  | [] => .error .cutShort
  | b :: bits => .ok (b, bits)

def number : (count : Nat) → Reader Nat
  | 0 => return 0
  | count + 1 => do
    let high ← bit
    return high.toNat * Nat.pow 2 count + (← number count)

def expect (mark : List Nat) : Reader Unit :=
  mark.forM fun b => do if (← number 8) ≠ b then fail

def moveToFront {α : Type} (l : List α) (place : Nat) : List α :=
  match l[place]? with
  | some a => a :: l.eraseIdx place
  | none => l

/-! ## Codes -/

def longestWord : Nat := 20

/-- A canonical code: how many words it has of each length, and its symbols, those of shorter words
first. -/
structure Code where
  counts : List Nat
  symbols : Array Nat

def Code.ofLengths (lengths : List Nat) : Code where
  counts := (List.range longestWord).map fun k => lengths.count (k + 1)
  symbols := ((List.range lengths.length).mergeSort fun i j =>
    lengths.getD i 0 ≤ lengths.getD j 0).toArray

def readWord (symbols : Array Nat) : (counts : List Nat) → (word first skipped : Nat) → Reader Nat
  | [], _, _, _ => do
    let _ ← bit
    fail
  | count :: counts, word, first, skipped => do
    let word := 2 * word + (← bit).toNat
    if word < first + count then return symbols.getD (skipped + (word - first)) 0
    readWord symbols counts word (2 * (first + count)) (skipped + count)

def Code.read (c : Code) : Reader Nat := readWord c.symbols c.counts 0 0 0

/-- The length of the next word: two bits for each step up or down. -/
def readLength : (length : Nat) → Reader Nat
  | length, bits =>
    if length < 1 ∨ longestWord < length then .error .corrupt
    else match bits with
      | false :: bits => .ok (length, bits)
      | true :: isDown :: bits => readLength (if isDown then length - 1 else length + 1) bits
      | _ => .error .cutShort
termination_by _ bits => bits.length

def readLengths : (count : Nat) → (length : Nat) → Reader (List Nat)
  | 0, _ => return []
  | count + 1, length => do
    let length ← readLength length
    return length :: (← readLengths count length)

def readCodes (symbols : Nat) : (count : Nat) → Reader (List Code)
  | 0 => return []
  | count + 1 => do
    let lengths ← readLengths symbols (← number 5)
    return .ofLengths lengths :: (← readCodes symbols count)

/-- The number of ones ahead of a zero, of which there are fewer than `bound`. -/
def readOnes : (bound : Nat) → Reader Nat
  | 0 => fail
  | bound + 1 => do
    if ← bit then return (← readOnes bound) + 1
    return 0

def readSelectors (codes : Nat) : (count : Nat) → Reader (List Nat)
  | 0 => return []
  | count + 1 => do
    let place ← readOnes codes
    return place :: (← readSelectors codes count)

/-- More selectors than a block can have symbols for do not count. -/
def mostSelectors : Nat := 18002

def selected (codes : List Code) : (places : List Nat) → List Code
  | [] => []
  | place :: places =>
    let codes := moveToFront codes place
    codes.head?.toList ++ selected codes places

/-! ## Columns -/

/-- A column as far as it is read, the list of bytes, and the run of its first byte that is being read:
its length, and what the next digit of the length counts. -/
structure Column where
  bytes : Array UInt8
  recent : List UInt8
  run : Nat
  weight : Nat

def weightBound : Nat := Nat.pow 2 21

def Column.closeRun (c : Column) (most : Nat) : Reader Column := do
  if most < c.bytes.size + c.run then fail
  let first := c.recent.headD 0
  return { c with bytes := c.bytes ++ Array.replicate c.run first, run := 0, weight := 1 }

/-- The column after a symbol, and whether the symbol ends it. -/
def Column.add (c : Column) (most last symbol : Nat) : Reader (Column × Bool) := do
  if symbol < 2 then
    if weightBound ≤ c.weight then fail
    return ({ c with run := c.run + (symbol + 1) * c.weight, weight := 2 * c.weight }, false)
  let c ← c.closeRun most
  if symbol = last then return (c, true)
  if most ≤ c.bytes.size then fail
  let recent := moveToFront c.recent (symbol - 1)
  return ({ c with bytes := c.bytes.push (recent.headD 0), recent }, false)

def groupSize : Nat := 50

def readGroup (code : Code) (most last : Nat) : (count : Nat) → Column → Reader (Column × Bool)
  | 0, c => return (c, false)
  | count + 1, c => do
    let (c, isEnded) ← c.add most last (← code.read)
    if isEnded then return (c, true)
    readGroup code most last count c

def readGroups (most last : Nat) : (codes : List Code) → Column → Reader (Array UInt8)
  | [], _ => fail
  | code :: codes, c => do
    let (c, isEnded) ← readGroup code most last groupSize c
    if isEnded then return c.bytes
    readGroups most last codes c

/-! ## Texts -/

def follow (column : Array UInt8) (order : Array Nat) (place : Nat) (text : Array UInt8) :
    (count : Nat) → Array UInt8
  | 0 => text
  | count + 1 => follow column order (order.getD place 0) (text.push (column.getD place 0)) count

/-- The text whose rotations, sorted, have this last column; the text itself is at `origin`. -/
def unsort (column : Array UInt8) (origin : Nat) : Array UInt8 :=
  let order := ((List.range column.size).mergeSort fun i j =>
    column.getD i 0 ≤ column.getD j 0).toArray
  follow column order (order.getD origin 0) #[] column.size

/-- The distances between the bytes of a scrambled block that have their lowest bit changed. -/
def scrambling : Array Nat := #[
  619, 720, 127, 481, 931, 816, 813, 233, 566, 247, 985, 724, 205, 454, 863, 491, 741, 242, 949, 214,
  733, 859, 335, 708, 621, 574, 73, 654, 730, 472, 419, 436, 278, 496, 867, 210, 399, 680, 480, 51,
  878, 465, 811, 169, 869, 675, 611, 697, 867, 561, 862, 687, 507, 283, 482, 129, 807, 591, 733, 623,
  150, 238, 59, 379, 684, 877, 625, 169, 643, 105, 170, 607, 520, 932, 727, 476, 693, 425, 174, 647,
  73, 122, 335, 530, 442, 853, 695, 249, 445, 515, 909, 545, 703, 919, 874, 474, 882, 500, 594, 612,
  641, 801, 220, 162, 819, 984, 589, 513, 495, 799, 161, 604, 958, 533, 221, 400, 386, 867, 600, 782,
  382, 596, 414, 171, 516, 375, 682, 485, 911, 276, 98, 553, 163, 354, 666, 933, 424, 341, 533, 870,
  227, 730, 475, 186, 263, 647, 537, 686, 600, 224, 469, 68, 770, 919, 190, 373, 294, 822, 808, 206,
  184, 943, 795, 384, 383, 461, 404, 758, 839, 887, 715, 67, 618, 276, 204, 918, 873, 777, 604, 560,
  951, 160, 578, 722, 79, 804, 96, 409, 713, 940, 652, 934, 970, 447, 318, 353, 859, 672, 112, 785,
  645, 863, 803, 350, 139, 93, 354, 99, 820, 908, 609, 772, 154, 274, 580, 184, 79, 626, 630, 742,
  653, 282, 762, 623, 680, 81, 927, 626, 789, 125, 411, 521, 938, 300, 821, 78, 343, 175, 128, 250,
  170, 774, 972, 275, 999, 639, 495, 78, 352, 126, 857, 956, 358, 619, 580, 124, 737, 594, 701, 612,
  669, 112, 134, 694, 363, 992, 809, 743, 168, 974, 944, 375, 748, 52, 600, 747, 642, 182, 862, 81,
  344, 805, 988, 739, 511, 655, 814, 334, 249, 515, 897, 955, 664, 981, 649, 113, 974, 459, 893, 228,
  433, 837, 553, 268, 926, 240, 102, 654, 459, 51, 686, 754, 806, 760, 493, 403, 415, 394, 687, 700,
  946, 670, 656, 610, 738, 392, 760, 799, 887, 653, 978, 321, 576, 617, 626, 502, 894, 679, 243, 440,
  680, 879, 194, 572, 640, 724, 926, 56, 204, 700, 707, 151, 457, 449, 797, 195, 791, 558, 945, 679,
  297, 59, 87, 824, 713, 663, 412, 693, 342, 606, 134, 108, 571, 364, 631, 212, 174, 643, 304, 329,
  343, 97, 430, 751, 497, 314, 983, 374, 822, 928, 140, 206, 73, 263, 980, 736, 876, 478, 430, 305,
  170, 514, 364, 692, 829, 82, 855, 953, 676, 246, 369, 970, 294, 750, 807, 827, 150, 790, 288, 923,
  804, 378, 215, 828, 592, 281, 565, 555, 710, 82, 896, 831, 547, 261, 524, 462, 293, 465, 502, 56,
  661, 821, 976, 991, 658, 869, 905, 758, 745, 193, 768, 550, 608, 933, 378, 286, 215, 979, 792, 961,
  61, 688, 793, 644, 986, 403, 106, 366, 905, 644, 372, 567, 466, 434, 645, 210, 389, 550, 919, 135,
  780, 773, 635, 389, 707, 100, 626, 958, 165, 504, 920, 176, 193, 713, 857, 265, 203, 50, 668, 108,
  645, 990, 626, 197, 510, 357, 358, 850, 858, 364, 936, 638]

structure Scrambler where
  text : Array UInt8
  place : Nat
  left : Nat

def Scrambler.add (s : Scrambler) (b : UInt8) : Scrambler :=
  if s.left = 0 then
    ⟨s.text.push b, s.place + 1, scrambling.getD (s.place % scrambling.size) 0 - 1⟩
  else ⟨s.text.push (if s.left = 2 then b ^^^ 1 else b), s.place, s.left - 1⟩

def unscramble (text : Array UInt8) : Array UInt8 := (text.foldl Scrambler.add ⟨#[], 0, 0⟩).text

/-- Four equal bytes are followed by the number of further ones. -/
def expandRuns (out : Array UInt8) : (text : List UInt8) → Option (Array UInt8)
  | a :: b :: c :: d :: text =>
    if a = b ∧ b = c ∧ c = d then
      match text with
      | [] => none
      | more :: text => expandRuns (out ++ Array.replicate (4 + more.toNat) a) text
    else expandRuns (out.push a) (b :: c :: d :: text)
  | text => some (out ++ text)
termination_by text => text.length

/-! ## Check sums -/

def polynomial : UInt32 := 0x04c11db7

def shiftBit (r : UInt32) : UInt32 :=
  if r &&& 0x80000000 = 0 then r <<< 1 else (r <<< 1) ^^^ polynomial

def addByte (r : UInt32) (b : UInt8) : UInt32 :=
  let r := r ^^^ (b.toUInt32 <<< 24)
  shiftBit (shiftBit (shiftBit (shiftBit (shiftBit (shiftBit (shiftBit (shiftBit r)))))))

def checksum (bytes : Array UInt8) : UInt32 := bytes.foldl addByte 0xffffffff ^^^ 0xffffffff

def combine (sum blockSum : UInt32) : UInt32 := (sum <<< 1 ||| sum >>> 31) ^^^ blockSum

/-! ## Streams -/

def readFlags (first : Nat) : (count : Nat) → Reader (List Nat)
  | 0 => return []
  | count + 1 => do
    let isSet ← bit
    let more ← readFlags (first + 1) count
    return if isSet then first :: more else more

def readColumn (most : Nat) : Reader (Array UInt8) := do
  let used ← (← readFlags 0 16).flatMapM fun k => readFlags (16 * k) 16
  if used = [] then fail
  let codes ← number 3
  if codes < 2 ∨ 6 < codes then fail
  let selectors ← number 15
  if selectors = 0 then fail
  let places ← readSelectors codes selectors
  let codes ← readCodes (used.length + 2) codes
  let start : Column := ⟨#[], used.map Nat.toUInt8, 0, 1⟩
  readGroups most (used.length + 1) (selected codes (places.take mostSelectors)) start

inductive Piece
  | block (text : Array UInt8) (sum : UInt32)
  | ending (sum : UInt32)

def readSum : Reader UInt32 := return (← number 32).toUInt32

def originSlack : Nat := 10

def readBlock (most : Nat) : Reader Piece := do
  let sum ← readSum
  let isScrambled ← bit
  let origin ← number 24
  if most + originSlack < origin then fail
  let column ← readColumn most
  if column.size ≤ origin then fail
  let text := unsort column origin
  match expandRuns #[] (if isScrambled then unscramble text else text).toList with
  | some text => return .block text sum
  | none => fail

def readPiece (most : Nat) : Reader Piece := do
  let first ← number 8
  if first = 0x17 then
    expect [0x72, 0x45, 0x38, 0x50, 0x90]
    return .ending (← readSum)
  if first ≠ 0x31 then fail
  expect [0x41, 0x59, 0x26, 0x53, 0x59]
  readBlock most

def readSize : Reader Nat := do
  expect [0x42, 0x5a, 0x68]
  let digit ← number 8
  if digit < 0x31 ∨ 0x39 < digit then fail
  return 100000 * (digit - 0x30)

/-- The kibibytes that the buffer for the text has at first, and by which it grows. -/
def growth : List Nat := [
  32, 64, 256, 1024, 4096, 8192, 16384, 16384, 32768, 32768, 32768, 32768, 65536, 65536, 131072, 131072]

def roomFor (size : Nat) : (room : Nat) → (growth : List Nat) → Nat
  | room, [] => room
  | room, more :: growth =>
    let room := room + 1024 * more
    if size ≤ room then room else roomFor size room growth

/-- The text from the first piece on, after `out`, and whether the stream ends. Where the data ends with
a block, the buffer grows no more. -/
def expandPieces (most : Nat) (out : Array UInt8) (sum : UInt32) (bits : List Bool) :
    (pieces : Nat) → Option (Bytes × Bool)
  | 0 => some (out.toList, false)
  | pieces + 1 =>
    match readPiece most bits with
    | .error .cutShort => some (out.toList, false)
    | .error .corrupt => none
    | .ok (.ending total, _) => if total = sum then some (out.toList, true) else none
    | .ok (.block text blockSum, rest) =>
      let room := roomFor out.size 0 growth
      if rest.length < 8 ∧ room < out.size + text.size then
        some ((out ++ text).toList.take room, false)
      else if checksum text ≠ blockSum then none
      else expandPieces most (out ++ text) (combine sum blockSum) rest pieces

def expand (data : Bytes) : Option (Bytes × Bool) :=
  match readSize (data.flatMap fun b => (Inflate.bitsOfByte b).reverse) with
  | .error .cutShort => some ([], false)
  | .error .corrupt => none
  | .ok (most, bits) => expandPieces most #[] 0 bits data.length

end MaskedPath.Standard.BlockSort
