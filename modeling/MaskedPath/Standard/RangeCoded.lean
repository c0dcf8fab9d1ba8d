import MaskedPath.Archive.Basic

/-!
# Dictionary compression with a range coder

The text is a sequence of bytes and of matches with what was written before. They are written bit by bit,
each bit in the share of a range that its probability gives; the probabilities follow the bits.
-/

namespace MaskedPath.Standard.RangeCoded

inductive Stop
  | cutShort
  | corrupt

structure Options where
  literalContext : Nat
  literalPosition : Nat
  position : Nat
  dictionary : Nat

/-- The state of decoding. `history` tells bytes and matches apart among the last items, and `recent` has
the last four distances, less one. -/
structure Decoder where
  input : Bytes
  range : UInt32
  code : UInt32
  chances : Array UInt32
  out : Array UInt8
  history : Nat
  recent : List Nat

abbrev Decoding := ExceptT Stop (StateM Decoder)

/-! ## Bits -/

def least : UInt32 := 0x1000000

def normalize : Decoding Unit := do
  if (← get).range < least then
    match (← get).input with
    | [] => throw .cutShort
    | b :: input =>
      modify fun d => { d with input, range := d.range <<< 8, code := d.code <<< 8 ||| b.toUInt32 }

def evens : UInt32 := 1024

/-- Takes a bit with the chance at `place` of being zero, in 2048ths, and lets the chance follow it. -/
def Decoder.take (place : Nat) (d : Decoder) : Bool × Decoder :=
  let chance := d.chances.getD place evens
  let bound := (d.range >>> 11) * chance
  if d.code < bound then
    let raised := chance + ((2048 - chance) >>> 5)
    (false, { d with range := bound, chances := d.chances.setIfInBounds place raised })
  else
    let lowered := chance - (chance >>> 5)
    (true, { d with
      range := d.range - bound, code := d.code - bound
      chances := d.chances.setIfInBounds place lowered })

def bit (place : Nat) : Decoding Bool := do
  normalize
  modifyGet (·.take place)

/-- A number whose bits are as likely to be zero as one. -/
def evenBits : (count : Nat) → (value : Nat) → Decoding Nat
  | 0, value => return value
  | count + 1, value => do
    normalize
    let half := (← get).range >>> 1
    let rest := (← get).code - half
    let isOne : Bool := rest &&& 0x80000000 = 0
    modify fun d => { d with range := half, code := if isOne then rest else d.code }
    evenBits count (2 * value + isOne.toNat)

/-- The leaf of a tree of chances that the bits from `node` down lead to. -/
def descend (tree : Nat) : (depth : Nat) → (node : Nat) → Decoding Nat
  | 0, node => return node
  | depth + 1, node => do
    let b ← bit (tree + node)
    descend tree depth (2 * node + b.toNat)

def number (tree depth : Nat) : Decoding Nat := return (← descend tree depth 1) - Nat.pow 2 depth

/-- A number whose lowest bit comes first. -/
def reversed (tree : Nat) : (depth : Nat) → (node : Nat) → Decoding Nat
  | 0, _ => return 0
  | depth + 1, node => do
    let b ← bit (tree + node)
    return b.toNat + 2 * (← reversed tree depth (2 * node + b.toNat))

/-! ## The places of chances -/

def isMatchAt (history position : Nat) : Nat := 16 * history + position

def isRepeatAt (history : Nat) : Nat := 192 + history

def isOlderAt (age history : Nat) : Nat := 204 + 12 * age + history

def isLongAt (history position : Nat) : Nat := 240 + 16 * history + position

def slotTree (length : Nat) : Nat := 432 + 64 * min (length - 2) 3

def lowTree : Nat := 688

def alignTree : Nat := 816

def matchLengths : Nat := 832

def repeatLengths : Nat := 1346

def literalTree (o : Options) (position : Nat) (previous : UInt8) : Nat :=
  let low := position % Nat.pow 2 o.literalPosition
  let high := previous.toNat / Nat.pow 2 (8 - o.literalContext)
  1860 + 768 * (Nat.pow 2 o.literalContext * low + high)

def chancesOf (o : Options) : Array UInt32 :=
  .replicate (1860 + 768 * Nat.pow 2 (o.literalContext + o.literalPosition)) evens

/-! ## Items -/

def endDistance : Nat := 0xffffffff

def afterLiteral (history : Nat) : Nat :=
  if history < 4 then 0 else if history < 10 then history - 3 else history - 6

def afterMatch (history ofLiteral ofMatch : Nat) : Nat := if history < 7 then ofLiteral else ofMatch

def Decoder.back (d : Decoder) (distance : Nat) : UInt8 := d.out.getD (d.out.size - 1 - distance) 0

def Decoder.push (d : Decoder) (b : UInt8) : Decoder := { d with out := d.out.push b }

/-- A byte of which `expected`, the bits of the byte at the last distance, are the likely ones, the highest
first. -/
def expectedLiteral (tree : Nat) : (expected : List Bool) → (node : Nat) → Decoding Nat
  | [], node => return node
  | e :: expected, node => do
    let b ← bit (tree + 256 * (1 + e.toNat) + node)
    let node := 2 * node + b.toNat
    if b = e then expectedLiteral tree expected node else descend tree expected.length node

def literal (o : Options) : Decoding Unit := do
  let d ← get
  let tree := literalTree o d.out.size (if d.out.isEmpty then 0 else d.back 0)
  let node ←
    if d.history < 7 then descend tree 8 1
    else
      expectedLiteral tree (Inflate.bitsOfByte (d.back (d.recent.headD 0))).reverse 1
  modify fun d => { d.push (node - 256).toUInt8 with history := afterLiteral d.history }

def readLength (lengths position : Nat) : Decoding Nat := do
  if !(← bit lengths) then return 2 + (← number (lengths + 2 + 8 * position) 3)
  if !(← bit (lengths + 1)) then return 10 + (← number (lengths + 130 + 8 * position) 3)
  return 18 + (← number (lengths + 258) 8)

def readDistance (length : Nat) : Decoding Nat := do
  let slot ← number (slotTree length) 6
  if slot < 4 then return slot
  let bits := slot / 2 - 1
  let high := 2 + slot % 2
  if slot < 14 then
    let base := high * Nat.pow 2 bits
    return base + (← reversed (lowTree + base - slot) bits 1)
  let high ← evenBits (bits - 4) high
  return 16 * high + (← reversed alignTree 4 1)

def copy (o : Options) (length : Nat) : Decoding Unit := do
  let d ← get
  let distance := d.recent.headD 0
  if min d.out.size o.dictionary ≤ distance then throw .corrupt
  modify fun d => { d with out := Inflate.copyBack d.out (distance + 1) length }

def setRecent (recent : List Nat) (history : Nat) : Decoding Unit :=
  modify fun d => { d with recent, history }

/-- How many of the last distances are passed over for the one that is repeated. -/
def readAge (history : Nat) : Decoding Nat := do
  if !(← bit (isOlderAt 1 history)) then return 1
  if !(← bit (isOlderAt 2 history)) then return 2
  return 3

def repeated (o : Options) (position : Nat) : Decoding Unit := do
  let d ← get
  if d.out.isEmpty then throw .corrupt
  let history := d.history
  if ← bit (isOlderAt 0 history) then
    let age ← readAge history
    setRecent (d.recent.getD age 0 :: d.recent.eraseIdx age) (afterMatch history 8 11)
    copy o (← readLength repeatLengths position)
  else if ← bit (isLongAt history position) then
    setRecent d.recent (afterMatch history 8 11)
    copy o (← readLength repeatLengths position)
  else
    setRecent d.recent (afterMatch history 9 11)
    copy o 1

/-- The next item, and whether it is the mark of the end. -/
def item (o : Options) : Decoding Bool := do
  let d ← get
  let position := d.out.size % Nat.pow 2 o.position
  if !(← bit (isMatchAt d.history position)) then
    literal o
    return false
  if ← bit (isRepeatAt d.history) then
    repeated o position
    return false
  let length ← readLength matchLengths position
  let distance ← readDistance length
  setRecent (distance :: d.recent.take 3) (afterMatch d.history 7 10)
  if distance = endDistance then
    normalize
    if (← get).code ≠ 0 then throw .corrupt
    return true
  copy o length
  return false

def items (o : Options) : (most : Nat) → Decoding Unit
  | 0 => throw .cutShort
  | most + 1 => do
    unless ← item o do items o most

/-! ## Streams -/

/-- The range coder starts with five bytes, the first of which is zero. -/
def start (o : Options) : Bytes → Except Stop Decoder
  | [] => .error .cutShort
  | first :: input =>
    if first ≠ 0 then .error .corrupt
    else if input.length < 4 then .error .cutShort
    else
      let code := (input.take 4).foldl (fun (code : UInt32) b => code <<< 8 ||| b.toUInt32) 0
      .ok ⟨input.drop 4, 0xffffffff, code, chancesOf o, #[], 0, [0, 0, 0, 0]⟩

/-- A bit takes more than a fiftieth of a bit of the input. -/
def itemsPerByte : Nat := 400

def expand (o : Options) (data : Bytes) : Option (Bytes × Bool) :=
  match start o data with
  | .error .cutShort => some ([], false)
  | .error .corrupt => none
  | .ok d =>
    match (items o (itemsPerByte * (data.length + 1))).run d with
    | (.ok _, d) => some (d.out.toList, true)
    | (.error .cutShort, d) => some (d.out.toList, false)
    | (.error .corrupt, _) => none

def leastDictionary : Nat := 4096

def options? : Bytes → Option Options
  | [] => none
  | b :: size =>
    let n := b.toNat
    let o : Options := {
      literalContext := n % 9
      literalPosition := n / 9 % 5
      position := n / 45
      dictionary := (max (Archive.number size) leastDictionary + 15) / 16 * 16 }
    if 224 < n ∨ 4 < o.literalContext + o.literalPosition ∨ size.length ≠ 4 then none else some o

end MaskedPath.Standard.RangeCoded
