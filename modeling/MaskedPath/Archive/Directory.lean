import MaskedPath.Archive.Basic
import MaskedPath.Archive.NameEncoding

/-!
# The directory of an archive

The record at the end of the file, perhaps with a comment after it, says how long the directory
before it is. Offsets count from where the archive begins, which need not be where the file does. A
record for wide archives may stand in for the numbers that do not fit.
-/

namespace MaskedPath.Archive

/-! ## The end of the directory -/

structure EndRecord where
  size : Nat
  offset : Nat
  finish : Int
deriving DecidableEq, Repr

def endMark : Bytes := [0x50, 0x4b, 0x05, 0x06]

def endLength : Nat := 22

def locatorMark : Bytes := [0x50, 0x4b, 0x06, 0x07]

def locatorLength : Nat := 20

def wideMark : Bytes := [0x50, 0x4b, 0x06, 0x06]

def wideLength : Nat := 56

def commentMax : Nat := 65536

def lastMark (mark : Bytes) (place : Nat) (best : Option Nat) : Bytes → Option Nat
  | [] => best
  | b :: rest =>
    lastMark mark (place + 1) (if mark.isPrefixOf (b :: rest) then some place else best) rest

/-- The place of the end record: at the very end without a comment, or where its mark stands last in
what may be the comment. -/
def endPlace? (bytes : Bytes) : Option Nat :=
  let length := bytes.length
  if length < endLength then none
  else
    let bare := bytes.drop (length - endLength)
    if endMark.isPrefixOf bare && field bare 20 2 = 0 then some (length - endLength)
    else
      let from_ := length - (commentMax + endLength)
      match lastMark endMark from_ none (bytes.drop from_) with
      | some place => if place + endLength ≤ length then some place else none
      | none => none

def endRecord (bytes : Bytes) : Except Error EndRecord :=
  match endPlace? bytes with
  | none => .error .notAnArchive
  | some place =>
    let record := slice bytes place endLength
    let plain : EndRecord := ⟨field record 12 4, field record 16 4, place⟩
    if place < locatorLength then .ok plain
    else
      let locator := slice bytes (place - locatorLength) locatorLength
      if !locatorMark.isPrefixOf locator then .ok plain
      else if field locator 4 4 ≠ 0 ∨ 1 < field locator 16 4 then .error .spansDisks
      else if place < locatorLength + wideLength then .error .notAnArchive
      else
        let widePlace := place - locatorLength - wideLength
        let record := slice bytes widePlace wideLength
        if wideMark.isPrefixOf record then
          .ok ⟨field record 40 8, field record 48 8, widePlace⟩
        else .ok plain

/-! ## The entries -/

def entryMark : Bytes := [0x50, 0x4b, 0x01, 0x02]

def entryLength : Nat := 46

def newestVersion : Nat := 63

def utf8Flag : Nat := 11

structure WideNumbers where
  size : Nat
  packedSize : Nat
  offset : Nat
deriving DecidableEq, Repr

def wideSign : Nat := 0xffffffff

def wideSign64 : Nat := 0xffffffffffffffff

def takeWide (name : String) (isSign : Bool) (n : Nat) (data : Bytes) :
    Except Error (Nat × Bytes) :=
  if !isSign then .ok (n, data)
  else if data.length < 8 then .error (.missingWideField name)
  else .ok (field data 0 8, data.drop 8)

def applyWide (n : WideNumbers) (data : Bytes) : Except Error WideNumbers := do
  let (size, data) ←
    takeWide "File size" (n.size = wideSign ∨ n.size = wideSign64) n.size data
  let (packedSize, data) ←
    takeWide "Compress size" (n.packedSize = wideSign) n.packedSize data
  let (offset, _) ← takeWide "Header offset" (n.offset = wideSign) n.offset data
  return ⟨size, packedSize, offset⟩

def applyExtra (n : WideNumbers) (extra : Bytes) : Except Error WideNumbers :=
  if extra.length < 4 then .ok n
  else
    let tag := field extra 0 2
    let size := field extra 2 2
    if extra.length < size + 4 then .error (.corruptExtra tag size)
    else do
      let n ← if tag = 1 then applyWide n (slice extra 4 size) else pure n
      applyExtra n (extra.drop (size + 4))
termination_by extra.length
decreasing_by simp only [List.length_drop]; omega

def entryMember (shift : Int) (entry name extra : Bytes) : Except Error Member := do
  let flags := field entry 8 2
  let name ← (decodeName (flags.testBit utf8Flag) name).mapError .badName
  let version := field entry 6 1
  if newestVersion < version then throw (.newerVersion version)
  let n ← applyExtra ⟨field entry 24 4, field entry 20 4, field entry 42 4⟩ extra
  return {
    rawName := name
    flags := flags
    method := field entry 10 2
    checksum := (field entry 16 4).toUInt32
    packedSize := n.packedSize
    size := n.size
    attributes := field entry 38 4
    headerOffset := n.offset + shift
    limit := 0 }

def readEntries (shift : Int) (size taken : Nat) (data : Bytes) : Except Error (List Member) :=
  if size ≤ taken then .ok []
  else if data.length < entryLength then .error .truncatedDirectory
  else if !entryMark.isPrefixOf data then .error .badDirectoryMagic
  else do
    let nameLength := field data 28 2
    let extraLength := field data 30 2
    let commentLength := field data 32 2
    let name := slice data entryLength nameLength
    let extra := slice data (entryLength + nameLength) extraLength
    let member ← entryMember shift data name extra
    let length := entryLength + nameLength + extraLength + commentLength
    let members ← readEntries shift size (taken + length) (data.drop length)
    return member :: members
termination_by data.length
decreasing_by simp [entryLength] at *; omega

/-- The members with their limits: data ends before the header of the next member, or before the
directory, which starts at `start`. -/
def limited (start : Int) (members : List Member) : List Member :=
  let order := members.zipIdx.mergeSort fun a b => b.1.headerOffset ≤ a.1.headerOffset
  let limits := (order.map (·.2)).zip (start :: order.map (·.1.headerOffset))
  members.zipIdx.map fun (m, k) => { m with limit := (limits.lookup k).getD start }

def parse (bytes : Bytes) : Except Error Archive := do
  let record ← endRecord bytes
  let start := record.finish - record.size
  if start < 0 then throw .badDirectoryOffset
  let shift := start - record.offset
  let members ← readEntries shift record.size 0 (slice bytes start.toNat record.size)
  return ⟨bytes, limited start members⟩

end MaskedPath.Archive
