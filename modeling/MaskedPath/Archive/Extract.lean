import MaskedPath.Archive.Directory
import MaskedPath.Archive.Crc32

namespace MaskedPath.Archive

def headerMark : Bytes := [0x50, 0x4b, 0x03, 0x04]

def headerLength : Nat := 30

/-- The offsets that the system can be asked for stay below this one, and not below its negative. -/
def offsetLimit : Int := Nat.pow 2 63

def isInReach (offset : Int) : Bool := -offsetLimit ≤ offset && offset < offsetLimit

def encryptedFlag : Nat := 0

def patchedFlag : Nat := 5

def strongFlag : Nat := 6

def dataPlace (a : Archive) (m : Member) (subject : Text) : Except Error Nat := do
  if !isInReach m.headerOffset then throw .headerOutOfReach
  if m.headerOffset < 0 then throw .badHeaderOffset
  let place := m.headerOffset.toNat
  let header := slice a.bytes place headerLength
  if header.length < headerLength then throw .truncatedHeader
  if !headerMark.isPrefixOf header then throw .badHeaderMagic
  let name := slice a.bytes (place + headerLength) (field header 26 2)
  let extra := slice a.bytes (place + headerLength + name.length) (field header 28 2)
  if m.flags.testBit patchedFlag then throw .patchedData
  if m.flags.testBit strongFlag then throw .strongEncryption
  let decoded ← (decodeName ((field header 6 2).testBit utf8Flag) name).mapError .badName
  if decoded ≠ m.rawName then throw (.nameDiffers m.rawName name)
  let place := place + headerLength + name.length + extra.length
  if m.limit < place + m.packedSize then throw (.overlapping m.rawName)
  if m.flags.testBit encryptedFlag then throw (.encrypted subject)
  return place

section

variable [Runtime]

/-- The content that packed data stands for, and whether the data says that it ends there. -/
def unpack (method : Nat) (packed : Bytes) : Except Error (Bytes × Bool) :=
  match method with
  | 0 => .ok (packed, false)
  | 8 =>
    match Inflate.expand packed with
    | .complete out => .ok (out, true)
    | .cutShort out => .ok (out, false)
    | .corrupt e => .error (.corruptData e)
  | 12 => (Runtime.bzip2 packed).mapError .decompressor
  | 14 => (Runtime.lzma packed).mapError .decompressor
  | _ => .error .unknownMethod

/-- The content of a member; `subject` is what an error says is encrypted. A file that ends before the
member's data does no harm if the content is there. -/
def extract (a : Archive) (m : Member) (subject : Text) : Except Error Bytes := do
  let place ← a.dataPlace m subject
  let packed := slice a.bytes place m.packedSize
  let isShort := packed.length < m.packedSize
  if isShort ∧ packed = [] then throw .cutShort
  let (content, isComplete) ← unpack m.method packed
  if isShort ∧ ¬ isComplete ∧ content.length < m.size then throw .cutShort
  let content := content.take m.size
  if Crc32.ofBytes content ≠ m.checksum then throw (.badChecksum m.name)
  return content

end

/-! ## The description of a member -/

def methodName (method : Nat) : String :=
  match method with
  | 1 => "shrink"
  | 2 | 3 | 4 | 5 => "reduce"
  | 6 | 10 => "implode"
  | 7 => "tokenize"
  | 8 => "deflate"
  | 9 => "deflate64"
  | 12 => "bzip2"
  | 14 => "lzma"
  | 18 => "terse"
  | 19 => "lz77"
  | 97 => "wavpack"
  | 98 => "ppmd"
  | n => toString n

def kindLetter (mode : Nat) : Char :=
  match mode / 0x1000 with
  | 1 => 'p'
  | 2 => 'c'
  | 4 => 'd'
  | 6 => 'b'
  | 8 => '-'
  | 10 => 'l'
  | 12 => 's'
  | _ => '?'

def permissionLetters (bits : Nat) (special : Bool) (withExecute alone : Char) : Text :=
  let execute :=
    if special then (if bits.testBit 0 then withExecute else alone)
    else if bits.testBit 0 then 'x' else '-'
  [if bits.testBit 2 then 'r' else '-', if bits.testBit 1 then 'w' else '-', execute]

def modeLetters (mode : Nat) : Text :=
  kindLetter mode :: permissionLetters (mode / 64) (mode.testBit 11) 's' 'S' ++
    permissionLetters (mode / 8) (mode.testBit 10) 's' 'S' ++
    permissionLetters mode (mode.testBit 9) 't' 'T'

def hexNumber (n : Nat) : Text := Nat.toDigits 16 n

def describe (m : Member) : Text :=
  let isDirectory := m.name.getLast? = some '/'
  let mode := m.attributes / 0x10000
  let low := m.attributes % 0x10000
  let part (shown : Bool) (t : Text) : Text := if shown then t else []
  "<ZipInfo filename=".toList ++ Quoted.ofText m.name ++
    part (m.method ≠ 0) (" compress_type=".toList ++ (methodName m.method).toList) ++
    part (mode ≠ 0) (" filemode='".toList ++ modeLetters mode ++ ['\'']) ++
    part (low ≠ 0) (" external_attr=0x".toList ++ hexNumber low) ++
    part (!isDirectory || m.size ≠ 0) (" file_size=".toList ++ decimal m.size) ++
    part ((!isDirectory || m.packedSize ≠ 0) && (m.method ≠ 0 || m.size ≠ m.packedSize))
      (" compress_size=".toList ++ decimal m.packedSize) ++ ['>']

end MaskedPath.Archive
