import MaskedPath.Archive.Inflate
import MaskedPath.FileSystem.Basic
import MaskedPath.Runtime

namespace MaskedPath

/-- A member of an archive. Its entry name is cut at the first NUL of the name that the directory
gives, and its data ends before `limit`. -/
structure Member where
  rawName : Text
  flags : Nat
  method : Nat
  checksum : UInt32
  packedSize : Nat
  size : Nat
  attributes : Nat
  headerOffset : Int
  limit : Int
deriving DecidableEq, Repr

def Member.name (m : Member) : Text := m.rawName.takeWhile (· ≠ '\x00')

/-- An archive: the bytes of its file and its members in the order of its directory. -/
structure Archive where
  bytes : Bytes
  members : List Member
deriving DecidableEq, Repr

namespace Archive

inductive Error
  | notAnArchive
  | spansDisks
  | badDirectoryOffset
  | truncatedDirectory
  | badDirectoryMagic
  | corruptExtra (tag size : Nat)
  | missingWideField (field : String)
  | badName (e : DecodingError)
  | newerVersion (version : Nat)
  | badHeaderOffset
  | headerOutOfReach
  | truncatedHeader
  | badHeaderMagic
  | patchedData
  | strongEncryption
  | nameDiffers (inDirectory : Text) (inHeader : Bytes)
  | overlapping (name : Text)
  | encrypted (subject : Text)
  | unknownMethod
  | cutShort
  | corruptData (e : Inflate.Error)
  | decompressor (e : Raised)
  | badChecksum (name : Text)
deriving DecidableEq, Repr

def quoted (t : Text) : String := String.ofList (Quoted.ofText t)

def Error.message : Error → String
  | .notAnArchive => "File is not a zip file"
  | .spansDisks => "zipfiles that span multiple disks are not supported"
  | .badDirectoryOffset => "Bad offset for central directory"
  | .truncatedDirectory => "Truncated central directory"
  | .badDirectoryMagic => "Bad magic number for central directory"
  | .corruptExtra tag size =>
    "Corrupt extra field " ++ String.ofList (hexPadded 4 tag) ++ " (size=" ++ toString size ++ ")"
  | .missingWideField field => "Corrupt zip64 extra field. " ++ field ++ " not found."
  | .badName e => e.message
  | .newerVersion v => "zip file version " ++ toString (v / 10) ++ "." ++ toString (v % 10)
  | .badHeaderOffset => Errno.invalidArgument.message
  | .headerOutOfReach => "cannot fit 'int' into an offset-sized integer"
  | .truncatedHeader => "Truncated file header"
  | .badHeaderMagic => "Bad magic number for file header"
  | .patchedData => "compressed patched data (flag bit 5)"
  | .strongEncryption => "strong encryption (flag bit 6)"
  | .nameDiffers inDirectory inHeader =>
    "File name in directory " ++ quoted inDirectory ++ " and header " ++
      String.ofList (Quoted.ofBytes inHeader) ++ " differ."
  | .overlapping name => "Overlapped entries: " ++ quoted name ++ " (possible zip bomb)"
  | .encrypted subject =>
    "File " ++ String.ofList subject ++ " is encrypted, password required for extraction"
  | .unknownMethod => "That compression method is not supported"
  | .cutShort => ""
  | .corruptData e => "Error -3 while decompressing data: " ++ e.text
  | .decompressor e => e.message
  | .badChecksum name => "Bad CRC-32 for file " ++ quoted name

def number (bytes : Bytes) : Nat := bytes.foldr (fun b n => b.toNat + 256 * n) 0

def slice (bytes : Bytes) (offset count : Nat) : Bytes := (bytes.drop offset).take count

def field (bytes : Bytes) (offset count : Nat) : Nat := number (slice bytes offset count)

def member? (a : Archive) (name : Text) : Option Member := a.members.reverse.find? (·.name = name)

end Archive

end MaskedPath
