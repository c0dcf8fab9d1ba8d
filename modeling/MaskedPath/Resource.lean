import MaskedPath.Failure
import MaskedPath.ModuleName

namespace MaskedPath

variable [Runtime]

namespace Archive

def read (a : Archive) (holder : Path) (name : Text) : Except Failure Bytes :=
  match a.member? name with
  | none => .error (.missingMember name holder)
  | some m => orFail .archive (a.extract m (Quoted.ofText name))

end Archive

def FileSystem.readArchive (fs : FileSystem) (p : Path) : Except Failure Archive := do
  let bytes ← orFail .path (fs.read p)
  orFail .archive (Archive.parse bytes)

def Location.read (fs : FileSystem) (location : Location) : Except Failure Bytes := do
  match splitArchive? location with
  | some (archive, member) =>
    match ← orFail .url (path? archive) with
    | none => throw (.unsupportedArchive location)
    | some p => (← fs.readArchive p).read p member
  | none =>
    match ← orFail .url (path? location) with
    | none => throw (.unsupportedLocation location)
    | some p => orFail .path (fs.read p)

end MaskedPath
