import MaskedPath.Archive.Extract
import MaskedPath.Location

namespace MaskedPath

inductive Failure
  | path (e : PathError)
  | url (e : Url.Error)
  | archive (e : Archive.Error)
  | decoding (e : DecodingError)
  | unnamedMember
  | missingMember (member : Text) (holder : Path)
  | unsupportedArchive (location : Location)
  | unsupportedLocation (location : Location)
  | noModule (name : Text)
  | compilation (e : Raised)
  | badCapacity (capacity : Int)
  | twoAttributions
  | reported (text : Text)
deriving DecidableEq

namespace Failure

def message : Failure → String
  | .path e => e.message
  | .url e => e.message
  | .archive e => e.message
  | .decoding e => e.message
  | .unnamedMember => "string index out of range"
  | .missingMember member holder =>
    String.ofList member ++ " not found in " ++ String.ofList holder.render
  | .unsupportedArchive location => "Unsupported archive location: " ++ String.ofList location
  | .unsupportedLocation location => "Unsupported location: " ++ String.ofList location
  | .noModule name => "No module named " ++ String.ofList (Quoted.ofText name)
  | .compilation e => e.message
  | .badCapacity capacity =>
    "max_entries must be positive, got " ++ String.ofList (decimalInt capacity)
  | .twoAttributions => "Pass either identifier or cache, not both"
  | .reported text => String.ofList text

def unreadableClasses : List String :=
  ["OSError", "EOFError", "RuntimeError", "NotImplementedError", "BadZipFile", "zlib.error"]

/-- Whether a failure means that an archive cannot be read, as opposed to one that cannot even be
named: a path with a NUL, a member without a name, a name without meaning in its encoding. -/
def isUnreadable : Failure → Bool
  | .path .nul => false
  | .path _ => true
  | .archive (.badName _) | .archive .headerOutOfReach => false
  | .archive (.decompressor e) => e.isOneOf unreadableClasses
  | .archive _ => true
  | _ => false

/-- Whether a failure means that a search does not look into an archive: its file cannot be read, or
its directory is malformed. -/
def isSkippable : Failure → Bool
  | .path .nul => false
  | .path _ => true
  | .archive (.badName _) | .archive (.newerVersion _) => false
  | .archive _ => true
  | _ => false

end Failure

def orFail {ε α : Type} (cause : ε → Failure) (e : Except ε α) : Except Failure α := e.mapError cause

end MaskedPath
