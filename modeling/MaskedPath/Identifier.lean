import MaskedPath.Library
import MaskedPath.Resource

namespace MaskedPath

structure Identifier where
  namePrefix : Text := "META-INF/maven".toList
  nameSuffix : Text := "pom.properties".toList
deriving DecidableEq, Repr

inductive Attribution
  | notAFile (archive : Text)
  | noMetadata (path : Path)
  | unreadable (path : Path) (cause : Failure)
  | unparsable (member : Text) (path : Path) (cause : Properties.Error)
  | attributed (path : Path) (library : Library)
deriving DecidableEq

namespace Attribution

def library : Attribution → Library
  | .attributed _ l => l
  | _ => .void

def message : Attribution → WideText
  | .notAFile archive => wideOf "Cannot attribute non-file archive: " ++ wide archive
  | .noMetadata p => wideOf "No packaging metadata in " ++ wide p.render
  | .unreadable p e =>
    wideOf "Could not read archive " ++ wide p.render ++ wideOf ": " ++ wideOf e.message
  | .unparsable member p e =>
    wideOf "Could not parse " ++ wide member ++ wideOf " in " ++ wide p.render ++ wideOf ": " ++
      e.message
  | .attributed p l =>
    wideOf "Attributed " ++ wide p.render ++ wideOf " to " ++ l.render

end Attribution

namespace Identifier

def IsMetadata (i : Identifier) (m : Member) : Prop :=
  m.name.getLast? ≠ some '/' ∧ i.namePrefix <+: m.name ∧ i.nameSuffix <:+ m.name

instance (i : Identifier) (m : Member) : Decidable (i.IsMetadata m) := by
  unfold IsMetadata; infer_instance

/-- The first metadata member. A member without a name before it cannot be judged. -/
def metadata? (i : Identifier) : List Member → Except Failure (Option Member)
  | [] => .ok none
  | m :: rest =>
    if m.name = [] then .error .unnamedMember
    else if i.IsMetadata m then .ok (some m)
    else i.metadata? rest

section

variable [Runtime]

def readMetadata (i : Identifier) (fs : FileSystem) (p : Path) :
    Except Failure (Option (Member × Bytes)) := do
  let archive ← fs.readArchive p
  match ← i.metadata? archive.members with
  | none => return none
  | some m =>
    let content ← orFail .archive (archive.extract m (Archive.describe m))
    return some (m, content)

def judge (p : Path) (m : Member) (content : Bytes) : Attribution :=
  match Properties.parse (content.map .ofByte) with
  | .ok entries => .attributed p (.ofProperties entries)
  | .error e => .unparsable m.name p e

def attributePath (i : Identifier) (fs : FileSystem) (p : Path) : Except Failure Attribution :=
  match i.readMetadata fs p with
  | .ok none => .ok (.noMetadata p)
  | .ok (some (m, content)) => .ok (judge p m content)
  | .error e => if e.isUnreadable then .ok (.unreadable p e) else .error e

def attributeUrl (i : Identifier) (fs : FileSystem) (archive : Text) :
    Except Failure Attribution := do
  match ← orFail .url (Location.path? archive) with
  | none => return .notAFile archive
  | some p => i.attributePath fs p

end

def render (i : Identifier) : Text :=
  "LibraryIdentifier(".toList ++ i.namePrefix ++ "/**/".toList ++ i.nameSuffix ++ [')']

end Identifier

end MaskedPath
