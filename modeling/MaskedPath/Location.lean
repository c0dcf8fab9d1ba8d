import MaskedPath.FileSystem.Resolve
import MaskedPath.Url.Basic
import MaskedPath.Url.Percent

/-!
# Locations

A location says where a resource is. A loose file has the `file:` URL of its resolved path; a member
of an archive has `jar:`, the URL of the archive, `!/` and the name of the member. The URL of the
archive holds no exclamation mark, so the first one ends it; it is the archive's key.
-/

namespace MaskedPath

abbrev Location := Text

namespace Location

def filePrefix : Text := ['f', 'i', 'l', 'e', ':', '/', '/']

def archivePrefix : Text := ['j', 'a', 'r', ':']

def archiveSchemes : List Text := [['j', 'a', 'r'], ['z', 'i', 'p']]

def ofResolved (p : Path) : Location := filePrefix ++ Percent.encode p.render

def ofFile (fs : FileSystem) (p : Path) : Except PathError Location :=
  (fs.resolve p).map ofResolved

def memberName (name : Text) : Text := name.dropWhile (· = '/')

def ofMemberAt (archive : Location) (name : Text) : Location :=
  archivePrefix ++ archive ++ ['!', '/'] ++ memberName name

def ofMember (fs : FileSystem) (archive : Path) (name : Text) : Except PathError Location :=
  (ofFile fs archive).map (ofMemberAt · name)

def splitArchive? (location : Location) : Option (Text × Text) := do
  let (scheme, rest) ← cutAt? (· = ':') location
  if lowerAscii scheme ∈ archiveSchemes then
    let (archive, member) ← cutAt? (· = '!') rest
    return (archive, memberName member)
  else none

def archiveKey? (location : Location) : Option Text := (splitArchive? location).map (·.1)

/-! ## Names that are no Unicode text -/

def wideMemberName (name : WideText) : WideText := name.dropWhile (· = .ofChar '/')

def ofWideMemberAt (archive : Location) (name : WideText) : WideText :=
  wide (archivePrefix ++ archive ++ ['!', '/']) ++ wideMemberName name

def splitWideArchive? (location : WideText) : Option (WideText × WideText) := do
  let (scheme, rest) ← cutAt? (· = .ofChar ':') location
  if lowerAscii (← narrow? scheme) ∈ archiveSchemes then
    let (archive, member) ← cutAt? (· = .ofChar '!') rest
    return (archive, wideMemberName member)
  else none

def wideArchiveKey? (location : WideText) : Option WideText :=
  (splitWideArchive? location).map (·.1)

/-! ## Paths -/

/-- The path of a `file:` URL; a text without a scheme, or with one of a single letter, is a path
itself, and any other URL has none. -/
def path? (url : Text) : Except Url.Error (Option Path) := do
  let parts ← Url.parse url
  if parts.scheme = ['f', 'i', 'l', 'e'] then return some (.parse (Percent.decode parts.path))
  else if parts.scheme.length ≤ 1 then return some (.parse url)
  else return none

end Location

end MaskedPath
