import Mathlib
import MaskedPath.Proofs.Locations
import MaskedPath.Proofs.Meaning
import MaskedPath.Standard.Runtime

namespace MaskedPath

variable {fs : FileSystem} {i : Identifier}

theorem FileSystem.readArchive_of_read {p : Path} {bytes : Bytes} {archive : Archive}
    (read : fs.read p = .ok bytes) (parsed : Archive.parse bytes = .ok archive) :
    fs.readArchive p = .ok archive := by
  unfold readArchive
  rw [read]
  change orFail .archive (Archive.parse bytes) = _
  rw [parsed]
  rfl

/-! ## Identifiers -/

theorem Identifier.library_judge (p q : Path) (m : Member) (content : Bytes) :
    (Identifier.judge p m content).library = (Identifier.judge q m content).library := by
  unfold Identifier.judge
  cases Properties.parse (content.map .ofByte) <;> rfl

theorem eq_ok_of_toOption {ε α : Type} {e : Except ε α} {x : α} (h : e.toOption = some x) :
    e = .ok x := by
  cases e with
  | error cause => cases h
  | ok y => exact congrArg Except.ok (Option.some.inj h)

section

variable [Runtime]

namespace Identifier

def libraryAt (i : Identifier) (fs : FileSystem) (p : Path) : Except Failure Library :=
  (i.attributePath fs p).map Attribution.library

theorem attributePath_of_libraryAt {p : Path} {library : Library}
    (found : i.libraryAt fs p = .ok library) :
    ∃ attribution, i.attributePath fs p = .ok attribution ∧ attribution.library = library := by
  unfold libraryAt at found
  cases given : i.attributePath fs p with
  | error e => simp [given, Except.map] at found
  | ok attribution =>
      simp only [given, Except.map, Except.ok.injEq] at found
      exact ⟨attribution, rfl, found⟩

theorem libraryAt_eq_of_read {p q : Path} {bytes : Bytes} (first : fs.read p = .ok bytes)
    (second : fs.read q = .ok bytes) : i.libraryAt fs p = i.libraryAt fs q := by
  have archive : fs.readArchive p = fs.readArchive q := by
    unfold FileSystem.readArchive
    rw [first, second]
  have metadata : i.readMetadata fs p = i.readMetadata fs q := by
    unfold readMetadata
    rw [archive]
  unfold libraryAt attributePath
  rw [metadata]
  cases i.readMetadata fs q with
  | error e => cases unreadable : e.isUnreadable <;> simp [unreadable, Except.map, Attribution.library]
  | ok found =>
      cases found with
      | none => rfl
      | some found =>
          obtain ⟨m, content⟩ := found
          exact congrArg Except.ok (library_judge p q m content)

/-- The members of an archive before its metadata count for nothing, nor do those after it. -/
theorem attributePath_of_metadata {p : Path} {archive : Archive} {m : Member} {content : Bytes}
    (readable : fs.readArchive p = .ok archive)
    (first : i.metadata? archive.members = .ok (some m))
    (extracted : archive.extract m (Archive.describe m) = .ok content) :
    i.attributePath fs p = .ok (judge p m content) := by
  have metadata : i.readMetadata fs p = .ok (some (m, content)) := by
    unfold readMetadata
    rw [readable]
    change (i.metadata? archive.members >>= _) = _
    rw [first]
    change (orFail .archive (archive.extract m (Archive.describe m)) >>= _) = _
    rw [extracted]
    rfl
  unfold attributePath
  rw [metadata]

theorem attributePath_of_no_metadata {p : Path} {archive : Archive}
    (readable : fs.readArchive p = .ok archive) (nothing : i.metadata? archive.members = .ok none) :
    i.attributePath fs p = .ok (.noMetadata p) := by
  have metadata : i.readMetadata fs p = .ok none := by
    unfold readMetadata
    rw [readable]
    change (i.metadata? archive.members >>= _) = _
    rw [nothing]
    rfl
  unfold attributePath
  rw [metadata]

theorem attributeUrl_of_path {key : Text} {p : Path} (path : Location.path? key = .ok (some p)) :
    i.attributeUrl fs key = i.attributePath fs p := by
  unfold attributeUrl
  rw [path]
  rfl

end Identifier

theorem Attributor.library_identifier {key : Text} {p : Path}
    (path : Location.path? key = .ok (some p)) :
    (Attributor.identifier i).library fs key = (i.libraryAt fs p).map some := by
  change ((i.attributeUrl fs key).map _).map _ = ((i.attributePath fs p).map _).map _
  rw [Identifier.attributeUrl_of_path path]
  cases i.attributePath fs p <;> rfl

end

/-! ## One archive in a directory -/

namespace OneArchive

def files (bytes : Bytes) : FileSystem where
  nodes := [([['t'], "lib.jar".toList], .file bytes), ([['t']], .directory)]
  home := [['t']]

def entry : Path := .parse "lib.jar".toList

def search : Resolver := .search [entry] .nowhere

def key : Text := "file:///t/lib.jar".toList

def keyPath : Path := .parse "/t/lib.jar".toList

def judge [Runtime] (bytes : Bytes) (registry : Registry) : Judge :=
  ⟨registry, (Attributor.identifier {}).library (files bytes)⟩

section

variable (bytes : Bytes)

theorem isDirectory_entry : (files bytes).isDirectory entry = .ok false := by
  cbv

theorem isFile_entry : (files bytes).isFile entry = .ok true := by
  cbv

theorem read_entry : (files bytes).read entry = .ok bytes := by
  cbv

theorem read_keyPath : (files bytes).read keyPath = .ok bytes := by
  cbv

theorem ofFile_entry : Location.ofFile (files bytes) entry = .ok key := by
  cbv

theorem path?_key : Location.path? key = .ok (some keyPath) := by
  cbv

end

variable {bytes : Bytes} {archive : Archive} {name : Text}

theorem located_entry (parsed : Archive.parse bytes = .ok archive) :
    Search.located (files bytes) name entry =
      .ok (if (archive.member? name).isSome then some (Location.ofMemberAt key name) else none) := by
  have held : Search.holdsMember (files bytes) entry name = .ok (archive.member? name).isSome := by
    unfold Search.holdsMember
    rw [FileSystem.readArchive_of_read (read_entry bytes) parsed]
  unfold Search.located Location.ofMember
  rw [isDirectory_entry, isFile_entry, held, ofFile_entry]
  cases (archive.member? name).isSome <;> rfl

variable [Runtime]

theorem locate_search (parsed : Archive.parse bytes = .ok archive)
    (plain : Search.plainName name = name) (nonempty : name ≠ []) (judges : Nat → Judge) :
    (search.replies (files bytes) judges).locate name =
      .ok (if (archive.member? name).isSome then some (Location.ofMemberAt key name) else none) := by
  change Replies.searchedLocation _ _ _ _ = _
  unfold Replies.searchedLocation
  rw [plain, if_neg nonempty, List.findSomeM?_cons, located_entry parsed]
  cases (archive.member? name).isSome <;> rfl

theorem read_location (parsed : Archive.parse bytes = .ok archive)
    (plain : Location.memberName name = name) {m : Member} (found : archive.member? name = some m)
    {content : Bytes} (extracted : archive.extract m (Quoted.ofText name) = .ok content) :
    Location.read (files bytes) (Location.ofMemberAt key name) = .ok content := by
  unfold Location.read
  rw [Location.splitArchive?_ofMemberAt (by decide), plain]
  change (orFail .url (Location.path? key) >>= _) = _
  rw [path?_key]
  change ((files bytes).readArchive keyPath >>= _) = _
  rw [FileSystem.readArchive_of_read (read_keyPath bytes) parsed]
  change archive.read keyPath name = _
  unfold Archive.read
  rw [found]
  change orFail .archive (archive.extract m (Quoted.ofText name)) = _
  rw [extracted]
  rfl

theorem origin_eq {library : Library}
    (found : ({} : Identifier).libraryAt (files bytes) entry = .ok library) (registry : Registry)
    (name : Text) : (judge bytes registry).origin (Location.ofMemberAt key name) =
      .ok (if registry.hidesLibrary (some library) then .masked else .notMasked) := by
  have at_key : ({} : Identifier).libraryAt (files bytes) keyPath = .ok library := by
    rw [← found]
    exact Identifier.libraryAt_eq_of_read (read_keyPath bytes) (read_entry bytes)
  have attributed : (judge bytes registry).libraryOf key = .ok (some library) := by
    change (Attributor.identifier {}).library (files bytes) key = _
    rw [Attributor.library_identifier path?_key, at_key]
    rfl
  unfold Judge.origin
  rw [Location.archiveKey?_ofMemberAt (by decide)]
  change ((judge bytes registry).libraryOf key >>= _) = _
  rw [attributed]
  rfl

end OneArchive

/-! ## A packaged library -/

namespace Packaged

open scoped MaskedPath.Standard

def bytesOf (t : String) : Bytes := t.toList.map (·.toNat.toUInt8)

def bytes : Bytes :=
  bytesOf ("PK\x03\x04\x14\x00\x00\x00\x00\x00\x00\x00!\x00:\xac\xca\xf7\x16\x00\x00\x00\x16\x00" ++
    "\x00\x00\x1d\x00\x00\x00META-INF/maven/pom.propertiesgroupId=g\nartifactId=a") ++
  bytesOf ("PK\x03\x04\x14\x00\x00\x00\x00\x00\x00\x00!\x00\x00\x00\x00\x00\x00\x00\x00\x00\x00\x00" ++
    "\x00\x00\x0d\x00\x00\x00p/__init__.py") ++
  bytesOf ("PK\x01\x02\x14\x00\x14\x00\x00\x00\x00\x00\x00\x00!\x00:\xac\xca\xf7\x16\x00\x00\x00" ++
    "\x16\x00\x00\x00\x1d\x00\x00\x00\x00\x00\x00\x00\x00\x00\x00\x00\x80\x01\x00\x00\x00\x00" ++
    "META-INF/maven/pom.properties") ++
  bytesOf ("PK\x01\x02\x14\x00\x14\x00\x00\x00\x00\x00\x00\x00!\x00\x00\x00\x00\x00\x00\x00\x00\x00" ++
    "\x00\x00\x00\x00\x0d\x00\x00\x00\x00\x00\x00\x00\x00\x00\x00\x00\x80\x01Q\x00\x00\x00" ++
    "p/__init__.py") ++
  bytesOf "PK\x05\x06\x00\x00\x00\x00\x02\x00\x02\x00\x86\x00\x00\x00|\x00\x00\x00\x00\x00"

def metadata : Member where
  rawName := "META-INF/maven/pom.properties".toList
  flags := 0
  method := 0
  checksum := 0xf7caac3a
  packedSize := 22
  size := 22
  attributes := 0x1800000
  headerOffset := 0
  limit := 81

def package : Member where
  rawName := "p/__init__.py".toList
  flags := 0
  method := 0
  checksum := 0
  packedSize := 0
  size := 0
  attributes := 0x1800000
  headerOffset := 81
  limit := 124

def archive : Archive := ⟨bytes, [metadata, package]⟩

def library : Library := ⟨some (wide ['g']), wide ['a']⟩

set_option maxRecDepth 4000 in
theorem parse_bytes : Archive.parse bytes = .ok archive := by
  cbv

def content : Bytes := bytesOf "groupId=g\nartifactId=a"

set_option maxRecDepth 4000 in
theorem extract_metadata :
    archive.extract metadata (Archive.describe metadata) = .ok content := by
  apply eq_ok_of_toOption
  decide +kernel

set_option maxRecDepth 4000 in
theorem parse_content : Properties.parse (content.map .ofByte) =
    .ok [(wideOf "groupId", wide ['g']), (wideOf "artifactId", wide ['a'])] := by
  have entries : (Properties.parse (content.map .ofByte)).toOption =
      some [(wideOf "groupId", wide ['g']), (wideOf "artifactId", wide ['a'])] := by
    decide +kernel
  exact eq_ok_of_toOption entries

theorem libraryAt_eq {p : Path} (read : fs.read p = .ok bytes) :
    ({} : Identifier).libraryAt fs p = .ok library := by
  have first : ({} : Identifier).metadata? archive.members = .ok (some metadata) := by
    apply eq_ok_of_toOption
    decide +kernel
  unfold Identifier.libraryAt
  rw [Identifier.attributePath_of_metadata (FileSystem.readArchive_of_read read parse_bytes) first
    extract_metadata]
  unfold Identifier.judge
  rw [parse_content]
  have declared : Library.ofProperties
      [(wideOf "groupId", wide ['g']), (wideOf "artifactId", wide ['a'])] = library := by
    decide
  exact congrArg Except.ok declared

theorem extract_package : archive.extract package (Quoted.ofText package.name) = .ok [] := by
  apply eq_ok_of_toOption
  decide

theorem member?_package : archive.member? package.name = some package := by
  decide

end Packaged

end MaskedPath
