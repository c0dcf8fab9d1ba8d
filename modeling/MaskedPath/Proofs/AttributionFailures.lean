import MaskedPath.Proofs.ArchiveErrors
import MaskedPath.Proofs.RefusedArchives

namespace MaskedPath

variable {i : Identifier} {fs : FileSystem} {p : Path} {e : Failure}

/-! ## Failures of reading -/

theorem Failure.archive_escapes_iff {cause : Archive.Error} :
    (Failure.archive cause).isUnreadable = false ↔
      cause = .headerOutOfReach ∨ (∃ name, cause = .badName name) ∨
        ∃ raised, cause = .decompressor raised ∧ raised.isOneOf unreadableClasses = false := by
  cases cause <;> simp [isUnreadable]

theorem Archive.extract_escapes_iff [Runtime] {a : Archive} {m : Member} {subject : Text}
    {cause : Archive.Error} :
    a.extract m subject = .error cause ∧ (Failure.archive cause).isUnreadable = false ↔
      (cause = .headerOutOfReach ∧ isInReach m.headerOffset = false) ∨
        (∃ name, cause = .badName name ∧ a.Misnamed m name) ∨
        ∃ raised, cause = .decompressor raised ∧ a.DecompressionFails m subject raised ∧
          raised.isOneOf Failure.unreadableClasses = false := by
  constructor
  · rintro ⟨failed, escapes⟩
    rcases (extract_eq_error_iff escapes).mp failed with place | ⟨raised, rfl, fails⟩
    · rcases Failure.archive_escapes_iff.mp escapes with rfl | ⟨name, rfl⟩ | ⟨raised, rfl, -⟩
      · exact .inl ⟨rfl, dataPlace_eq_headerOutOfReach_iff.mp place⟩
      · exact .inr (.inl ⟨name, rfl, dataPlace_eq_badName_iff.mp place⟩)
      · exact absurd place dataPlace_ne_decompressor
    · exact .inr (.inr ⟨raised, rfl, fails, escapes⟩)
  · rintro (⟨rfl, far⟩ | ⟨name, rfl, misnamed⟩ | ⟨raised, rfl, fails, escapes⟩)
    · exact ⟨(extract_eq_error_iff rfl).mpr (.inl (dataPlace_eq_headerOutOfReach_iff.mpr far)), rfl⟩
    · exact ⟨(extract_eq_error_iff rfl).mpr (.inl (dataPlace_eq_badName_iff.mpr misnamed)), rfl⟩
    · exact ⟨extract_eq_decompressor_iff.mpr fails, escapes⟩

theorem FileSystem.readArchive_escapes_iff :
    fs.readArchive p = .error e ∧ e.isUnreadable = false ↔
      (e = .path .nul ∧ '\x00' ∈ p.render) ∨
        ∃ bytes name, fs.read p = .ok bytes ∧ Archive.parse bytes = .error (.badName name) ∧
          e = .archive (.badName name) := by
  unfold readArchive orFail
  constructor
  · rintro ⟨failed, escapes⟩
    rcases bind_eq_error.mp failed with failed | ⟨bytes, read, failed⟩
    · obtain ⟨cause, unread, rfl⟩ := mapError_eq_error.mp failed
      cases cause with
      | nul => exact .inl ⟨rfl, read_eq_nul_iff.mp unread⟩
      | system errno path => cases escapes
      | linkLoop path => cases escapes
    · obtain ⟨cause, refused, rfl⟩ := mapError_eq_error.mp failed
      have whole := Archive.isOfDirectory_of_parse refused
      rcases Failure.archive_escapes_iff.mp escapes with rfl | ⟨name, rfl⟩ | ⟨raised, rfl, -⟩
      · cases whole
      · exact .inr ⟨bytes, name, mapError_eq_ok.mp read, refused, rfl⟩
      · cases whole
  · rintro (⟨rfl, nul⟩ | ⟨bytes, name, read, refused, rfl⟩)
    · rw [read_eq_nul_iff.mpr nul]
      exact ⟨rfl, rfl⟩
    · exact ⟨readArchive_of_refused read refused, rfl⟩

/-! ## Metadata -/

namespace Identifier

/-- Whether a member is looked at in search of the metadata: all members before it have names, and none
of these is a metadata name. -/
def LooksAt (i : Identifier) (members : List Member) (m : Member) : Prop :=
  ∃ before after, members = before ++ m :: after ∧
    ∀ other ∈ before, other.name ≠ [] ∧ ¬ i.IsMetadata other

theorem not_looksAt_nil {m : Member} : ¬ i.LooksAt [] m := by
  rintro ⟨before, after, split, -⟩
  cases before <;> cases split

theorem looksAt_cons {first m : Member} {rest : List Member} :
    i.LooksAt (first :: rest) m ↔
      m = first ∨ (first.name ≠ [] ∧ ¬ i.IsMetadata first) ∧ i.LooksAt rest m := by
  constructor
  · rintro ⟨before, after, split, passed⟩
    cases before with
    | nil =>
        cases split
        exact .inl rfl
    | cons head before =>
        cases split
        refine .inr ⟨passed _ List.mem_cons_self, before, after, rfl, fun other member => ?_⟩
        exact passed other (List.mem_cons_of_mem _ member)
  · rintro (rfl | ⟨passes, before, after, rfl, passed⟩)
    · exact ⟨[], rest, rfl, by simp⟩
    · refine ⟨first :: before, after, rfl, fun other member => ?_⟩
      rcases List.mem_cons.mp member with rfl | member
      · exact passes
      · exact passed other member

theorem metadata?_eq_some_iff {members : List Member} {m : Member} :
    i.metadata? members = .ok (some m) ↔
      i.LooksAt members m ∧ m.name ≠ [] ∧ i.IsMetadata m := by
  induction members with
  | nil => simp [metadata?, not_looksAt_nil]
  | cons first rest ih =>
      rw [looksAt_cons, metadata?]
      by_cases unnamed : first.name = []
      · simp only [unnamed, if_true]
        grind
      · by_cases metadata : i.IsMetadata first
        · simp only [unnamed, metadata, if_true, if_false]
          grind
        · simp only [unnamed, metadata, if_false, ih]
          grind

theorem metadata?_eq_error_iff {members : List Member} :
    i.metadata? members = .error e ↔
      e = .unnamedMember ∧ ∃ m, i.LooksAt members m ∧ m.name = [] := by
  induction members with
  | nil => simp [metadata?, not_looksAt_nil]
  | cons first rest ih =>
      simp only [looksAt_cons, metadata?]
      by_cases unnamed : first.name = []
      · simp only [unnamed, if_true]
        grind
      · by_cases metadata : i.IsMetadata first
        · simp only [unnamed, metadata, if_true, if_false]
          grind
        · simp only [unnamed, metadata, if_false, ih]
          grind

/-! ## Attributions -/

variable [Runtime]

/-- Whether `m` is the metadata of an archive: the first member with a metadata name, looked at before
any member without a name. -/
def IsMetadataOf (i : Identifier) (archive : Archive) (m : Member) : Prop :=
  i.LooksAt archive.members m ∧ m.name ≠ [] ∧ i.IsMetadata m

/-- Why the archive at a path is attributed to no library at all. -/
inductive Fails (i : Identifier) (fs : FileSystem) (p : Path) : Failure → Prop
  | nul (nul : '\x00' ∈ p.render) : i.Fails fs p (.path .nul)
  | directoryName {bytes : Bytes} {name : DecodingError} (read : fs.read p = .ok bytes)
      (refused : Archive.parse bytes = .error (.badName name)) :
      i.Fails fs p (.archive (.badName name))
  | unnamedMember {archive : Archive} {m : Member} (readable : fs.readArchive p = .ok archive)
      (looked : i.LooksAt archive.members m) (unnamed : m.name = []) : i.Fails fs p .unnamedMember
  | outOfReach {archive : Archive} {m : Member} (readable : fs.readArchive p = .ok archive)
      (metadata : i.IsMetadataOf archive m) (far : Archive.isInReach m.headerOffset = false) :
      i.Fails fs p (.archive .headerOutOfReach)
  | headerName {archive : Archive} {m : Member} {name : DecodingError}
      (readable : fs.readArchive p = .ok archive) (metadata : i.IsMetadataOf archive m)
      (misnamed : archive.Misnamed m name) : i.Fails fs p (.archive (.badName name))
  | decompression {archive : Archive} {m : Member} {raised : Raised}
      (readable : fs.readArchive p = .ok archive) (metadata : i.IsMetadataOf archive m)
      (fails : archive.DecompressionFails m (Archive.describe m) raised)
      (escapes : raised.isOneOf Failure.unreadableClasses = false) :
      i.Fails fs p (.archive (.decompressor raised))

/-- Whether the metadata of the archive at a path can be read and parsed, and declares a library. -/
def Declares (i : Identifier) (fs : FileSystem) (p : Path) (library : Library) : Prop :=
  ∃ archive m content entries, fs.readArchive p = .ok archive ∧ i.IsMetadataOf archive m ∧
    archive.extract m (Archive.describe m) = .ok content ∧
    Properties.parse (content.map .ofByte) = .ok entries ∧ library = .ofProperties entries

theorem attributePath_eq_error_iff :
    i.attributePath fs p = .error e ↔ i.readMetadata fs p = .error e ∧ e.isUnreadable = false := by
  unfold attributePath
  cases i.readMetadata fs p with
  | ok found => cases found <;> simp
  | error cause => cases unreadable : cause.isUnreadable <;> grind

theorem readMetadata_eq_error_iff :
    i.readMetadata fs p = .error e ↔ fs.readArchive p = .error e ∨
      ∃ archive, fs.readArchive p = .ok archive ∧ (i.metadata? archive.members = .error e ∨
        ∃ m cause, i.metadata? archive.members = .ok (some m) ∧
          archive.extract m (Archive.describe m) = .error cause ∧ e = .archive cause) := by
  unfold readMetadata
  cases fs.readArchive p with
  | error cause => simp
  | ok archive =>
      cases first : i.metadata? archive.members with
      | error cause => simp [first]
      | ok found =>
          cases found with
          | none => simp [first]
          | some m => simp [first, bind_eq_error, orFail, mapError_eq_error, @eq_comm _ e]

theorem readMetadata_escapes_iff :
    i.readMetadata fs p = .error e ∧ e.isUnreadable = false ↔ i.Fails fs p e := by
  rw [readMetadata_eq_error_iff]
  constructor
  · rintro ⟨failed | ⟨archive, readable, failed | ⟨m, cause, first, failed, rfl⟩⟩, escapes⟩
    · rcases FileSystem.readArchive_escapes_iff.mp ⟨failed, escapes⟩ with
        ⟨rfl, nul⟩ | ⟨bytes, name, read, refused, rfl⟩
      · exact .nul nul
      · exact .directoryName read refused
    · obtain ⟨rfl, m, looked, unnamed⟩ := metadata?_eq_error_iff.mp failed
      exact .unnamedMember readable looked unnamed
    · have metadata : i.IsMetadataOf archive m := metadata?_eq_some_iff.mp first
      rcases Archive.extract_escapes_iff.mp ⟨failed, escapes⟩ with
        ⟨rfl, far⟩ | ⟨name, rfl, misnamed⟩ | ⟨raised, rfl, fails, escapes⟩
      · exact .outOfReach readable metadata far
      · exact .headerName readable metadata misnamed
      · exact .decompression readable metadata fails escapes
  · intro fails
    cases fails with
    | nul nul =>
        obtain ⟨failed, escapes⟩ := FileSystem.readArchive_escapes_iff.mpr (.inl ⟨rfl, nul⟩)
        exact ⟨.inl failed, escapes⟩
    | directoryName read refused =>
        exact ⟨.inl (FileSystem.readArchive_of_refused read refused), rfl⟩
    | unnamedMember readable looked unnamed =>
        have failed := metadata?_eq_error_iff.mpr ⟨rfl, _, looked, unnamed⟩
        exact ⟨.inr ⟨_, readable, .inl failed⟩, rfl⟩
    | outOfReach readable metadata far =>
        obtain ⟨failed, escapes⟩ := Archive.extract_escapes_iff.mpr (.inl ⟨rfl, far⟩)
        have first := metadata?_eq_some_iff.mpr metadata
        exact ⟨.inr ⟨_, readable, .inr ⟨_, _, first, failed, rfl⟩⟩, escapes⟩
    | headerName readable metadata misnamed =>
        obtain ⟨failed, escapes⟩ :=
          Archive.extract_escapes_iff.mpr (.inr (.inl ⟨_, rfl, misnamed⟩))
        have first := metadata?_eq_some_iff.mpr metadata
        exact ⟨.inr ⟨_, readable, .inr ⟨_, _, first, failed, rfl⟩⟩, escapes⟩
    | decompression readable metadata fails escapes =>
        have failed := Archive.extract_eq_decompressor_iff.mpr fails
        have first := metadata?_eq_some_iff.mpr metadata
        exact ⟨.inr ⟨_, readable, .inr ⟨_, _, first, failed, rfl⟩⟩, escapes⟩

theorem readMetadata_eq_some_iff {m : Member} {content : Bytes} :
    i.readMetadata fs p = .ok (some (m, content)) ↔ ∃ archive, fs.readArchive p = .ok archive ∧
      i.IsMetadataOf archive m ∧ archive.extract m (Archive.describe m) = .ok content := by
  unfold readMetadata IsMetadataOf
  simp only [← metadata?_eq_some_iff, bind_eq_ok]
  constructor
  · rintro ⟨archive, readable, found, first, given⟩
    cases found with
    | none => cases given
    | some other =>
        obtain ⟨extracted, given, rest⟩ := bind_eq_ok.mp given
        cases rest
        exact ⟨archive, readable, first, mapError_eq_ok.mp given⟩
  · rintro ⟨archive, readable, first, extracted⟩
    refine ⟨archive, readable, some m, first, bind_eq_ok.mpr ⟨content, ?_, rfl⟩⟩
    exact mapError_eq_ok.mpr extracted

theorem libraryAt_eq_error_iff : i.libraryAt fs p = .error e ↔ i.Fails fs p e := by
  rw [← readMetadata_escapes_iff, ← attributePath_eq_error_iff]
  unfold libraryAt
  cases i.attributePath fs p <;> simp [Except.map]

theorem libraryAt_of_declares {library : Library} (declares : i.Declares fs p library) :
    i.libraryAt fs p = .ok library := by
  obtain ⟨archive, m, content, entries, readable, metadata, extracted, parsed, rfl⟩ := declares
  have first := metadata?_eq_some_iff.mpr metadata
  unfold libraryAt
  rw [attributePath_of_metadata readable first extracted]
  unfold judge
  rw [parsed]
  rfl

theorem declares_or_void {library : Library} (attributed : i.libraryAt fs p = .ok library) :
    i.Declares fs p library ∨ library = .void := by
  obtain ⟨attribution, given, rfl⟩ := attributePath_of_libraryAt attributed
  unfold attributePath at given
  cases found : i.readMetadata fs p with
  | error cause =>
      simp only [found] at given
      split at given <;> cases given
      exact .inr rfl
  | ok result =>
      rcases result with _ | ⟨m, content⟩
      · simp only [found] at given
        cases given
        exact .inr rfl
      · simp only [found, Except.ok.injEq] at given
        obtain ⟨archive, readable, metadata, extracted⟩ := readMetadata_eq_some_iff.mp found
        subst given
        unfold judge
        cases parsed : Properties.parse (content.map .ofByte) with
        | error cause => exact .inr rfl
        | ok entries =>
            exact .inl ⟨archive, m, content, entries, readable, metadata, extracted, parsed, rfl⟩

theorem libraryAt_eq_ok_iff {library : Library} :
    i.libraryAt fs p = .ok library ↔ i.Declares fs p library ∨
      library = .void ∧ (∀ other, ¬ i.Declares fs p other) ∧ ∀ e, ¬ i.Fails fs p e := by
  constructor
  · intro attributed
    rcases declares_or_void attributed with declares | rfl
    · exact .inl declares
    by_cases undeclared : ∃ other, i.Declares fs p other
    · obtain ⟨other, declares⟩ := undeclared
      have same := attributed.symm.trans (libraryAt_of_declares declares)
      exact .inl (by rwa [Except.ok.inj same])
    · refine .inr ⟨rfl, not_exists.mp undeclared, fun e fails => ?_⟩
      rw [libraryAt_eq_error_iff.mpr fails] at attributed
      cases attributed
  · rintro (declares | ⟨rfl, undeclared, succeeds⟩)
    · exact libraryAt_of_declares declares
    cases attributed : i.libraryAt fs p with
    | error e => exact absurd (libraryAt_eq_error_iff.mp attributed) (succeeds e)
    | ok library =>
        rcases declares_or_void attributed with declares | rfl
        · exact absurd declares (undeclared library)
        · rfl

/-! ## Archives named by a text -/

def libraryOf (i : Identifier) (fs : FileSystem) (archive : Text) : Except Failure Library :=
  (i.attributeUrl fs archive).map Attribution.library

theorem libraryOf_of_malformed {archive : Text} {cause : Url.Error}
    (malformed : Location.path? archive = .error cause) :
    i.libraryOf fs archive = .error (.url cause) := by
  unfold libraryOf attributeUrl
  rw [malformed]
  rfl

theorem libraryOf_of_no_path {archive : Text} (other : Location.path? archive = .ok none) :
    i.libraryOf fs archive = .ok .void := by
  unfold libraryOf attributeUrl
  rw [other]
  rfl

theorem libraryOf_of_path {archive : Text} (path : Location.path? archive = .ok (some p)) :
    i.libraryOf fs archive = i.libraryAt fs p := by
  unfold libraryOf
  rw [attributeUrl_of_path path]
  rfl

end Identifier

theorem Location.path?_eq_error_iff {url : Text} {cause : Url.Error} :
    path? url = .error cause ↔ Url.parse url = .error cause := by
  unfold path?
  rw [bind_eq_error]
  constructor
  · rintro (malformed | ⟨parts, -, failed⟩)
    · exact malformed
    · split_ifs at failed <;> cases failed
  · exact .inl

namespace Identifier

variable [Runtime]

theorem libraryOf_eq_error_iff {archive : Text} :
    i.libraryOf fs archive = .error e ↔
      (∃ cause, Url.parse archive = .error cause ∧ e = .url cause) ∨
        ∃ p, Location.path? archive = .ok (some p) ∧ i.Fails fs p e := by
  simp only [← Location.path?_eq_error_iff]
  cases path : Location.path? archive with
  | error cause => simp [libraryOf_of_malformed path, eq_comm]
  | ok found =>
      cases found with
      | none => simp [libraryOf_of_no_path path]
      | some p => simp [libraryOf_of_path path, libraryAt_eq_error_iff]

theorem libraryOf_eq_ok_iff {archive : Text} {library : Library} :
    i.libraryOf fs archive = .ok library ↔
      Location.path? archive = .ok none ∧ library = .void ∨
        ∃ p, Location.path? archive = .ok (some p) ∧ i.libraryAt fs p = .ok library := by
  cases path : Location.path? archive with
  | error cause => simp [libraryOf_of_malformed path]
  | ok found =>
      cases found with
      | none => simp [libraryOf_of_no_path path, eq_comm]
      | some p => simp [libraryOf_of_path path]

end Identifier

/-- The attribution of an archive fails exactly for one of the named causes. Otherwise the archive is
attributed to the library that its metadata declares, or to the void one. -/
theorem attribution_fails_iff [Runtime] (i : Identifier) (fs : FileSystem) :
    (∀ p, (∀ e, i.libraryAt fs p = .error e ↔ i.Fails fs p e) ∧
      ∀ library, i.libraryAt fs p = .ok library ↔ i.Declares fs p library ∨
        library = .void ∧ (∀ other, ¬ i.Declares fs p other) ∧ ∀ e, ¬ i.Fails fs p e) ∧
    ∀ archive, (∀ e, i.libraryOf fs archive = .error e ↔
        (∃ cause, Url.parse archive = .error cause ∧ e = .url cause) ∨
          ∃ p, Location.path? archive = .ok (some p) ∧ i.Fails fs p e) ∧
      ∀ library, i.libraryOf fs archive = .ok library ↔
        Location.path? archive = .ok none ∧ library = .void ∨
          ∃ p, Location.path? archive = .ok (some p) ∧ i.libraryAt fs p = .ok library :=
  ⟨fun _ => ⟨fun _ => Identifier.libraryAt_eq_error_iff, fun _ => Identifier.libraryAt_eq_ok_iff⟩,
    fun _ => ⟨fun _ => Identifier.libraryOf_eq_error_iff, fun _ => Identifier.libraryOf_eq_ok_iff⟩⟩

/-! ## Archives that fail -/

namespace Unattributed

def unnamed : Bytes :=
  Packaged.bytesOf ("PK\x01\x02\x14\x00\x14\x00\x00\x00\x00\x00\x00\x00!\x00" ++
    "\x00\x00\x00\x00\x00\x00\x00\x00\x00\x00\x00\x00\x00\x00\x00\x00" ++
    "\x00\x00\x00\x00\x00\x00\x00\x00\x00\x00\x00\x00\x00\x00") ++
  Packaged.bytesOf "PK\x05\x06\x00\x00\x00\x00\x01\x00\x01\x00.\x00\x00\x00\x00\x00\x00\x00\x00\x00"

def member : Member where
  rawName := []
  flags := 0
  method := 0
  checksum := 0
  packedSize := 0
  size := 0
  attributes := 0
  headerOffset := 0
  limit := 0

theorem parse_unnamed : Archive.parse unnamed = .ok ⟨unnamed, [member]⟩ := by
  cbv

def malformedUrl : Text := "http://[".toList

theorem parse_malformedUrl : Url.parse malformedUrl = .error .unpairedBracket := by
  cbv

def brokenPath : Path := .parse ['a', '\x00', 'b']

end Unattributed

open scoped MaskedPath.Standard in
theorem malformed_arguments_and_archives_fail :
    let identifier : Identifier := {}
    let at_entry (bytes : Bytes) := identifier.libraryAt (OneArchive.files bytes) OneArchive.entry
    identifier.libraryOf (OneArchive.files []) Unattributed.malformedUrl =
        .error (.url .unpairedBracket) ∧
      identifier.libraryAt (OneArchive.files []) Unattributed.brokenPath = .error (.path .nul) ∧
      at_entry Refused.misnamed = .error (.archive Refused.misnaming) ∧
      at_entry Unattributed.unnamed = .error .unnamedMember := by
  intro identifier at_entry
  refine ⟨?_, ?_, ?_, ?_⟩
  · exact Identifier.libraryOf_eq_error_iff.mpr (.inl ⟨_, Unattributed.parse_malformedUrl, rfl⟩)
  · exact Identifier.libraryAt_eq_error_iff.mpr (.nul (by decide))
  · have read := OneArchive.read_entry Refused.misnamed
    exact Identifier.libraryAt_eq_error_iff.mpr (.directoryName read Refused.parse_misnamed)
  · have readable := FileSystem.readArchive_of_read (OneArchive.read_entry Unattributed.unnamed)
      Unattributed.parse_unnamed
    exact Identifier.libraryAt_eq_error_iff.mpr
      (.unnamedMember readable ⟨[], [], rfl, by simp⟩ rfl)

end MaskedPath
