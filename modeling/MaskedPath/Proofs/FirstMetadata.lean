import MaskedPath.Proofs.AttributionFailures

namespace MaskedPath

/-! ## Arguments -/

inductive Argument
  | path (p : Path)
  | text (t : Text)
deriving DecidableEq

def Argument.LeadsTo (fs : FileSystem) (a : Archive) : Argument → Prop
  | .path p => fs.readArchive p = .ok a
  | .text t => ∃ p, Location.path? t = .ok (some p) ∧ fs.readArchive p = .ok a

namespace Identifier

def identify [Runtime] (i : Identifier) (fs : FileSystem) : Argument → Except Failure Library
  | .path p => i.libraryAt fs p
  | .text t => i.libraryOf fs t

variable {i : Identifier} {fs : FileSystem} {argument : Argument} {a b : Archive} {m : Member}

theorem identify_eq [Runtime] (leads : argument.LeadsTo fs a) :
    ∃ p, fs.readArchive p = .ok a ∧ i.identify fs argument = i.libraryAt fs p := by
  cases argument with
  | path p => exact ⟨p, leads, rfl⟩
  | text t =>
      obtain ⟨p, path, readable⟩ := leads
      exact ⟨p, readable, libraryOf_of_path path⟩

/-! ## The scan of a directory -/

def firstMetadata? (i : Identifier) (members : List Member) : Option Member :=
  members.find? fun m => i.IsMetadata m

def MeetsUnnamed (i : Identifier) (members : List Member) : Prop :=
  ∃ before m after, members = before ++ m :: after ∧ m.name = [] ∧
    ∀ other ∈ before, ¬ i.IsMetadata other

theorem not_meetsUnnamed_nil : ¬ i.MeetsUnnamed [] := by
  rintro ⟨before, m, after, split, -⟩
  cases before <;> cases split

theorem meetsUnnamed_cons {members : List Member} : i.MeetsUnnamed (m :: members) ↔
    m.name = [] ∨ ¬ i.IsMetadata m ∧ i.MeetsUnnamed members := by
  constructor
  · rintro ⟨before, unnamed, after, split, nameless, passed⟩
    cases before with
    | nil =>
        cases split
        exact .inl nameless
    | cons first before =>
        cases split
        rw [List.forall_mem_cons] at passed
        exact .inr ⟨passed.1, before, unnamed, after, rfl, nameless, passed.2⟩
  · rintro (nameless | ⟨passes, before, unnamed, after, rfl, nameless, passed⟩)
    · exact ⟨[], m, members, rfl, nameless, by simp⟩
    · exact ⟨m :: before, unnamed, after, rfl, nameless, List.forall_mem_cons.mpr ⟨passes, passed⟩⟩

theorem metadata?_of_meets {members : List Member} (meets : i.MeetsUnnamed members) :
    i.metadata? members = .error .unnamedMember := by
  induction members with
  | nil => exact absurd meets not_meetsUnnamed_nil
  | cons m members ih =>
      rw [metadata?]
      rcases meetsUnnamed_cons.mp meets with nameless | ⟨passes, later⟩
      · rw [if_pos nameless]
      · split_ifs
        · rfl
        · exact ih later

theorem metadata?_of_not_meets {members : List Member} (named : ¬ i.MeetsUnnamed members) :
    i.metadata? members = .ok (i.firstMetadata? members) := by
  induction members with
  | nil => rfl
  | cons m members ih =>
      rw [meetsUnnamed_cons, not_or, not_and] at named
      obtain ⟨nonempty, later⟩ := named
      rw [metadata?, if_neg nonempty]
      by_cases metadata : i.IsMetadata m
      · simp [firstMetadata?, metadata]
      · simpa [firstMetadata?, metadata] using ih (later metadata)

/-! ## What the first metadata says -/

def contentOf [Runtime] (a : Archive) (m : Member) : Except Archive.Error Bytes :=
  a.extract m (Archive.describe m)

def declaredIn (bytes : Bytes) : Library :=
  match Properties.parse (bytes.map .ofByte) with
  | .ok entries => .ofProperties entries
  | .error _ => .void

/-- The library that metadata declares; it is void if the metadata cannot be read or parsed. -/
def declared : Except Archive.Error Bytes → Library
  | .ok bytes => declaredIn bytes
  | .error _ => .void

theorem library_judge_eq (p : Path) (m : Member) (bytes : Bytes) :
    (judge p m bytes).library = declaredIn bytes := by
  unfold judge declaredIn
  cases Properties.parse (bytes.map .ofByte) <;> rfl

def declaredBy [Runtime] (i : Identifier) (a : Archive) : Library :=
  match i.firstMetadata? a.members with
  | none => .void
  | some m => declared (contentOf a m)

/-- Whether two members read alike: they have the same content, or neither can be read. -/
inductive ReadAlike : Except Archive.Error Bytes → Except Archive.Error Bytes → Prop
  | content (bytes : Bytes) : ReadAlike (.ok bytes) (.ok bytes)
  | unreadable {e e' : Archive.Error} (first : (Failure.archive e).isUnreadable = true)
      (second : (Failure.archive e').isUnreadable = true) : ReadAlike (.error e) (.error e')

inductive Agree [Runtime] (i : Identifier) (a b : Archive) : Prop
  | absent (first : i.firstMetadata? a.members = none) (second : i.firstMetadata? b.members = none)
  | present {m m' : Member} (first : i.firstMetadata? a.members = some m)
      (second : i.firstMetadata? b.members = some m') (name : m.name = m'.name)
      (content : ReadAlike (contentOf a m) (contentOf b m'))

theorem ReadAlike.symm {content content' : Except Archive.Error Bytes}
    (alike : ReadAlike content content') : ReadAlike content' content := by
  cases alike with
  | content bytes => exact .content bytes
  | unreadable first second => exact .unreadable second first

theorem Agree.symm [Runtime] (agree : i.Agree a b) : i.Agree b a := by
  cases agree with
  | absent first second => exact .absent second first
  | present first second name content => exact .present second first name.symm content.symm

theorem ReadAlike.declared_eq {content content' : Except Archive.Error Bytes}
    (alike : ReadAlike content content') : declared content = declared content' := by
  cases alike <;> rfl

theorem Agree.declaredBy_eq [Runtime] (agree : i.Agree a b) : i.declaredBy a = i.declaredBy b := by
  unfold declaredBy
  cases agree with
  | absent first second => rw [first, second]
  | present first second name content =>
      rw [first, second]
      exact content.declared_eq

theorem ReadAlike.unreadable_of_error {content content' : Except Archive.Error Bytes}
    (alike : ReadAlike content content') {e : Archive.Error} (failed : content = .error e) :
    (Failure.archive e).isUnreadable = true := by
  cases alike with
  | content bytes => cases failed
  | unreadable first _ =>
      cases failed
      exact first

theorem Agree.unreadable [Runtime] {e : Archive.Error} (agree : i.Agree a b)
    (first : i.firstMetadata? a.members = some m) (failed : contentOf a m = .error e) :
    (Failure.archive e).isUnreadable = true := by
  cases agree with
  | absent nothing _ =>
      rw [nothing] at first
      cases first
  | present found _ _ content =>
      obtain rfl := Option.some.inj (found.symm.trans first)
      exact content.unreadable_of_error failed

/-! ## Attributions -/

section

variable {p : Path} (readable : fs.readArchive p = .ok a)

include readable

theorem libraryAt_of_meets [Runtime] (meets : i.MeetsUnnamed a.members) :
    i.libraryAt fs p = .error .unnamedMember := by
  have failed : i.readMetadata fs p = .error .unnamedMember :=
    readMetadata_eq_error_iff.mpr (.inr ⟨a, readable, .inl (metadata?_of_meets meets)⟩)
  rw [libraryAt, attributePath_eq_error_iff.mpr ⟨failed, rfl⟩]
  rfl

theorem libraryAt_of_first [Runtime] (first : i.metadata? a.members = .ok (some m))
    (unreadable : ∀ e, contentOf a m = .error e → (Failure.archive e).isUnreadable = true) :
    i.libraryAt fs p = .ok (declared (contentOf a m)) := by
  cases content : contentOf a m with
  | ok bytes =>
      rw [libraryAt, attributePath_of_metadata readable first content]
      exact congrArg Except.ok (library_judge_eq p m bytes)
  | error e =>
      have unread : i.readMetadata fs p = .error (.archive e) :=
        readMetadata_eq_error_iff.mpr (.inr ⟨a, readable, .inr ⟨m, e, first, content, rfl⟩⟩)
      rw [libraryAt, attributePath, unread]
      simp only [unreadable e content, if_true]
      rfl

theorem libraryAt_of_not_meets [Runtime] (agree : i.Agree a b) (named : ¬ i.MeetsUnnamed a.members) :
    i.libraryAt fs p = .ok (i.declaredBy a) := by
  have scanned := metadata?_of_not_meets named
  unfold declaredBy
  cases first : i.firstMetadata? a.members with
  | none =>
      rw [first] at scanned
      rw [libraryAt, attributePath_of_no_metadata readable scanned]
      rfl
  | some m =>
      rw [first] at scanned
      exact libraryAt_of_first readable scanned fun e => agree.unreadable first

end

/-- An archive is attributed to what its first metadata declares, and fails if it meets a member
without a name before. Two archives that agree on their first metadata are attributed to one library
exactly if neither meets such a member. -/
theorem first_metadata_decides [Runtime] {fs' : FileSystem} {argument' : Argument}
    (leads : argument.LeadsTo fs a) (leads' : argument'.LeadsTo fs' b) (agree : i.Agree a b) :
    (i.MeetsUnnamed a.members → i.identify fs argument = .error .unnamedMember) ∧
      (¬ i.MeetsUnnamed a.members → i.identify fs argument = .ok (i.declaredBy a)) ∧
      ((∃ library, i.identify fs argument = .ok library ∧ i.identify fs' argument' = .ok library) ↔
        ¬ i.MeetsUnnamed a.members ∧ ¬ i.MeetsUnnamed b.members) := by
  obtain ⟨p, readable, same⟩ := identify_eq (i := i) leads
  obtain ⟨q, readable', same'⟩ := identify_eq (i := i) leads'
  rw [same, same']
  refine ⟨libraryAt_of_meets readable, libraryAt_of_not_meets readable agree, ?_, ?_⟩
  · rintro ⟨library, given, given'⟩
    constructor
    · intro meets
      rw [libraryAt_of_meets readable meets] at given
      cases given
    · intro meets
      rw [libraryAt_of_meets readable' meets] at given'
      cases given'
  · rintro ⟨named, named'⟩
    refine ⟨i.declaredBy a, libraryAt_of_not_meets readable agree named, ?_⟩
    rw [agree.declaredBy_eq]
    exact libraryAt_of_not_meets readable' agree.symm named'

end Identifier

/-! ## A member without a name -/

namespace Nameless

open scoped MaskedPath.Standard

def contents : Bytes :=
  Packaged.bytesOf ("PK\x03\x04\x14\x00\x00\x00\x00\x00\x00\x00!\x00:\xac\xca\xf7\x16\x00\x00\x00\x16\x00\x00" ++
    "\x00\x1d\x00\x00\x00META-INF/maven/pom.propertiesgroupId=g\nartifactId=a") ++
  Packaged.bytesOf ("PK\x03\x04\x14\x00\x00\x00\x00\x00\x00\x00!\x00\x00\x00\x00\x00\x00\x00\x00\x00\x00\x00" ++
    "\x00\x00\x00\x00\x00\x00")

def metadataEntry : Bytes :=
  Packaged.bytesOf ("PK\x01\x02\x14\x00\x14\x00\x00\x00\x00\x00\x00\x00!\x00:\xac\xca\xf7\x16\x00\x00\x00\x16" ++
    "\x00\x00\x00\x1d\x00\x00\x00\x00\x00\x00\x00\x00\x00\x00\x00\x80\x01\x00\x00\x00\x00META" ++
    "-INF/maven/pom.properties")

def namelessEntry : Bytes :=
  Packaged.bytesOf ("PK\x01\x02\x14\x00\x14\x00\x00\x00\x00\x00\x00\x00!\x00\x00\x00\x00\x00\x00\x00\x00\x00" ++
    "\x00\x00\x00\x00\x00\x00\x00\x00\x00\x00\x00\x00\x00\x00\x00\x00\x80\x01Q\x00\x00\x00")

def endRecord : Bytes :=
  Packaged.bytesOf "PK\x05\x06\x00\x00\x00\x00\x02\x00\x02\x00y\x00\x00\x00o\x00\x00\x00\x00\x00"

def leading : Bytes := contents ++ namelessEntry ++ metadataEntry ++ endRecord

def trailing : Bytes := contents ++ metadataEntry ++ namelessEntry ++ endRecord

def member : Member :=
  { Packaged.package with rawName := [], headerOffset := 81, limit := 111 }

def leadingArchive : Archive := ⟨leading, [member, Packaged.metadata]⟩

def trailingArchive : Archive := ⟨trailing, [Packaged.metadata, member]⟩

set_option maxRecDepth 4000 in
theorem parse_leading : Archive.parse leading = .ok leadingArchive := by
  cbv

set_option maxRecDepth 4000 in
theorem parse_trailing : Archive.parse trailing = .ok trailingArchive := by
  cbv

set_option maxRecDepth 4000 in
theorem contentOf_leading :
    Identifier.contentOf leadingArchive Packaged.metadata = .ok Packaged.content := by
  apply eq_ok_of_toOption
  decide +kernel

set_option maxRecDepth 4000 in
theorem contentOf_trailing :
    Identifier.contentOf trailingArchive Packaged.metadata = .ok Packaged.content := by
  apply eq_ok_of_toOption
  decide +kernel

theorem isMetadata_metadata : ({} : Identifier).IsMetadata Packaged.metadata := by
  decide

theorem not_meetsUnnamed (rest : List Member) :
    ¬ ({} : Identifier).MeetsUnnamed (Packaged.metadata :: rest) := by
  rw [Identifier.meetsUnnamed_cons]
  rintro (nameless | ⟨passes, -⟩)
  · exact absurd nameless (by decide)
  · exact passes isMetadata_metadata

structure HoldsMetadata (archive : Archive) : Prop where
  first : ({} : Identifier).firstMetadata? archive.members = some Packaged.metadata
  content : Identifier.contentOf archive Packaged.metadata = .ok Packaged.content

theorem holdsMetadata_packaged : HoldsMetadata Packaged.archive :=
  ⟨by decide, Packaged.extract_metadata⟩

theorem holdsMetadata_leading : HoldsMetadata leadingArchive :=
  ⟨by decide, contentOf_leading⟩

theorem holdsMetadata_trailing : HoldsMetadata trailingArchive :=
  ⟨by decide, contentOf_trailing⟩

theorem HoldsMetadata.agree {a b : Archive} (holds : HoldsMetadata a) (holds' : HoldsMetadata b) :
    ({} : Identifier).Agree a b := by
  refine .present holds.first holds'.first rfl ?_
  rw [holds.content, holds'.content]
  exact .content _

theorem HoldsMetadata.declaredBy_eq {archive : Archive} (holds : HoldsMetadata archive) :
    ({} : Identifier).declaredBy archive = Packaged.library := by
  have declared : Identifier.declaredIn Packaged.content = Packaged.library := by
    unfold Identifier.declaredIn
    rw [Packaged.parse_content]
    decide
  unfold Identifier.declaredBy
  rw [holds.first]
  simp only [holds.content]
  exact declared

theorem readArchive_leading :
    (OneArchive.files leading).readArchive OneArchive.entry = .ok leadingArchive :=
  FileSystem.readArchive_of_read (OneArchive.read_entry leading) parse_leading

theorem readArchive_trailing :
    (OneArchive.files trailing).readArchive OneArchive.entry = .ok trailingArchive :=
  FileSystem.readArchive_of_read (OneArchive.read_entry trailing) parse_trailing

end Nameless

namespace Identifier

open scoped MaskedPath.Standard in
theorem first_metadata_decides_trailing :
    let i : Identifier := {}
    let fs := OneArchive.files Packaged.bytes
    let fs' := OneArchive.files Nameless.trailing
    let argument : Argument := .text OneArchive.key
    let argument' : Argument := .path OneArchive.entry
    argument.LeadsTo fs Packaged.archive ∧ argument'.LeadsTo fs' Nameless.trailingArchive ∧
      i.Agree Packaged.archive Nameless.trailingArchive ∧
      i.identify fs argument = .ok Packaged.library ∧
      i.identify fs' argument' = .ok Packaged.library := by
  intro i fs fs' argument argument'
  have leads : argument.LeadsTo fs Packaged.archive :=
    ⟨_, OneArchive.path?_key,
      FileSystem.readArchive_of_read (OneArchive.read_keyPath _) Packaged.parse_bytes⟩
  have leads' : argument'.LeadsTo fs' Nameless.trailingArchive := Nameless.readArchive_trailing
  have agree := Nameless.holdsMetadata_packaged.agree Nameless.holdsMetadata_trailing
  have named := Nameless.not_meetsUnnamed [Packaged.package]
  have named' := Nameless.not_meetsUnnamed [Nameless.member]
  obtain ⟨-, given, alike⟩ := first_metadata_decides leads leads' agree
  obtain ⟨library, first, second⟩ := alike.mpr ⟨named, named'⟩
  have known := given named
  rw [Nameless.holdsMetadata_packaged.declaredBy_eq] at known
  obtain rfl : library = Packaged.library := Except.ok.inj (first.symm.trans known)
  exact ⟨leads, leads', agree, first, second⟩

open scoped MaskedPath.Standard in
/-- Two archives of the same members, one of which lists a member without a name before the metadata:
the attribution of that one fails. -/
theorem nameless_member_before_metadata_fails :
    let i : Identifier := {}
    let argument : Argument := .path OneArchive.entry
    argument.LeadsTo (OneArchive.files Nameless.leading) Nameless.leadingArchive ∧
      argument.LeadsTo (OneArchive.files Nameless.trailing) Nameless.trailingArchive ∧
      i.Agree Nameless.leadingArchive Nameless.trailingArchive ∧
      i.identify (OneArchive.files Nameless.leading) argument = .error .unnamedMember ∧
      i.identify (OneArchive.files Nameless.trailing) argument = .ok Packaged.library := by
  intro i argument
  have agree := Nameless.holdsMetadata_leading.agree Nameless.holdsMetadata_trailing
  have meets : i.MeetsUnnamed Nameless.leadingArchive.members :=
    ⟨[], Nameless.member, [Packaged.metadata], rfl, rfl, by simp⟩
  have failed := libraryAt_of_meets Nameless.readArchive_leading meets
  have given := libraryAt_of_not_meets Nameless.readArchive_trailing agree.symm
    (Nameless.not_meetsUnnamed [Nameless.member])
  rw [Nameless.holdsMetadata_trailing.declaredBy_eq] at given
  exact ⟨Nameless.readArchive_leading, Nameless.readArchive_trailing, agree, failed, given⟩

end Identifier

end MaskedPath
