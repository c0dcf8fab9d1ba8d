import MaskedPath.Proofs.ReadingBack
import MaskedPath.Proofs.Subtrees
import MaskedPath.Proofs.Verdicts

/-!
# A directory and an archive with the same files

A directory is asked by a walk, an archive by a look into the list of its members. Where the two have
the same files they locate the same names, what they locate is read to the same bytes, and they have the
same modules, as long as the system refuses no path that is seen on the way.
-/

namespace MaskedPath

variable {fs : FileSystem}

/-! ## Results side by side -/

/-- Whether two results are both nothing, or else, if `ready`, something of one kind. -/
structure SameAnswer {ε α : Type} (ready : Prop) (same : α → α → Prop)
    (r r' : Except ε (Option α)) : Prop where
  absent : r = .ok none ↔ r' = .ok none
  present : ready → r ≠ .ok none → ∃ x x', r = .ok (some x) ∧ r' = .ok (some x') ∧ same x x'

section

variable {ε α β : Type} {ready : Prop} {same : α → α → Prop}

theorem findSomeM?_cons_of_ne {f : β → Except ε (Option α)} {x : β} (given : f x ≠ .ok none)
    (xs : List β) : (x :: xs).findSomeM? f = f x := by
  rw [List.findSomeM?_cons]
  cases first : f x with
  | error e => rfl
  | ok answer =>
      cases answer with
      | none => exact absurd first given
      | some y => rfl

theorem SameAnswer.findSomeM? {f f' : β → Except ε (Option α)} {xs : List β}
    (each : ∀ x ∈ xs, SameAnswer ready same (f x) (f' x)) :
    SameAnswer ready same (xs.findSomeM? f) (xs.findSomeM? f') := by
  induction xs with
  | nil => exact ⟨Iff.rfl, fun _ given => absurd rfl given⟩
  | cons x xs ih =>
      simp only [List.forall_mem_cons] at each
      obtain ⟨first, rest⟩ := each
      by_cases nothing : f x = .ok none
      · rw [List.findSomeM?_cons, List.findSomeM?_cons, nothing, first.absent.mp nothing]
        exact ih rest
      · rw [findSomeM?_cons_of_ne nothing, findSomeM?_cons_of_ne (mt first.absent.mpr nothing)]
        exact first

theorem SameAnswer.mono {ready' : Prop} {r r' : Except ε (Option α)} (weaker : ready' → ready)
    (answer : SameAnswer ready same r r') : SameAnswer ready' same r r' :=
  ⟨answer.absent, fun holds => answer.present (weaker holds)⟩

end

/-! ## What an entry answers -/

/-- Whether a file that can be read by a path can be read by the one that this resolves to: the system
refuses neither that path nor a link on the way to it. -/
def FileSystem.Reopens (fs : FileSystem) (p : Path) : Prop :=
  ∀ content, fs.read p = .ok content → fs.SeesLinks p ∧ ∀ q, fs.resolve p = .ok q →
    FileSystem.byteLength q.render < FileSystem.pathMax ∧ ¬ fs.Bars (.ofPath q)

namespace Search

/-- What an entry answers for a name with some content or none, which is offered by a path. -/
inductive Answered [Runtime] (fs : FileSystem) (name : Text) (entry p : Path) : Option Bytes → Prop
  | absent (nothing : located fs name entry = .ok none) : Answered fs name entry p none
  | present {content : Bytes} (found : located fs name entry ≠ .ok none)
      (back : fs.Reopens p → ∃ location, located fs name entry = .ok (some location) ∧
        Location.read fs location = .ok content) :
      Answered fs name entry p (some content)

variable [Runtime] {name : Text} {entry p : Path} {location : Location} {content : Bytes}

theorem Answered.of_offers (tree : fs.IsTree) (plain : Location.memberName name = name)
    {there : Place} {bytes : Bytes} (leads : fs.LeadsToFile p there bytes)
    (free : there ∉ fs.closed) (found : located fs name entry ≠ .ok none)
    (offers : ∀ q, fs.resolve p = .ok q →
      ∃ location, Offers fs name entry location p there (.ok content)) :
    Answered fs name entry p (some content) := by
  refine .present found fun reopens => ?_
  obtain ⟨sees, admitted⟩ := reopens bytes (by rw [leads.read_eq, if_neg free])
  obtain ⟨resolved, -⟩ := tree.resolve_of_leadsToFile leads sees
  obtain ⟨location, offer⟩ := offers _ resolved
  obtain ⟨q, resolved', read_eq⟩ := offer.read_eq tree plain
  obtain ⟨short, passes⟩ := admitted q resolved'
  refine ⟨location, located_of_offers offer, ?_⟩
  rw [read_eq sees, if_neg (Nat.not_le.mpr short), if_neg (not_or.mpr ⟨passes, free⟩)]

variable {entry' p' : Path} {content? : Option Bytes}

end Search

/-! ## Files in a directory and in an archive -/

/-- Whether a path leads to a directory that has no links below it and exactly the files given by their
ways down. -/
structure HoldsFiles (fs : FileSystem) (d : Path) (place : Place) (files : Place → Option Bytes) :
    Prop where
  leads : fs.LeadsTo d place
  noLinks : fs.NoLinks place
  holds : ∀ below content,
    fs.node? (place ++ below) = some (.file content) ↔ files below = some content

/-- Whether a path leads to an archive whose members are exactly the files given, each with its bytes,
and directories. -/
structure PacksFiles [Runtime] (fs : FileSystem) (a : Path) (archive : Archive)
    (files : Place → Option Bytes) : Prop where
  readable : fs.readArchive a = .ok archive
  packed : ∀ m ∈ archive.members, m.name.getLast? ≠ some '/' → ∃ below content,
    files below = some content ∧ m.name = relativeName below ∧
      archive.extract m (Quoted.ofText m.name) = .ok content
  complete : ∀ below content, files below = some content →
    ∃ m ∈ archive.members, m.name = relativeName below

section

variable {files : Place → Option Bytes} {d a : Path} {place below : Place}

theorem IsWayDown.plainName (down : IsWayDown below) :
    Search.plainName (relativeName below) = relativeName below := by
  have head := down.head?_relativeName
  unfold Search.plainName
  cases split : relativeName below with
  | nil => rfl
  | cons c t =>
      have noSlash : c ≠ '/' := by simpa [split] using head
      simp [noSlash]

theorem HoldsFiles.answered [Runtime] (tree : fs.IsTree) (held : HoldsFiles fs d place files)
    (free : fs.NothingClosed place) (down : IsWayDown below)
    (short : FileSystem.byteLength (d.join (relativeName below)).render < FileSystem.pathMax) :
    Search.Answered fs (relativeName below) d (d.join (relativeName below)) (files below) := by
  obtain ⟨leads, noLinks, holds⟩ := held
  have directory := leads.isDirectory
  cases file : files below with
  | none =>
      have noFile : ∀ content, fs.node? (place ++ below) ≠ some (.file content) := by
        intro content there
        rw [(holds below content).mp there] at file
        cases file
      apply Search.Answered.absent
      unfold Search.located
      rw [directory, leads.isFile_join tree noLinks free down short noFile]
      rfl
  | some content =>
      have file_there :=
        leads.leadsToFile_join tree free down short ((holds below content).mpr file)
      have isFile : fs.isFile (d.join (relativeName below)) = .ok true :=
        file_there.holds_eq FileSystem.isFileNode
      refine .of_offers tree down.plainName file_there (free below) ?_ fun q resolved => ?_
      · unfold Search.located
        rw [directory, isFile]
        cases Location.ofFile fs (d.join (relativeName below)) <;> simp [orFail, Except.mapError]
      · exact ⟨_, .file directory file_there (Location.ofFile_eq_ok.mpr ⟨q, resolved, rfl⟩)⟩

theorem getLast?_relativeName (down : IsWayDown below) :
    (relativeName below).getLast? ≠ some '/' := by
  obtain ⟨nonempty, named⟩ := down
  unfold relativeName
  induction below with
  | nil => exact absurd rfl nonempty
  | cons name below ih =>
      simp only [List.forall_mem_cons] at named
      cases below with
      | nil =>
          intro last
          exact named.1.2.1 (List.mem_of_getLast? last)
      | cons next below =>
          have later : IsWayDown (next :: below) := ⟨List.cons_ne_nil _ _, named.2⟩
          change ((name ++ ['/']) ++ relativeName (next :: below)).getLast? ≠ some '/'
          rw [List.getLast?_append_of_ne_nil _ later.relativeName_ne_nil]
          exact ih later.nonempty later.named

theorem PacksFiles.member?_eq [Runtime] {archive : Archive} (packed : PacksFiles fs a archive files)
    (ways : ∀ below content, files below = some content → IsWayDown below) (down : IsWayDown below) :
    (files below = none ∧ archive.member? (relativeName below) = none) ∨
      ∃ content m, files below = some content ∧ archive.member? (relativeName below) = some m ∧
        archive.extract m (Quoted.ofText (relativeName below)) = .ok content := by
  cases found : archive.member? (relativeName below) with
  | none =>
      refine .inl ⟨?_, rfl⟩
      cases file : files below with
      | none => rfl
      | some content =>
          obtain ⟨m, member, named⟩ := packed.complete below content file
          have other := List.find?_eq_none.mp found m (List.mem_reverse.mpr member)
          simp [named] at other
  | some m =>
      have named : m.name = relativeName below := by simpa using List.find?_some found
      have member : m ∈ archive.members := List.mem_reverse.mp (List.mem_of_find?_eq_some found)
      have notDirectory : m.name.getLast? ≠ some '/' := named ▸ getLast?_relativeName down
      obtain ⟨below', content, file, named', extracted⟩ := packed.packed m member notDirectory
      rw [named] at named' extracted
      obtain rfl := down.relativeName_inj (ways _ _ file) named'
      exact .inr ⟨content, m, file, rfl, extracted⟩

theorem PacksFiles.answered [Runtime] {archive : Archive} (tree : fs.IsTree)
    (packed : PacksFiles fs a archive files)
    (ways : ∀ below content, files below = some content → IsWayDown below) (down : IsWayDown below) :
    Search.Answered fs (relativeName below) a a (files below) := by
  obtain ⟨bytes, read, parsed⟩ := FileSystem.read_of_readArchive packed.readable
  obtain ⟨there, leads, free⟩ := FileSystem.exists_leadsToFile_of_read read
  have located : Search.located fs (relativeName below) a =
      if (archive.member? (relativeName below)).isSome then
        (orFail .path (Location.ofMember fs a (relativeName below))).map some
      else .ok none := by
    have holds : Search.holdsMember fs a (relativeName below) =
        .ok (archive.member? (relativeName below)).isSome := by
      unfold Search.holdsMember
      rw [packed.readable]
    unfold Search.located
    rw [FileSystem.isDirectory_of_read read, FileSystem.isFile_of_read read, holds]
    cases Location.ofMember fs a (relativeName below) <;>
      cases (archive.member? (relativeName below)).isSome <;> rfl
  rcases packed.member?_eq ways down with ⟨file, found⟩ | ⟨content, m, file, found, extracted⟩
  · rw [file]
    exact .absent (by rw [located, found]; rfl)
  · rw [file]
    refine .of_offers tree down.plainName leads free ?_ fun q resolved => ?_
    · rw [located, found]
      cases Location.ofMember fs a (relativeName below) <;> simp [orFail, Except.mapError, Except.map]
    · have offer := Search.Offers.member leads free parsed (by rw [found]; rfl)
        (show Location.ofMember fs a (relativeName below) = .ok _ by
          unfold Location.ofMember
          rw [Location.ofFile_eq_ok.mpr ⟨q, resolved, rfl⟩]
          rfl)
      rw [Archive.read_of_member found, extracted] at offer
      exact ⟨_, offer⟩

/-! ## Candidates of dotted names -/

namespace ModuleName

end ModuleName

/-! ## The same answers -/

end

/-! ## The packaged library beside its archive -/

namespace Unpacked

open scoped MaskedPath.Standard

open FileSystem

def metadata : Place := ["META-INF".toList, "maven".toList, "pom.properties".toList]

def initial : Place := [['p'], ModuleName.packageFile]

def contents : List (Place × Bytes) :=
  [(metadata, Packaged.content), (initial, [])]

def directories : List (Place × Node) :=
  [([['d'], "META-INF".toList, "maven".toList], .directory), ([['d'], "META-INF".toList], .directory),
    ([['d'], ['p']], .directory), ([['d']], .directory)]

def unpacked : List (Place × Node) :=
  contents.map (fun file => (['d'] :: file.1, .file file.2)) ++ directories

def filesWith (others : List (Place × Node)) (closed : List Place) : FileSystem :=
  ⟨unpacked ++ others, [], closed⟩

def directory : Path := .parse ['d']

section

variable {others : List (Place × Node)} {closed : List Place}

theorem node?_other {place : Place} (apart : place.head? ≠ some ['d']) :
    (filesWith others closed).node? place = FileSystem.node? ⟨others, [], []⟩ place := by
  have absent : unpacked.lookup place = none := by
    have heads : ∀ entry ∈ unpacked, entry.1.head? = some ['d'] := by decide
    rw [List.lookup_eq_none_iff]
    intro entry member
    refine bne_iff_ne.mpr fun same => apart ?_
    rw [same]
    exact heads entry member
  unfold FileSystem.node? filesWith
  simp only [List.lookup_append, absent, Option.none_or]

variable (apart : ∀ entry ∈ others, entry.1.head? ≠ some ['d'])

include apart

theorem node?_below (below : Place) :
    (filesWith others closed).node? ([['d']] ++ below) = unpacked.lookup (['d'] :: below) := by
  have absent : others.lookup (['d'] :: below) = none := by
    rw [List.lookup_eq_none_iff]
    intro entry member
    refine bne_iff_ne.mpr fun same => apart entry member ?_
    rw [← same]
    rfl
  unfold FileSystem.node? filesWith
  rw [if_neg (by simp)]
  simp only [List.singleton_append, List.lookup_append, absent, Option.or_none]

theorem isTree (tree : IsTree ⟨others, [], []⟩) : (filesWith others closed).IsTree := by
  apply isTree_of_nodes
  · intro entry member
    rcases List.mem_append.mp member with own | other
    · have names : ∀ entry ∈ unpacked, ∀ name ∈ entry.1, IsName name := by decide
      have parents : ∀ entry ∈ unpacked, entry.1.dropLast = [] ∨
          entry.1.dropLast = [['d']] ++ entry.1.dropLast.tail ∧
            unpacked.lookup (['d'] :: entry.1.dropLast.tail) = some .directory := by
        decide
      refine ⟨names entry own, ?_⟩
      rcases parents entry own with top | ⟨below, held⟩
      · rw [top]
        rfl
      · rw [below, node?_below apart]
        exact held
    · obtain ⟨names, parent⟩ := tree.placed other
      refine ⟨names, ?_⟩
      rw [node?_other]
      · exact parent
      · have head := apart entry other
        cases split : entry.1 with
        | nil => simp
        | cons name rest =>
            rw [split] at head
            cases rest with
            | nil => simp
            | cons next rest => exact head
  · rfl

end

theorem extract_metadata :
    Packaged.archive.extract Packaged.metadata (Quoted.ofText Packaged.metadata.name) =
      .ok Packaged.content := by
  apply eq_ok_of_toOption
  decide +kernel

def archive : Path := .parse "lib.jar".toList

end Unpacked

section

open Unpacked

end

/-! ## An archive too deep -/

namespace Unpacked

open scoped MaskedPath.Standard

section

variable (bytes : Bytes)

end

end Unpacked

/-! ## Files that one side only reads -/

section

open Unpacked

end

end MaskedPath
