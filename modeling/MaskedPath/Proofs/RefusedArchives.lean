import MaskedPath.Proofs.Attribution
import MaskedPath.Proofs.Chains
import MaskedPath.Proofs.Session
import MaskedPath.Proofs.Trees

namespace MaskedPath

open MaskedPath.Action

/-- Whether a search fails at an archive that is refused for this cause, instead of passing it over. -/
def Archive.Error.StopsSearch (cause : Archive.Error) : Prop :=
  (∃ version, cause = .newerVersion version) ∨ ∃ name, cause = .badName name

theorem Failure.isSkippable_iff (cause : Archive.Error) :
    (Failure.archive cause).isSkippable = true ↔ ¬ cause.StopsSearch := by
  cases cause <;> simp [isSkippable, Archive.Error.StopsSearch]

/-! ## Files -/

namespace FileSystem

variable {fs : FileSystem} {p : Path} {bytes : Bytes}

theorem readArchive_of_refused {cause : Archive.Error} (read : fs.read p = .ok bytes)
    (refused : Archive.parse bytes = .error cause) : fs.readArchive p = .error (.archive cause) := by
  unfold readArchive
  rw [read]
  change orFail .archive (Archive.parse bytes) = _
  rw [refused]
  rfl

end FileSystem

/-! ## Searches -/

theorem Search.plainName_plain_ne_nil (name : Text) : plainName (ModuleName.plain name) ≠ [] := by
  intro empty
  have slash := List.dropWhile_eq_nil_iff.mp empty 'p'
    (by simp [ModuleName.plain, ModuleName.sourceSuffix])
  simp at slash

section

variable {fs : FileSystem} {p : Replies} {archive : Path} {entries : List Path} {name : Text}

theorem Search.located_of_refused {bytes : Bytes} {cause : Archive.Error}
    (read : fs.read archive = .ok bytes) (refused : Archive.parse bytes = .error cause) (name : Text) :
    located fs name archive =
      if (Failure.archive cause).isSkippable then .ok none else .error (.archive cause) := by
  have held : holdsMember fs archive name =
      if (Failure.archive cause).isSkippable then .ok false else .error (.archive cause) := by
    unfold holdsMember
    rw [FileSystem.readArchive_of_refused read refused]
  unfold located
  rw [FileSystem.isDirectory_of_read read, FileSystem.isFile_of_read read, held]
  cases (Failure.archive cause).isSkippable <;> rfl

namespace Replies

variable [Runtime]

theorem searched_of_passed (passed : ∀ name, Search.located fs name archive = .ok none) :
    p.searched fs (archive :: entries) = p.searched fs entries := by
  have locate : searchedLocation fs (archive :: entries) p = searchedLocation fs entries p := by
    funext name
    unfold searchedLocation
    rw [List.findSomeM?_cons, passed]
    rfl
  unfold searched
  rw [locate]
  simp only [List.mapM_cons, passed, ok_bind, pure_bind]
  congr 1
  funext name
  refine bind_congr fun locations => ?_
  split
  · rfl
  · rw [bind_assoc]
    rfl

variable {e : Failure} (stops : ∀ name, Search.located fs name archive = .error e)

include stops

theorem locate_of_stopped (absent : p.locate name = .ok none) (named : Search.plainName name ≠ []) :
    (p.searched fs (archive :: entries)).locate name = .error e := by
  rw [locate_of_open absent named, List.findSomeM?_cons, stops]
  rfl

theorem enumerate_of_stopped {shown : List Location} (listed : p.enumerate name = .ok shown)
    (named : Search.plainName name ≠ []) :
    (p.searched fs (archive :: entries)).enumerate name = .error e := by
  simp [searched, listed, named, stops]

theorem resolve_of_stopped (absent : p.locate (ModuleName.plain name) = .ok none)
    (finalize : Bool) : (p.searched fs (archive :: entries)).resolve name finalize = .error e := by
  have failed : searchedLocation fs (archive :: entries) p (ModuleName.plain name) = .error e :=
    locate_of_stopped stops absent (Search.plainName_plain_ne_nil name)
  change [ModuleName.plain name, ModuleName.package name].findSomeM? _ = _
  rw [List.findSomeM?_cons]
  unfold Search.moduleIn
  rw [failed]
  rfl

end Replies

/-- Whether `whole` fails with `e` at every question that `before` leaves open, and answers all others
as `without` does. -/
structure Replies.StopsAfter (before : Replies) (e : Failure) (whole without : Replies) : Prop where
  locate : ∀ name, before.locate name = .ok none → Search.plainName name ≠ [] →
    whole.locate name = .error e
  locate_settled : ∀ name, before.locate name ≠ .ok none ∨ Search.plainName name = [] →
    whole.locate name = without.locate name
  enumerate : ∀ name shown, before.enumerate name = .ok shown → Search.plainName name ≠ [] →
    whole.enumerate name = .error e
  enumerate_settled : ∀ name,
    (∀ shown, before.enumerate name ≠ .ok shown) ∨ Search.plainName name = [] →
      whole.enumerate name = without.enumerate name
  resolve : ∀ name finalize, before.locate (ModuleName.plain name) = .ok none →
    whole.resolve name finalize = .error e
  resolve_settled : ∀ name finalize, before.locate (ModuleName.plain name) ≠ .ok none →
    whole.resolve name finalize = without.resolve name finalize

theorem Replies.stopsAfter_of_stopped [Runtime] {e : Failure}
    (stops : ∀ name, Search.located fs name archive = .error e) :
    p.StopsAfter e (p.searched fs (archive :: entries)) (p.searched fs entries) where
  locate _ := locate_of_stopped stops
  locate_settled _ settled := by rw [locate_of_settled settled, locate_of_settled settled]
  enumerate _ _ := enumerate_of_stopped stops
  enumerate_settled _ settled := by rw [enumerate_of_settled settled, enumerate_of_settled settled]
  resolve _ finalize absent := resolve_of_stopped stops absent finalize
  resolve_settled _ _ settled := by rw [resolve_of_settled settled, resolve_of_settled settled]

end

/-- A search passes over a file that is no archive it can read, unless an entry of the archive's
directory is for a newer version of the format or has a name without meaning. Such an archive stops
the search: what the entries before it leave open fails with the cause of the refusal. -/
theorem refused_archive_passed_or_stops [Runtime] {fs : FileSystem} {s : Store}
    (reached : Reachable fs s) (parent : Resolver) (before after : List Path) {archive : Path} {bytes : Bytes}
    {cause : Archive.Error} (file : fs.read archive = .ok bytes)
    (refused : Archive.parse bytes = .error cause) :
    let searching (entries : List Path) := (Resolver.search entries parent).answers fs s
    let whole := searching (before ++ archive :: after)
    let without := searching (before ++ after)
    (¬ cause.StopsSearch → whole = without) ∧
      (cause.StopsSearch → (searching before).StopsAfter (.archive cause) whole without) := by
  intro searching whole without
  have located := Search.located_of_refused file refused
  simp only [whole, without, searching, Resolver.answers_eq_replies reached.faithful,
    Resolver.replies, Replies.searched_append]
  refine ⟨fun passed => ?_, fun stops => ?_⟩
  · have skippable := (Failure.isSkippable_iff cause).mpr passed
    exact Replies.searched_of_passed fun name => by rw [located, if_pos skippable]
  · have unskippable : ¬ (Failure.archive cause).isSkippable = true :=
      fun skippable => (Failure.isSkippable_iff cause).mp skippable stops
    exact Replies.stopsAfter_of_stopped fun name => by rw [located, if_neg unskippable]

/-! ## Two archives that stop a search -/

namespace Refused

open scoped MaskedPath.Standard

def newer : Bytes :=
  Packaged.bytesOf ("PK\x01\x02\x14\x00@\x00\x00\x00\x00\x00\x00\x00!\x00" ++
    "\x00\x00\x00\x00\x00\x00\x00\x00\x00\x00\x00\x00\x01\x00\x00\x00" ++
    "\x00\x00\x00\x00\x00\x00\x00\x00\x00\x00\x00\x00\x00\x00x") ++
  Packaged.bytesOf "PK\x05\x06\x00\x00\x00\x00\x01\x00\x01\x00/\x00\x00\x00\x00\x00\x00\x00\x00\x00"

def misnamed : Bytes :=
  Packaged.bytesOf ("PK\x01\x02\x14\x00\x14\x00\x00\x08\x00\x00\x00\x00!\x00" ++
    "\x00\x00\x00\x00\x00\x00\x00\x00\x00\x00\x00\x00\x01\x00\x00\x00" ++
    "\x00\x00\x00\x00\x00\x00\x00\x00\x00\x00\x00\x00\x00\x00\xff") ++
  Packaged.bytesOf "PK\x05\x06\x00\x00\x00\x00\x01\x00\x01\x00/\x00\x00\x00\x00\x00\x00\x00\x00\x00"

def misnaming : Archive.Error := .badName (.notUtf8 ⟨[0xff], 0, .invalidStart⟩)

def text : Bytes := Packaged.bytesOf "text"

theorem parse_newer : Archive.parse newer = .error (.newerVersion 64) := by
  cbv

theorem parse_misnamed : Archive.parse misnamed = .error misnaming := by
  cbv

theorem parse_text : Archive.parse text = .error .notAnArchive := by
  cbv

def searching (bytes : Bytes) (entries : List Path) : Replies :=
  (Resolver.search entries .nowhere).answers (OneArchive.files bytes) .empty

def Stops (bytes : Bytes) (cause : Archive.Error) : Prop :=
  (OneArchive.files bytes).isFile OneArchive.entry = .ok true ∧
    Archive.parse bytes = .error cause ∧
    ((searching bytes [OneArchive.entry]).locate ['x'] = .error (.archive cause) ∧
      (searching bytes []).locate ['x'] = .ok none) ∧
    ((searching bytes [OneArchive.entry]).enumerate ['x'] = .error (.archive cause) ∧
      (searching bytes []).enumerate ['x'] = .ok []) ∧
    (searching bytes [OneArchive.entry]).resolve ['x'] false = .error (.archive cause) ∧
      (searching bytes []).resolve ['x'] false = .ok none

theorem stops_of_refused {bytes : Bytes} {cause : Archive.Error}
    (refused : Archive.parse bytes = .error cause) (stops : cause.StopsSearch) :
    Stops bytes cause := by
  have unskippable : ¬ (Failure.archive cause).isSkippable = true :=
    fun skippable => (Failure.isSkippable_iff cause).mp skippable stops
  let replies (entries : List Path) := Replies.nothing.searched (OneArchive.files bytes) entries
  have stopped : Replies.nothing.StopsAfter (.archive cause) (replies [OneArchive.entry])
      (replies []) := by
    refine Replies.stopsAfter_of_stopped fun name => ?_
    rw [Search.located_of_refused (OneArchive.read_entry bytes) refused, if_neg unskippable]
  have answers (entries : List Path) : searching bytes entries = replies entries :=
    Resolver.answers_eq_replies Store.faithful_empty _
  unfold Stops
  rw [answers, answers]
  exact ⟨OneArchive.isFile_entry bytes, refused, ⟨stopped.locate _ rfl (by decide), rfl⟩,
    ⟨stopped.enumerate _ [] rfl (by decide), rfl⟩, stopped.resolve _ false rfl, rfl⟩

end Refused

open scoped MaskedPath.Standard in
theorem refused_archive_passed_or_stops_module :
    let searching := Refused.searching
    searching Refused.text [OneArchive.entry] = searching Refused.text [] ∧
      (searching Refused.newer []).StopsAfter (.archive (.newerVersion 64))
        (searching Refused.newer [OneArchive.entry]) (searching Refused.newer []) := by
  intro searching
  obtain ⟨passed, -⟩ := refused_archive_passed_or_stops (.start : Reachable _ _) .nowhere [] []
    (OneArchive.read_entry Refused.text) Refused.parse_text
  obtain ⟨-, stops⟩ := refused_archive_passed_or_stops (.start : Reachable _ _) .nowhere [] []
    (OneArchive.read_entry Refused.newer) Refused.parse_newer
  exact ⟨passed (by simp [Archive.Error.StopsSearch]), stops (.inl ⟨64, rfl⟩)⟩

/-- A search fails for a resource and for a module that nothing has, if a refused archive of either
kind is on its path, and answers that there is none without the archive. -/
theorem newer_and_misnamed_archives_stop_search :
    Refused.Stops Refused.newer (.newerVersion 64) ∧
      Refused.Stops Refused.misnamed Refused.misnaming :=
  ⟨Refused.stops_of_refused Refused.parse_newer (.inl ⟨64, rfl⟩),
    Refused.stops_of_refused Refused.parse_misnamed (.inr ⟨_, rfl⟩)⟩

end MaskedPath
