import Mathlib
import MaskedPath.Proofs.Locations

namespace MaskedPath

namespace Location

/-! ## Names that are no Unicode text -/

theorem ofChar_injective {c d : Char} (same : CodePoint.ofChar c = CodePoint.ofChar d) : c = d := by
  have narrowed := congrArg CodePoint.toChar? same
  simpa using narrowed

theorem wideMemberName_wide (name : Text) : wideMemberName (wide name) = wide (memberName name) := by
  induction name with
  | nil => rfl
  | cons c name ih =>
      unfold wideMemberName memberName wide at *
      by_cases slash : c = '/'
      · simp [slash, ih]
      · have other : CodePoint.ofChar c ≠ .ofChar '/' := fun same => slash (ofChar_injective same)
        simp [slash, other]

theorem ofWideMemberAt_wide (archive : Location) (name : Text) :
    ofWideMemberAt archive (wide name) = wide (ofMemberAt archive name) := by
  unfold ofWideMemberAt ofMemberAt
  rw [wideMemberName_wide]
  simp [wide]

/-! ## Members of archives -/

theorem wideMemberName_wideMemberName (name : WideText) :
    wideMemberName (wideMemberName name) = wideMemberName name :=
  List.dropWhile_idempotent _ name

theorem splitWideArchive?_ofWideMemberAt {archive : Location} (noMark : '!' ∉ archive)
    (name : WideText) :
    splitWideArchive? (ofWideMemberAt archive name) = some (wide archive, wideMemberName name) := by
  have shape : ofWideMemberAt archive name = wide ['j', 'a', 'r'] ++ CodePoint.ofChar ':' ::
      (wide archive ++ CodePoint.ofChar '!' :: CodePoint.ofChar '/' :: wideMemberName name) := by
    simp [ofWideMemberAt, archivePrefix, wide]
  have scheme : cutAt? (· = .ofChar ':') (ofWideMemberAt archive name) = some (wide ['j', 'a', 'r'],
      wide archive ++ CodePoint.ofChar '!' :: CodePoint.ofChar '/' :: wideMemberName name) := by
    rw [shape]
    exact cutAt?_append (by decide) (decide_eq_true rfl)
  have archiveEnd : cutAt? (· = .ofChar '!')
      (wide archive ++ CodePoint.ofChar '!' :: CodePoint.ofChar '/' :: wideMemberName name) =
        some (wide archive, CodePoint.ofChar '/' :: wideMemberName name) := by
    apply cutAt?_append
    · intro c member
      obtain ⟨d, inside, rfl⟩ := List.mem_map.mp member
      have different : d ≠ '!' := fun same => noMark (same ▸ inside)
      simpa using fun same => different (ofChar_injective same)
    · exact decide_eq_true rfl
  have slash : wideMemberName (CodePoint.ofChar '/' :: wideMemberName name) = wideMemberName name :=
    wideMemberName_wideMemberName name
  have known : lowerAscii ['j', 'a', 'r'] ∈ archiveSchemes := by decide
  unfold splitWideArchive?
  rw [scheme]
  simp only [Option.bind_eq_bind, Option.bind_some, narrow?_wide, known, if_true, archiveEnd, slash]
  rfl

/-! ## Files -/

theorem splitArchive?_ofResolved (p : Path) : splitArchive? (ofResolved p) = none := by
  have scheme : cutAt? (· = ':') (ofResolved p) =
      some (['f', 'i', 'l', 'e'], '/' :: '/' :: Percent.encode p.render) := by
    simp [ofResolved, filePrefix, cutAt?]
  have unknown : lowerAscii ['f', 'i', 'l', 'e'] ∉ archiveSchemes := by decide
  unfold splitArchive?
  rw [scheme]
  simp [unknown]

theorem ofResolved_injective {p q : Path} (absolute : p.anchor ≠ .relative)
    (absolute' : q.anchor ≠ .relative) (same : ofResolved p = ofResolved q) : p = q := by
  have back := path?_ofResolved absolute
  rw [same, path?_ofResolved absolute'] at back
  exact (Option.some.inj (Except.ok.inj back)).symm

end Location

open Location

/-- The location of a file is no location in an archive and leads back to the file's resolved path;
that of a member leads back to the archive's location, which is its key, and to the member's name. Two
archives have one key exactly when their paths resolve to the same path. -/
theorem location_leads_back {fs : FileSystem} {p : Path} {location : Location}
    (located : ofFile fs p = .ok location) :
    (∃ q, fs.resolve p = .ok q ∧ path? location = .ok (some q)) ∧
      splitArchive? location = none ∧
      (∀ name : WideText,
        splitWideArchive? (ofWideMemberAt location name) =
            some (wide location, wideMemberName name) ∧
          wideArchiveKey? (ofWideMemberAt location name) = some (wide location)) ∧
      (∀ name : Text, ofMember fs p name = .ok (ofMemberAt location name) ∧
        ofWideMemberAt location (wide name) = wide (ofMemberAt location name) ∧
        splitArchive? (ofMemberAt location name) = some (location, memberName name) ∧
        archiveKey? (ofMemberAt location name) = some location) ∧
      ∀ other location', ofFile fs other = .ok location' → ∀ name name',
        (archiveKey? (ofMemberAt location name) = archiveKey? (ofMemberAt location' name') ↔
          fs.resolve p = fs.resolve other) := by
  obtain ⟨q, resolved, rfl⟩ := ofFile_eq_ok.mp located
  have absolute := (FileSystem.anchor_of_resolve resolved).1
  have noMark := mark_not_mem_ofResolved q
  refine ⟨⟨q, resolved, path?_ofResolved absolute⟩, splitArchive?_ofResolved q, fun name => ?_,
    fun name => ?_, fun other location' located' name name' => ?_⟩
  · have split := splitWideArchive?_ofWideMemberAt noMark name
    refine ⟨split, ?_⟩
    unfold wideArchiveKey?
    rw [split]
    rfl
  · refine ⟨?_, ofWideMemberAt_wide _ name, splitArchive?_ofMemberAt noMark name,
      archiveKey?_ofResolved q name⟩
    unfold ofMember
    rw [located]
    rfl
  · obtain ⟨q', resolved', rfl⟩ := ofFile_eq_ok.mp located'
    have absolute' := (FileSystem.anchor_of_resolve resolved').1
    rw [archiveKey?_ofResolved, archiveKey?_ofResolved, resolved, resolved']
    constructor
    · intro same
      rw [ofResolved_injective absolute absolute' (Option.some.inj same)]
    · intro same
      rw [Except.ok.inj same]

/-! ## A path of signs -/

namespace Signs

def archive : Path := .parse "a!b%41#?: é.jar".toList

def files : FileSystem where
  nodes := [([['t'], "a!b%41#?: é.jar".toList], .file []), ([['t'], ['l']], .link ['.']),
    ([['t']], .directory)]
  home := [['t']]

def key : Location := "file:///t/a%21b%2541%23%3F%3A%20%C3%A9.jar".toList

theorem ofFile_archive : ofFile files archive = .ok key := by
  cbv

theorem ofFile_linked : ofFile files (.parse "l/a!b%41#?: é.jar".toList) = .ok key := by
  cbv

end Signs

theorem location_leads_back_signs :
    ofFile Signs.files Signs.archive = .ok Signs.key ∧
      (∃ q, Signs.files.resolve Signs.archive = .ok q ∧ path? Signs.key = .ok (some q)) ∧
      splitWideArchive? (ofWideMemberAt Signs.key (wideOf "//x!/y:")) =
        some (wide Signs.key, wideOf "x!/y:") ∧
      Signs.files.resolve Signs.archive =
        Signs.files.resolve (.parse "l/a!b%41#?: é.jar".toList) := by
  obtain ⟨back, -, members, -, keys⟩ := location_leads_back Signs.ofFile_archive
  refine ⟨Signs.ofFile_archive, back, (members _).1, ?_⟩
  exact (keys _ _ Signs.ofFile_linked [] []).mp rfl

end MaskedPath
