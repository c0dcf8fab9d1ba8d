import MaskedPath.Proofs.Meaning

namespace MaskedPath.Archive

/-! ## Directories -/

def Error.IsOfDirectory : Error → Prop
  | .notAnArchive | .spansDisks | .badDirectoryOffset | .truncatedDirectory | .badDirectoryMagic
  | .corruptExtra _ _ | .missingWideField _ | .badName _ | .newerVersion _ => True
  | _ => False

variable {e : Error}

theorem isOfDirectory_of_endRecord {bytes : Bytes} (failed : endRecord bytes = .error e) :
    e.IsOfDirectory := by
  unfold endRecord at failed
  grind [Error.IsOfDirectory]

theorem isOfDirectory_of_takeWide {name : String} {isSign : Bool} {n : Nat} {data : Bytes}
    (failed : takeWide name isSign n data = .error e) : e.IsOfDirectory := by
  unfold takeWide at failed
  grind [Error.IsOfDirectory]

theorem isOfDirectory_of_applyWide {n : WideNumbers} {data : Bytes}
    (failed : applyWide n data = .error e) : e.IsOfDirectory := by
  unfold applyWide at failed
  rcases bind_eq_error.mp failed with failed | ⟨_, _, failed⟩
  · exact isOfDirectory_of_takeWide failed
  rcases bind_eq_error.mp failed with failed | ⟨_, _, failed⟩
  · exact isOfDirectory_of_takeWide failed
  rcases bind_eq_error.mp failed with failed | ⟨_, _, failed⟩
  · exact isOfDirectory_of_takeWide failed
  · cases failed

theorem isOfDirectory_of_applyExtra {n : WideNumbers} {extra : Bytes}
    (failed : applyExtra n extra = .error e) : e.IsOfDirectory := by
  fun_induction applyExtra n extra with
  | case1 n extra short => cases failed
  | case2 n extra long tag size cut =>
      cases failed
      trivial
  | case3 n extra long tag size whole rest wide ih =>
      rcases bind_eq_error.mp failed with failed | ⟨widened, _, failed⟩
      · exact isOfDirectory_of_applyWide failed
      · exact ih widened failed
  | case4 n extra long tag size whole rest other ih => exact ih n failed

theorem isOfDirectory_of_entryMember {shift : Int} {entry name extra : Bytes}
    (failed : entryMember shift entry name extra = .error e) : e.IsOfDirectory := by
  unfold entryMember at failed
  rcases bind_eq_error.mp failed with failed | ⟨decoded, _, failed⟩
  · cases given : decodeName ((field entry 8 2).testBit utf8Flag) name with
    | error cause =>
        rw [given] at failed
        cases failed
        trivial
    | ok name =>
        rw [given] at failed
        cases failed
  · simp only [throw_eq_error, error_bind] at failed
    split at failed
    · cases failed
      trivial
    rcases bind_eq_error.mp failed with failed | ⟨numbers, _, failed⟩
    · exact isOfDirectory_of_applyExtra failed
    · cases failed

theorem isOfDirectory_of_readEntries {shift : Int} {size taken : Nat} {data : Bytes}
    (failed : readEntries shift size taken data = .error e) : e.IsOfDirectory := by
  fun_induction readEntries shift size taken data with
  | case1 => cases failed
  | case2 =>
      cases failed
      trivial
  | case3 =>
      cases failed
      trivial
  | case4 taken data more whole marked nameLength extraLength commentLength name extra ih =>
      rcases bind_eq_error.mp failed with failed | ⟨member, _, failed⟩
      · exact isOfDirectory_of_entryMember failed
      rcases bind_eq_error.mp failed with failed | ⟨members, _, failed⟩
      · exact ih failed
      · cases failed

theorem isOfDirectory_of_parse {bytes : Bytes} (failed : parse bytes = .error e) :
    e.IsOfDirectory := by
  unfold parse at failed
  rcases bind_eq_error.mp failed with failed | ⟨record, _, failed⟩
  · exact isOfDirectory_of_endRecord failed
  simp only [throw_eq_error, error_bind] at failed
  split at failed
  · cases failed
    trivial
  rcases bind_eq_error.mp failed with failed | ⟨members, _, failed⟩
  · exact isOfDirectory_of_readEntries failed
  · cases failed

/-! ## Headers -/

variable {a : Archive} {m : Member} {subject : Text}

def headerOf (a : Archive) (m : Member) : Bytes :=
  slice a.bytes m.headerOffset.toNat headerLength

def headerName (a : Archive) (m : Member) : Bytes :=
  slice a.bytes (m.headerOffset.toNat + headerLength) (field (a.headerOf m) 26 2)

/-- Whether the header of a member is read up to its name, and the name has no meaning in its
encoding. -/
structure Misnamed (a : Archive) (m : Member) (cause : DecodingError) : Prop where
  nonneg : 0 ≤ m.headerOffset
  reachable : m.headerOffset < offsetLimit
  whole : headerLength ≤ (a.headerOf m).length
  marked : headerMark <+: a.headerOf m
  unpatched : m.flags.testBit patchedFlag = false
  weak : m.flags.testBit strongFlag = false
  name : decodeName ((field (a.headerOf m) 6 2).testBit utf8Flag) (a.headerName m) = .error cause

theorem isInReach_of_nonneg {offset : Int} (nonneg : 0 ≤ offset) (near : offset < offsetLimit) :
    isInReach offset = true := by
  have positive : 0 < offsetLimit := by decide
  simp only [isInReach, Bool.and_eq_true, decide_eq_true_eq]
  omega

theorem dataPlace_eq_headerOutOfReach_iff :
    a.dataPlace m subject = .error .headerOutOfReach ↔ isInReach m.headerOffset = false := by
  unfold dataPlace
  simp only [throw_eq_error, error_bind, pure_eq_ok, ite_eq_iff, Except.error.injEq, reduceCtorEq,
    and_false, and_true, bind_eq_error, mapError_eq_error, exists_false, or_false, Bool.not_eq_true']

theorem dataPlace_eq_badName_iff {cause : DecodingError} :
    a.dataPlace m subject = .error (.badName cause) ↔ a.Misnamed m cause := by
  unfold dataPlace
  simp only [throw_eq_error, error_bind, pure_eq_ok, ite_eq_iff,
    Except.error.injEq, reduceCtorEq, and_false, false_or, bind_eq_error, mapError_eq_error,
    exists_false, or_false, Error.badName.injEq, exists_eq_right]
  constructor
  · rintro ⟨near, nonneg, whole, marked, unpatched, weak, name⟩
    simp only [isInReach, Bool.not_eq_true', Bool.not_eq_false, Bool.and_eq_true,
      decide_eq_true_eq] at near
    exact ⟨by omega, near.2, by simpa [headerOf] using whole, by simpa [headerOf] using marked,
      by simpa using unpatched, by simpa using weak, name⟩
  · rintro ⟨nonneg, near, whole, marked, unpatched, weak, name⟩
    exact ⟨by simp [isInReach_of_nonneg nonneg near], by omega, by simpa [headerOf] using whole,
      by simpa [headerOf] using marked, by simpa using unpatched, by simpa using weak, name⟩

/-! ## Data -/

theorem dataPlace_ne_decompressor {raised : Raised} :
    a.dataPlace m subject ≠ .error (.decompressor raised) := by
  unfold dataPlace
  simp [throw_eq_error, ite_eq_iff, bind_eq_error, mapError_eq_error]

variable [Runtime]

def DecompressionFails (a : Archive) (m : Member) (subject : Text) (e : Raised) : Prop :=
  ∃ place, a.dataPlace m subject = .ok place ∧
    (slice a.bytes place m.packedSize = [] → m.packedSize = 0) ∧
    (m.method = 12 ∧ Runtime.bzip2 (slice a.bytes place m.packedSize) = .error e ∨
      m.method = 14 ∧ Runtime.lzma (slice a.bytes place m.packedSize) = .error e)

theorem unpack_eq_decompressor_iff {method : Nat} {packed : Bytes} {raised : Raised} :
    unpack method packed = .error (.decompressor raised) ↔
      method = 12 ∧ Runtime.bzip2 packed = .error raised ∨
        method = 14 ∧ Runtime.lzma packed = .error raised := by
  unfold unpack
  split
  · simp
  · split <;> simp
  · simp [mapError_eq_error]
  · simp [mapError_eq_error]
  · rename_i stored deflated bzip2 lzma
    refine iff_of_false (by simp) ?_
    rintro (⟨same, -⟩ | ⟨same, -⟩)
    · exact bzip2 same
    · exact lzma same

theorem decompressor_of_unpack {method : Nat} {packed : Bytes}
    (failed : unpack method packed = .error e)
    (escapes : (Failure.archive e).isUnreadable = false) : ∃ raised, e = .decompressor raised := by
  unfold unpack at failed
  split at failed
  · cases failed
  · split at failed <;> cases failed
    cases escapes
  · obtain ⟨raised, -, rfl⟩ := mapError_eq_error.mp failed
    exact ⟨raised, rfl⟩
  · obtain ⟨raised, -, rfl⟩ := mapError_eq_error.mp failed
    exact ⟨raised, rfl⟩
  · cases failed
    cases escapes

theorem extract_eq_decompressor_iff {raised : Raised} :
    a.extract m subject = .error (.decompressor raised) ↔
      a.DecompressionFails m subject raised := by
  unfold extract DecompressionFails
  simp only [← unpack_eq_decompressor_iff, throw_eq_error, error_bind, pure_eq_ok, ite_eq_iff,
    Except.error.injEq, reduceCtorEq, and_false, or_false, bind_eq_error, false_or, exists_false,
    dataPlace_ne_decompressor]
  refine exists_congr fun place => and_congr Iff.rfl (and_congr ?_ Iff.rfl)
  grind [List.length_nil, List.length_eq_zero_iff]

theorem extract_eq_error_iff (escapes : (Failure.archive e).isUnreadable = false) :
    a.extract m subject = .error e ↔ a.dataPlace m subject = .error e ∨
      ∃ raised, e = .decompressor raised ∧ a.DecompressionFails m subject raised := by
  constructor
  · intro failed
    by_cases decompressor : ∃ raised, e = .decompressor raised
    · obtain ⟨raised, rfl⟩ := decompressor
      exact .inr ⟨raised, rfl, extract_eq_decompressor_iff.mp failed⟩
    · unfold extract at failed
      rcases bind_eq_error.mp failed with failed | ⟨place, _, failed⟩
      · exact .inl failed
      -- what else is wrong with the data counts as unreadable
      · exfalso
        simp only [throw_eq_error, error_bind, pure_eq_ok, ite_eq_iff,
          Except.error.injEq, reduceCtorEq, and_false, or_false, bind_eq_error] at failed
        rcases failed with ⟨_, rfl⟩ | ⟨_, failed | ⟨content, _, ⟨_, rfl⟩ | ⟨_, _, rfl⟩⟩⟩
        · cases escapes
        · exact decompressor (decompressor_of_unpack failed escapes)
        · cases escapes
        · cases escapes
  · rintro (failed | ⟨raised, rfl, fails⟩)
    · unfold extract
      rw [failed]
      rfl
    · exact extract_eq_decompressor_iff.mpr fails

end MaskedPath.Archive
