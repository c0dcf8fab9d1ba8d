import MaskedPath.Location
import MaskedPath.Proofs.Paths
import MaskedPath.Proofs.Utf8
import Mathlib.Data.List.DropRight
import Mathlib.Data.List.TakeWhile

namespace MaskedPath

/-! ## Percent encoding -/

namespace Percent

def isPlain (c : Char) : Bool := (c.toNat < 128 && isKept c.toNat.toUInt8) || c == '%'

theorem forall_byte {p : UInt8 → Bool}
    (all : ((List.range 256).all fun n => p (UInt8.ofNat n)) = true) (b : UInt8) : p b = true := by
  have value : UInt8.ofNat b.toNat = b := UInt8.ofNat_toNat
  have holds := List.all_eq_true.mp all b.toNat (List.mem_range.mpr b.toNat_lt)
  rwa [value] at holds

theorem isPlain_encodeByte (b : UInt8) : ∀ c ∈ encodeByte b, isPlain c = true := by
  have all : (encodeByte b).all isPlain = true :=
    forall_byte (p := fun b => (encodeByte b).all isPlain) (by decide +kernel) b
  exact List.all_eq_true.mp all

theorem isPlain_encode (t : Text) : ∀ c ∈ encode t, isPlain c = true := by
  intro c member
  obtain ⟨b, -, inside⟩ := List.mem_flatMap.mp member
  exact isPlain_encodeByte b c inside

theorem isAscii_of_isPlain {c : Char} (plain : isPlain c = true) : isAscii c = true := by
  unfold isPlain at plain
  unfold isAscii
  rcases Bool.or_eq_true_iff.mp plain with kept | percent
  · exact (Bool.and_eq_true_iff.mp kept).1
  · rw [beq_iff_eq.mp percent]
    decide

theorem bytesOf_cons {c : Char} (kept : c ≠ '%') (rest : Text) :
    bytesOf (c :: rest) = c.toNat.toUInt8 :: bytesOf rest := by
  rcases rest with _ | ⟨d, _ | ⟨e, rest⟩⟩
  · rfl
  · rfl
  · rw [bytesOf, if_neg kept]

theorem bytesOf_escape {high low : Char} {b : UInt8} (digits : byte? high low = some b)
    (rest : Text) : bytesOf ('%' :: high :: low :: rest) = b :: bytesOf rest := by
  rw [bytesOf, if_pos rfl, digits]

theorem byte?_upperDigit (b : UInt8) :
    byte? (upperDigit (b.toNat / 16)) (upperDigit (b.toNat % 16)) = some b := by
  have all : (byte? (upperDigit (b.toNat / 16)) (upperDigit (b.toNat % 16)) == some b) = true :=
    forall_byte (p := fun b => byte? (upperDigit (b.toNat / 16)) (upperDigit (b.toNat % 16)) == some b)
      (by decide +kernel) b
  exact beq_iff_eq.mp all

theorem bytesOf_encodeByte (b : UInt8) (rest : Text) :
    bytesOf (encodeByte b ++ rest) = b :: bytesOf rest := by
  unfold encodeByte
  by_cases kept : isKept b = true
  · have all : (!isKept b || (Char.ofNat b.toNat != '%' && (Char.ofNat b.toNat).toNat.toUInt8 == b)) =
        true :=
      forall_byte (p := fun b => !isKept b ||
        (Char.ofNat b.toNat != '%' && (Char.ofNat b.toNat).toNat.toUInt8 == b)) (by decide +kernel) b
    simp only [kept, Bool.not_true, Bool.false_or, Bool.and_eq_true, bne_iff_ne, beq_iff_eq] at all
    rw [if_pos kept, List.singleton_append, bytesOf_cons all.1, all.2]
  · rw [if_neg kept]
    exact bytesOf_escape (byte?_upperDigit b) rest

theorem bytesOf_flatMap (bytes : Bytes) : bytesOf (bytes.flatMap encodeByte) = bytes := by
  induction bytes with
  | nil => rfl
  | cons b bytes ih => rw [List.flatMap_cons, bytesOf_encodeByte, ih]

theorem decode_of_ascii {t : Text} (ascii : ∀ c ∈ t, isAscii c = true) :
    decode t = Utf8.decodeReplacing (bytesOf t) := by
  cases t with
  | nil =>
      rw [decode, bytesOf, Utf8.decodeReplacing]
  | cons c t =>
      have rest : ∀ d ∈ t, isAscii d = true := fun d member => ascii d (List.mem_cons_of_mem _ member)
      rw [decode, if_pos (ascii c List.mem_cons_self), List.takeWhile_eq_self_iff.mpr rest,
        List.dropWhile_eq_nil_iff.mpr rest, decode, List.append_nil]

theorem decode_encode (t : Text) : decode (encode t) = t := by
  rw [decode_of_ascii fun c member => isAscii_of_isPlain (isPlain_encode t c member)]
  unfold encode
  rw [bytesOf_flatMap, Utf8.decodeReplacing_encode]

theorem encode_slash (t : Text) : encode ('/' :: t) = '/' :: encode t := rfl

end Percent

/-! ## URLs -/

namespace Url

theorem ne_of_isPlain {c d : Char} (plain : Percent.isPlain c = true)
    (special : Percent.isPlain d = false) : c ≠ d := by
  rintro rfl
  rw [plain] at special
  cases special

theorem before_of_not_mem {c : Char} {t : Text} (absent : c ∉ t) : before c t = t := by
  unfold before
  apply List.takeWhile_eq_self_iff.mpr
  intro d member
  have different : d ≠ c := fun same => absent (same ▸ member)
  simpa using different

theorem significant_file {t : Text} (plain : ∀ c ∈ t, Percent.isPlain c = true) :
    significant (Location.filePrefix ++ t) = Location.filePrefix ++ t := by
  have kept : ∀ c ∈ Location.filePrefix ++ t,
      (decide (c ≠ '\t' ∧ c ≠ '\r' ∧ c ≠ '\n')) = true := by
    intro c member
    rcases List.mem_append.mp member with front | back
    · have all : (Location.filePrefix.all fun c => decide (c ≠ '\t' ∧ c ≠ '\r' ∧ c ≠ '\n')) = true := by
        decide
      exact List.all_eq_true.mp all c front
    · have safe := plain c back
      simp only [decide_eq_true_eq]
      exact ⟨ne_of_isPlain safe (by decide), ne_of_isPlain safe (by decide),
        ne_of_isPlain safe (by decide)⟩
  unfold significant
  rw [show (Location.filePrefix ++ t).dropWhile (·.toNat ≤ 0x20) = Location.filePrefix ++ t from rfl]
  exact List.filter_eq_self.mpr kept

theorem parse_file {t : Text} (plain : ∀ c ∈ t, Percent.isPlain c = true) :
    parse (Location.filePrefix ++ '/' :: t) = .ok ⟨['f', 'i', 'l', 'e'], '/' :: t⟩ := by
  have plain' : ∀ c ∈ '/' :: t, Percent.isPlain c = true := by
    intro c member
    rcases List.mem_cons.mp member with rfl | later
    · decide
    · exact plain c later
  have absent : ∀ d, Percent.isPlain d = false → d ∉ '/' :: t :=
    fun d special member => ne_of_isPlain (plain' d member) special rfl
  have scheme : cutScheme (Location.filePrefix ++ '/' :: t) =
      (['f', 'i', 'l', 'e'], '/' :: '/' :: '/' :: t) := rfl
  have authority : cutAuthority ('/' :: '/' :: '/' :: t) = ([], '/' :: t) := rfl
  unfold parse
  rw [significant_file plain', scheme]
  dsimp only
  rw [authority]
  change Except.ok (Url.mk _ _) = _
  rw [before_of_not_mem (absent '#' (by decide)), before_of_not_mem (absent '?' (by decide))]

end Url

/-! ## Locations -/

namespace Location

theorem path?_ofResolved {p : Path} (absolute : p.anchor ≠ .relative) :
    path? (ofResolved p) = .ok (some p) := by
  obtain ⟨t, rooted⟩ : ∃ t, p.render = '/' :: t := by
    rw [Path.render_eq p fun relative => absurd relative absolute]
    cases anchor : p.anchor with
    | relative => exact absurd anchor absolute
    | root => exact ⟨_, rfl⟩
    | doubleRoot => exact ⟨_, rfl⟩
  unfold path? ofResolved
  rw [rooted, Percent.encode_slash, Url.parse_file (Percent.isPlain_encode t)]
  change Except.ok (some (Path.parse (Percent.decode ('/' :: Percent.encode t)))) = _
  rw [← Percent.encode_slash, Percent.decode_encode, ← rooted, Path.parse_render]

theorem cutAt?_append {α : Type} {isEnd : α → Bool} {front rest : List α} {c : α}
    (inside : ∀ d ∈ front, isEnd d = false) (ends : isEnd c = true) :
    cutAt? isEnd (front ++ c :: rest) = some (front, rest) := by
  induction front with
  | nil => simp [cutAt?, ends]
  | cons d front ih =>
      have later := ih fun e member => inside e (List.mem_cons_of_mem _ member)
      simp [cutAt?, inside d List.mem_cons_self, later]

theorem memberName_memberName (name : Text) : memberName (memberName name) = memberName name :=
  List.dropWhile_idempotent _ name

theorem splitArchive?_ofMemberAt {archive : Location} (noMark : '!' ∉ archive) (name : Text) :
    splitArchive? (ofMemberAt archive name) = some (archive, memberName name) := by
  have scheme : cutAt? (· = ':') (ofMemberAt archive name) =
      some (['j', 'a', 'r'], archive ++ '!' :: '/' :: memberName name) := by
    unfold ofMemberAt archivePrefix
    simp [cutAt?]
  have archiveEnd : cutAt? (· = '!') (archive ++ '!' :: '/' :: memberName name) =
      some (archive, '/' :: memberName name) := by
    apply cutAt?_append
    · intro c member
      have different : c ≠ '!' := fun same => noMark (same ▸ member)
      simpa using different
    · simp
  have known : lowerAscii ['j', 'a', 'r'] ∈ archiveSchemes := by decide
  have slash : memberName ('/' :: memberName name) = memberName name := memberName_memberName name
  unfold splitArchive?
  rw [scheme]
  simp only [bind, Option.bind, if_pos known, archiveEnd, slash]
  rfl

theorem archiveKey?_ofMemberAt {archive : Location} (noMark : '!' ∉ archive) (name : Text) :
    archiveKey? (ofMemberAt archive name) = some archive := by
  unfold archiveKey?
  rw [splitArchive?_ofMemberAt noMark]
  rfl

theorem mark_not_mem_ofResolved (p : Path) : '!' ∉ ofResolved p := by
  intro member
  rcases List.mem_append.mp member with front | back
  · revert front
    decide
  · exact Url.ne_of_isPlain (Percent.isPlain_encode _ _ back) (by decide) rfl

theorem archiveKey?_ofResolved (p : Path) (name : Text) :
    archiveKey? (ofMemberAt (ofResolved p) name) = some (ofResolved p) :=
  archiveKey?_ofMemberAt (mark_not_mem_ofResolved p) name

variable {fs : FileSystem}

theorem ofFile_eq_ok {p : Path} {location : Location} :
    ofFile fs p = .ok location ↔ ∃ q, fs.resolve p = .ok q ∧ location = ofResolved q := by
  unfold ofFile
  cases fs.resolve p <;> simp [Except.map, eq_comm]

theorem ofMember_eq_ok {archive : Path} {entry : Text} {location : Location}
    (inside : ofMember fs archive entry = .ok location) :
    ∃ p, fs.resolve archive = .ok p ∧ location = ofMemberAt (ofResolved p) entry := by
  unfold ofMember at inside
  cases located : ofFile fs archive with
  | error e => simp [located, Except.map] at inside
  | ok key =>
      simp only [located, Except.map, Except.ok.injEq] at inside
      obtain ⟨p, resolved, rfl⟩ := ofFile_eq_ok.mp located
      exact ⟨p, resolved, inside.symm⟩

end Location

theorem FileSystem.Resolution.anchor_path (fs : FileSystem) (r : Resolution) :
    (r.path fs).anchor ≠ .relative := by
  cases r with
  | done spot => exact fun relative => by cases relative
  | loop anchor names => cases anchor <;> exact fun relative => by cases relative

theorem FileSystem.anchor_of_resolve {fs : FileSystem} {p q : Path}
    (resolved : fs.resolve p = .ok q) : q.anchor ≠ .relative ∧ '\x00' ∉ p.render := by
  unfold resolve at resolved
  dsimp only at resolved
  split_ifs at resolved with nul
  refine ⟨?_, nul⟩
  split at resolved
  · cases resolved
  · rw [← Except.ok.inj resolved]
    exact Resolution.anchor_path fs _

theorem FileSystem.read_eq_nul_iff {fs : FileSystem} {p : Path} :
    fs.read p = .error .nul ↔ '\x00' ∈ p.render := by
  unfold FileSystem.read
  by_cases nul : '\x00' ∈ p.render
  · simp [nul]
  · simp only [nul, if_false, iff_false]
    split
    · split <;> simp
    all_goals simp

end MaskedPath
