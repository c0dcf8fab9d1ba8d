import MaskedPath.Text.Utf8
import Mathlib.Tactic.SplitIfs

namespace MaskedPath.Utf8

theorem toNat_ofNat {n : Nat} (small : n < 256) : (UInt8.ofNat n).toNat = n :=
  UInt8.toNat_ofNat_of_lt' small

theorem continuation?_tail {n : Nat} (small : n < 64) :
    continuation? (UInt8.ofNat (n + 0x80)) = some n := by
  have value : (UInt8.ofNat (n + 0x80)).toNat = n + 0x80 := toNat_ofNat (by omega)
  unfold continuation?
  simp only [UInt8.le_iff_toNat_le, UInt8.lt_iff_toNat_lt, value]
  rw [if_pos ⟨by simp, by simp; omega⟩, Nat.add_sub_cancel]

theorem second?_tail {a b : Nat} (small : a < 256) (tail : b < 64)
    (allowed : ¬ ((a = 0xe0 ∧ b < 0x20) ∨ (a = 0xed ∧ 0x20 ≤ b) ∨ (a = 0xf0 ∧ b < 0x10) ∨
      (a = 0xf4 ∧ 0x10 ≤ b))) :
    second? (UInt8.ofNat a) (UInt8.ofNat (b + 0x80)) = some b := by
  have first : (UInt8.ofNat a).toNat = a := toNat_ofNat small
  have next : (UInt8.ofNat (b + 0x80)).toNat = b + 0x80 := toNat_ofNat (by omega)
  unfold second?
  simp only [UInt8.le_iff_toNat_le, UInt8.lt_iff_toNat_lt, ← UInt8.toNat_inj, first, next]
  rw [if_neg, continuation?_tail tail]
  simp
  omega

theorem front_one {n : Nat} (small : n < 0x80) (rest : Bytes) :
    front (UInt8.ofNat n) rest = .character (Char.ofNat n) 0 := by
  have value : (UInt8.ofNat n).toNat = n := toNat_ofNat (by omega)
  unfold front
  simp only [UInt8.lt_iff_toNat_lt, value]
  rw [if_pos (by simpa using small)]

theorem front_two {a b : Nat} (low : 2 ≤ a) (high : a < 32) (tail : b < 64) (rest : Bytes) :
    front (UInt8.ofNat (a + 0xc0)) (UInt8.ofNat (b + 0x80) :: rest) =
      .character (Char.ofNat (a * 64 + b)) 1 := by
  have value : (UInt8.ofNat (a + 0xc0)).toNat = a + 0xc0 := toNat_ofNat (by omega)
  have next := second?_tail (show a + 0xc0 < 256 by omega) tail (by omega)
  unfold front
  simp only [UInt8.lt_iff_toNat_lt, UInt8.le_iff_toNat_le, value, next]
  rw [if_neg (by simp), if_neg (by simp; omega), if_pos (by simp; omega), Nat.add_sub_cancel]

theorem front_three {a b c : Nat} (high : a < 16) (tail : b < 64) (tail' : c < 64)
    (shortest : a = 0 → 0x20 ≤ b) (scalar : a = 13 → b < 0x20) (rest : Bytes) :
    front (UInt8.ofNat (a + 0xe0)) (UInt8.ofNat (b + 0x80) :: UInt8.ofNat (c + 0x80) :: rest) =
      .character (Char.ofNat ((a * 64 + b) * 64 + c)) 2 := by
  have value : (UInt8.ofNat (a + 0xe0)).toNat = a + 0xe0 := toNat_ofNat (by omega)
  have next := second?_tail (show a + 0xe0 < 256 by omega) tail (by omega)
  unfold front
  simp only [UInt8.lt_iff_toNat_lt, UInt8.le_iff_toNat_le, value, next, continuation?_tail tail']
  rw [if_neg (by simp), if_neg (by simp; omega), if_neg (by simp), if_pos (by simp; omega),
    Nat.add_sub_cancel]

theorem front_four {a b c d : Nat} (high : a < 5) (tail : b < 64) (tail' : c < 64) (tail'' : d < 64)
    (shortest : a = 0 → 0x10 ≤ b) (scalar : a = 4 → b < 0x10) (rest : Bytes) :
    front (UInt8.ofNat (a + 0xf0))
        (UInt8.ofNat (b + 0x80) :: UInt8.ofNat (c + 0x80) :: UInt8.ofNat (d + 0x80) :: rest) =
      .character (Char.ofNat (((a * 64 + b) * 64 + c) * 64 + d)) 3 := by
  have value : (UInt8.ofNat (a + 0xf0)).toNat = a + 0xf0 := toNat_ofNat (by omega)
  have next := second?_tail (show a + 0xf0 < 256 by omega) tail (by omega)
  unfold front
  simp only [UInt8.lt_iff_toNat_lt, UInt8.le_iff_toNat_le, value, next, continuation?_tail tail',
    continuation?_tail tail'']
  rw [if_neg (by simp), if_neg (by simp; omega), if_neg (by simp), if_neg (by simp),
    Nat.add_sub_cancel]

theorem front_encodeChar (c : Char) (rest : Bytes) : ∃ first more,
    String.utf8EncodeChar c = first :: more ∧
      front first (more ++ rest) = .character c more.length := by
  have valid := c.valid
  have bound : c.val.toNat < 0xd800 ∨ (0xdfff < c.val.toNat ∧ c.val.toNat < 0x110000) := valid
  have same : Char.ofNat c.val.toNat = c := Char.ofNat_toNat c
  unfold String.utf8EncodeChar
  dsimp only
  generalize c.val.toNat = v at bound same ⊢
  subst same
  split_ifs with one two three
  · exact ⟨_, [], rfl, front_one (by omega) _⟩
  · refine ⟨_, [_], rfl, ?_⟩
    have joined : v / 64 % 32 * 64 + v % 64 = v := by omega
    have here := front_two (show 2 ≤ v / 64 % 32 by omega) (by omega) (show v % 64 < 64 by omega) rest
    rw [joined] at here
    exact here
  · refine ⟨_, [_, _], rfl, ?_⟩
    have joined : (v / 4096 % 16 * 64 + v / 64 % 64) * 64 + v % 64 = v := by omega
    have here := front_three (show v / 4096 % 16 < 16 by omega) (show v / 64 % 64 < 64 by omega)
      (show v % 64 < 64 by omega) (by omega) (by omega) rest
    rw [joined] at here
    exact here
  · refine ⟨_, [_, _, _], rfl, ?_⟩
    have joined : ((v / 262144 % 8 * 64 + v / 4096 % 64) * 64 + v / 64 % 64) * 64 + v % 64 = v := by
      omega
    have here := front_four (show v / 262144 % 8 < 5 by omega) (show v / 4096 % 64 < 64 by omega)
      (show v / 64 % 64 < 64 by omega) (show v % 64 < 64 by omega) (by omega) (by omega) rest
    rw [joined] at here
    exact here

theorem front_encode_cons (c : Char) (t : Text) : ∃ first more,
    encode (c :: t) = first :: (more ++ encode t) ∧
      front first (more ++ encode t) = .character c more.length := by
  obtain ⟨first, more, bytes, front_eq⟩ := front_encodeChar c (encode t)
  refine ⟨first, more, ?_, front_eq⟩
  unfold encode
  rw [List.flatMap_cons, bytes]
  rfl

theorem decodeReplacing_encode (t : Text) : decodeReplacing (encode t) = t := by
  induction t with
  | nil =>
      unfold decodeReplacing
      rfl
  | cons c t ih =>
      obtain ⟨first, more, bytes, front_eq⟩ := front_encode_cons c t
      rw [bytes, decodeReplacing, front_eq]
      simp only [List.drop_left, ih]

/-! ## What is decoded was encoded -/

theorem toNat_ofScalar {n : Nat} (scalar : n < 0xd800 ∨ 0xdfff < n ∧ n < 0x110000) :
    (Char.ofNat n).val.toNat = n := by
  have valid : n.isValidChar := scalar
  rw [Char.ofNat, dif_pos valid]
  rfl

theorem ofNat_eq {b : UInt8} {n : Nat} (value : b.toNat = n) : UInt8.ofNat n = b := by
  subst value
  exact UInt8.ofNat_toNat

theorem continuation?_eq_some {b : UInt8} {p : Nat} (payload : continuation? b = some p) :
    b.toNat = p + 0x80 ∧ p < 64 := by
  unfold continuation? at payload
  split at payload
  · rename_i range
    simp only [UInt8.le_iff_toNat_le, UInt8.lt_iff_toNat_lt, UInt8.reduceToNat] at range
    have value := Option.some.inj payload
    omega
  · cases payload

theorem second?_eq_some {a b : UInt8} {p : Nat} (payload : second? a b = some p) :
    (b.toNat = p + 0x80 ∧ p < 64) ∧ (a.toNat = 0xe0 → 0x20 ≤ p) ∧ (a.toNat = 0xed → p < 0x20) ∧
      (a.toNat = 0xf0 → 0x10 ≤ p) ∧ (a.toNat = 0xf4 → p < 0x10) := by
  unfold second? at payload
  split at payload
  · cases payload
  · rename_i allowed
    obtain ⟨value, small⟩ := continuation?_eq_some payload
    simp only [UInt8.le_iff_toNat_le, UInt8.lt_iff_toNat_lt, ← UInt8.toNat_inj, value,
      UInt8.reduceToNat] at allowed
    omega

/-- The bytes of a character at the front are its encoding. -/
theorem encodeChar_of_front {first : UInt8} {rest : Bytes} {c : Char} {more : Nat}
    (read : front first rest = .character c more) :
    String.utf8EncodeChar c = first :: rest.take more := by
  revert read
  unfold String.utf8EncodeChar
  dsimp only
  -- What remains are the branches that find a character, one for each length.
  fun_cases front first rest <;> intro read <;> cases read
  case case1 one =>
    simp only [UInt8.lt_iff_toNat_lt, UInt8.reduceToNat] at *
    rw [toNat_ofScalar (by omega), if_pos (by omega), ofNat_eq rfl]
    rfl
  case case5 wide start b₂ rest p₂ payload₂ two =>
    simp only [UInt8.lt_iff_toNat_lt, UInt8.le_iff_toNat_le, UInt8.reduceToNat] at *
    obtain ⟨⟨value₂, small₂⟩, -⟩ := second?_eq_some payload₂
    rw [toNat_ofScalar (by omega), if_neg (by omega), if_pos (by omega),
      ofNat_eq (b := first) (by omega), ofNat_eq (b := b₂) (by omega)]
    rfl
  case case8 wide start b₂ p₂ payload₂ longer b₃ rest p₃ payload₃ three =>
    simp only [UInt8.lt_iff_toNat_lt, UInt8.le_iff_toNat_le, UInt8.reduceToNat] at *
    obtain ⟨⟨value₂, small₂⟩, shortest, scalar, -⟩ := second?_eq_some payload₂
    obtain ⟨value₃, small₃⟩ := continuation?_eq_some payload₃
    rw [toNat_ofScalar (by omega), if_neg (by omega), if_neg (by omega), if_pos (by omega),
      ofNat_eq (b := first) (by omega), ofNat_eq (b := b₂) (by omega), ofNat_eq (b := b₃) (by omega)]
    rfl
  case case11 wide start b₂ p₂ payload₂ longer b₃ p₃ payload₃ four b₄ rest p₄ payload₄ =>
    simp only [UInt8.lt_iff_toNat_lt, UInt8.le_iff_toNat_le, UInt8.reduceToNat] at *
    obtain ⟨⟨value₂, small₂⟩, -, -, shortest, scalar⟩ := second?_eq_some payload₂
    obtain ⟨value₃, small₃⟩ := continuation?_eq_some payload₃
    obtain ⟨value₄, small₄⟩ := continuation?_eq_some payload₄
    rw [toNat_ofScalar (by omega), if_neg (by omega), if_neg (by omega), if_neg (by omega),
      ofNat_eq (b := first) (by omega), ofNat_eq (b := b₂) (by omega),
      ofNat_eq (b := b₃) (by omega), ofNat_eq (b := b₄) (by omega)]
    rfl

theorem decodeAt_encode (t : Text) (position : Nat) : decodeAt position (encode t) = .ok t := by
  induction t generalizing position with
  | nil =>
      unfold decodeAt
      rfl
  | cons c t ih =>
      obtain ⟨first, more, bytes, front_eq⟩ := front_encode_cons c t
      rw [bytes, decodeAt, front_eq]
      simp only [List.drop_left, ih]
      rfl

theorem encode_of_decodeAt {position : Nat} {bytes : Bytes} {t : Text}
    (decoded : decodeAt position bytes = .ok t) : encode t = bytes := by
  fun_induction decodeAt position bytes generalizing t with
  | case1 position =>
      cases decoded
      rfl
  | case2 position first rest c more read ih =>
      cases later : decodeAt (position + 1 + more) (rest.drop more) with
      | error e => simp [later, Except.map] at decoded
      | ok t' =>
          rw [later] at decoded
          cases decoded
          have here := encodeChar_of_front read
          unfold encode at *
          rw [List.flatMap_cons, here, ih later, List.cons_append, List.take_append_drop]
  | case3 position first rest fault more read => cases decoded

theorem decode_eq_ok_iff {bytes : Bytes} {t : Text} : decode bytes = .ok t ↔ encode t = bytes := by
  constructor
  · exact encode_of_decodeAt
  · rintro rfl
    exact decodeAt_encode t 0

end MaskedPath.Utf8
