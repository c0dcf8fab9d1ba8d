import MaskedPath.Properties
import Mathlib.Data.List.Basic

namespace MaskedPath.Properties

/-! ## Hexadecimal digits -/

def unitDigit (capitals : Bool) (n : Nat) : Char :=
  if capitals then (hexDigit n).toUpper else hexDigit n

def unitDigits (capitals : Bool) (n : Nat) : Text :=
  [unitDigit capitals (n / 4096 % 16), unitDigit capitals (n / 256 % 16),
    unitDigit capitals (n / 16 % 16), unitDigit capitals (n % 16)]

structure IsPlainDigit (c : Char) (n : Nat) : Prop where
  value : Numeral.digit? 16 c = some n
  ascii : c.toNat < 128
  notBlank : Numeral.isAsciiBlank c = false
  notMinus : c ≠ '-'
  notPlus : c ≠ '+'
  notUnderscore : c ≠ '_'
  notBase : c.toLower ≠ 'x'

theorem isPlainDigit_unitDigit (capitals : Bool) {n : Nat} (small : n < 16) :
    IsPlainDigit (unitDigit capitals n) n := by
  have values : ∀ capitals, ∀ n < 16, Numeral.digit? 16 (unitDigit capitals n) = some n := by decide
  have signs : ∀ capitals, ∀ n < 16, (unitDigit capitals n).toNat < 128 ∧
      Numeral.isAsciiBlank (unitDigit capitals n) = false ∧ unitDigit capitals n ≠ '-' ∧
      unitDigit capitals n ≠ '+' ∧ unitDigit capitals n ≠ '_' ∧
      (unitDigit capitals n).toLower ≠ 'x' := by decide
  obtain ⟨ascii, notBlank, notMinus, notPlus, notUnderscore, notBase⟩ := signs capitals n small
  exact ⟨values capitals n small, ascii, notBlank, notMinus, notPlus, notUnderscore, notBase⟩

section

variable {c₁ c₂ c₃ c₄ : Char} {n₁ n₂ n₃ n₄ : Nat}

theorem unsigned?_digits (d₁ : IsPlainDigit c₁ n₁) (d₂ : IsPlainDigit c₂ n₂)
    (d₃ : IsPlainDigit c₃ n₃) (d₄ : IsPlainDigit c₄ n₄) :
    Numeral.unsigned? 16 [c₁, c₂, c₃, c₄] = some (((n₁ * 16 + n₂) * 16 + n₃) * 16 + n₄) := by
  have read : Numeral.digits? 16 [c₁, c₂, c₃, c₄] = some (((n₁ * 16 + n₂) * 16 + n₃) * 16 + n₄) := by
    simp [Numeral.digits?, Numeral.digitsAfter, d₁.value, d₂.value, d₃.value, d₄.value,
      d₂.notUnderscore, d₃.notUnderscore]
  unfold Numeral.unsigned?
  split
  · rename_i c rest same
    obtain ⟨-, rfl, -⟩ : c₁ = '0' ∧ c₂ = c ∧ [c₃, c₄] = rest := by simpa using same
    have notBase : Numeral.baseLetter? 16 ≠ some c₂.toLower :=
      fun same => d₂.notBase (Option.some.inj same).symm
    rw [if_neg notBase]
    exact read
  · exact read

theorem parse?_digits (d₁ : IsPlainDigit c₁ n₁) (d₂ : IsPlainDigit c₂ n₂)
    (d₃ : IsPlainDigit c₃ n₃) (d₄ : IsPlainDigit c₄ n₄) :
    Numeral.parse? 16 (wide [c₁, c₂, c₃, c₄]) =
      some ((((n₁ * 16 + n₂) * 16 + n₃) * 16 + n₄ : Nat) : Int) := by
  have spelled : Numeral.spelling (wide [c₁, c₂, c₃, c₄]) = [c₁, c₂, c₃, c₄] := by
    simp [Numeral.spelling, wide, CodePoint.ofChar, d₁.ascii, d₂.ascii, d₃.ascii, d₄.ascii]
  have trimmed : trimBoth Numeral.isAsciiBlank [c₁, c₂, c₃, c₄] = [c₁, c₂, c₃, c₄] := by
    simp [trimBoth, d₁.notBlank, d₄.notBlank]
  unfold Numeral.parse?
  rw [spelled, trimmed]
  split
  · rename_i same
    exact absurd (List.cons.inj same).1 d₁.notMinus
  · rename_i same
    exact absurd (List.cons.inj same).1 d₁.notPlus
  · rw [unsigned?_digits d₁ d₂ d₃ d₄]
    rfl

end

theorem codePoint?_unitDigits (capitals : Bool) {n : Nat} (small : n < 0x10000) :
    codePoint? (wide (unitDigits capitals n)) = some ⟨n, by omega⟩ := by
  have digit (k : Nat) := isPlainDigit_unitDigit capitals (Nat.mod_lt k (show 0 < 16 by decide))
  have value : ((n / 4096 % 16 * 16 + n / 256 % 16) * 16 + n / 16 % 16) * 16 + n % 16 = n := by omega
  have parsed := parse?_digits (digit (n / 4096)) (digit (n / 256)) (digit (n / 16)) (digit n)
  rw [value] at parsed
  unfold codePoint? unitDigits
  rw [parsed]
  simp only [Option.bind_eq_bind, Option.bind_some, Int.toNat_natCast, Int.natCast_nonneg, if_true]
  rw [dif_pos (by omega)]

theorem ascii_unitDigits (capitals : Bool) (n : Nat) :
    ∀ d ∈ wide (unitDigits capitals n), d.val < 128 := by
  have digit (k : Nat) := isPlainDigit_unitDigit capitals (Nat.mod_lt k (show 0 < 16 by decide))
  simp only [unitDigits, wide, List.map_cons, List.map_nil, List.forall_mem_cons]
  exact ⟨(digit _).ascii, (digit _).ascii, (digit _).ascii, (digit _).ascii, by simp⟩

/-! ## Steps of the readers -/

theorem unescape_plain {c : CodePoint} (plain : c ≠ .ofChar '\\') (rest : WideText) :
    unescape (c :: rest) = (unescape rest).map (c :: ·) := by
  cases rest with
  | nil => rfl
  | cons d rest => exact (unescape.eq_def _).trans (if_pos plain)

theorem unescape_letter {d : CodePoint} (notCode : d ≠ .ofChar 'u') (rest : WideText) :
    unescape (.ofChar '\\' :: d :: rest) = (unescape rest).map (escapeLetter d :: ·) :=
  (unescape.eq_def _).trans ((if_neg (by simp)).trans (if_pos notCode))

theorem unescape_code {x₁ x₂ x₃ x₄ p : CodePoint} (value : codePoint? [x₁, x₂, x₃, x₄] = some p)
    (rest : WideText) : unescape (.ofChar '\\' :: .ofChar 'u' :: x₁ :: x₂ :: x₃ :: x₄ :: rest) =
      (unescape rest).map (p :: ·) := by
  rw [unescape, if_neg (by simp), if_neg (by simp), value]

theorem splitKey_plain {c : CodePoint} (plain : c ≠ .ofChar '\\')
    (inside : (isSeparator c || isGap c) = false) (rest : WideText) :
    splitKey (c :: rest) = (c :: (splitKey rest).1, (splitKey rest).2) := by
  cases rest with
  | nil => simp [splitKey, inside]
  | cons d rest => rw [splitKey, if_neg plain, if_neg (by simp [inside])]

theorem splitKey_backslash (d : CodePoint) (rest : WideText) :
    splitKey (.ofChar '\\' :: d :: rest) =
      (.ofChar '\\' :: d :: (splitKey rest).1, (splitKey rest).2) := by
  rw [splitKey, if_pos rfl]

theorem splitKey_end {after : WideText}
    (ends : ∀ c ∈ after.head?, (isSeparator c || isGap c) = true) : splitKey after = ([], after) := by
  match after, ends with
  | [], _ => rfl
  | [c], ends => rw [splitKey, if_pos (ends c rfl)]
  | c :: d :: rest, ends =>
      have plain : c ≠ .ofChar '\\' := by
        rintro rfl
        exact absurd (ends _ rfl) (by decide)
      rw [splitKey, if_neg plain, if_pos (ends c rfl)]

/-! ## Code points -/

def isSpecial (c : CodePoint) : Bool :=
  c = .ofChar '\\' || isGap c || isSeparator c || c = .ofChar '#' || c = .ofChar '!' ||
    isLineBoundary c.val

structure IsPlain (c : CodePoint) : Prop where
  notBackslash : c ≠ .ofChar '\\'
  inside : (isSeparator c || isGap c) = false
  notComment : c ≠ .ofChar '#' ∧ c ≠ .ofChar '!'
  inLine : isLineBoundary c.val = false

theorem isPlain_of_not_special {c : CodePoint} (ordinary : isSpecial c = false) : IsPlain c := by
  simp only [isSpecial, Bool.or_eq_false_iff, decide_eq_false_iff_not] at ordinary
  obtain ⟨⟨⟨⟨⟨notBackslash, notGap⟩, notSeparator⟩, notHash⟩, notMark⟩, inLine⟩ := ordinary
  exact ⟨notBackslash, by rw [notSeparator, notGap]; rfl, ⟨notHash, notMark⟩, inLine⟩

theorem isSpecial_unitDigits (capitals : Bool) (n : Nat) :
    ∀ d ∈ wide (unitDigits capitals n), isSpecial d = false := by
  have digits : ∀ capitals, ∀ n < 16, isSpecial (.ofChar (unitDigit capitals n)) = false := by decide
  have digit (k : Nat) := digits capitals (k % 16) (Nat.mod_lt k (by decide))
  intro d member
  simp only [unitDigits, wide, List.map_cons, List.map_nil, List.mem_cons, List.not_mem_nil,
    or_false] at member
  rcases member with rfl | rfl | rfl | rfl <;> exact digit _

/-- The ways to write a code point: as it is, by a letter after a backslash, or by its digits. -/
inductive Writes : WideText → CodePoint → Prop
  | plain {c : CodePoint} (ordinary : isSpecial c = false) : Writes [c] c
  | letter {d : CodePoint} (notCode : d ≠ .ofChar 'u') (inLine : isLineBoundary d.val = false) :
      Writes [.ofChar '\\', d] (escapeLetter d)
  | code {x₁ x₂ x₃ x₄ p : CodePoint} (ordinary : ∀ x ∈ [x₁, x₂, x₃, x₄], isSpecial x = false)
      (value : codePoint? [x₁, x₂, x₃, x₄] = some p) :
      Writes [.ofChar '\\', .ofChar 'u', x₁, x₂, x₃, x₄] p

namespace Writes

variable {front : WideText} {c : CodePoint}

theorem unescape_append (writes : Writes front c) (rest : WideText) :
    unescape (front ++ rest) = (unescape rest).map (c :: ·) := by
  cases writes with
  | plain ordinary => exact unescape_plain (isPlain_of_not_special ordinary).notBackslash rest
  | letter notCode inLine => exact unescape_letter notCode rest
  | code ordinary value => exact unescape_code value rest

theorem splitKey_append (writes : Writes front c) (rest : WideText) :
    splitKey (front ++ rest) = (front ++ (splitKey rest).1, (splitKey rest).2) := by
  have step {c : CodePoint} (ordinary : isSpecial c = false) (rest : WideText) :
      splitKey (c :: rest) = (c :: (splitKey rest).1, (splitKey rest).2) := by
    have plain := isPlain_of_not_special ordinary
    exact splitKey_plain plain.notBackslash plain.inside rest
  cases writes with
  | plain ordinary => exact step ordinary rest
  | @letter d notCode inLine => exact splitKey_backslash d rest
  | @code x₁ x₂ x₃ x₄ p ordinary value =>
      simp only [List.forall_mem_cons] at ordinary
      obtain ⟨o₁, o₂, o₃, o₄, -⟩ := ordinary
      change splitKey (.ofChar '\\' :: .ofChar 'u' :: x₁ :: x₂ :: x₃ :: x₄ :: rest) = _
      rw [splitKey_backslash, step o₁, step o₂, step o₃, step o₄]
      rfl

theorem inLine (writes : Writes front c) : ∀ d ∈ front, isLineBoundary d.val = false := by
  cases writes with
  | plain ordinary => simpa using (isPlain_of_not_special ordinary).inLine
  | letter notCode inLine => simpa using ⟨by decide, inLine⟩
  | code ordinary value =>
      intro d member
      rcases List.mem_cons.mp member with rfl | member
      · decide
      · rcases List.mem_cons.mp member with rfl | member
        · decide
        · exact (isPlain_of_not_special (ordinary d member)).inLine

end Writes

/-! ## Backslashes at the end -/

theorem trailingBackslashes_concat (line : WideText) (c : CodePoint) :
    trailingBackslashes (line ++ [c]) =
      if c = .ofChar '\\' then trailingBackslashes line + 1 else 0 := by
  unfold trailingBackslashes
  by_cases backslash : c = .ofChar '\\' <;> simp [backslash]

def IsClosed (line : WideText) : Prop := trailingBackslashes line % 2 = 0

instance (line : WideText) : Decidable (IsClosed line) := by
  unfold IsClosed; infer_instance

theorem isContinued_eq_false {line : WideText} (closed : IsClosed line) :
    isContinued line = false := by
  unfold isContinued IsClosed at *
  simp [closed]

theorem isClosed_nil : IsClosed [] := rfl

theorem isClosed_concat {c : CodePoint} (line : WideText) (plain : c ≠ .ofChar '\\') :
    IsClosed (line ++ [c]) := by
  unfold IsClosed
  rw [trailingBackslashes_concat, if_neg plain]

theorem IsClosed.append {line rest : WideText} (closed : IsClosed line)
    (plain : ∀ c ∈ rest, c ≠ .ofChar '\\') : IsClosed (line ++ rest) := by
  rcases List.eq_nil_or_concat rest with rfl | ⟨rest, c, rfl⟩
  · rwa [List.append_nil]
  · rw [List.concat_eq_append, ← List.append_assoc]
    exact isClosed_concat _ (plain c (by simp))

theorem Writes.isClosed_append {front line : WideText} {c : CodePoint} (writes : Writes front c)
    (closed : IsClosed line) : IsClosed (line ++ front) := by
  have split (d : CodePoint) (rest : WideText) : line ++ d :: rest = line ++ [d] ++ rest := by simp
  cases writes with
  | plain ordinary => exact isClosed_concat _ (isPlain_of_not_special ordinary).notBackslash
  | @letter d notCode inLine =>
      rw [split]
      by_cases backslash : d = .ofChar '\\'
      · -- An escaped backslash makes two more at the end.
        unfold IsClosed at *
        rw [trailingBackslashes_concat, trailingBackslashes_concat, if_pos backslash, if_pos rfl]
        omega
      · exact isClosed_concat _ backslash
  | @code x₁ x₂ x₃ x₄ p ordinary value =>
      have last := (isPlain_of_not_special (ordinary x₄ (by simp))).notBackslash
      have whole : line ++ [.ofChar '\\', .ofChar 'u', x₁, x₂, x₃, x₄] =
          line ++ [.ofChar '\\', .ofChar 'u', x₁, x₂, x₃] ++ [x₄] := by simp
      rw [whole]
      exact isClosed_concat _ last

/-! ## Texts -/

inductive Spells : WideText → WideText → Prop
  | nil : Spells [] []
  | cons {front written meant : WideText} {c : CodePoint} (first : Writes front c)
      (rest : Spells written meant) : Spells (front ++ written) (c :: meant)

theorem spells_flatMap {write : CodePoint → WideText} {l : WideText}
    (writes : ∀ c ∈ l, Writes (write c) c) : Spells (l.flatMap write) l := by
  induction l with
  | nil => exact .nil
  | cons c l ih =>
      simp only [List.forall_mem_cons] at writes
      exact .cons writes.1 (ih writes.2)

namespace Spells

variable {written meant : WideText}

theorem unescape (spells : Spells written meant) : unescape written = .ok meant := by
  induction spells with
  | nil => rfl
  | cons first rest ih =>
      rw [first.unescape_append, ih]
      rfl

/-- The key of a line ends where its written form does, if a gap or a separator follows. -/
theorem splitKey_append (spells : Spells written meant) {after : WideText}
    (ends : ∀ c ∈ after.head?, (isSeparator c || isGap c) = true) :
    splitKey (written ++ after) = (written, after) := by
  induction spells with
  | nil => exact splitKey_end ends
  | cons first rest ih => rw [List.append_assoc, first.splitKey_append, ih]

theorem inLine (spells : Spells written meant) : ∀ d ∈ written, isLineBoundary d.val = false := by
  induction spells with
  | nil => simp
  | cons first rest ih =>
      intro d member
      rcases List.mem_append.mp member with front | back
      · exact first.inLine d front
      · exact ih d back

theorem isClosed_append (spells : Spells written meant) {line : WideText} (closed : IsClosed line) :
    IsClosed (line ++ written) := by
  induction spells generalizing line with
  | nil => rwa [List.append_nil]
  | cons first rest ih =>
      rw [← List.append_assoc]
      exact ih (first.isClosed_append closed)

theorem written_eq_nil (spells : Spells written meant) : written = [] ↔ meant = [] := by
  cases spells with
  | nil => simp
  | cons first rest => cases first <;> simp

theorem head_inside (spells : Spells written meant) :
    ∀ c ∈ written.head?, (isSeparator c || isGap c) = false ∧ c ≠ .ofChar '#' ∧ c ≠ .ofChar '!' := by
  intro c head
  cases spells with
  | nil => cases head
  | cons first rest =>
      cases first with
      | plain ordinary =>
          have plain := isPlain_of_not_special ordinary
          obtain rfl := Option.some.inj head
          exact ⟨plain.inside, plain.notComment⟩
      | letter notCode inLine =>
          obtain rfl := Option.some.inj head
          decide
      | code ordinary value =>
          obtain rfl := Option.some.inj head
          decide

end Spells

/-! ## Writing -/

def isSigned (c : CodePoint) : Bool :=
  c = .ofChar '\\' || c = .ofChar ' ' || c = .ofChar '=' || c = .ofChar ':' || c = .ofChar '#' ||
    c = .ofChar '!'

/-- A code point as it is written. `coded` says which of the remaining ones are written by digits. -/
def escapePoint (capitals : Bool) (coded : Nat → Bool) (c : CodePoint) : WideText :=
  if isSigned c then [.ofChar '\\', c]
  else if c = .ofChar '\t' then wideOf "\\t"
  else if c = .ofChar '\n' then wideOf "\\n"
  else if c = .ofChar '\r' then wideOf "\\r"
  else if c = .ofChar '\x0c' then wideOf "\\f"
  else if coded c.val then wideOf "\\u" ++ wide (unitDigits capitals c.val)
  else [c]

def escape (capitals : Bool) (coded : Nat → Bool) (t : WideText) : WideText :=
  t.flatMap (escapePoint capitals coded)

variable {coded : Nat → Bool}

theorem writes_escapePoint (capitals : Bool) {c : CodePoint}
    (small : coded c.val = true → c.val < 0x10000)
    (breaks : isLineBoundary c.val = true → c.val ∉ [0xa, 0xc, 0xd] → coded c.val = true) :
    Writes (escapePoint capitals coded c) c := by
  have letter {c d : CodePoint} (means : escapeLetter d = c) (notCode : d ≠ .ofChar 'u')
      (inLine : isLineBoundary d.val = false) : Writes [.ofChar '\\', d] c :=
    means ▸ .letter notCode inLine
  unfold escapePoint
  split_ifs with signed tab feed back page byDigits
  · simp only [isSigned, Bool.or_eq_true, decide_eq_true_eq, or_assoc] at signed
    rcases signed with rfl | rfl | rfl | rfl | rfl | rfl <;>
      exact letter (by decide) (by decide) (by decide)
  · exact letter (tab ▸ by decide) (by decide) (by decide)
  · exact letter (feed ▸ by decide) (by decide) (by decide)
  · exact letter (back ▸ by decide) (by decide) (by decide)
  · exact letter (page ▸ by decide) (by decide) (by decide)
  · exact .code (isSpecial_unitDigits capitals c.val)
      (codePoint?_unitDigits capitals (small byDigits))
  · have value {d : Char} (other : c ≠ .ofChar d) : c.val ≠ d.toNat := fun same =>
      other (CodePoint.mk.injEq .. ▸ same)
    have inLine : isLineBoundary c.val = false := by
      by_contra boundary
      have listed : c.val ∉ [0xa, 0xc, 0xd] := by
        simpa using ⟨value feed, value page, value back⟩
      exact byDigits (breaks (by simpa using boundary) listed)
    apply Writes.plain
    simp only [isSigned, Bool.or_eq_true, decide_eq_true_eq, not_or] at signed
    simp [isSpecial, isGap, isSeparator, inLine, signed, tab, page]

theorem spells_escape (capitals : Bool) {t : WideText}
    (small : ∀ c ∈ t, coded c.val = true → c.val < 0x10000)
    (breaks : ∀ n, isLineBoundary n = true → n ∉ [0xa, 0xc, 0xd] → coded n = true) :
    Spells (escape capitals coded t) t :=
  spells_flatMap fun c member => writes_escapePoint capitals (small c member) (breaks c.val)

end MaskedPath.Properties
