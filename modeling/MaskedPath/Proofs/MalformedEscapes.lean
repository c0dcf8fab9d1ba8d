import MaskedPath.Proofs.Dictionaries
import MaskedPath.Proofs.Escapes
import MaskedPath.Proofs.Meaning
import MaskedPath.Proofs.Numerals
import Mathlib.Data.List.Forall2

namespace MaskedPath.Properties

/-! ## Escaped characters -/

/-- Text that ends no escape is a front that the parity of the backslashes after it does not see. -/
theorem trailingBackslashes_append_mod {front : WideText} (closed : IsClosed front)
    (rest : WideText) :
    trailingBackslashes (front ++ rest) % 2 = trailingBackslashes rest % 2 := by
  induction rest using List.reverseRecOn with
  | nil =>
      rw [List.append_nil]
      exact closed
  | append_singleton rest c ih =>
      rw [← List.append_assoc, trailingBackslashes_concat, trailingBackslashes_concat]
      split_ifs <;> omega

theorem IsClosed.append_iff {front rest : WideText} (closed : IsClosed front) :
    IsClosed (front ++ rest) ↔ IsClosed rest := by
  unfold IsClosed
  rw [trailingBackslashes_append_mod closed]

theorem isClosed_single_iff {c : CodePoint} : IsClosed [c] ↔ c ≠ .ofChar '\\' := by
  unfold IsClosed
  by_cases backslash : c = .ofChar '\\' <;> simp [trailingBackslashes, backslash]

theorem isClosed_pair (d : CodePoint) : IsClosed [.ofChar '\\', d] := by
  unfold IsClosed
  by_cases backslash : d = .ofChar '\\' <;> simp [trailingBackslashes, backslash]

/-- Whether text has a `u` after a backslash that itself is not escaped, and `P` holds of what follows
the `u`. -/
def HasCode (P : WideText → Prop) (t : WideText) : Prop :=
  ∃ front rest, t = front ++ .ofChar '\\' :: .ofChar 'u' :: rest ∧ IsClosed front ∧ P rest

section

variable {P : WideText → Prop}

theorem not_hasCode_nil : ¬ HasCode P [] := by
  rintro ⟨front, rest, split, -⟩
  simp at split

theorem hasCode_plain {c : CodePoint} (plain : c ≠ .ofChar '\\') (t : WideText) :
    HasCode P (c :: t) ↔ HasCode P t := by
  have closed : IsClosed [c] := isClosed_single_iff.mpr plain
  constructor
  · rintro ⟨front, rest, split, front_closed, holds⟩
    cases front with
    | nil => exact absurd (List.cons.inj split).1 plain
    | cons d front =>
        obtain ⟨rfl, rfl⟩ := List.cons.inj split
        exact ⟨front, rest, rfl, closed.append_iff.mp front_closed, holds⟩
  · rintro ⟨front, rest, rfl, front_closed, holds⟩
    exact ⟨c :: front, rest, rfl, closed.append_iff.mpr front_closed, holds⟩

theorem hasCode_backslash (d : CodePoint) (t : WideText) :
    HasCode P (.ofChar '\\' :: d :: t) ↔ d = .ofChar 'u' ∧ P t ∨ HasCode P t := by
  constructor
  · rintro ⟨front, rest, split, front_closed, holds⟩
    match front, split with
    | [], split =>
        obtain ⟨rfl, rfl⟩ : d = .ofChar 'u' ∧ t = rest := by simpa using split
        exact .inl ⟨rfl, holds⟩
    | [c], split =>
        exact absurd (List.cons.inj split).1.symm (isClosed_single_iff.mp front_closed)
    | _ :: e :: front, split =>
        obtain ⟨rfl, rfl, rfl⟩ := by simpa using split
        exact .inr ⟨front, rest, rfl, (isClosed_pair d).append_iff.mp front_closed, holds⟩
  · rintro (⟨rfl, holds⟩ | ⟨front, rest, rfl, front_closed, holds⟩)
    · exact ⟨[], t, rfl, isClosed_nil, holds⟩
    · exact ⟨_ :: d :: front, rest, rfl, (isClosed_pair d).append_iff.mpr front_closed, holds⟩

end

/-! ## What follows an escaped `u` -/

def StartsWithNumeral (t : WideText) : Prop :=
  ∃ (window more : WideText) (p : CodePoint),
    t = window ++ more ∧ window.length = 4 ∧ Numeral.IsNumeral window p.val

def hexValue? (c : CodePoint) : Option Nat :=
  if 48 ≤ c.val ∧ c.val ≤ 57 then some (c.val - 48)
  else if 65 ≤ c.val ∧ c.val ≤ 70 then some (c.val - 55)
  else if 97 ≤ c.val ∧ c.val ≤ 102 then some (c.val - 87)
  else none

def hexCode? : WideText → Option Nat
  | [c₁, c₂, c₃, c₄] => do
    let v₁ ← hexValue? c₁
    let v₂ ← hexValue? c₂
    let v₃ ← hexValue? c₃
    let v₄ ← hexValue? c₄
    return ((v₁ * 16 + v₂) * 16 + v₃) * 16 + v₄
  | _ => none

def StartsWithDigits (t : WideText) : Prop := (hexCode? (t.take 4)).isSome

instance (t : WideText) : Decidable (StartsWithDigits t) := by
  unfold StartsWithDigits; infer_instance

theorem exists_plainDigit {c : CodePoint} {v : Nat} (digit : hexValue? c = some v) :
    ∃ d, c = .ofChar d ∧ IsPlainDigit d v ∧ v < 16 := by
  have small_letters : ∀ v < 16, (unitDigit false v).toNat = if v < 10 then 48 + v else 87 + v := by
    decide
  have capitals : ∀ v < 16, (unitDigit true v).toNat = if v < 10 then 48 + v else 55 + v := by decide
  have written {capital : Bool} (small : v < 16) (same : c.val = (unitDigit capital v).toNat) :
      ∃ d, c = .ofChar d ∧ IsPlainDigit d v ∧ v < 16 :=
    ⟨_, by cases c; simpa [CodePoint.ofChar] using same, isPlainDigit_unitDigit capital small, small⟩
  unfold hexValue? at digit
  split_ifs at digit with figure capital letter <;> obtain rfl := Option.some.inj digit
  · have small : c.val - 48 < 16 := by omega
    exact written small (by rw [small_letters _ small]; split_ifs <;> omega)
  · have small : c.val - 55 < 16 := by omega
    exact written small (by rw [capitals _ small]; split_ifs <;> omega)
  · have small : c.val - 87 < 16 := by omega
    exact written small (by rw [small_letters _ small]; split_ifs <;> omega)

theorem codePoint?_eq_some_iff {w : WideText} {p : CodePoint} :
    codePoint? w = some p ↔ Numeral.IsNumeral w p.val := by
  rw [← Numeral.parse?_eq_some_iff]
  unfold codePoint?
  constructor
  · intro given
    obtain ⟨z, parsed, given⟩ := Option.bind_eq_some_iff.mp given
    split_ifs at given with positive bound
    obtain rfl := Option.some.inj given
    rw [parsed, Int.toNat_of_nonneg positive]
  · intro parsed
    have bound : (p.val : Int).toNat < 0x110000 := p.val_lt
    rw [parsed, Option.bind_eq_bind, Option.bind_some, if_pos (Int.natCast_nonneg _), dif_pos bound]
    rfl

theorem codePoint?_of_hexCode {window : WideText} {n : Nat} (code : hexCode? window = some n) :
    window.length = 4 ∧ ∃ p, codePoint? window = some p ∧ p.val = n := by
  unfold hexCode? at code
  split at code
  · simp only [Option.bind_eq_bind, Option.bind_eq_some_iff, Option.pure_def, Option.some.injEq] at code
    obtain ⟨v₁, first, v₂, second, v₃, third, v₄, fourth, rfl⟩ := code
    obtain ⟨d₁, rfl, p₁, s₁⟩ := exists_plainDigit first
    obtain ⟨d₂, rfl, p₂, s₂⟩ := exists_plainDigit second
    obtain ⟨d₃, rfl, p₃, s₃⟩ := exists_plainDigit third
    obtain ⟨d₄, rfl, p₄, s₄⟩ := exists_plainDigit fourth
    refine ⟨rfl, ⟨_, by omega⟩, codePoint?_eq_some_iff.mpr ?_, rfl⟩
    rw [← Numeral.parse?_eq_some_iff]
    exact parse?_digits p₁ p₂ p₃ p₄
  · cases code

theorem StartsWithDigits.startsWithNumeral {t : WideText} (digits : StartsWithDigits t) :
    StartsWithNumeral t := by
  obtain ⟨n, code⟩ := Option.isSome_iff_exists.mp digits
  obtain ⟨length, p, value, -⟩ := codePoint?_of_hexCode code
  exact ⟨t.take 4, t.drop 4, p, (List.take_append_drop 4 t).symm, length,
    codePoint?_eq_some_iff.mp value⟩

theorem startsWithNumeral_iff {t : WideText} : StartsWithNumeral t ↔ ∃ x₁ x₂ x₃ x₄ rest p,
    t = x₁ :: x₂ :: x₃ :: x₄ :: rest ∧ codePoint? [x₁, x₂, x₃, x₄] = some p := by
  constructor
  · rintro ⟨window, more, p, rfl, length, numeral⟩
    match window, length with
    | [x₁, x₂, x₃, x₄], _ =>
        exact ⟨x₁, x₂, x₃, x₄, more, p, rfl, codePoint?_eq_some_iff.mpr numeral⟩
  · rintro ⟨x₁, x₂, x₃, x₄, rest, p, rfl, value⟩
    exact ⟨[x₁, x₂, x₃, x₄], rest, p, rfl, rfl, codePoint?_eq_some_iff.mp value⟩

/-- A backslash among the first four characters is part of no numeral. -/
theorem not_startsWithNumeral_of_backslash {front : WideText} (short : front.length < 4)
    (rest : WideText) : ¬ StartsWithNumeral (front ++ .ofChar '\\' :: rest) := by
  rintro ⟨window, more, p, split, length, numeral⟩
  refine numeral.noBackslash (.ofChar '\\') ?_ rfl
  have same := congrArg (·[front.length]?) split
  rw [List.getElem?_append_right (by omega), List.getElem?_append_left (by omega)] at same
  exact List.mem_of_getElem? (by simpa using same.symm)

/-! ## Undoing escapes -/

theorem unescape_fails_iff (t : WideText) :
    (∃ e, unescape t = .error e) ↔ HasCode (¬ StartsWithNumeral ·) t := by
  have failed_map {c : CodePoint} {r : Except Error WideText} :
      (∃ e, r.map (c :: ·) = .error e) ↔ ∃ e, r = .error e := by
    simp only [map_eq_error]
  fun_induction unescape t with
  | case1 => simpa using not_hasCode_nil
  | case2 c =>
      have none : ¬ HasCode (¬ StartsWithNumeral ·) [c] := by
        rintro ⟨front, rest, split, -⟩
        have length := congrArg List.length split
        simp only [List.length_append, List.length_cons, List.length_nil] at length
        omega
      simpa using none
  | case3 c d rest plain ih => exact failed_map.trans (ih.trans (hasCode_plain plain _).symm)
  | case4 c d rest backslash notCode ih =>
      obtain rfl := not_not.mp backslash
      rw [hasCode_backslash]
      simpa [notCode] using failed_map.trans ih
  | case5 c d backslash code x₁ x₂ x₃ x₄ rest p value ih =>
      obtain rfl := not_not.mp backslash
      have plain := (codePoint?_eq_some_iff.mp value).noBackslash
      simp only [List.forall_mem_cons] at plain
      obtain ⟨plain₁, plain₂, plain₃, plain₄, -⟩ := plain
      have starts := startsWithNumeral_iff.mpr ⟨x₁, x₂, x₃, x₄, rest, p, rfl, value⟩
      -- No backslash is among the four characters, so no other escape begins within this one.
      rw [hasCode_backslash, hasCode_plain plain₁, hasCode_plain plain₂, hasCode_plain plain₃,
        hasCode_plain plain₄]
      simpa [starts] using failed_map.trans ih
  | case6 c d backslash code x₁ x₂ x₃ x₄ rest noValue =>
      obtain ⟨rfl, rfl⟩ := And.intro (not_not.mp backslash) (not_not.mp code)
      have malformed : ¬ StartsWithNumeral (x₁ :: x₂ :: x₃ :: x₄ :: rest) := by
        simp [startsWithNumeral_iff, noValue]
      simp [hasCode_backslash, malformed]
  | case7 c d backslash code short tooShort =>
      obtain ⟨rfl, rfl⟩ := And.intro (not_not.mp backslash) (not_not.mp code)
      have malformed : ¬ StartsWithNumeral short := by
        rw [startsWithNumeral_iff]
        rintro ⟨x₁, x₂, x₃, x₄, rest, p, split, -⟩
        exact tooShort x₁ x₂ x₃ x₄ rest split
      simp [hasCode_backslash, malformed]

theorem unescape_code_ne_ok {rest : WideText} (malformed : ¬ StartsWithNumeral rest)
    (t : WideText) : unescape (.ofChar '\\' :: .ofChar 'u' :: rest) ≠ .ok t := by
  obtain ⟨e, failed⟩ := (unescape_fails_iff (.ofChar '\\' :: .ofChar 'u' :: rest)).mpr
    ((hasCode_backslash _ _).mpr (.inl ⟨rfl, malformed⟩))
  rw [failed]
  intro same
  cases same

theorem unescape_append_backslash {front : WideText} (closed : IsClosed front)
    (rest t : WideText) : unescape (front ++ .ofChar '\\' :: rest) = .ok t ↔
      ∃ a b, unescape front = .ok a ∧ unescape (.ofChar '\\' :: rest) = .ok b ∧ t = a ++ b := by
  have step {c : CodePoint} {whole part : Except Error WideText}
      (ih : ∀ t, whole = .ok t ↔
        ∃ a b, part = .ok a ∧ unescape (.ofChar '\\' :: rest) = .ok b ∧ t = a ++ b) (t : WideText) :
      whole.map (c :: ·) = .ok t ↔
        ∃ a b, part.map (c :: ·) = .ok a ∧ unescape (.ofChar '\\' :: rest) = .ok b ∧ t = a ++ b := by
    simp only [map_eq_ok]
    constructor
    · rintro ⟨t, read, rfl⟩
      obtain ⟨a, b, front_read, rest_read, rfl⟩ := (ih t).mp read
      exact ⟨c :: a, b, ⟨a, front_read, rfl⟩, rest_read, rfl⟩
    · rintro ⟨-, b, ⟨a, front_read, rfl⟩, rest_read, rfl⟩
      exact ⟨a ++ b, (ih _).mpr ⟨a, b, front_read, rest_read, rfl⟩, rfl⟩
  fun_induction unescape front generalizing t with
  | case1 => simp
  | case2 c =>
      have plain := isClosed_single_iff.mp closed
      have nothing (t : WideText) : unescape (.ofChar '\\' :: rest) = .ok t ↔
          ∃ a b, (Except.ok [] : Except Error WideText) = .ok a ∧
            unescape (.ofChar '\\' :: rest) = .ok b ∧ t = a ++ b := by
        simp
      rw [List.singleton_append, unescape_plain plain]
      exact step nothing t
  | case3 c d front plain ih =>
      have front_closed := (isClosed_single_iff.mpr plain).append_iff.mp closed
      rw [List.cons_append, unescape_plain plain]
      exact step (fun t => ih front_closed t) t
  | case4 c d front backslash notCode ih =>
      obtain rfl := not_not.mp backslash
      have front_closed := (isClosed_pair d).append_iff.mp closed
      rw [List.cons_append, List.cons_append, unescape_letter notCode]
      exact step (fun t => ih front_closed t) t
  | case5 c d backslash code x₁ x₂ x₃ x₄ front p value ih =>
      obtain ⟨rfl, rfl⟩ := And.intro (not_not.mp backslash) (not_not.mp code)
      have plain := (codePoint?_eq_some_iff.mp value).noBackslash
      have window_closed : IsClosed [x₁, x₂, x₃, x₄] := isClosed_nil.append plain
      have front_closed := window_closed.append_iff.mp ((isClosed_pair _).append_iff.mp closed)
      simp only [List.cons_append]
      rw [unescape_code value]
      exact step (fun t => ih front_closed t) t
  | case6 c d backslash code x₁ x₂ x₃ x₄ front noValue =>
      obtain ⟨rfl, rfl⟩ := And.intro (not_not.mp backslash) (not_not.mp code)
      have malformed : ¬ StartsWithNumeral (x₁ :: x₂ :: x₃ :: x₄ :: front ++ .ofChar '\\' :: rest) := by
        simp [startsWithNumeral_iff, noValue]
      simpa using unescape_code_ne_ok malformed t
  | case7 c d backslash code short tooShort =>
      obtain ⟨rfl, rfl⟩ := And.intro (not_not.mp backslash) (not_not.mp code)
      -- The four characters after the `u` run into the backslash, which is part of no numeral.
      have length : short.length < 4 := by
        match short, tooShort with
        | [], _ | [_], _ | [_, _], _ | [_, _, _], _ => simp
        | x₁ :: x₂ :: x₃ :: x₄ :: more, tooShort => exact (tooShort x₁ x₂ x₃ x₄ more rfl).elim
      simpa using unescape_code_ne_ok (not_startsWithNumeral_of_backslash length rest) t

theorem unescape_append_code {front digits : WideText} {n : Nat} (closed : IsClosed front)
    (code : hexCode? digits = some n) (rest t : WideText) :
    unescape (front ++ .ofChar '\\' :: .ofChar 'u' :: (digits ++ rest)) = .ok t ↔
      ∃ a p b, unescape front = .ok a ∧ unescape rest = .ok b ∧ p.val = n ∧ t = a ++ p :: b := by
  obtain ⟨length, p, value, valued⟩ := codePoint?_of_hexCode code
  have escape : unescape (.ofChar '\\' :: .ofChar 'u' :: (digits ++ rest)) =
      (unescape rest).map (p :: ·) := by
    match digits, length with
    | [_, _, _, _], _ => exact unescape_code value rest
  rw [unescape_append_backslash closed, escape]
  simp only [map_eq_ok]
  constructor
  · rintro ⟨a, -, front_read, ⟨b, rest_read, rfl⟩, rfl⟩
    exact ⟨a, p, b, front_read, rest_read, valued, rfl⟩
  · rintro ⟨a, q, b, front_read, rest_read, same, rfl⟩
    obtain rfl : q = p := by
      cases p
      cases q
      simpa using same.trans valued.symm
    exact ⟨a, q :: b, front_read, ⟨b, rest_read, rfl⟩, rfl⟩

/-! ## Documents -/

def parts (document : WideText) : List WideText :=
  (logicalLines document).flatMap fun line => [(splitEntry line).1, (splitEntry line).2]

/-- Whether a key and a value are those of a logical line, without their escapes. -/
def IsEntryOf (line : WideText) (entry : WideText × WideText) : Prop :=
  unescape (splitEntry line).1 = .ok entry.1 ∧ unescape (splitEntry line).2 = .ok entry.2

theorem readEntry_eq_ok_iff {line : WideText} {entry : WideText × WideText} :
    readEntry line = .ok entry ↔ IsEntryOf line entry := by
  obtain ⟨key, value⟩ := entry
  simp only [readEntry, IsEntryOf, bind_eq_ok, pure_eq_ok, Except.ok.injEq, Prod.mk.injEq]
  constructor
  · rintro ⟨v, value_read, k, key_read, rfl, rfl⟩
    exact ⟨key_read, value_read⟩
  · rintro ⟨key_read, value_read⟩
    exact ⟨value, value_read, key, key_read, rfl, rfl⟩

theorem readEntry_fails_iff (line : WideText) : (∃ e, readEntry line = .error e) ↔
    (∃ e, unescape (splitEntry line).1 = .error e) ∨
      ∃ e, unescape (splitEntry line).2 = .error e := by
  unfold readEntry
  cases value_read : unescape (splitEntry line).2 <;>
    cases key_read : unescape (splitEntry line).1 <;> simp [value_read, key_read]

theorem readLines_eq_ok_iff {entries result : Entries} {raws : List WideText} :
    readLines entries raws = .ok result ↔ ∃ pairs, List.Forall₂ IsEntryOf raws pairs ∧
      result = pairs.foldl (fun entries pair => entries.insert pair.1 pair.2) entries := by
  induction raws generalizing entries with
  | nil =>
      simp [readLines, eq_comm]
  | cons line raws ih =>
      simp only [readLines, bind_eq_ok, readEntry_eq_ok_iff, ih]
      constructor
      · rintro ⟨pair, first, pairs, rest, rfl⟩
        exact ⟨pair :: pairs, .cons first rest, rfl⟩
      · rintro ⟨_, entries_read, rfl⟩
        cases entries_read with
        | cons first rest => exact ⟨_, first, _, rest, rfl⟩

theorem readLines_fails_iff {entries : Entries} {raws : List WideText} :
    (∃ e, readLines entries raws = .error e) ↔ ∃ line ∈ raws, ∃ e, readEntry line = .error e := by
  induction raws generalizing entries with
  | nil => simp [readLines]
  | cons line raws ih =>
      rw [readLines, List.exists_mem_cons_iff]
      cases first : readEntry line with
      | error e => simp
      | ok pair => simpa using ih

theorem parse_fails_iff_part (document : WideText) : (∃ e, parse document = .error e) ↔
    ∃ part ∈ parts document, ∃ e, unescape part = .error e := by
  unfold parse parts
  simp only [readLines_fails_iff, readEntry_fails_iff, List.mem_flatMap, List.mem_cons,
    List.not_mem_nil, or_false]
  constructor
  · rintro ⟨line, member, failed | failed⟩
    · exact ⟨_, ⟨line, member, .inl rfl⟩, failed⟩
    · exact ⟨_, ⟨line, member, .inr rfl⟩, failed⟩
  · rintro ⟨_, ⟨line, member, rfl | rfl⟩, failed⟩
    · exact ⟨line, member, .inl failed⟩
    · exact ⟨line, member, .inr failed⟩

theorem HasCode.mono {P Q : WideText → Prop} (weaker : ∀ rest, P rest → Q rest) {t : WideText}
    (has : HasCode P t) : HasCode Q t := by
  obtain ⟨front, rest, split, closed, holds⟩ := has
  exact ⟨front, rest, split, closed, weaker rest holds⟩

/-- A document is refused exactly if a key or a value has an escaped `u` with no numeral of four
characters after it. So where four hexadecimal digits are missing after an escaped `u`, the document is
refused or has a numeral of another form. A document that is not refused is the dictionary of its
entries, and four hexadecimal digits after an escaped `u` contribute the character with their value. -/
theorem parse_fails_iff (document : WideText) :
    ((∃ e, parse document = .error e) ↔
      ∃ part ∈ parts document, HasCode (¬ StartsWithNumeral ·) part) ∧
    ((∃ part ∈ parts document, HasCode (¬ StartsWithDigits ·) part) ↔
      (∃ e, parse document = .error e) ∨ ∃ part ∈ parts document,
        HasCode (fun rest => StartsWithNumeral rest ∧ ¬ StartsWithDigits rest) part) ∧
    (∀ entries, parse document = .ok entries ↔ ∃ pairs,
      List.Forall₂ IsEntryOf (logicalLines document) pairs ∧ entries = dictionary pairs) ∧
    ∀ front digits n rest t, IsClosed front → hexCode? digits = some n →
      (unescape (front ++ .ofChar '\\' :: .ofChar 'u' :: (digits ++ rest)) = .ok t ↔
        ∃ a p b, unescape front = .ok a ∧ unescape rest = .ok b ∧ p.val = n ∧ t = a ++ p :: b) := by
  have fails_iff : (∃ e, parse document = .error e) ↔
      ∃ part ∈ parts document, HasCode (¬ StartsWithNumeral ·) part := by
    simp only [parse_fails_iff_part, unescape_fails_iff]
  refine ⟨fails_iff, ?_, ?_, fun front digits n rest t closed code =>
    unescape_append_code closed code rest t⟩
  · rw [fails_iff]
    constructor
    · rintro ⟨part, member, front, rest, split, closed, malformed⟩
      by_cases numeral : StartsWithNumeral rest
      · exact .inr ⟨part, member, front, rest, split, closed, numeral, malformed⟩
      · exact .inl ⟨part, member, front, rest, split, closed, numeral⟩
    · rintro (⟨part, member, malformed⟩ | ⟨part, member, lax⟩)
      · exact ⟨part, member, malformed.mono fun rest => mt StartsWithDigits.startsWithNumeral⟩
      · exact ⟨part, member, lax.mono fun rest => And.right⟩
  · intro entries
    unfold parse
    simp only [readLines_eq_ok_iff, Entries.foldl_insert]

theorem parse_fails_iff_letter :
    let front := wideOf "a"
    let digits := wideOf "0041"
    let rest := wideOf "b"
    IsClosed front ∧ hexCode? digits = some 65 ∧
      unescape (front ++ .ofChar '\\' :: .ofChar 'u' :: (digits ++ rest)) = .ok (wideOf "aAb") := by
  intro front digits rest
  have closed : IsClosed front := isClosed_single_iff.mpr (by decide)
  have code : hexCode? digits = some 65 := by decide
  obtain ⟨-, -, -, contributes⟩ := parse_fails_iff (wideOf "k=a\\u0041b\n")
  exact ⟨closed, code, (contributes front digits 65 rest _ closed code).mpr
    ⟨front, .ofChar 'A', rest, rfl, rfl, rfl, rfl⟩⟩

/-- A sign and three digits are read as a character. -/
theorem signed_code_read :
    (∃ part ∈ parts (wideOf "k=\\u+041\n"), HasCode (¬ StartsWithDigits ·) part) ∧
      parse (wideOf "k=\\u+041\n") = .ok [(wideOf "k", wideOf "A")] := by
  have here : parts (wideOf "k=\\u+041\n") = [wideOf "k", wideOf "\\u+041"] := by decide
  have malformed : HasCode (¬ StartsWithDigits ·) (wideOf "\\u+041") :=
    ⟨[], wideOf "+041", rfl, isClosed_nil, by decide⟩
  exact ⟨⟨_, by rw [here]; exact List.mem_of_mem_getLast? rfl, malformed⟩, by decide +kernel⟩

end MaskedPath.Properties
