import MaskedPath.Text.Numeral
import Mathlib.Data.List.TakeWhile
import Mathlib.Tactic.SplitIfs

namespace MaskedPath

section

variable {α : Type} {drops : α → Bool}

theorem trimBoth_eq {before core after : List α} (before_dropped : ∀ a ∈ before, drops a = true)
    (kept : ∀ a ∈ core, drops a = false) (after_dropped : ∀ a ∈ after, drops a = true) :
    trimBoth drops (before ++ core ++ after) = core := by
  have stays {l : List α} (kept : ∀ a ∈ l, drops a = false) (more : List α) (nonempty : l ≠ []) :
      (l ++ more).dropWhile drops = l ++ more := by
    obtain ⟨a, l, rfl⟩ := List.exists_cons_of_ne_nil nonempty
    simp [kept a List.mem_cons_self]
  unfold trimBoth
  rw [List.append_assoc, List.dropWhile_append_of_pos before_dropped]
  by_cases empty : core = []
  · subst empty
    rw [List.nil_append, List.dropWhile_eq_nil_iff.mpr after_dropped]
    rfl
  · have back_dropped : ∀ a ∈ after.reverse, drops a = true :=
      fun a member => after_dropped a (List.mem_reverse.mp member)
    have back_stays := stays (l := core.reverse) (fun a member => kept a (List.mem_reverse.mp member))
      [] (mt List.reverse_eq_nil_iff.mp empty)
    rw [stays kept after empty, List.reverse_append, List.dropWhile_append_of_pos back_dropped]
    rw [List.append_nil] at back_stays
    rw [back_stays, List.reverse_reverse]

theorem exists_trimBoth (drops : α → Bool) (l : List α) :
    ∃ before after, l = before ++ trimBoth drops l ++ after ∧
      (∀ a ∈ before, drops a = true) ∧ ∀ a ∈ after, drops a = true := by
  let started := l.dropWhile drops
  have front : l = l.takeWhile drops ++ started := List.takeWhile_append_dropWhile.symm
  have back : started = trimBoth drops l ++ (started.reverse.takeWhile drops).reverse := by
    rw [← List.reverse_inj, List.reverse_append, List.reverse_reverse, trimBoth, List.reverse_reverse]
    exact List.takeWhile_append_dropWhile.symm
  refine ⟨l.takeWhile drops, (started.reverse.takeWhile drops).reverse, ?_,
    fun a member => List.mem_takeWhile_imp member,
    fun a member => List.mem_takeWhile_imp (List.mem_reverse.mp member)⟩
  rw [List.append_assoc, ← back]
  exact front

end

namespace Numeral

/-! ## Grammar -/

/-- Digits with single underscores between them, and their value. -/
inductive Digits : Text → Nat → Prop
  | single {c : Char} {k : Nat} (digit : digit? 16 c = some k) : Digits [c] k
  | digit {t : Text} {c : Char} {n k : Nat} (front : Digits t n) (digit : digit? 16 c = some k) :
      Digits (t ++ [c]) (n * 16 + k)
  | underscore {t : Text} {c : Char} {n k : Nat} (front : Digits t n)
      (digit : digit? 16 c = some k) : Digits (t ++ ['_', c]) (n * 16 + k)

inductive Prefix : Text → Prop
  | none : Prefix []
  | letter {x : Char} (base : x = 'x' ∨ x = 'X') : Prefix ['0', x]
  | underscore {x : Char} (base : x = 'x' ∨ x = 'X') : Prefix ['0', x, '_']

inductive Sign : Text → Int → Prop
  | none : Sign [] 1
  | plus : Sign ['+'] 1
  | minus : Sign ['-'] (-1)

def IsNumeral (w : WideText) (z : Int) : Prop :=
  ∃ before sign base digits after s n,
    spelling w = before ++ (sign ++ (base ++ digits)) ++ after ∧
    (∀ c ∈ before, isAsciiBlank c = true) ∧ (∀ c ∈ after, isAsciiBlank c = true) ∧
    Sign sign s ∧ Prefix base ∧ Digits digits n ∧ z = s * n

/-! ## Digits -/

theorem digit?_eq_some {c : Char} {k : Nat} (digit : digit? 16 c = some k) :
    48 ≤ c.toNat ∧ c.toNat ≤ 57 ∨ 97 ≤ c.toNat ∧ c.toNat ≤ 102 ∨ 65 ≤ c.toNat ∧ c.toNat ≤ 70 := by
  simp only [digit?] at digit
  split_ifs at digit <;> omega

theorem ne_of_digit {c d : Char} {k : Nat} (digit : digit? 16 c = some k)
    (other : digit? 16 d = none) : c ≠ d := by
  rintro rfl
  rw [other] at digit
  cases digit

theorem digitsAfter_cons {c : Char} {k : Nat} (digit : digit? 16 c = some k) (value : Nat)
    (t : Text) : digitsAfter 16 value (c :: t) = digitsAfter 16 (value * 16 + k) t := by
  cases t with
  | nil => simp [digitsAfter, digit]
  | cons d t =>
      rw [digitsAfter, if_neg (ne_of_digit digit (by decide)), digit]
      rfl

theorem digitsAfter_append {t : Text} {value n : Nat} (read : digitsAfter 16 value t = some n)
    (more : Text) : digitsAfter 16 value (t ++ more) = digitsAfter 16 n more := by
  fun_induction digitsAfter 16 value t with
  | case1 value =>
      obtain rfl := Option.some.inj read
      rfl
  | case2 value c =>
      obtain ⟨k, digit, rfl⟩ := Option.map_eq_some_iff.mp read
      exact digitsAfter_cons digit value more
  | case3 value d rest ih =>
      obtain ⟨k, digit, read⟩ := Option.bind_eq_some_iff.mp read
      rw [List.cons_append, List.cons_append, digitsAfter, if_pos rfl, digit]
      exact ih k read
  | case4 value c d rest notUnderscore ih =>
      obtain ⟨k, digit, read⟩ := Option.bind_eq_some_iff.mp read
      rw [List.cons_append, digitsAfter_cons digit]
      exact ih k read

theorem digits_of_digitsAfter {front t : Text} {value n : Nat} (started : Digits front value)
    (read : digitsAfter 16 value t = some n) : Digits (front ++ t) n := by
  fun_induction digitsAfter 16 value t generalizing front with
  | case1 value =>
      obtain rfl := Option.some.inj read
      rwa [List.append_nil]
  | case2 value c =>
      obtain ⟨k, digit, rfl⟩ := Option.map_eq_some_iff.mp read
      exact started.digit digit
  | case3 value d rest ih =>
      obtain ⟨k, digit, read⟩ := Option.bind_eq_some_iff.mp read
      have whole := ih k (started.underscore digit) read
      rwa [List.append_assoc] at whole
  | case4 value c d rest notUnderscore ih =>
      obtain ⟨k, digit, read⟩ := Option.bind_eq_some_iff.mp read
      have whole := ih k (started.digit digit) read
      rwa [List.append_assoc] at whole

theorem Digits.head {t : Text} {n : Nat} (digits : Digits t n) :
    ∃ c k rest, t = c :: rest ∧ digit? 16 c = some k := by
  induction digits with
  | single digit => exact ⟨_, _, _, rfl, digit⟩
  | digit front digit ih =>
      obtain ⟨c, k, rest, rfl, first⟩ := ih
      exact ⟨c, k, _, rfl, first⟩
  | underscore front digit ih =>
      obtain ⟨c, k, rest, rfl, first⟩ := ih
      exact ⟨c, k, _, rfl, first⟩

theorem digits?_eq_some_iff {t : Text} {n : Nat} : digits? 16 t = some n ↔ Digits t n := by
  constructor
  · intro read
    cases t with
    | nil => cases read
    | cons c t =>
        obtain ⟨k, digit, read⟩ := Option.bind_eq_some_iff.mp read
        exact digits_of_digitsAfter (.single digit) read
  · intro digits
    have step {front : Text} {value : Nat} (digits : Digits front value)
        (read : digits? 16 front = some value) (more : Text) :
        digits? 16 (front ++ more) = digitsAfter 16 value more := by
      obtain ⟨c, k, rest, rfl, first⟩ := digits.head
      simp only [digits?, first, List.cons_append, Option.bind_eq_bind, Option.bind_some] at read ⊢
      exact digitsAfter_append read more
    induction digits with
    | single digit => simp [digits?, digit, digitsAfter]
    | digit front digit ih =>
        rw [step front ih]
        simp [digitsAfter, digit]
    | underscore front digit ih =>
        rw [step front ih]
        simp [digitsAfter, digit]

/-! ## Prefix and sign -/

theorem baseLetter?_eq_toLower_iff {x : Char} :
    baseLetter? 16 = some x.toLower ↔ x = 'x' ∨ x = 'X' := by
  constructor
  · intro base
    have lower : x.toLower = 'x' := (Option.some.inj base).symm
    unfold Char.toLower at lower
    split at lower
    · have value : x.val + 32 = 120 := congrArg Char.val lower
      have same : x.val = 120 - 32 := by rw [← value, UInt32.add_sub_cancel]
      exact .inr (Char.ext same)
    · exact .inl lower
  · rintro (rfl | rfl) <;> decide

theorem digit?_of_base {x : Char} (base : x = 'x' ∨ x = 'X') : digit? 16 x = none := by
  rcases base with rfl | rfl <;> decide

theorem unsigned?_eq_some_iff {t : Text} {n : Nat} :
    unsigned? 16 t = some n ↔ ∃ base digits, t = base ++ digits ∧ Prefix base ∧ Digits digits n := by
  constructor
  · intro read
    have plain {t : Text} (read : digits? 16 t = some n) :
        ∃ base digits, t = base ++ digits ∧ Prefix base ∧ Digits digits n :=
      ⟨[], t, rfl, .none, digits?_eq_some_iff.mp read⟩
    unfold unsigned? at read
    split at read
    · rename_i x rest
      split_ifs at read with base
      · rw [baseLetter?_eq_toLower_iff] at base
        split at read
        · exact ⟨_, _, rfl, .underscore base, digits?_eq_some_iff.mp read⟩
        · exact ⟨['0', x], rest, rfl, .letter base, digits?_eq_some_iff.mp read⟩
      · exact plain read
    · exact plain read
  · rintro ⟨base, digits, rfl, starts, grammatical⟩
    have read := digits?_eq_some_iff.mpr grammatical
    cases starts with
    | none =>
        rw [List.nil_append]
        unfold unsigned?
        split
        · rename_i x rest
          split_ifs with base
          · -- A letter of the base is no digit, so it does not follow a first 0.
            rw [baseLetter?_eq_toLower_iff] at base
            have notUnderscore : x ≠ '_' := by rcases base with rfl | rfl <;> decide
            cases rest <;>
              simp [digits?, digitsAfter, digit?_of_base base, notUnderscore] at read
          · exact read
        · exact read
    | letter base =>
        obtain ⟨c, k, rest, rfl, first⟩ := grammatical.head
        have notUnderscore : c ≠ '_' := ne_of_digit first (by decide)
        simp only [List.cons_append, List.nil_append, unsigned?,
          if_pos (baseLetter?_eq_toLower_iff.mpr base)]
        split
        · rename_i same
          exact absurd (List.cons.inj same).1 notUnderscore
        · exact read
    | underscore base =>
        simp only [List.cons_append, List.nil_append, unsigned?,
          if_pos (baseLetter?_eq_toLower_iff.mpr base)]
        exact read

/-! ## Numerals -/

def IsInside (c : Char) : Prop := c ∈ ['+', '-', 'x', 'X', '_'] ∨ ∃ k, digit? 16 c = some k

theorem Digits.inside {t : Text} {n : Nat} (digits : Digits t n) : ∀ c ∈ t, IsInside c := by
  induction digits with
  | single digit =>
      intro c member
      rw [List.mem_singleton.mp member]
      exact .inr ⟨_, digit⟩
  | digit front digit ih =>
      intro c member
      rcases List.mem_append.mp member with before | last
      · exact ih c before
      · rw [List.mem_singleton.mp last]
        exact .inr ⟨_, digit⟩
  | underscore front digit ih =>
      intro c member
      rcases List.mem_append.mp member with before | last
      · exact ih c before
      · simp only [List.mem_cons, List.not_mem_nil, or_false] at last
        rcases last with rfl | rfl
        · exact .inl (by decide)
        · exact .inr ⟨_, digit⟩

theorem Prefix.inside {t : Text} (base : Prefix t) : ∀ c ∈ t, IsInside c := by
  have zero : IsInside '0' := .inr ⟨0, rfl⟩
  have letter {x : Char} (base : x = 'x' ∨ x = 'X') : IsInside x := by
    rcases base with rfl | rfl <;> exact .inl (by decide)
  cases base with
  | none => simp
  | letter base => simpa using ⟨zero, letter base⟩
  | underscore base => simpa using ⟨zero, letter base, .inl (by decide)⟩

theorem Sign.inside {t : Text} {s : Int} (sign : Sign t s) : ∀ c ∈ t, IsInside c := by
  cases sign with
  | none => simp
  | plus => simpa using .inl (by decide)
  | minus => simpa using .inl (by decide)

theorem IsInside.notBlank {c : Char} (inside : IsInside c) : isAsciiBlank c = false := by
  rcases inside with sign | ⟨k, digit⟩
  · simp only [List.mem_cons, List.not_mem_nil, or_false] at sign
    rcases sign with rfl | rfl | rfl | rfl | rfl <;> decide
  · have bounds := digit?_eq_some digit
    have notSpace : c ≠ ' ' := ne_of_digit digit (by decide)
    simp only [isAsciiBlank, beq_eq_false_iff_ne.mpr notSpace, Bool.false_or, Bool.and_eq_false_iff,
      decide_eq_false_iff_not]
    omega

theorem IsInside.ne_backslash {c : Char} (inside : IsInside c) : c ≠ '\\' := by
  rcases inside with sign | ⟨k, digit⟩
  · rintro rfl
    exact absurd sign (by decide)
  · exact ne_of_digit digit (by decide)

theorem parse?_eq_some_iff {w : WideText} {z : Int} : parse? 16 w = some z ↔ IsNumeral w z := by
  constructor
  · intro read
    obtain ⟨before, after, spelled, before_blank, after_blank⟩ :=
      exists_trimBoth isAsciiBlank (spelling w)
    have numeral {sign rest : Text} {s : Int} {n : Nat} (signed : Sign sign s)
        (core : trimBoth isAsciiBlank (spelling w) = sign ++ rest)
        (read : unsigned? 16 rest = some n) : IsNumeral w (s * n) := by
      obtain ⟨base, digits, rfl, starts, grammatical⟩ := unsigned?_eq_some_iff.mp read
      rw [core] at spelled
      exact ⟨before, sign, base, digits, after, s, n, spelled, before_blank, after_blank, signed,
        starts, grammatical, rfl⟩
    unfold parse? at read
    split at read
    · rename_i rest core
      obtain ⟨z, converted, rfl⟩ := Option.map_eq_some_iff.mp read
      obtain ⟨n, unsigned, same⟩ := Option.bind_eq_some_iff.mp converted
      obtain rfl := Option.some.inj same
      simpa using numeral .minus core unsigned
    · rename_i rest core
      obtain ⟨n, unsigned, rfl⟩ := Option.map_eq_some_iff.mp read
      simpa using numeral .plus core unsigned
    · obtain ⟨n, unsigned, rfl⟩ := Option.map_eq_some_iff.mp read
      simpa using numeral .none rfl unsigned
  · rintro ⟨before, sign, base, digits, after, s, n, spelled, before_blank, after_blank, signed,
      starts, grammatical, rfl⟩
    have inside : ∀ c ∈ sign ++ (base ++ digits), IsInside c := by
      simp only [List.mem_append]
      rintro c (member | member | member)
      · exact signed.inside c member
      · exact starts.inside c member
      · exact grammatical.inside c member
    have core : trimBoth isAsciiBlank (spelling w) = sign ++ (base ++ digits) := by
      rw [spelled]
      exact trimBoth_eq before_blank (fun c member => (inside c member).notBlank) after_blank
    have read : unsigned? 16 (base ++ digits) = some n :=
      unsigned?_eq_some_iff.mpr ⟨base, digits, rfl, starts, grammatical⟩
    unfold parse?
    rw [core]
    cases signed with
    | minus => simp [read]
    | plus => simp [read]
    | none =>
        have unsigned : ∀ c ∈ (base ++ digits).head?, c ≠ '-' ∧ c ≠ '+' := by
          obtain ⟨c, k, rest, rfl, first⟩ := grammatical.head
          have head : c ≠ '-' ∧ c ≠ '+' :=
            ⟨ne_of_digit first (by decide), ne_of_digit first (by decide)⟩
          cases starts <;> simp [head]
        rw [List.nil_append]
        split
        · rename_i same
          exact absurd rfl (unsigned '-' (by rw [same]; rfl)).1
        · rename_i same
          exact absurd rfl (unsigned '+' (by rw [same]; rfl)).2
        · simp [read]

theorem IsNumeral.noBackslash {w : WideText} {z : Int} (numeral : IsNumeral w z) :
    ∀ c ∈ w, c ≠ .ofChar '\\' := by
  obtain ⟨before, sign, base, digits, after, s, n, spelled, before_blank, after_blank, signed,
    starts, grammatical, -⟩ := numeral
  have absent : '\\' ∉ spelling w := by
    have notBlank : isAsciiBlank '\\' = false := by decide
    rw [spelled]
    simp only [List.mem_append, not_or]
    refine ⟨⟨fun member => ?_, fun member => ?_, fun member => ?_, fun member => ?_⟩,
      fun member => ?_⟩
    · exact absurd (before_blank _ member) (by simp [notBlank])
    · exact (signed.inside _ member).ne_backslash rfl
    · exact (starts.inside _ member).ne_backslash rfl
    · exact (grammatical.inside _ member).ne_backslash rfl
    · exact absurd (after_blank _ member) (by simp [notBlank])
  rintro c member rfl
  apply absent
  unfold spelling
  split_ifs
  · exact List.mem_map.mpr ⟨_, member, by decide⟩
  · exact List.mem_map.mpr ⟨_, member, by decide⟩

end Numeral

end MaskedPath
