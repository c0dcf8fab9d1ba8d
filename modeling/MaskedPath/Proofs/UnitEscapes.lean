import MaskedPath.Proofs.WrittenEntries
import MaskedPath.Text.Decoding

/-!
# Documents in UTF-16 escapes

A writer that escapes UTF-16 units writes a character above U+FFFF as two escapes, one for each
surrogate of its pair. The reader makes a code point of each escape, so the pair stays two surrogates:
a stored document is read as the UTF-16 units of its pairs, and these are the stored pairs exactly when
no such character is among them.
-/

namespace MaskedPath

/-! ## UTF-16 -/

def charUnits (c : Char) : WideText :=
  if c.toNat < 0x10000 then [.ofChar c]
  else
    have above := CodePoint.char_lt c
    [⟨0xd800 + (c.toNat - 0x10000) / 0x400, by omega⟩,
      ⟨0xdc00 + (c.toNat - 0x10000) % 0x400, by omega⟩]

def units (t : Text) : WideText := t.flatMap charUnits

/-- Whether the characters of text are one UTF-16 unit each. -/
def IsBasic (t : Text) : Prop := ∀ c ∈ t, c.toNat < 0x10000

instance (t : Text) : Decidable (IsBasic t) :=
  decidable_of_iff (t.all (·.toNat < 0x10000) = true) (by simp [IsBasic])

theorem not_surrogate (c : Char) : c.toNat < 0xd800 ∨ 0xdfff < c.toNat := by
  have valid := c.valid
  simp only [UInt32.isValidChar, Nat.isValidChar] at valid
  simp only [Char.toNat, UInt32.toNat] at *
  omega

theorem mem_charUnits_lt {c : Char} {u : CodePoint} (member : u ∈ charUnits c) : u.val < 0x10000 := by
  have above := CodePoint.char_lt c
  unfold charUnits at member
  split at member
  · obtain rfl := List.mem_singleton.mp member
    assumption
  · simp only [List.mem_cons, List.not_mem_nil, or_false] at member
    rcases member with rfl | rfl
    · dsimp only
      omega
    · dsimp only
      omega

/-- The units of text tell its first character. -/
theorem charUnits_append_inj {c d : Char} {rest rest' : WideText}
    (same : charUnits c ++ rest = charUnits d ++ rest') : c = d ∧ rest = rest' := by
  have aboveC := CodePoint.char_lt c
  have aboveD := CodePoint.char_lt d
  have outC := not_surrogate c
  have outD := not_surrogate d
  unfold charUnits at same
  -- No character is a surrogate, so a character of one unit does not begin as one of two.
  split_ifs at same with small small'
  all_goals
    simp only [List.cons_append, List.nil_append, List.cons.injEq, CodePoint.mk.injEq,
      CodePoint.ofChar] at same
  · exact ⟨Char.toNat_inj.mp same.1, same.2⟩
  · omega
  · omega
  · obtain ⟨high, low, rest⟩ := same
    exact ⟨Char.toNat_inj.mp (by omega), rest⟩

theorem charUnits_ne_nil (c : Char) : charUnits c ≠ [] := by
  unfold charUnits
  split <;> simp

theorem units_injective : Function.Injective units := by
  intro a b same
  induction a generalizing b with
  | nil =>
      cases b with
      | nil => rfl
      | cons d b => simp [units, charUnits_ne_nil] at same
  | cons c a ih =>
      cases b with
      | nil => simp [units, charUnits_ne_nil] at same
      | cons d b =>
          obtain ⟨rfl, rest⟩ := charUnits_append_inj same
          rw [ih rest]

theorem units_eq_wide_iff (t : Text) : units t = wide t ↔ IsBasic t := by
  induction t with
  | nil => simp [units, wide, IsBasic]
  | cons c t ih =>
      have split : IsBasic (c :: t) ↔ c.toNat < 0x10000 ∧ IsBasic t := List.forall_mem_cons
      rw [split, ← ih]
      unfold units wide
      rw [List.flatMap_cons, List.map_cons]
      by_cases small : c.toNat < 0x10000
      · simp [charUnits, small]
      · have above := CodePoint.char_lt c
        refine ⟨fun same => absurd same ?_, fun both => absurd both.1 small⟩
        rw [charUnits, if_neg small]
        simp only [List.cons_append, List.cons.injEq, CodePoint.mk.injEq, CodePoint.ofChar]
        omega

namespace Properties

/-! ## Storing -/

def isCodedUnit (n : Nat) : Bool := n < 0x20 || 0x7e < n

/-- Text as it is stored: in ASCII, with escapes for UTF-16 units. -/
def escapeUnits (capitals : Bool) (t : Text) : WideText := escape capitals isCodedUnit (units t)

def storedLine (capitals : Bool) (pair : Text × Text) : WideText :=
  escapeUnits capitals pair.1 ++ .ofChar '=' :: escapeUnits capitals pair.2 ++ [.ofChar '\n']

def latin1 (t : WideText) : Bytes := t.map fun c => UInt8.ofNat c.val

def store (capitals : Bool) (pairs : List (Text × Text)) : Bytes :=
  latin1 (pairs.flatMap (storedLine capitals))

theorem decodeText_latin1 {t : WideText} (small : ∀ c ∈ t, c.val < 0x100) :
    decodeText .latin1 (latin1 t) = .ok t := by
  have same : (latin1 t).map CodePoint.ofByte = t := by
    unfold latin1
    rw [List.map_map]
    refine (List.map_congr_left fun c member => ?_).trans (List.map_id t)
    have fits : (UInt8.ofNat c.val).toNat = c.val := UInt8.toNat_ofNat_of_lt (small c member)
    cases c
    simpa [CodePoint.ofByte] using fits
  exact congrArg _ same

theorem spells_escapeUnits (capitals : Bool) (t : Text) :
    Spells (escapeUnits capitals t) (units t) := by
  apply spells_escape
  · intro u member _
    obtain ⟨c, -, inside⟩ := List.mem_flatMap.mp member
    exact mem_charUnits_lt inside
  · intro n boundary unlisted
    simp only [isLineBoundary, List.mem_cons, List.not_mem_nil, isCodedUnit, Bool.or_eq_true,
      Bool.and_eq_true, decide_eq_true_eq, beq_iff_eq] at *
    omega

theorem mem_escapePoint_lt {capitals : Bool} {c d : CodePoint}
    (member : d ∈ escapePoint capitals isCodedUnit c) : d.val < 0x100 := by
  have listed {t : WideText} (inside : d ∈ t) (ascii : ∀ d ∈ t, d.val < 0x100) :
      d.val < 0x100 := ascii d inside
  unfold escapePoint at member
  split_ifs at member with signed tab feed back page byDigits
  · simp only [isSigned, Bool.or_eq_true, decide_eq_true_eq, or_assoc] at signed
    rcases signed with rfl | rfl | rfl | rfl | rfl | rfl <;> exact listed member (by decide)
  · exact listed member (by decide)
  · exact listed member (by decide)
  · exact listed member (by decide)
  · exact listed member (by decide)
  · rcases List.mem_append.mp member with front | digits
    · exact listed front (by decide)
    · exact Nat.lt_trans (ascii_unitDigits capitals c.val d digits) (by decide)
  · obtain rfl := List.mem_singleton.mp member
    simp only [isCodedUnit, Bool.or_eq_true, decide_eq_true_eq] at byDigits
    omega

theorem writesLine_storedLine (capitals : Bool) (pair : Text × Text) :
    WritesLine (storedLine capitals pair) (units pair.1, units pair.2) := by
  have empty_run : IsRun [] := by simp [IsRun]
  have writes := WritesEntry.intro (spells_escapeUnits capitals pair.1) empty_run (fun _ => rfl)
    (.inl (.inl rfl)) empty_run (spells_escapeUnits capitals pair.2)
  exact ⟨[], _, empty_run, writes, by simp [storedLine]⟩

theorem decodeText_store (capitals : Bool) (pairs : List (Text × Text)) :
    decodeText .latin1 (store capitals pairs) = .ok (pairs.flatMap (storedLine capitals)) := by
  have escaped (t : Text) : ∀ d ∈ escapeUnits capitals t, d.val < 0x100 := by
    intro d member
    obtain ⟨u, -, inside⟩ := List.mem_flatMap.mp member
    exact mem_escapePoint_lt inside
  apply decodeText_latin1
  intro d member
  obtain ⟨pair, -, inside⟩ := List.mem_flatMap.mp member
  simp only [storedLine, List.mem_append, List.mem_cons, List.not_mem_nil, or_false] at inside
  rcases inside with (key | rfl | value) | rfl
  · exact escaped pair.1 d key
  · decide
  · exact escaped pair.2 d value
  · decide

/-- A stored document is read, as the pairs in UTF-16 units. These are the pairs that were stored
exactly when the dictionary of the pairs holds no character above U+FFFF. -/
theorem parse_stored (capitals : Bool) (pairs : List (Text × Text)) :
    ∃ document, decodeText .latin1 (store capitals pairs) = .ok document ∧
      parse document = .ok ((dictionary pairs).map (Prod.map units units)) ∧
      (parse document = .ok ((dictionary pairs).map (Prod.map wide wide)) ↔
        ∀ pair ∈ dictionary pairs, IsBasic pair.1 ∧ IsBasic pair.2) := by
  have read : parse (pairs.flatMap (storedLine capitals)) =
      .ok ((dictionary pairs).map (Prod.map units units)) := by
    rw [parse_flatMap (writesLine_storedLine capitals) pairs]
    exact congrArg _ (dictionary_map units_injective units pairs)
  refine ⟨_, decodeText_store capitals pairs, read, ?_⟩
  rw [read, Except.ok.injEq, List.map_inj_left]
  apply forall₂_congr
  intro pair _
  rw [Prod.ext_iff]
  exact and_congr (units_eq_wide_iff pair.1) (units_eq_wide_iff pair.2)

def smile : List (Text × Text) := [(['k'], ['😀'])]

/-- The character comes back as the two surrogates of its pair. -/
theorem stored_smile_is_surrogates :
    ∃ document, decodeText .latin1 (store true smile) = .ok document ∧
      parse document = .ok [([.ofChar 'k'], [⟨0xd83d, by decide⟩, ⟨0xde00, by decide⟩])] ∧
      parse document ≠ .ok ((dictionary smile).map (Prod.map wide wide)) := by
  refine ⟨(smile.flatMap (storedLine true)), ?_, ?_, ?_⟩ <;> decide

end Properties

end MaskedPath
