import MaskedPath.Proofs.ComposedDocuments
import MaskedPath.Proofs.MalformedEscapes
import MaskedPath.Proofs.MaskEntries

/-!
# Escape pairs

A backslash and the character after it are a pair. A logical line is a sequence of pairs and of other
characters: its last backslash is never left alone, however many lines were joined to it. It is cut
between two of these, so the key and the value are such sequences too. Undoing their escapes takes a
pair or a whole escape with its four digits at a time, and stays between two parts of the sequence
until it ends or fails, so it never meets a backslash with nothing after it.
-/

namespace MaskedPath

theorem inLine_of_mem_lines {t line : WideText} (member : line ∈ lines t) :
    ∀ c ∈ line, isLineBoundary c.val = false := by
  fun_induction lines t generalizing line with
  | case1 => cases member
  | case2 c boundary =>
      rw [List.mem_singleton.mp member]
      simp
  | case3 c inside =>
      rw [List.mem_singleton.mp member]
      simpa using inside
  | case4 c d rest both ih =>
      rcases List.mem_cons.mp member with rfl | later
      · simp
      · exact ih later
  | case5 c d rest single boundary ih =>
      rcases List.mem_cons.mp member with rfl | later
      · simp
      · exact ih later
  | case6 c d rest single inside none ih =>
      rw [List.mem_singleton.mp member]
      simpa using inside
  | case7 c d rest single inside first more split ih =>
      rw [split] at ih
      rcases List.mem_cons.mp member with rfl | later
      · exact List.forall_mem_cons.mpr ⟨by simpa using inside, ih List.mem_cons_self⟩
      · exact ih (List.mem_cons_of_mem _ later)

namespace Properties

/-! ## Logical lines -/

/-- What every logical line is, and what every line leaves open. -/
structure IsLogical (line : WideText) : Prop where
  closed : IsClosed line
  inLine : ∀ c ∈ line, isLineBoundary c.val = false
  tight : ∀ c ∈ line.head?, isGap c = false

theorem isClosed_of_not_continued {line : WideText} (complete : isContinued line = false) :
    IsClosed line := by
  unfold isContinued at complete
  unfold IsClosed
  simp only [beq_eq_false_iff_ne] at complete
  omega

theorem isClosed_dropLast {line : WideText} (continued : isContinued line = true) :
    IsClosed line.dropLast := by
  rcases List.eq_nil_or_concat line with rfl | ⟨front, c, rfl⟩
  · exact isClosed_nil
  · unfold isContinued at continued
    unfold IsClosed
    rw [List.concat_eq_append] at *
    rw [trailingBackslashes_concat] at continued
    rw [List.dropLast_concat]
    split_ifs at continued with backslash
    · simp only [beq_iff_eq] at continued
      omega
    · cases continued

theorem head?_of_dropLast {line : WideText} {c : CodePoint} (head : c ∈ line.dropLast.head?) :
    c ∈ line.head? := by
  cases line with
  | nil => exact head
  | cons d rest => cases rest <;> simp_all

theorem isLogical_takeLine {pending : Option WideText} (sound : ∀ front ∈ pending, IsLogical front)
    {raw : WideText} (inLine : ∀ c ∈ raw, isLineBoundary c.val = false) :
    (∀ line ∈ (takeLine pending raw).1, IsLogical line) ∧
      ∀ front ∈ (takeLine pending raw).2, IsLogical front := by
  have stripped_inLine : ∀ c ∈ raw.dropWhile isGap, isLineBoundary c.val = false :=
    fun c member => inLine c ((List.dropWhile_suffix _).subset member)
  have stripped_tight := forall_head?_dropWhile isGap raw
  have joined_inLine : ∀ c ∈ pending.getD [] ++ raw.dropWhile isGap, isLineBoundary c.val = false := by
    cases pending with
    | none => exact stripped_inLine
    | some front => exact List.forall_mem_append.mpr ⟨(sound front rfl).inLine, stripped_inLine⟩
  -- The indentation of a line is gone before it is joined, so an empty front lets none through.
  have joined_tight : ∀ c ∈ (pending.getD [] ++ raw.dropWhile isGap).head?, isGap c = false := by
    cases pending with
    | none => exact stripped_tight
    | some front =>
        cases front with
        | nil => exact stripped_tight
        | cons d front => exact (sound _ rfl).tight
  unfold takeLine
  dsimp only
  generalize pending.getD [] ++ raw.dropWhile isGap = joined at *
  split_ifs with skipped continued
  · exact ⟨nofun, nofun⟩
  · have opened : IsLogical joined.dropLast := by
      refine ⟨isClosed_dropLast continued, fun c member => ?_, fun c head => joined_tight c ?_⟩
      · exact joined_inLine c ((List.dropLast_prefix joined).subset member)
      · exact head?_of_dropLast head
    simpa using opened
  · have complete : IsLogical joined :=
      ⟨isClosed_of_not_continued (by simpa using continued), joined_inLine, joined_tight⟩
    simpa using complete

theorem isLogical_of_mem_logicalLinesAfter {pending : Option WideText}
    (sound : ∀ front ∈ pending, IsLogical front) {raws : List WideText}
    (inLine : ∀ raw ∈ raws, ∀ c ∈ raw, isLineBoundary c.val = false) :
    ∀ line ∈ logicalLinesAfter pending raws, IsLogical line := by
  induction raws generalizing pending with
  | nil =>
      intro line member
      exact sound line (by simpa [logicalLinesAfter] using member)
  | cons raw raws ih =>
      rw [List.forall_mem_cons] at inLine
      obtain ⟨complete, opened⟩ := isLogical_takeLine sound inLine.1
      rw [logicalLinesAfter_cons, List.forall_mem_append]
      exact ⟨complete, ih opened inLine.2⟩

theorem isLogical_of_mem_logicalLines {document line : WideText}
    (member : line ∈ logicalLines document) : IsLogical line :=
  isLogical_of_mem_logicalLinesAfter (by simp) (fun _ => inLine_of_mem_lines) line member

/-! ## Pairs -/

/-- Where reading text ends that takes two places for a backslash and one for any other character: one
place behind the text, if its last backslash is alone. -/
def scanEnd : WideText → Nat
  | [] => 0
  | [c] => if c = .ofChar '\\' then 2 else 1
  | c :: d :: rest => if c = .ofChar '\\' then scanEnd rest + 2 else scanEnd (d :: rest) + 1

theorem scanEnd_eq_length_iff (t : WideText) : scanEnd t = t.length ↔ IsClosed t := by
  fun_induction scanEnd t with
  | case1 => simp [isClosed_nil]
  | case2 => simp [isClosed_single_iff]
  | case3 c plain => simp [isClosed_single_iff, plain]
  | case4 d rest ih =>
      have same : IsClosed (.ofChar '\\' :: d :: rest) ↔ IsClosed rest := (isClosed_pair d).append_iff
      rw [same, ← ih]
      simp
  | case5 c d rest plain ih =>
      have same : IsClosed (c :: d :: rest) ↔ IsClosed (d :: rest) :=
        (isClosed_single_iff.mpr plain).append_iff
      rw [same, ← ih]
      simp

/-- A line that leaves no backslash alone is cut between two pairs: its key leaves none alone. -/
theorem isClosed_splitKey {line : WideText} (closed : IsClosed line) : IsClosed (splitKey line).1 := by
  fun_induction splitKey line with
  | case1 => exact isClosed_nil
  | case2 => exact isClosed_nil
  | case3 => exact closed
  | case4 d rest key after split ih =>
      rw [split] at ih
      exact (isClosed_pair d).append_iff.mpr (ih ((isClosed_pair d).append_iff.mp closed))
  | case5 => exact isClosed_nil
  | case6 c d rest plain inside key after split ih =>
      have single : IsClosed [c] := isClosed_single_iff.mpr plain
      rw [split] at ih
      exact single.append_iff.mpr (ih (single.append_iff.mp closed))

theorem exists_between (after : WideText) :
    ∃ between, after = between ++ valueOf after ∧
      ∀ c ∈ between, isGap c = true ∨ isSeparator c = true := by
  have gaps (t : WideText) : ∀ c ∈ t.takeWhile isGap, isGap c = true ∨ isSeparator c = true :=
    fun c member => .inl (List.mem_takeWhile_imp member)
  have cut (t : WideText) : t = t.takeWhile isGap ++ t.dropWhile isGap :=
    List.takeWhile_append_dropWhile.symm
  unfold valueOf
  split
  next stripped =>
      refine ⟨after, by simp, ?_⟩
      rw [cut after, stripped, List.append_nil]
      exact gaps after
  next c rest stripped =>
      split_ifs with separator
      · refine ⟨after.takeWhile isGap ++ c :: rest.takeWhile isGap, ?_, ?_⟩
        · conv_lhs => rw [cut after, stripped, cut rest]
          simp
        · exact List.forall_mem_append.mpr
            ⟨gaps after, List.forall_mem_cons.mpr ⟨.inr separator, gaps rest⟩⟩
      · refine ⟨after.takeWhile isGap, ?_, gaps after⟩
        rw [← stripped]
        exact cut after

/-- A line is its key, gaps and separators, and its value. -/
theorem exists_splitEntry_append (line : WideText) :
    ∃ between, line = (splitEntry line).1 ++ (between ++ (splitEntry line).2) ∧
      ∀ c ∈ between, isGap c = true ∨ isSeparator c = true := by
  obtain ⟨between, whole, divides⟩ := exists_between (splitKey line).2
  refine ⟨between, ?_, divides⟩
  change line = (splitKey line).1 ++ (between ++ valueOf (splitKey line).2)
  rw [← whole]
  exact (splitKey_fst_append_snd line).symm

theorem isClosed_splitEntry {line : WideText} (closed : IsClosed line) :
    IsClosed (splitEntry line).1 ∧ IsClosed (splitEntry line).2 := by
  have key_closed := isClosed_splitKey closed
  refine ⟨key_closed, ?_⟩
  obtain ⟨between, whole, divides⟩ := exists_splitEntry_append line
  have plain : NoBackslash between := by
    rintro c member rfl
    exact absurd (divides _ member) (by decide)
  have between_closed : IsClosed between := isClosed_nil.append plain
  rw [whole] at closed
  exact between_closed.append_iff.mp ((key_closed : IsClosed (splitEntry line).1).append_iff.mp closed)

def IsUnescaped (c : CodePoint) (t : WideText) : Prop :=
  ∃ front rest, t = front ++ c :: rest ∧ IsClosed front

theorem IsUnescaped.mem {c : CodePoint} {t : WideText} (unescaped : IsUnescaped c t) : c ∈ t := by
  obtain ⟨front, rest, rfl, -⟩ := unescaped
  simp

theorem IsUnescaped.of_plain {c d : CodePoint} {t : WideText} (plain : d ≠ .ofChar '\\')
    (unescaped : IsUnescaped c (d :: t)) : c = d ∨ IsUnescaped c t := by
  obtain ⟨front, rest, split, closed⟩ := unescaped
  cases front with
  | nil => exact .inl (List.cons.inj split).1.symm
  | cons e front =>
      obtain ⟨rfl, rfl⟩ := List.cons.inj split
      exact .inr ⟨front, rest, rfl, (isClosed_single_iff.mpr plain).append_iff.mp closed⟩

theorem IsUnescaped.of_pair {c d : CodePoint} {t : WideText}
    (unescaped : IsUnescaped c (.ofChar '\\' :: d :: t)) : c = .ofChar '\\' ∨ IsUnescaped c t := by
  obtain ⟨front, rest, split, closed⟩ := unescaped
  match front, split with
  | [], split => exact .inl (List.cons.inj split).1.symm
  | [e], split => exact absurd (List.cons.inj split).1.symm (isClosed_single_iff.mp closed)
  | _ :: e :: front, split =>
      obtain ⟨rfl, rfl, rfl⟩ := by simpa using split
      exact .inr ⟨front, rest, rfl, (isClosed_pair d).append_iff.mp closed⟩

theorem splitKey_unescaped {line : WideText} {c : CodePoint}
    (unescaped : IsUnescaped c (splitKey line).1) : isSeparator c = false ∧ isGap c = false := by
  have inside_both {d : CodePoint} (inside : ¬ (isSeparator d || isGap d) = true) :
      isSeparator d = false ∧ isGap d = false := by simpa using inside
  fun_induction splitKey line with
  | case1 => cases unescaped.mem
  | case2 => cases unescaped.mem
  | case3 d inside =>
      obtain rfl := List.mem_singleton.mp unescaped.mem
      exact inside_both inside
  | case4 d rest key after split ih =>
      rw [split] at ih
      rcases unescaped.of_pair with rfl | later
      · decide
      · exact ih later
  | case5 => cases unescaped.mem
  | case6 d e rest plain inside key after split ih =>
      rw [split] at ih
      rcases unescaped.of_plain plain with rfl | later
      · exact inside_both inside
      · exact ih later

/-! ## Undoing escapes -/

/-- What undoing the escapes of text does first: it ends, comes upon a backslash with nothing after it,
gives a character and goes on with the rest, or fails. -/
inductive Move
  | done
  | lone
  | give (c : CodePoint) (rest : WideText)
  | fail (e : Error)

def move : WideText → Move
  | [] => .done
  | [c] => if c = .ofChar '\\' then .lone else .give c []
  | c :: d :: rest =>
    if c ≠ .ofChar '\\' then .give c (d :: rest)
    else if d ≠ .ofChar 'u' then .give (escapeLetter d) rest
    else match rest with
      | x₁ :: x₂ :: x₃ :: x₄ :: rest =>
        match codePoint? [x₁, x₂, x₃, x₄] with
        | some p => .give p rest
        | none => .fail (.badDigits [x₁, x₂, x₃, x₄])
      | short => .fail (.shortEscape (c :: d :: short))

def Move.outcome (undo : WideText → Except Error WideText) : Move → Except Error WideText
  | .done => .ok []
  | .lone => .ok [.ofChar '\\']
  | .give c rest => (undo rest).map (c :: ·)
  | .fail e => .error e

theorem unescape_eq (t : WideText) : unescape t = (move t).outcome unescape := by
  fun_cases unescape t with
  | case1 => rfl
  | case2 c =>
      by_cases backslash : c = .ofChar '\\' <;>
        simp [move, Move.outcome, backslash, unescape, Except.map]
  | case3 c d rest plain => simp [move, Move.outcome, plain]
  | case4 c d rest backslash notCode => simp [move, Move.outcome, backslash, notCode]
  | case5 c d backslash code x₁ x₂ x₃ x₄ rest p value =>
      simp [move, Move.outcome, backslash, code, value]
  | case6 c d backslash code x₁ x₂ x₃ x₄ rest noValue =>
      simp [move, Move.outcome, backslash, code, noValue]
  | case7 c d backslash code short tooShort => simp [move, Move.outcome, backslash, code]

/-- Undoing the escapes of one text comes to the other, which then is what is left of it. -/
inductive ComesTo : WideText → WideText → Prop
  | here (t : WideText) : ComesTo t t
  | later {t rest s : WideText} {c : CodePoint} (given : move t = .give c rest)
      (further : ComesTo rest s) : ComesTo t s

/-- The characters that a move takes end with no backslash alone: a character of another kind, a pair, or
a pair and four characters that are a numeral, among which no backslash is. -/
theorem exists_taken {t rest : WideText} {c : CodePoint} (given : move t = .give c rest) :
    ∃ taken, t = taken ++ rest ∧ IsClosed taken := by
  fun_cases move t with
  | case1 => simp [move] at given
  | case2 => simp [move] at given
  | case3 d plain =>
      simp only [move, if_neg plain, Move.give.injEq] at given
      obtain ⟨rfl, rfl⟩ := given
      exact ⟨[d], rfl, isClosed_single_iff.mpr plain⟩
  | case4 d e more plain =>
      simp only [move, if_pos plain, Move.give.injEq] at given
      obtain ⟨rfl, rfl⟩ := given
      exact ⟨[d], rfl, isClosed_single_iff.mpr plain⟩
  | case5 d e more backslash notCode =>
      simp only [move, if_neg backslash, if_pos notCode, Move.give.injEq] at given
      obtain ⟨-, rfl⟩ := given
      obtain rfl := not_not.mp backslash
      exact ⟨[.ofChar '\\', e], rfl, isClosed_pair e⟩
  | case6 d e backslash code x₁ x₂ x₃ x₄ more p value =>
      simp only [move, if_neg backslash, if_neg code, value, Move.give.injEq] at given
      obtain ⟨-, rfl⟩ := given
      obtain rfl := not_not.mp backslash
      have window : IsClosed [x₁, x₂, x₃, x₄] :=
        isClosed_nil.append (codePoint?_eq_some_iff.mp value).noBackslash
      exact ⟨[.ofChar '\\', e, x₁, x₂, x₃, x₄], rfl, (isClosed_pair e).append_iff.mpr window⟩
  | case7 d e backslash code x₁ x₂ x₃ x₄ more noValue => simp [move, backslash, code, noValue] at given
  | case8 d e backslash code short tooShort => simp [move, backslash, code] at given

theorem move_eq_lone_iff {t : WideText} : move t = .lone ↔ t = [.ofChar '\\'] := by
  fun_cases move t with
  | case3 c plain => simp [plain]
  | _ => simp

theorem IsClosed.move_ne_lone {t : WideText} (closed : IsClosed t) : move t ≠ .lone := by
  intro lone
  rw [move_eq_lone_iff.mp lone] at closed
  exact isClosed_single_iff.mp closed rfl

theorem IsClosed.of_comesTo {t s : WideText} (closed : IsClosed t) (comes : ComesTo t s) :
    IsClosed s := by
  induction comes with
  | here t => exact closed
  | later given further ih =>
      obtain ⟨taken, rfl, taken_closed⟩ := exists_taken given
      exact ih (taken_closed.append_iff.mp closed)

/-- No backslash of a document is left alone. Every logical line ends in an even number of backslashes,
stands on one line and begins with no space or tab. Its key and its value are read in escape pairs
exactly to their ends, and the key has no separator and no gap that is not escaped. So undoing the
escapes of a key or a value, one move after the other, never comes to a backslash with nothing after
it. -/
theorem escapes_paired (document : WideText) :
    (∀ line ∈ logicalLines document,
      trailingBackslashes line % 2 = 0 ∧ (∀ c ∈ line, isLineBoundary c.val = false) ∧
      (∀ c ∈ line.head?, c ≠ .ofChar ' ' ∧ c ≠ .ofChar '\t') ∧
      scanEnd (splitEntry line).1 = (splitEntry line).1.length ∧
      scanEnd (splitEntry line).2 = (splitEntry line).2.length ∧
      ∀ c, IsUnescaped c (splitEntry line).1 → isSeparator c = false ∧ isGap c = false) ∧
    ∀ part ∈ parts document, ∀ rest, ComesTo part rest →
      unescape rest = (move rest).outcome unescape ∧ move rest ≠ .lone := by
  have closed {line : WideText} (member : line ∈ logicalLines document) :=
    isClosed_splitEntry (isLogical_of_mem_logicalLines member).closed
  constructor
  · intro line member
    have logical := isLogical_of_mem_logicalLines member
    obtain ⟨key_closed, value_closed⟩ := closed member
    refine ⟨logical.closed, logical.inLine, fun c head => ?_, (scanEnd_eq_length_iff _).mpr key_closed,
      (scanEnd_eq_length_iff _).mpr value_closed, fun c => splitKey_unescaped⟩
    have notGap := logical.tight c head
    constructor <;> rintro rfl <;> exact absurd notGap (by decide)
  · intro part member rest comes
    obtain ⟨line, there, isPart⟩ := List.mem_flatMap.mp member
    have part_closed : IsClosed part := by
      rcases List.mem_pair.mp isPart with rfl | rfl
      · exact (closed there).1
      · exact (closed there).2
    exact ⟨unescape_eq rest, (part_closed.of_comesTo comes).move_ne_lone⟩

/-- Of four backslashes at the end of two lines that are joined, the one that joins them and the one that
joins nothing are left out. -/
example : logicalLines (wideOf "k=a\\\\\\\n\\") = [wideOf "k=a\\\\"] := by decide

end Properties

end MaskedPath
