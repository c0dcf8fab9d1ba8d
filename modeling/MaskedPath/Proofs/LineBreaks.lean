import MaskedPath.Proofs.Paths
import MaskedPath.Proofs.WrittenEntries
import Mathlib.Data.List.TakeWhile

namespace MaskedPath

/-! ## Pieces -/

def staysInLine (c : CodePoint) : Bool := !isLineBoundary c.val

def pieces (t : WideText) : List WideText := splitWhere (fun c => isLineBoundary c.val) t

theorem pieces_cons_boundary {c : CodePoint} (boundary : isLineBoundary c.val = true)
    (t : WideText) : pieces (c :: t) = [] :: pieces t := by
  simp [pieces, splitWhere, boundary]

theorem pieces_cons {c : CodePoint} (inside : isLineBoundary c.val = false) {t piece : WideText}
    {more : List WideText} (rest : pieces t = piece :: more) :
    pieces (c :: t) = (c :: piece) :: more := by
  unfold pieces at rest ⊢
  simp [splitWhere, inside, rest]

theorem pieces_eq (t : WideText) : pieces t = t.takeWhile staysInLine :: (pieces t).tail := by
  induction t with
  | nil => rfl
  | cons c t ih =>
      cases boundary : isLineBoundary c.val with
      | true => simp [pieces_cons_boundary boundary, staysInLine, boundary]
      | false => simp [pieces_cons boundary ih, staysInLine, boundary]

theorem pieces_append {front : WideText} (inside : ∀ c ∈ front, isLineBoundary c.val = false)
    (t : WideText) :
    pieces (front ++ t) = (front ++ t.takeWhile staysInLine) :: (pieces t).tail := by
  induction front with
  | nil => exact pieces_eq t
  | cons c front ih =>
      simp only [List.forall_mem_cons] at inside
      exact pieces_cons inside.1 (ih inside.2)

theorem mem_of_mem_pieces {t piece : WideText} (member : piece ∈ pieces t) :
    ∀ c ∈ piece, c ∈ t ∧ isLineBoundary c.val = false := by
  induction t generalizing piece with
  | nil =>
      obtain rfl := List.mem_singleton.mp member
      simp
  | cons d t ih =>
      have later {piece : WideText} (member : piece ∈ pieces t) :
          ∀ c ∈ piece, c ∈ d :: t ∧ isLineBoundary c.val = false := fun c inside =>
        ⟨List.mem_cons_of_mem _ (ih member c inside).1, (ih member c inside).2⟩
      cases boundary : isLineBoundary d.val with
      | true =>
          rw [pieces_cons_boundary boundary] at member
          rcases List.mem_cons.mp member with rfl | member
          · simp
          · exact later member
      | false =>
          rw [pieces_cons boundary (pieces_eq t)] at member
          rcases List.mem_cons.mp member with rfl | member
          · intro c inside
            rcases List.mem_cons.mp inside with rfl | inside
            · exact ⟨List.mem_cons_self, boundary⟩
            · refine later ?_ c inside
              rw [pieces_eq t]
              exact List.mem_cons_self
          · refine later ?_
            rw [pieces_eq t]
            exact List.mem_cons_of_mem _ member

theorem lines_cons_boundary {c : CodePoint} (boundary : isLineBoundary c.val = true)
    (notReturn : c ≠ .ofChar '\r') (t : WideText) : lines (c :: t) = [] :: lines t := by
  cases t with
  | nil => simp [lines, boundary]
  | cons d t => rw [lines, if_neg fun both => notReturn both.1, if_pos boundary]

theorem lines_append_feed {t : WideText} (noReturn : ∀ c ∈ t, c ≠ .ofChar '\r')
    (rest : WideText) : lines (t ++ .ofChar '\n' :: rest) = pieces t ++ lines rest := by
  induction t with
  | nil => exact lines_cons_boundary (by decide) (by decide) rest
  | cons c t ih =>
      simp only [List.forall_mem_cons] at noReturn
      have later := ih noReturn.2
      cases boundary : isLineBoundary c.val with
      | true =>
          rw [List.cons_append, lines_cons_boundary boundary noReturn.1, later,
            pieces_cons_boundary boundary]
          rfl
      | false =>
          rw [pieces_eq t] at later
          rw [pieces_cons boundary (pieces_eq t)]
          exact lines_cons boundary later

theorem mem_of_mem_lines {t line : WideText} (member : line ∈ lines t) : ∀ c ∈ line, c ∈ t := by
  fun_induction lines t generalizing line with
  | case1 => cases member
  | case2 c boundary =>
      rw [List.mem_singleton.mp member]
      simp
  | case3 c inside =>
      rw [List.mem_singleton.mp member]
      simp
  | case4 c d rest both ih =>
      rcases List.mem_cons.mp member with rfl | later
      · simp
      · exact fun e inside => by simp [ih later e inside]
  | case5 c d rest single boundary ih =>
      rcases List.mem_cons.mp member with rfl | later
      · simp
      · exact fun e inside => List.mem_cons_of_mem _ (ih later e inside)
  | case6 c d rest single inside none ih =>
      rw [List.mem_singleton.mp member]
      simp
  | case7 c d rest single inside first more split ih =>
      rw [split] at ih
      rcases List.mem_cons.mp member with rfl | later
      · intro e here
        rcases List.mem_cons.mp here with rfl | here
        · exact List.mem_cons_self
        · exact List.mem_cons_of_mem _ (ih List.mem_cons_self e here)
      · exact fun e here => List.mem_cons_of_mem _ (ih (List.mem_cons_of_mem _ later) e here)

namespace Properties

/-! ## Documents without backslashes -/

def NoBackslash (t : WideText) : Prop := ∀ c ∈ t, c ≠ .ofChar '\\'

theorem unescape_of_noBackslash {t : WideText} (plain : NoBackslash t) : unescape t = .ok t := by
  induction t with
  | nil => rfl
  | cons c t ih =>
      simp only [NoBackslash, List.forall_mem_cons] at plain
      rw [unescape_plain plain.1, ih plain.2]
      rfl

theorem splitKey_fst_append_snd (line : WideText) : (splitKey line).1 ++ (splitKey line).2 = line := by
  fun_induction splitKey line with
  | case1 => rfl
  | case2 => rfl
  | case3 => rfl
  | case4 d rest key after split ih =>
      rw [split] at ih
      simpa using ih
  | case5 => rfl
  | case6 c d rest notBackslash inside key after split ih =>
      rw [split] at ih
      simpa using ih

theorem valueOf_suffix (after : WideText) : valueOf after <:+ after := by
  have stripped : after.dropWhile isGap <:+ after := List.dropWhile_suffix _
  unfold valueOf
  split
  · exact List.nil_suffix
  · rename_i c rest split
    rw [split] at stripped
    split_ifs
    · exact ((List.dropWhile_suffix _).trans (List.suffix_cons c rest)).trans stripped
    · exact stripped

theorem mem_of_mem_splitEntry {line : WideText} {c : CodePoint}
    (member : c ∈ (splitEntry line).1 ∨ c ∈ (splitEntry line).2) : c ∈ line := by
  rw [← splitKey_fst_append_snd line]
  rcases member with key | value
  · exact List.mem_append_left _ key
  · exact List.mem_append_right _ ((valueOf_suffix _).subset value)

def keptLines (raws : List WideText) : List WideText :=
  (raws.map (·.dropWhile isGap)).filter fun line => !isSkipped line

theorem mem_of_mem_keptLines {raws : List WideText} {line : WideText}
    (kept : line ∈ keptLines raws) : ∃ raw ∈ raws, ∀ c ∈ line, c ∈ raw := by
  obtain ⟨stripped, -⟩ := List.mem_filter.mp kept
  obtain ⟨raw, member, rfl⟩ := List.mem_map.mp stripped
  exact ⟨raw, member, fun c inside => (List.dropWhile_suffix _).subset inside⟩

theorem logicalLinesAfter_of_noBackslash {raws : List WideText}
    (plain : ∀ raw ∈ raws, NoBackslash raw) : logicalLinesAfter none raws = keptLines raws := by
  induction raws with
  | nil => rfl
  | cons raw raws ih =>
      simp only [List.forall_mem_cons] at plain
      have stripped : NoBackslash (raw.dropWhile isGap) := fun c inside =>
        plain.1 c ((List.dropWhile_suffix _).subset inside)
      have complete : isContinued (raw.dropWhile isGap) = false :=
        isContinued_eq_false (isClosed_nil.append stripped)
      cases skipped : isSkipped (raw.dropWhile isGap) <;>
        simp [logicalLinesAfter, keptLines, skipped, complete, ih plain.2]

theorem readLines_of_noBackslash {raws : List WideText} (plain : ∀ line ∈ raws, NoBackslash line)
    (entries : Entries) : readLines entries raws =
      .ok ((raws.map splitEntry).foldl (fun entries pair => entries.insert pair.1 pair.2) entries) := by
  induction raws generalizing entries with
  | nil => rfl
  | cons line raws ih =>
      simp only [List.forall_mem_cons] at plain
      have key : NoBackslash (splitEntry line).1 := fun c member =>
        plain.1 c (mem_of_mem_splitEntry (.inl member))
      have value : NoBackslash (splitEntry line).2 := fun c member =>
        plain.1 c (mem_of_mem_splitEntry (.inr member))
      have read : readEntry line = .ok (splitEntry line) := by
        unfold readEntry
        simp only [unescape_of_noBackslash key, unescape_of_noBackslash value]
        rfl
      rw [readLines, read]
      exact ih plain.2 _

/-- A document without backslashes is read line by line. -/
theorem parse_of_noBackslash {document : WideText} (plain : NoBackslash document) :
    parse document = .ok (dictionary ((keptLines (lines document)).map splitEntry)) := by
  have raws_plain : ∀ raw ∈ lines document, NoBackslash raw :=
    fun raw member c inside => plain c (mem_of_mem_lines member c inside)
  have kept_plain : ∀ line ∈ keptLines (lines document), NoBackslash line := by
    intro line member
    obtain ⟨raw, there, part⟩ := mem_of_mem_keptLines member
    exact fun c inside => raws_plain raw there c (part c inside)
  unfold parse logicalLines
  rw [logicalLinesAfter_of_noBackslash raws_plain, readLines_of_noBackslash kept_plain,
    Entries.foldl_insert]

/-! ## A comment and an entry -/

def IsLetter (c : CodePoint) : Prop := 65 ≤ c.val ∧ c.val ≤ 90 ∨ 97 ≤ c.val ∧ c.val ≤ 122

instance (c : CodePoint) : Decidable (IsLetter c) := by
  unfold IsLetter; infer_instance

theorem not_isSpecial_of_isLetter {c : CodePoint} (letter : IsLetter c) : isSpecial c = false := by
  have other {d : Char} (sign : ¬ IsLetter (.ofChar d)) : c ≠ .ofChar d :=
    fun same => sign (same ▸ letter)
  have inLine : isLineBoundary c.val = false := by
    unfold IsLetter at letter
    simp only [isLineBoundary, Bool.or_eq_false_iff, Bool.and_eq_false_iff, decide_eq_false_iff_not,
      beq_eq_false_iff_ne]
    omega
  simp [isSpecial, isGap, isSeparator, inLine, other (d := '\\') (by decide),
    other (d := ' ') (by decide), other (d := '\t') (by decide), other (d := '\x0c') (by decide),
    other (d := '=') (by decide), other (d := ':') (by decide), other (d := '#') (by decide),
    other (d := '!') (by decide)]

/-- Text without the ends of lines that a document is meant to have, and without backslashes. -/
def IsInner (t : WideText) : Prop :=
  ∀ c ∈ t, c ≠ .ofChar '\n' ∧ c ≠ .ofChar '\r' ∧ c ≠ .ofChar '\\'

def commented (comment key value : WideText) : WideText :=
  .ofChar '#' :: comment ++ .ofChar '\n' :: (key ++ .ofChar '=' :: value ++ [.ofChar '\n'])

/-- The entries that are read from text after its first line boundary. -/
def cutOff (t : WideText) : List (WideText × WideText) :=
  (keptLines (pieces t).tail).map splitEntry

theorem inLine_of_mem_cutOff {t : WideText} {entry : WideText × WideText}
    (member : entry ∈ cutOff t) : ∀ c ∈ entry.2, isLineBoundary c.val = false := by
  obtain ⟨line, kept, rfl⟩ := List.mem_map.mp member
  obtain ⟨piece, cut, part⟩ := mem_of_mem_keptLines kept
  have there : piece ∈ pieces t := by
    rw [pieces_eq]
    exact List.mem_cons_of_mem _ cut
  exact fun c inside =>
    (mem_of_mem_pieces there c (part c (mem_of_mem_splitEntry (.inr inside)))).2

theorem cutOff_of_inLine {t : WideText} (inLine : ∀ c ∈ t, isLineBoundary c.val = false) :
    t.takeWhile staysInLine = t ∧ cutOff t = [] := by
  have stays : ∀ c ∈ t, staysInLine c = true := fun c member => by simp [staysInLine, inLine c member]
  have single : pieces t = [t] := splitWhere_of_none inLine
  exact ⟨List.takeWhile_eq_self_iff.mpr stays, by simp [cutOff, single, keptLines]⟩

section

variable {comment key value : WideText}

theorem noBackslash_commented (comment_inner : IsInner comment) (value_inner : IsInner value)
    (letters : ∀ c ∈ key, IsLetter c) : NoBackslash (commented comment key value) := by
  have key_plain : ∀ c ∈ key, c ≠ .ofChar '\\' := fun c member =>
    (isPlain_of_not_special (not_isSpecial_of_isLetter (letters c member))).notBackslash
  intro c member
  simp only [commented, List.mem_append, List.mem_cons, List.not_mem_nil, or_false] at member
  rcases member with (rfl | inComment) | rfl | (inKey | rfl | inValue) | rfl
  · decide
  · exact (comment_inner c inComment).2.2
  · decide
  · exact key_plain c inKey
  · decide
  · exact (value_inner c inValue).2.2
  · decide

theorem lines_commented (comment_inner : IsInner comment) (value_inner : IsInner value)
    (letters : ∀ c ∈ key, IsLetter c) : lines (commented comment key value) =
      (.ofChar '#' :: comment.takeWhile staysInLine) :: (pieces comment).tail ++
        (key ++ .ofChar '=' :: value.takeWhile staysInLine) :: (pieces value).tail := by
  have key_plain {c : CodePoint} (member : c ∈ key) :=
    isPlain_of_not_special (not_isSpecial_of_isLetter (letters c member))
  have entry_noReturn : ∀ c ∈ key ++ .ofChar '=' :: value, c ≠ .ofChar '\r' := by
    intro c member
    rcases List.mem_append.mp member with inKey | rest
    · rintro rfl
      exact absurd (letters _ inKey) (by decide)
    · rcases List.mem_cons.mp rest with rfl | inValue
      · decide
      · exact (value_inner c inValue).2.1
  have comment_noReturn : ∀ c ∈ .ofChar '#' :: comment, c ≠ .ofChar '\r' := by
    intro c member
    rcases List.mem_cons.mp member with rfl | inside
    · decide
    · exact (comment_inner c inside).2.1
  have sign_inLine : ∀ c ∈ [CodePoint.ofChar '#'], isLineBoundary c.val = false := by decide
  have front_inLine : ∀ c ∈ key ++ [.ofChar '='], isLineBoundary c.val = false := by
    intro c member
    rcases List.mem_append.mp member with inKey | sign
    · exact (key_plain inKey).inLine
    · rw [List.mem_singleton.mp sign]
      decide
  have entry_pieces := pieces_append front_inLine value
  simp only [List.append_assoc, List.singleton_append] at entry_pieces
  unfold commented
  rw [lines_append_feed comment_noReturn, lines_append_feed entry_noReturn, entry_pieces,
    ← List.singleton_append, pieces_append sign_inLine comment]
  simp [lines]

theorem keptLines_append (raws raws' : List WideText) :
    keptLines (raws ++ raws') = keptLines raws ++ keptLines raws' := by
  simp [keptLines]

theorem readLine_entry (named : key ≠ []) (letters : ∀ c ∈ key, IsLetter c)
    (tight : ∀ c ∈ value.head?, isGap c = false) :
    keptLines [key ++ .ofChar '=' :: value] = [key ++ .ofChar '=' :: value] ∧
      splitEntry (key ++ .ofChar '=' :: value) = (key, value) := by
  have spells : Spells key key := by
    have writes : ∀ c ∈ key, Writes ((fun c => [c]) c) c := fun c member =>
      .plain (not_isSpecial_of_isLetter (letters c member))
    simpa using spells_flatMap writes
  constructor
  · obtain ⟨c, rest, rfl⟩ := List.exists_cons_of_ne_nil named
    obtain ⟨inside, notHash, notMark⟩ := spells.head_inside c rfl
    have notGap : isGap c = false := (Bool.or_eq_false_iff.mp inside).2
    simp [keptLines, notGap, isSkipped, notHash, notMark]
  · have ends : ∀ c ∈ (CodePoint.ofChar '=' :: value).head?, (isSeparator c || isGap c) = true := by
      simp only [List.head?_cons, Option.mem_some_iff, forall_eq']
      decide
    have stripped : value.dropWhile isGap = value := by
      cases value with
      | nil => rfl
      | cons c value => simp [tight c rfl]
    have valueOf_eq : valueOf (.ofChar '=' :: value) = value := by
      have notGap : isGap (.ofChar '=') = false := by decide
      have sign : isSeparator (.ofChar '=') = true := by decide
      simp [valueOf, notGap, sign, stripped]
    unfold splitEntry
    rw [spells.splitKey_append ends]
    exact congrArg _ valueOf_eq

/-- A document of a comment and an entry is read as the entry, its value cut at the first line boundary,
among the entries that the boundaries cut off the comment and the value. It is read as the entry itself
exactly if the value holds no line boundary and no other key is cut off the comment. -/
theorem commented_read_iff (comment_inner : IsInner comment) (value_inner : IsInner value)
    (tight : ∀ c ∈ value.head?, isGap c = false) (named : key ≠ [])
    (letters : ∀ c ∈ key, IsLetter c) :
    parse (commented comment key value) =
        .ok (dictionary (cutOff comment ++ (key, value.takeWhile staysInLine) :: cutOff value)) ∧
      (parse (commented comment key value) = .ok [(key, value)] ↔
        (∀ c ∈ value, isLineBoundary c.val = false) ∧ ∀ entry ∈ cutOff comment, entry.1 = key) := by
  have first_tight : ∀ c ∈ (value.takeWhile staysInLine).head?, isGap c = false := by
    intro c head
    refine tight c ?_
    cases value with
    | nil => exact head
    | cons d value =>
        cases stays : staysInLine d <;> simp [stays] at head ⊢
        exact head
  obtain ⟨kept, split⟩ := readLine_entry named letters first_tight
  have read : parse (commented comment key value) =
      .ok (dictionary (cutOff comment ++ (key, value.takeWhile staysInLine) :: cutOff value)) := by
    rw [parse_of_noBackslash (noBackslash_commented comment_inner value_inner letters),
      lines_commented comment_inner value_inner letters]
    have comment_skipped : keptLines [CodePoint.ofChar '#' :: comment.takeWhile staysInLine] = [] := by
      have notGap : isGap (.ofChar '#') = false := by decide
      simp [keptLines, notGap, isSkipped]
    rw [List.cons_append, ← List.singleton_append, keptLines_append, comment_skipped,
      List.nil_append, keptLines_append, ← List.singleton_append (x := key ++ _), keptLines_append,
      kept]
    simp [cutOff, split]
  refine ⟨read, ?_⟩
  rw [read, Except.ok.injEq]
  constructor
  · intro alone
    have inLine : ∀ c ∈ value, isLineBoundary c.val = false := by
      have member : (key, value) ∈
          cutOff comment ++ (key, value.takeWhile staysInLine) :: cutOff value :=
        mem_of_mem_dictionary (by rw [alone]; exact List.mem_cons_self)
      rcases List.mem_append.mp member with before | member
      · exact inLine_of_mem_cutOff before
      · rcases List.mem_cons.mp member with here | after
        · intro c inside
          rw [(Prod.mk.inj here).2] at inside
          simpa [staysInLine] using List.mem_takeWhile_imp inside
        · exact inLine_of_mem_cutOff after
    obtain ⟨whole, nothing⟩ := cutOff_of_inLine inLine
    rw [whole, nothing] at alone
    exact ⟨inLine, dictionary_concat_eq_singleton_iff.mp alone⟩
  · rintro ⟨inLine, same⟩
    obtain ⟨whole, nothing⟩ := cutOff_of_inLine inLine
    rw [whole, nothing]
    exact dictionary_concat_eq_singleton_iff.mpr same

end

instance (t : WideText) : Decidable (IsInner t) := by
  unfold IsInner; infer_instance

theorem commented_read_iff_overridden :
    let comment := wideOf "a\x0ck=w"
    let key := wideOf "k"
    let value := wideOf "v"
    IsInner comment ∧ IsInner value ∧ (∀ c ∈ value.head?, isGap c = false) ∧ key ≠ [] ∧
      (∀ c ∈ key, IsLetter c) ∧ cutOff comment = [(key, wideOf "w")] ∧
      parse (commented comment key value) = .ok [(key, value)] := by
  intro comment key value
  have comment_inner : IsInner comment := by decide
  have value_inner : IsInner value := by decide
  have tight : ∀ c ∈ value.head?, isGap c = false := by decide
  have named : key ≠ [] := by decide
  have letters : ∀ c ∈ key, IsLetter c := by decide
  have cut : cutOff comment = [(key, wideOf "w")] := by decide
  obtain ⟨-, alone⟩ := commented_read_iff comment_inner value_inner tight named letters
  refine ⟨comment_inner, value_inner, tight, named, letters, cut, alone.mpr ⟨by decide, ?_⟩⟩
  rw [cut]
  simp

/-- A form feed cuts an entry off a comment, and U+0085 one off a value. -/
theorem form_feed_cuts_comment_and_next_line_cuts_value :
    (IsInner (wideOf "a\x0cb") ∧ IsInner (wideOf "v") ∧
      parse (commented (wideOf "a\x0cb") (wideOf "k") (wideOf "v")) =
        .ok [(wideOf "b", []), (wideOf "k", wideOf "v")]) ∧
    (IsInner [] ∧ IsInner (wideOf "a\u0085b") ∧
      parse (commented [] (wideOf "k") (wideOf "a\u0085b")) =
        .ok [(wideOf "k", wideOf "a"), (wideOf "b", [])]) := by
  refine ⟨⟨by decide, by decide, ?_⟩, by decide, by decide, ?_⟩ <;> decide

end Properties

end MaskedPath
