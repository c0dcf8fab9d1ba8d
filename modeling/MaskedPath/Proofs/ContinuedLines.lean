import MaskedPath.Proofs.ComposedDocuments

namespace MaskedPath.Properties

theorem isContinued_backslash {line : WideText} (closed : IsClosed line) :
    isContinued (line ++ [.ofChar '\\']) = true := by
  unfold isContinued IsClosed at *
  rw [trailingBackslashes_concat, if_pos rfl]
  simp only [beq_iff_eq]
  omega

/-! ## Chunks -/

structure Chunk where
  run : WideText
  text : WideText
  gaps : IsRun run
  tight : ∀ c ∈ text.head?, c ≠ .ofChar ' ' ∧ c ≠ .ofChar '\t'
  inLine : ∀ c ∈ text, isLineBoundary c.val = false

namespace Chunk

def line (chunk : Chunk) : WideText := chunk.run ++ chunk.text

def continuation (chunk : Chunk) : WideText := .ofChar '\\' :: .ofChar '\n' :: chunk.line

end Chunk

def continued (first : WideText) (later : List Chunk) : WideText :=
  first ++ later.flatMap Chunk.continuation ++ [.ofChar '\n']

def joined (first : WideText) (later : List Chunk) : WideText := first ++ later.flatMap Chunk.text

theorem lines_continued_nil {first : WideText} (inLine : ∀ c ∈ first, isLineBoundary c.val = false) :
    lines (continued first []) = [first] := by
  have cut := lines_append inLine []
  simpa [continued, lines] using cut

theorem lines_continued_cons {first : WideText} (inLine : ∀ c ∈ first, isLineBoundary c.val = false)
    (next : Chunk) (later : List Chunk) : lines (continued first (next :: later)) =
      (first ++ [.ofChar '\\']) :: lines (continued next.line later) := by
  have whole : ∀ c ∈ first ++ [.ofChar '\\'], isLineBoundary c.val = false :=
    List.forall_mem_append.mpr ⟨inLine, by decide⟩
  have cut := lines_append whole (continued next.line later)
  simpa [continued, Chunk.continuation] using cut

/-! ## Reading chunks -/

theorem takeLine_unskipped {pending : Option WideText} {run text : WideText} (gaps : IsRun run)
    (tight : ∀ c ∈ text.head?, isGap c = false) (kept : pending = none → isSkipped text = false) :
    takeLine pending (run ++ text) =
      if isContinued (pending.getD [] ++ text) then ([], some (pending.getD [] ++ text).dropLast)
      else ([pending.getD [] ++ text], none) := by
  have stripped : (run ++ text).dropWhile isGap = text := gaps.dropWhile_append tight
  cases pending with
  | none => simp [takeLine, stripped, kept rfl]
  | some front => simp [takeLine, stripped]

theorem takeLine_continued (pending : Option WideText) {run text : WideText} (gaps : IsRun run)
    (tight : ∀ c ∈ text.head?, isGap c = false)
    (kept : pending = none → isSkipped (text ++ [.ofChar '\\']) = false)
    (closed : IsClosed (pending.getD [] ++ text)) :
    takeLine pending (run ++ text ++ [.ofChar '\\']) = ([], some (pending.getD [] ++ text)) := by
  have tight' : ∀ c ∈ (text ++ [CodePoint.ofChar '\\']).head?, isGap c = false := by
    cases text with
    | nil => decide
    | cons c text => exact tight
  rw [List.append_assoc, takeLine_unskipped gaps tight' kept, ← List.append_assoc,
    if_pos (isContinued_backslash closed), List.dropLast_concat]

def lastLine (line : WideText) : WideText := if isContinued line then line.dropLast else line

theorem logicalLinesAfter_last (pending : Option WideText) {run text : WideText} (gaps : IsRun run)
    (tight : ∀ c ∈ text.head?, isGap c = false) (kept : pending = none → isSkipped text = false) :
    logicalLinesAfter pending [run ++ text] = [lastLine (pending.getD [] ++ text)] := by
  rw [logicalLinesAfter_cons, takeLine_unskipped gaps tight kept]
  unfold lastLine
  split_ifs <;> rfl

theorem isGap_eq_false {c : CodePoint} (unindented : c ≠ .ofChar ' ' ∧ c ≠ .ofChar '\t')
    (inLine : isLineBoundary c.val = false) : isGap c = false := by
  have notFeed : c ≠ .ofChar '\x0c' := by
    rintro rfl
    exact absurd inLine (by decide)
  simp [isGap, unindented, notFeed]

theorem Chunk.notGap (chunk : Chunk) : ∀ c ∈ chunk.text.head?, isGap c = false :=
  fun c head => isGap_eq_false (chunk.tight c head) (chunk.inLine c (List.mem_of_mem_head? head))

theorem Chunk.line_inLine (chunk : Chunk) : ∀ c ∈ chunk.line, isLineBoundary c.val = false :=
  List.forall_mem_append.mpr ⟨chunk.gaps.forall (by decide) (by decide), chunk.inLine⟩

/-- Whether each cut after the front `first` comes after an even number of backslashes. -/
def CutsClosed (first : WideText) (later : List Chunk) : Prop :=
  ∀ k < later.length, IsClosed (joined first (later.take k))

theorem cutsClosed_nil (first : WideText) : CutsClosed first [] :=
  fun k inside => absurd inside (Nat.not_lt_zero k)

theorem CutsClosed.first {first : WideText} {next : Chunk} {later : List Chunk}
    (closed : CutsClosed first (next :: later)) : IsClosed first := by
  simpa [joined] using closed 0 (by simp)

theorem CutsClosed.tail {first : WideText} {next : Chunk} {later : List Chunk}
    (closed : CutsClosed first (next :: later)) : CutsClosed (first ++ next.text) later := by
  intro k inside
  simpa [joined] using closed (k + 1) (by simpa using inside)

theorem logicalLinesAfter_continued {front : WideText} {chunk : Chunk} {later : List Chunk}
    (closed : CutsClosed (front ++ chunk.text) later) :
    logicalLinesAfter (some front) (lines (continued chunk.line later)) =
      [lastLine (joined (front ++ chunk.text) later)] := by
  -- What is open grows by a chunk with each line; the chunks that follow are read after it.
  induction later generalizing front chunk with
  | nil =>
      rw [lines_continued_nil chunk.line_inLine]
      have last := logicalLinesAfter_last (some front) chunk.gaps chunk.notGap nofun
      simpa [Chunk.line, joined] using last
  | cons next later ih =>
      have read : takeLine (some front) (chunk.line ++ [.ofChar '\\']) =
          ([], some (front ++ chunk.text)) :=
        takeLine_continued (some front) chunk.gaps chunk.notGap nofun closed.first
      rw [lines_continued_cons chunk.line_inLine, logicalLinesAfter_cons, read, List.nil_append,
        ih closed.tail]
      simp [joined]

theorem logicalLines_continued {first : WideText} {later : List Chunk} (begins : first ≠ [])
    (unindented : ∀ c ∈ first.head?, isGap c = false) (kept : isSkipped first = false)
    (inLine : ∀ c ∈ first, isLineBoundary c.val = false) (closed : CutsClosed first later) :
    logicalLines (continued first later) = [lastLine (joined first later)] := by
  have nothing : IsRun [] := by simp [IsRun]
  unfold logicalLines
  cases later with
  | nil =>
      rw [lines_continued_nil inLine]
      have last := logicalLinesAfter_last none nothing unindented fun _ => kept
      simpa [joined] using last
  | cons next later =>
      have kept' : isSkipped (first ++ [.ofChar '\\']) = false := by
        obtain ⟨c, rest, rfl⟩ := List.exists_cons_of_ne_nil begins
        exact kept
      have read : takeLine none (first ++ [.ofChar '\\']) = ([], some first) :=
        takeLine_continued none nothing unindented (fun _ => kept') closed.first
      rw [lines_continued_cons inLine, logicalLinesAfter_cons, read, List.nil_append,
        logicalLinesAfter_continued closed.tail]
      simp [joined]

/-- A line that is cut into chunks, each of them continued after an even number of backslashes, is read
as the line itself. -/
theorem parse_continued {first : WideText} {later : List Chunk} (begins : first ≠ [])
    (unindented : ∀ c ∈ first.head?, c ≠ .ofChar ' ' ∧ c ≠ .ofChar '\t')
    (noComment : ∀ c ∈ first.head?, c ≠ .ofChar '#' ∧ c ≠ .ofChar '!')
    (inLine : ∀ c ∈ first, isLineBoundary c.val = false)
    (closed : ∀ k < later.length, IsClosed (joined first (later.take k))) :
    parse (continued first later) = parse (joined first later ++ [.ofChar '\n']) := by
  have whole_inLine : ∀ c ∈ joined first later, isLineBoundary c.val = false := by
    simp only [joined, List.forall_mem_append, List.forall_mem_flatMap]
    exact ⟨inLine, fun chunk _ => chunk.inLine⟩
  obtain ⟨c, rest, rfl⟩ := List.exists_cons_of_ne_nil begins
  have notGap : ∀ d ∈ (c :: rest).head?, isGap d = false := fun d head =>
    isGap_eq_false (unindented d head) (inLine d (List.mem_of_mem_head? head))
  have kept : isSkipped (c :: rest) = false := by simpa [isSkipped] using noComment c rfl
  have cut : logicalLines (continued (c :: rest) later) = [lastLine (joined (c :: rest) later)] :=
    logicalLines_continued begins notGap kept inLine closed
  have uncut : logicalLines (continued (joined (c :: rest) later) []) =
      [lastLine (joined (joined (c :: rest) later) [])] :=
    logicalLines_continued (by simp [joined]) notGap kept whole_inLine (cutsClosed_nil _)
  simp only [joined, continued, List.flatMap_nil, List.append_nil] at cut uncut
  unfold parse joined continued
  rw [cut, uncut]

theorem parse_continued_backslashes :
    let first := wideOf "k=a"
    let comment : Chunk := ⟨wideOf " \t", wideOf "#b", by decide, by decide, by decide⟩
    let empty : Chunk := ⟨[], [], by decide, by decide, by decide⟩
    let backslashes : Chunk := ⟨wideOf " ", wideOf "\\\\", by decide, by decide, by decide⟩
    let last : Chunk := ⟨[], wideOf "!\\", by decide, by decide, by decide⟩
    let later := [comment, empty, backslashes, last]
    first ≠ [] ∧ (∀ c ∈ first.head?, c ≠ .ofChar ' ' ∧ c ≠ .ofChar '\t') ∧
      (∀ c ∈ first.head?, c ≠ .ofChar '#' ∧ c ≠ .ofChar '!') ∧
      (∀ c ∈ first, isLineBoundary c.val = false) ∧
      (∀ k < later.length, IsClosed (joined first (later.take k))) ∧
      continued first later = wideOf "k=a\\\n \t#b\\\n\\\n \\\\\\\n!\\\n" ∧
      parse (continued first later) = .ok [(wideOf "k", wideOf "a#b\\!")] := by
  intro first comment empty backslashes last later
  have begins : first ≠ [] := by decide
  have unindented : ∀ c ∈ first.head?, c ≠ .ofChar ' ' ∧ c ≠ .ofChar '\t' := by decide
  have noComment : ∀ c ∈ first.head?, c ≠ .ofChar '#' ∧ c ≠ .ofChar '!' := by decide
  have inLine : ∀ c ∈ first, isLineBoundary c.val = false := by decide
  have closed : ∀ k < later.length, IsClosed (joined first (later.take k)) := by decide
  refine ⟨begins, unindented, noComment, inLine, closed, by decide, ?_⟩
  rw [parse_continued begins unindented noComment inLine closed]
  decide

end MaskedPath.Properties
