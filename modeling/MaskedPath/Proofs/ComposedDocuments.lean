import MaskedPath.Proofs.LineBreaks
import MaskedPath.Proofs.Meaning

namespace MaskedPath

/-! ## Lines of a text in two parts -/

theorem exists_lines_cons (c : CodePoint) (t : WideText) :
    ∃ line more, lines (c :: t) = line :: more := by
  cases t with
  | nil =>
      unfold lines
      split_ifs <;> exact ⟨_, _, rfl⟩
  | cons d t =>
      unfold lines
      split_ifs
      · exact ⟨_, _, rfl⟩
      · exact ⟨_, _, rfl⟩
      · cases lines (d :: t) <;> exact ⟨_, _, rfl⟩

theorem lines_append_lines (t rest : WideText) :
    lines (t ++ .ofChar '\n' :: rest) = lines (t ++ [.ofChar '\n']) ++ lines rest := by
  have feed (rest : WideText) : lines (.ofChar '\n' :: rest) = [] :: lines rest :=
    lines_cons_boundary (by decide) (by decide) rest
  fun_induction lines t with
  | case1 =>
      rw [List.nil_append, List.nil_append, feed, feed]
      rfl
  | case2 c boundary =>
      by_cases back : c = .ofChar '\r'
      · -- A CR and the LF are one end of a line.
        subst back
        simp [lines]
      · simp only [List.cons_append, List.nil_append, lines_cons_boundary boundary back, feed]
        rfl
  | case3 c inside =>
      have inside : isLineBoundary c.val = false := by simpa using inside
      simp only [List.cons_append, List.nil_append, lines_cons inside (feed _)]
      rfl
  | case4 c d t both ih =>
      obtain ⟨rfl, rfl⟩ := both
      simpa [lines] using ih
  | case5 c d t single boundary ih =>
      simpa only [List.cons_append, lines, if_neg single, if_pos boundary, List.cons.injEq,
        true_and] using ih
  | case6 c d t single inside none ih =>
      obtain ⟨line, more, some⟩ := exists_lines_cons d t
      rw [none] at some
      cases some
  | case7 c d t single inside first more split ih =>
      have inside : isLineBoundary c.val = false := by simpa using inside
      obtain ⟨line, others, front⟩ := exists_lines_cons d (t ++ [.ofChar '\n'])
      simp only [List.cons_append] at ih ⊢
      rw [front] at ih
      rw [lines_cons inside front, lines_cons inside ih]
      rfl

def EndsLine (t : WideText) : Prop := t = [] ∨ ∃ front, t = front ++ [.ofChar '\n']

theorem EndsLine.lines_append {front : WideText} (ends : EndsLine front) (back : WideText) :
    lines (front ++ back) = lines front ++ lines back := by
  rcases ends with rfl | ⟨t, rfl⟩
  · rfl
  · rw [List.append_assoc, List.singleton_append, lines_append_lines]

namespace Properties

/-! ## One line after the other -/

/-- The logical lines that a line completes, and what it leaves open, after lines that have left
`pending` open. -/
def takeLine (pending : Option WideText) (raw : WideText) : List WideText × Option WideText :=
  let line := raw.dropWhile isGap
  if pending.isNone && isSkipped line then ([], none)
  else
    let line := pending.getD [] ++ line
    if isContinued line then ([], some line.dropLast) else ([line], none)

def leftOpen (pending : Option WideText) (raws : List WideText) : Option WideText :=
  raws.foldl (fun pending raw => (takeLine pending raw).2) pending

theorem logicalLinesAfter_cons (pending : Option WideText) (raw : WideText) (raws : List WideText) :
    logicalLinesAfter pending (raw :: raws) =
      (takeLine pending raw).1 ++ logicalLinesAfter (takeLine pending raw).2 raws := by
  simp only [logicalLinesAfter, takeLine]
  split_ifs <;> rfl

theorem logicalLinesAfter_append {pending : Option WideText} {raws : List WideText}
    (complete : leftOpen pending raws = none) (raws' : List WideText) :
    logicalLinesAfter pending (raws ++ raws') =
      logicalLinesAfter pending raws ++ logicalLinesAfter none raws' := by
  induction raws generalizing pending with
  | nil =>
      obtain rfl : pending = none := complete
      rfl
  | cons raw raws ih =>
      rw [List.cons_append, logicalLinesAfter_cons, logicalLinesAfter_cons, ih complete,
        List.append_assoc]

/-- Whether a document ends with a line and leaves nothing open there. -/
structure IsComplete (document : WideText) : Prop where
  endsLine : EndsLine document
  nothingOpen : leftOpen none (lines document) = none

theorem IsComplete.logicalLines_append {front : WideText} (complete : IsComplete front)
    (back : WideText) : logicalLines (front ++ back) = logicalLines front ++ logicalLines back := by
  unfold logicalLines
  rw [complete.endsLine.lines_append, logicalLinesAfter_append complete.nothingOpen]

/-- Whether a line is blank or a comment: spaces and tabs and, if anything, a text after them that
begins with `#` or `!`. -/
def IsRemark (line : WideText) : Prop :=
  ∃ run text, line = run ++ text ∧ IsRun run ∧
    (∀ c ∈ text.head?, c = .ofChar '#' ∨ c = .ofChar '!') ∧ ∀ c ∈ text, isLineBoundary c.val = false

theorem IsRemark.inLine {line : WideText} (remark : IsRemark line) :
    ∀ c ∈ line, isLineBoundary c.val = false := by
  obtain ⟨run, text, rfl, gaps, -, inLine⟩ := remark
  exact List.forall_mem_append.mpr ⟨gaps.forall (by decide) (by decide), inLine⟩

theorem IsRemark.takeLine {line : WideText} (remark : IsRemark line) :
    takeLine none line = ([], none) := by
  obtain ⟨run, text, rfl, gaps, marked, -⟩ := remark
  have notGap : ∀ c ∈ text.head?, isGap c = false := by
    intro c head
    rcases marked c head with rfl | rfl <;> decide
  have skipped : isSkipped text = true := by
    cases text with
    | nil => rfl
    | cons c text => simpa [isSkipped] using marked c rfl
  -- It is skipped before its last character is looked at.
  simp [Properties.takeLine, gaps.dropWhile_append notGap, skipped]

theorem IsRemark.logicalLines_append {line : WideText} (remark : IsRemark line) (rest : WideText) :
    logicalLines (line ++ .ofChar '\n' :: rest) = logicalLines rest := by
  unfold logicalLines
  rw [MaskedPath.lines_append remark.inLine, logicalLinesAfter_cons, remark.takeLine]
  rfl

/-! ## Entries of a document in two parts -/

/-- The entries of two documents: a key of both stands in its first place with its last value. -/
def Entries.update (old new : Entries) : Entries := dictionary (old ++ new)

theorem readLines_eq_mapM (entries : Entries) (raws : List WideText) :
    readLines entries raws = (raws.mapM readEntry).map fun pairs =>
      pairs.foldl (fun entries pair => entries.insert pair.1 pair.2) entries := by
  induction raws generalizing entries with
  | nil => rfl
  | cons line raws ih =>
      rw [readLines, List.mapM_cons]
      cases readEntry line with
      | error e => rfl
      | ok pair =>
          obtain ⟨key, value⟩ := pair
          simp only [ok_bind, ih]
          cases raws.mapM readEntry <;> rfl

theorem parse_eq (document : WideText) :
    parse document = ((logicalLines document).mapM readEntry).map dictionary := by
  rw [parse, readLines_eq_mapM, funext Entries.foldl_insert]

theorem IsComplete.parse_append {front : WideText} (complete : IsComplete front) (back : WideText) :
    parse (front ++ back) = (do
      let old ← parse front
      let new ← parse back
      return old.update new) := by
  simp only [parse_eq, complete.logicalLines_append, List.mapM_append]
  cases (logicalLines front).mapM readEntry with
  | error e => rfl
  | ok pairs =>
      cases (logicalLines back).mapM readEntry with
      | error e => rfl
      | ok pairs' => exact congrArg Except.ok (dictionary_append pairs pairs').symm

/-- Two documents, of which the first ends with a line and leaves nothing open, read together as the
first updated with the second, and fail together exactly if one of them fails. A blank line or a
comment between them changes nothing. -/
theorem parse_document_append {front : WideText} (complete : IsComplete front) (back : WideText) :
    parse (front ++ back) = (do
        let old ← parse front
        let new ← parse back
        return old.update new) ∧
      ((∃ e, parse (front ++ back) = .error e) ↔
        (∃ e, parse front = .error e) ∨ ∃ e, parse back = .error e) ∧
      ∀ line, IsRemark line →
        parse (front ++ (line ++ .ofChar '\n' :: back)) = parse (front ++ back) := by
  have read := complete.parse_append back
  refine ⟨read, ?_, ?_⟩
  · rw [read]
    cases parse front with
    | error e => simp
    | ok old => cases parse back <;> simp
  · intro line remark
    rw [parse_eq, parse_eq, complete.logicalLines_append, complete.logicalLines_append,
      remark.logicalLines_append]

theorem parse_document_append_comment :
    let front := wideOf "a=1\n# b\\\n"
    let line := wideOf " !\\"
    let back := wideOf "c=3\na=2\n"
    IsComplete front ∧ IsRemark line ∧ parse front = .ok [(wideOf "a", wideOf "1")] ∧
      parse back = .ok [(wideOf "c", wideOf "3"), (wideOf "a", wideOf "2")] ∧
      parse (front ++ (line ++ .ofChar '\n' :: back)) =
        .ok [(wideOf "a", wideOf "2"), (wideOf "c", wideOf "3")] := by
  intro front line back
  have complete : IsComplete front := ⟨.inr ⟨wideOf "a=1\n# b\\", by decide⟩, by decide⟩
  have remark : IsRemark line := ⟨wideOf " ", wideOf "!\\", by decide, by decide, by decide, by decide⟩
  have old : parse front = .ok [(wideOf "a", wideOf "1")] := by decide
  have new : parse back = .ok [(wideOf "c", wideOf "3"), (wideOf "a", wideOf "2")] := by
    decide
  obtain ⟨read, -, unmoved⟩ := parse_document_append complete back
  refine ⟨complete, remark, old, new, ?_⟩
  rw [unmoved line remark, read, old, new]
  decide

end Properties

end MaskedPath
