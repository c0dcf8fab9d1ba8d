import MaskedPath.Proofs.Dictionaries
import MaskedPath.Proofs.Escapes
import MaskedPath.Proofs.Meaning

namespace MaskedPath

/-! ## Lines -/

theorem lines_cons {c : CodePoint} (inside : isLineBoundary c.val = false) {t line : WideText}
    {more : List WideText} (rest : lines t = line :: more) :
    lines (c :: t) = (c :: line) :: more := by
  have notReturn : c ≠ .ofChar '\r' := by
    rintro rfl
    exact absurd inside (by decide)
  cases t with
  | nil => cases rest
  | cons d t =>
      rw [lines, if_neg fun both => notReturn both.1, if_neg (by simp [inside]), rest]

theorem lines_append {line : WideText} (inside : ∀ c ∈ line, isLineBoundary c.val = false)
    (rest : WideText) : lines (line ++ .ofChar '\n' :: rest) = line :: lines rest := by
  induction line with
  | nil =>
      cases rest with
      | nil => rfl
      | cons d rest =>
        rw [List.nil_append, lines, if_neg fun both => absurd both.1 (by decide), if_pos (by decide)]
  | cons c line ih =>
      have later := ih fun d member => inside d (List.mem_cons_of_mem _ member)
      exact lines_cons (inside c List.mem_cons_self) later

namespace Properties

/-! ## Entries -/

def IsRun (run : WideText) : Prop := ∀ c ∈ run, c = .ofChar ' ' ∨ c = .ofChar '\t'

instance (run : WideText) : Decidable (IsRun run) :=
  inferInstanceAs (Decidable (∀ c ∈ run, _))

theorem IsRun.forall {run : WideText} (gaps : IsRun run) {p : CodePoint → Prop}
    (space : p (.ofChar ' ')) (tab : p (.ofChar '\t')) : ∀ c ∈ run, p c := by
  intro c member
  rcases gaps c member with rfl | rfl
  · exact space
  · exact tab

theorem IsRun.append {run run' : WideText} (gaps : IsRun run) (gaps' : IsRun run') :
    IsRun (run ++ run') :=
  fun c member => (List.mem_append.mp member).elim (gaps c) (gaps' c)

theorem IsRun.dropWhile_append {run : WideText} (gaps : IsRun run) {rest : WideText}
    (ends : ∀ c ∈ rest.head?, isGap c = false) : (run ++ rest).dropWhile isGap = rest := by
  have all : ∀ c ∈ run, isGap c = true := gaps.forall (by decide) (by decide)
  rw [List.dropWhile_append_of_pos all]
  cases rest with
  | nil => rfl
  | cons c rest => rw [List.dropWhile_cons_of_neg (by simp [ends c rfl])]

def IsSign (sign : WideText) : Prop := sign = [.ofChar '='] ∨ sign = [.ofChar ':']

def Separates (key before separator : WideText) : Prop :=
  IsSign separator ∨ separator = [] ∧ key ≠ [] ∧ before ≠ []

theorem Separates.forall {key before separator : WideText} (separates : Separates key before separator)
    {p : CodePoint → Prop} (equals : p (.ofChar '=')) (colon : p (.ofChar ':')) :
    ∀ c ∈ separator, p c := by
  rcases separates with (rfl | rfl) | ⟨rfl, -⟩
  · simpa using equals
  · simpa using colon
  · simp

/-- A logical line that writes an entry: the escaped key, a separator and the escaped value, with gaps
around the separator. An empty key has no gap after it. -/
inductive WritesEntry : WideText → WideText × WideText → Prop
  | intro {written before separator after written' key value : WideText}
      (keyWritten : Spells written key) (before_run : IsRun before) (tight : key = [] → before = [])
      (separates : Separates key before separator)
      (after_run : IsRun after) (valueWritten : Spells written' value) :
      WritesEntry (written ++ (before ++ (separator ++ (after ++ written')))) (key, value)

theorem valueOf_written {key before separator after written value : WideText}
    (before_run : IsRun before) (separates : Separates key before separator)
    (after_run : IsRun after) (valueWritten : Spells written value) :
    valueOf (before ++ (separator ++ (after ++ written))) = written := by
  have inside := valueWritten.head_inside
  have notGap : ∀ c ∈ written.head?, isGap c = false := fun c head =>
    (Bool.or_eq_false_iff.mp (inside c head).1).2
  unfold valueOf
  rcases separates with sign | ⟨rfl, -⟩
  · obtain ⟨c, rfl, notGapSign, isSign⟩ :
        ∃ c, separator = [c] ∧ isGap c = false ∧ isSeparator c = true := by
      rcases sign with rfl | rfl <;> exact ⟨_, rfl, by decide⟩
    rw [before_run.dropWhile_append (by simpa using notGapSign)]
    simp only [List.singleton_append, isSign, if_true]
    exact after_run.dropWhile_append notGap
  · rw [List.nil_append, ← List.append_assoc, (before_run.append after_run).dropWhile_append notGap]
    cases written with
    | nil => rfl
    | cons c written =>
        have plain : isSeparator c = false := (Bool.or_eq_false_iff.mp (inside c rfl).1).1
        simp [plain]

namespace WritesEntry

variable {line : WideText} {entry : WideText × WideText}

theorem inLine (writes : WritesEntry line entry) : ∀ c ∈ line, isLineBoundary c.val = false := by
  obtain ⟨keyWritten, before_run, tight, separates, after_run, valueWritten⟩ := writes
  simp only [List.forall_mem_append]
  exact ⟨keyWritten.inLine, before_run.forall (by decide) (by decide),
    separates.forall (by decide) (by decide), after_run.forall (by decide) (by decide),
    valueWritten.inLine⟩

theorem isClosed (writes : WritesEntry line entry) : IsClosed line := by
  obtain ⟨keyWritten, before_run, tight, separates, after_run, valueWritten⟩ := writes
  have key := keyWritten.isClosed_append isClosed_nil
  have before := key.append (before_run.forall (by decide) (by decide))
  have separator := before.append (separates.forall (by decide) (by decide))
  have after := separator.append (after_run.forall (by decide) (by decide))
  have value := valueWritten.isClosed_append after
  simpa only [List.nil_append, List.append_assoc] using value

theorem exists_head (writes : WritesEntry line entry) : ∃ c rest, line = c :: rest ∧
    isGap c = false ∧ c ≠ .ofChar '#' ∧ c ≠ .ofChar '!' := by
  obtain ⟨keyWritten, before_run, tight, separates, after_run, valueWritten⟩ := writes
  rename_i written before separator after written' key value
  cases written with
  | cons c written =>
      obtain ⟨inside, notComment⟩ := keyWritten.head_inside c rfl
      exact ⟨c, _, rfl, (Bool.or_eq_false_iff.mp inside).2, notComment⟩
  | nil =>
      have empty : key = [] := keyWritten.written_eq_nil.mp rfl
      obtain rfl := tight empty
      rcases separates with (rfl | rfl) | ⟨-, notEmpty, -⟩
      · exact ⟨_, _, rfl, by decide⟩
      · exact ⟨_, _, rfl, by decide⟩
      · exact absurd empty notEmpty

theorem readEntry (writes : WritesEntry line entry) : readEntry line = .ok entry := by
  obtain ⟨keyWritten, before_run, tight, separates, after_run, valueWritten⟩ := writes
  rename_i written before separator after written' key value
  have ends : ∀ c ∈ (before ++ (separator ++ (after ++ written'))).head?,
      (isSeparator c || isGap c) = true := by
    intro c head
    cases before with
    | cons d before =>
        obtain rfl := Option.some.inj head
        exact before_run.forall (p := fun c => (isSeparator c || isGap c) = true)
          (by decide) (by decide) d List.mem_cons_self
    | nil =>
        rcases separates with (rfl | rfl) | ⟨-, -, gap⟩
        · obtain rfl := Option.some.inj head
          decide
        · obtain rfl := Option.some.inj head
          decide
        · exact absurd rfl gap
  have split : splitEntry (written ++ (before ++ (separator ++ (after ++ written')))) =
      (written, written') := by
    unfold splitEntry
    rw [keyWritten.splitKey_append ends]
    exact congrArg _ (valueOf_written before_run separates after_run valueWritten)
  unfold Properties.readEntry
  rw [split]
  simp only [keyWritten.unescape, valueWritten.unescape]
  rfl

theorem logicalLinesAfter (writes : WritesEntry line entry) {indent : WideText}
    (indent_run : IsRun indent) (raws : List WideText) :
    logicalLinesAfter none ((indent ++ line) :: raws) = line :: logicalLinesAfter none raws := by
  obtain ⟨c, rest, rfl, notGap, notComment⟩ := writes.exists_head
  have stripped : (indent ++ c :: rest).dropWhile isGap = c :: rest :=
    indent_run.dropWhile_append (by simpa using notGap)
  have kept : isSkipped (c :: rest) = false := by simpa [isSkipped] using notComment
  simp [Properties.logicalLinesAfter, stripped, kept, isContinued_eq_false writes.isClosed]

theorem readLines_cons (writes : WritesEntry line entry) (entries : Entries) (rest : List WideText) :
    readLines entries (line :: rest) = readLines (entries.insert entry.1 entry.2) rest := by
  rw [readLines, writes.readEntry]
  rfl

end WritesEntry

/-! ## Documents -/

def WritesLine (line : WideText) (entry : WideText × WideText) : Prop :=
  ∃ indent body, IsRun indent ∧ WritesEntry body entry ∧ line = indent ++ body ++ [.ofChar '\n']

theorem readLines_line {line : WideText} {entry : WideText × WideText} (writes : WritesLine line entry)
    (entries : Entries) (rest : WideText) :
    readLines entries (logicalLinesAfter none (lines (line ++ rest))) =
      readLines (entries.insert entry.1 entry.2) (logicalLinesAfter none (lines rest)) := by
  obtain ⟨indent, body, indent_run, writesBody, rfl⟩ := writes
  have inLine : ∀ c ∈ indent ++ body, isLineBoundary c.val = false :=
    List.forall_mem_append.mpr ⟨indent_run.forall (by decide) (by decide), writesBody.inLine⟩
  rw [List.append_assoc, List.singleton_append, lines_append inLine,
    writesBody.logicalLinesAfter indent_run, writesBody.readLines_cons]

/-- A document of lines that write entries is read as their dictionary. -/
theorem parse_flatMap {α : Type} {write : α → WideText} {entry : α → WideText × WideText}
    (writes : ∀ a, WritesLine (write a) (entry a)) (l : List α) :
    parse (l.flatMap write) = .ok (dictionary (l.map entry)) := by
  have read (entries : Entries) : readLines entries (logicalLinesAfter none (lines (l.flatMap write))) =
      .ok ((l.map entry).foldl (fun entries pair => entries.insert pair.1 pair.2) entries) := by
    -- The entries that are there already change with each line.
    induction l generalizing entries with
    | nil => rfl
    | cons a l ih =>
        rw [List.flatMap_cons, readLines_line (writes a), ih]
        rfl
  exact (read []).trans (congrArg _ (Entries.foldl_insert _))

/-! ## Escaping text -/

def unlettered : List Nat := [0xb, 0x1c, 0x1d, 0x1e, 0x85, 0x2028, 0x2029]

/-- Text on one line: the boundaries of lines are escaped, and the code points that separate, comment
or escape are kept by a backslash. All others stand for themselves. -/
def escapeText (capitals : Bool) : WideText → WideText :=
  escape capitals fun n => unlettered.contains n

theorem spells_escapeText (capitals : Bool) (t : WideText) : Spells (escapeText capitals t) t := by
  apply spells_escape
  · intro c _ byDigits
    have listed : c.val ∈ unlettered := by simpa using byDigits
    have small : ∀ n ∈ unlettered, n < 0x10000 := by decide
    exact small c.val listed
  · intro n boundary unlisted
    simp only [isLineBoundary, List.mem_cons, List.not_mem_nil, unlettered, Bool.or_eq_true,
      Bool.and_eq_true, decide_eq_true_eq, beq_iff_eq, List.contains_iff_mem] at *
    omega

/-- An entry with the gaps and the separator of its line. -/
structure SpacedEntry where
  key : WideText
  value : WideText
  indent : WideText
  before : WideText
  separator : WideText
  after : WideText
  indent_run : IsRun indent
  before_run : IsRun before
  after_run : IsRun after
  separates : Separates key before separator

namespace SpacedEntry

def pair (entry : SpacedEntry) : WideText × WideText := (entry.key, entry.value)

def line (capitals : Bool) (entry : SpacedEntry) : WideText :=
  entry.indent ++ escapeText capitals entry.key ++ entry.before ++ entry.separator ++ entry.after ++
    escapeText capitals entry.value ++ [.ofChar '\n']

theorem writesLine (capitals : Bool) (entry : SpacedEntry) :
    WritesLine (entry.line capitals) entry.pair := by
  have keyWritten := spells_escapeText capitals entry.key
  have valueWritten := spells_escapeText capitals entry.value
  by_cases empty : entry.key = []
  · -- Nothing divides the gap before an empty key from the one after it.
    have nothing : escapeText capitals entry.key = [] := by rw [empty]; rfl
    have empty_run : IsRun [] := by simp [IsRun]
    have separates : Separates entry.key [] entry.separator := by
      rcases entry.separates with sign | ⟨-, notEmpty, -⟩
      · exact .inl sign
      · exact absurd empty notEmpty
    have writes := WritesEntry.intro keyWritten empty_run (fun _ => rfl) separates entry.after_run
      valueWritten
    refine ⟨entry.indent ++ entry.before, _, entry.indent_run.append entry.before_run, writes, ?_⟩
    simp [line, nothing]
  · have writes := WritesEntry.intro keyWritten entry.before_run (fun isEmpty => absurd isEmpty empty)
      entry.separates entry.after_run valueWritten
    exact ⟨entry.indent, _, entry.indent_run, writes, by simp [line]⟩

end SpacedEntry

/-- A document of escaped entries is read as the dictionary of the entries. -/
theorem parse_spaced_entries (capitals : Bool) (entries : List SpacedEntry) :
    parse (entries.flatMap (SpacedEntry.line capitals)) =
      .ok (dictionary (entries.map SpacedEntry.pair)) :=
  parse_flatMap (SpacedEntry.writesLine capitals) entries

def SpacedEntry.padded : SpacedEntry where
  key := wideOf "a b"
  value := wideOf "=1"
  indent := wideOf " "
  before := wideOf "\t"
  separator := wideOf "="
  after := wideOf " "
  indent_run := by decide
  before_run := by decide
  after_run := by decide
  separates := .inl (.inl rfl)

theorem parse_spaced_entries_padded :
    SpacedEntry.padded.line false = wideOf " a\\ b\t= \\=1\n" ∧
      parse (wideOf " a\\ b\t= \\=1\n") = .ok [(wideOf "a b", wideOf "=1")] := by
  have line_eq : SpacedEntry.padded.line false = wideOf " a\\ b\t= \\=1\n" := by decide
  have read := parse_spaced_entries false [.padded]
  rw [List.flatMap_singleton, line_eq] at read
  exact ⟨line_eq, read⟩

example : parse (wideOf " a\\ b\t= \\=1\nc 2\na\\ b:3\n=4\n") =
    .ok [(wideOf "a b", wideOf "3"), (wideOf "c", wideOf "2"), ([], wideOf "4")] := by
  decide +kernel

end Properties

end MaskedPath
