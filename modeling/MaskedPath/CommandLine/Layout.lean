import MaskedPath.CommandLine.Run

namespace MaskedPath.CommandLine

inductive Line
  | text (t : WideText)
  | cells (items : List WideText)
deriving DecidableEq, Repr

def tabStop : Nat := 8

def expandTabs (column : Nat) : WideText → WideText
  | [] => []
  | c :: rest =>
    if c = '\t' then
      let blanks := tabStop - column % tabStop
      List.replicate blanks (.ofChar ' ') ++ expandTabs (column + blanks) rest
    else c :: expandTabs (column + 1) rest

def linesOf (t : WideText) : List WideText := (splitWhere (· = .ofChar '\n') t).map (expandTabs 0)

def rowLines (row : List WideText) : List (List WideText) :=
  let cells := row.map linesOf
  let height := (cells.map List.length).foldl max 0
  (List.range height).map fun i => cells.map fun cell => cell.getD i []

def Output.lines : Output → List Line
  | .text t => (linesOf t).map .text
  | .table t => (linesOf t.title).map .text ++ ((t.columns :: t.rows).flatMap rowLines).map .cells

/-! ## Rules -/

structure Rule where
  left : Char
  fill : Char
  meet : Char
  right : Char

def Rule.top : Rule := ⟨'┏', '━', '┳', '┓'⟩

def Rule.middle : Rule := ⟨'┡', '━', '╇', '┩'⟩

def Rule.bottom : Rule := ⟨'└', '─', '┴', '┘'⟩

def Rule.draw (r : Rule) (widths : List Nat) : WideText :=
  wide (r.left :: joinWith [r.meet] (widths.map fun w => List.replicate (w + 2) r.fill) ++ [r.right])

def padRight (width : Nat) (t : WideText) : WideText :=
  t ++ List.replicate (width - t.length) (.ofChar ' ')

def drawCells (bar : Char) (widths : List Nat) (cells : List WideText) : WideText :=
  let padded := (cells.zip widths).map fun c => .ofChar ' ' :: padRight c.2 c.1 ++ [.ofChar ' ']
  .ofChar bar :: joinWith [.ofChar bar] padded ++ [.ofChar bar]

def Table.draw (t : Table) : List WideText :=
  let heads := rowLines t.columns
  let rows := t.rows.flatMap rowLines
  let widths := (columnsOf t.columns.length (heads ++ rows)).map fun column =>
    (column.map List.length).foldl max 0
  let total := (widths.map (· + 3)).foldl (· + ·) 1
  let title := (linesOf t.title).map fun line =>
    List.replicate ((total - line.length) / 2) (.ofChar ' ') ++ line
  title ++ Rule.top.draw widths :: heads.map (drawCells '┃' widths) ++
    Rule.middle.draw widths :: rows.map (drawCells '│' widths) ++ [Rule.bottom.draw widths]

def Output.draw : Output → List WideText
  | .text t => linesOf t
  | .table t => t.draw

end MaskedPath.CommandLine
