import MaskedPath.Runtime

namespace MaskedPath.CommandLine

structure Table where
  title : WideText
  columns : List WideText
  rows : List (List WideText)
deriving DecidableEq, Repr

inductive Output
  | text (t : WideText)
  | table (t : Table)
deriving DecidableEq, Repr

inductive Stream
  | output
  | errors
deriving DecidableEq, Repr

/-- What is shown of output with markup. -/
class Console where
  display (stream : Stream) (output : Output) : Except Raised Output

def columnsOf (width : Nat) (rows : List (List WideText)) : List (List WideText) :=
  (List.range width).map fun i => rows.map fun row => row.getD i []

inductive Style
  | dim
  | green
  | red
deriving DecidableEq, Repr

def Style.name : Style → WideText
  | .dim => wideOf "dim"
  | .green => wideOf "green"
  | .red => wideOf "red"

def styled (s : Style) (t : WideText) : WideText :=
  wideOf "[" ++ s.name ++ wideOf "]" ++ t ++ wideOf "[/" ++ s.name ++ wideOf "]"

end MaskedPath.CommandLine
