import MaskedPath.Text.Basic

namespace MaskedPath.CommandLine

structure Grammar (α : Type) where
  long : List (String × α)
  short : List (Char × α)
  takesValue : α → Bool
  isMixed : Bool

def valuesOf {α : Type} [DecidableEq α] (options : List (α × Text)) (o : α) : List Text :=
  (options.filter (·.1 = o)).map (·.2)

end MaskedPath.CommandLine
