import MaskedPath.CommandLine.Command

namespace MaskedPath.CommandLine

inductive Word (α : Type)
  | ending
  | plain
  | option (name : α) (value : Option Text)
  | unknown

namespace Grammar

variable {α : Type}

def longOption? (g : Grammar α) (word : Text) : Option (α × Option Text) :=
  let (name, value) := match cutAt? (· = '=') word with
    | some (name, value) => (name, some value)
    | none => (word, none)
  (g.long.find? fun o => o.1.toList = name).map fun o => (o.2, value)

def shortOption? (g : Grammar α) : Text → Option (α × Option Text)
  | '-' :: letter :: rest =>
    (g.short.lookup letter).map fun o => (o, if rest = [] then none else some rest)
  | _ => none

def classify (g : Grammar α) (word : Text) : Word α :=
  if word = ['-', '-'] then .ending
  else if word.head? ≠ some '-' ∨ word.length = 1 then .plain
  else
    let option? := match g.longOption? word with
      | some o => some o
      | none => if ['-', '-'].isPrefixOf word then none else g.shortOption? word
    match option? with
    | some (o, value) => if value.isSome ∧ ¬ g.takesValue o then .unknown else .option o value
    | none => .unknown

/-- The options of a command line, each with its value if it takes one, and the other words; none if
an option is unknown, lacks its value or has one that it does not take. -/
def parse (g : Grammar α) : List Text → Option (List (α × Text) × List Text)
  | [] => some ([], [])
  | word :: rest =>
    match g.classify word with
    | .ending => some ([], rest)
    | .plain =>
      if g.isMixed then (g.parse rest).map fun p => (p.1, word :: p.2) else some ([], word :: rest)
    | .unknown => none
    | .option o (some value) => (g.parse rest).map fun p => ((o, value) :: p.1, p.2)
    | .option o none =>
      if g.takesValue o then
        match rest with
        | value :: rest => (g.parse rest).map fun p => ((o, value) :: p.1, p.2)
        | [] => none
      else (g.parse rest).map fun p => ((o, []) :: p.1, p.2)

end Grammar

def checkFile (fs : FileSystem) (mustExist : Bool) (t : Text) : Except Refusal Unit :=
  if '\x00' ∈ t then .error (.path .nul)
  else match fs.status t with
    | .ok .directory => .error .usage
    | .ok _ => .ok ()
    | .error _ => if mustExist then .error .usage else .ok ()

end MaskedPath.CommandLine

namespace MaskedPath.Standard

open MaskedPath.CommandLine

scoped instance frontend : Frontend where
  parse := Grammar.parse
  checkFile := CommandLine.checkFile

end MaskedPath.Standard
