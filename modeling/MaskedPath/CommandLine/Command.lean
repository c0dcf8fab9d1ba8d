import MaskedPath.CommandLine.Arguments
import MaskedPath.FileSystem.Basic

namespace MaskedPath.CommandLine

inductive GlobalOption
  | config
  | logFile
  | logLevel
deriving DecidableEq, Repr

inductive CommandOption
  | path
  | mask
  | libraries
  | asResource
deriving DecidableEq, Repr

structure Globals where
  config : Option Text
  logFile : Option Text
  logLevel : Text
deriving DecidableEq, Repr

structure Additions where
  paths : List Text
  masks : List Text
  libraries : List Text
deriving DecidableEq, Repr

inductive Command
  | identify (archives : List Text)
  | check (name : Text) (asResource : Bool) (additions : Additions)
  | resources (name : Text) (additions : Additions)
deriving DecidableEq, Repr

inductive CommandName
  | identify
  | check
  | resources
deriving DecidableEq, Repr

inductive Refusal
  | usage
  | path (e : PathError)
deriving DecidableEq, Repr

/-! ## Grammars -/

def globalGrammar : Grammar GlobalOption where
  long := [("--config", .config), ("--log-file", .logFile), ("--log-level", .logLevel)]
  short := []
  takesValue _ := true
  isMixed := false

def additionGrammar : Grammar CommandOption where
  long := [("--path", .path), ("--mask", .mask), ("--libraries", .libraries)]
  short := [('p', .path), ('m', .mask), ('l', .libraries)]
  takesValue o := o ≠ .asResource
  isMixed := true

def CommandName.grammar : CommandName → Grammar CommandOption
  | .identify => { additionGrammar with long := [], short := [] }
  | .check => { additionGrammar with long := ("--resource", .asResource) :: additionGrammar.long }
  | .resources => additionGrammar

def CommandName.ofText? (t : Text) : Option CommandName :=
  if t = "identify".toList then some .identify
  else if t = "check".toList then some .check
  else if t = "resources".toList then some .resources
  else none

/-! ## Reading -/

/-- What reads words by a grammar, and checks a path that must not be that of a directory and may have
to exist. -/
class Frontend where
  parse {α : Type} (g : Grammar α) (words : List Text) : Option (List (α × Text) × List Text)
  checkFile (fs : FileSystem) (mustExist : Bool) (t : Text) : Except Refusal Unit

variable [Frontend]

def standardLevel : Text := "INFO".toList

def readGlobals (fs : FileSystem) (words : List Text) :
    Except Refusal (Globals × CommandName × List Text) := do
  let some (options, rest) := Frontend.parse globalGrammar words | throw .usage
  let last (o : GlobalOption) : Option Text := (valuesOf options o).getLast?
  let config := last .config
  let logFile := last .logFile
  config.forM (Frontend.checkFile fs false)
  logFile.forM (Frontend.checkFile fs false)
  match rest with
  | [] => throw .usage
  | name :: rest =>
    match CommandName.ofText? name with
    | none => throw .usage
    | some name => return (⟨config, logFile, (last .logLevel).getD standardLevel⟩, name, rest)

def readCommand (fs : FileSystem) (name : CommandName) (words : List Text) :
    Except Refusal Command := do
  let some (options, rest) := Frontend.parse name.grammar words | throw .usage
  let additions : Additions :=
    ⟨valuesOf options .path, valuesOf options .mask, valuesOf options .libraries⟩
  match name, rest with
  | .identify, archive :: archives =>
    (archive :: archives).forM (Frontend.checkFile fs true)
    return .identify (archive :: archives)
  | .check, [name] => return .check name (valuesOf options .asResource ≠ []) additions
  | .resources, [name] => return .resources name additions
  | _, _ => throw .usage

end MaskedPath.CommandLine
