import MaskedPath.CommandLine.Run

namespace MaskedPath.CommandLine

variable [Frontend]

def split (words : List Text) : List (GlobalOption × Text) × List Text :=
  (Frontend.parse globalGrammar words).getD ([], [])

/-- The command of a command line whose files have not been looked up: files are not checked. -/
def command? (words : List Text) : Option Command :=
  match (split words).2 with
  | name :: rest => do
    let name ← CommandName.ofText? name
    match name, ← Frontend.parse name.grammar rest with
    | .identify, (_, archives) => return .identify archives
    | name, (options, words) =>
      let additions : Additions :=
        ⟨valuesOf options .path, valuesOf options .mask, valuesOf options .libraries⟩
      let subject := words.headD []
      return if name = .check then .check subject (valuesOf options .asResource ≠ []) additions
        else .resources subject additions
  | [] => none

def Command.additions : Command → Additions
  | .identify _ => ⟨[], [], []⟩
  | .check _ _ a | .resources _ a => a

def Command.searched : Command → List Text
  | .identify _ => []
  | .check name asResource _ => if asResource then [name] else ModuleName.candidates name
  | .resources name _ => [name]

def Command.archives : Command → List Path
  | .identify archives => archives.map .parse
  | _ => []

def logPath? (words : List Text) : Option Path :=
  match (valuesOf (split words).1 .logFile).getLast? with
  | none | some [] => none
  | some t => some (.parse t)

def firstReached (env : Settings.Environment) (words : List Text) : List Path :=
  let named := valuesOf (split words).1 .config ++ valuesOf (split words).1 .logFile ++
    env.config.toList
  Settings.standardSource :: named.map .parse ++ ((command? words).map Command.archives).getD []

def thenReached (s : Settings) (words : List Text) : List Path :=
  match command? words with
  | none => []
  | some command =>
    let s := extend s command.additions
    let entries := s.searchPath.map Path.parse
    let resources := command.searched.map Search.plainName
    entries ++ entries.flatMap (fun entry => resources.map entry.join) ++
      s.maskFiles.flatMap MaskList.sources

end MaskedPath.CommandLine
