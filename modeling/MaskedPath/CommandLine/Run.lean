import MaskedPath.CommandLine.Command
import MaskedPath.CommandLine.Console
import MaskedPath.Log.Sink
import MaskedPath.Settings.Build
import MaskedPath.Settings.Load

namespace MaskedPath.CommandLine

/-! ## Failures -/

inductive RunError
  | path (e : PathError)
  | log (e : Log.OpenError)
  | settings (e : Settings.Error)
  | query (e : Failure)
  | console (e : Raised)
deriving DecidableEq

def RunError.message : RunError → WideText
  | .path e => wideOf e.message
  | .log e => wide e.message
  | .settings e => wide e.message
  | .query e => wideOf e.message
  | .console e => wideOf e.message

inductive Ending
  | refused
  | done (status : Nat) (output errors : List Output)
deriving DecidableEq, Repr

/-! ## Commands -/

section

variable [Runtime]

def identifyRow (archive : Text) (library : Library) : List WideText :=
  let dash := styled .dim (wideOf "-")
  if library.IsVoid then [wide archive, dash, styled .dim (wideOf "unattributed")]
  else
    let group := match library.group with
      | none | some [] => dash
      | some group => group
    [wide archive, group, library.artifact]

def identify (fs : FileSystem) (archives : List Text) : Action (Nat × List Output) := do
  let rows ← archives.mapM fun archive => do
    let attribution ← ofExcept (({} : Identifier).attributePath fs (.parse archive))
    Action.emit (.attribution attribution)
    return identifyRow archive attribution.library
  let columns := [wideOf "Archive", wideOf "Group", wideOf "Artifact"]
  return (0, [.table ⟨wideOf "Archive Attribution", columns, rows⟩])

def extend (s : Settings) (a : Additions) : Settings :=
  { s with
    searchPath := s.searchPath ++ a.paths
    nameMasks := s.nameMasks ++ a.masks
    maskFiles := s.maskFiles ++ a.libraries }

def buildMasking (fs : FileSystem) (s : Settings) : Action (Resolver × Nat × Resolver) := do
  let r ← s.build fs none
  return (r, (r.masking?).getD (0, .nowhere))

def checkLine (name : Text) (origin : Origin) (location : Option Location) : WideText :=
  match location with
  | none =>
    styled .red (wideOf "hidden") ++ wideOf " " ++ wide name ++ wideOf " " ++
      styled .dim (wideOf ("(masked or not found, origin: " ++ origin.name ++ ")"))
  | some location =>
    styled .green (wideOf "visible") ++ wideOf " " ++ wide name ++ wideOf " -> " ++
      wide location ++ wideOf " " ++ styled .dim (wideOf ("(origin: " ++ origin.name ++ ")"))

def check (fs : FileSystem) (s : Settings) (name : Text) (asResource : Bool) :
    Action (Nat × List Output) := do
  let (r, id, parent) ← buildMasking fs s
  let (origin, location) ←
    if asResource then
      let origin ← Resolver.resourceOrigin fs id parent name
      pure (origin, ← r.locate fs name)
    else
      let origin ← Resolver.moduleOrigin fs id parent name
      pure (origin, (← r.resolve fs name false).map (·.location))
  return (if location.isSome then 0 else 1, [.text (checkLine name origin location)])

def resourceRow (visible : List Location) (location : Location) : List WideText :=
  let status :=
    if visible.contains location then styled .green (wideOf "visible")
    else styled .red (wideOf "masked")
  [wide location, status]

def resources (fs : FileSystem) (s : Settings) (name : Text) : Action (Nat × List Output) := do
  let (r, _, parent) ← buildMasking fs s
  let locations ← parent.enumerate fs name
  let visible ← r.enumerate fs name
  if locations = [] then
    return (0, [.text (styled .dim (wideOf "No locations found for " ++ wide name))])
  else
    let rows := locations.map (resourceRow visible)
    let columns := [wideOf "Location", wideOf "Status"]
    return (0, [.table ⟨wideOf "Locations of " ++ wide name, columns, rows⟩])

def Command.run (fs : FileSystem) (s : Settings) : Command → Action (Nat × List Output)
  | .identify archives => CommandLine.identify fs archives
  | .check name asResource additions => CommandLine.check fs (extend s additions) name asResource
  | .resources name additions => CommandLine.resources fs (extend s additions) name

end

/-! ## Command lines -/

def openLog (fs : FileSystem) (g : Globals) : Except Log.OpenError Unit × Log.State × FileSystem :=
  match g.logFile with
  | none | some [] => (.ok (), Log.unopened, fs)
  | some path =>
    let level := if g.logLevel = [] then standardLevel else g.logLevel
    Log.unopened.opened fs (some path) (wide level)

def settingsFailure [Console] (e : Settings.Error) : Except RunError Ending :=
  if e.isOfSettings then
    let line := styled .red (wideOf "Error:") ++ wideOf " " ++ wide e.message
    match Console.display .errors (.text line) with
    | .ok shown => .ok (.done 1 [] [shown])
    | .error e => .error (.console e)
  else .error (.settings e)

def Refusal.ending : Refusal → Except RunError Ending
  | .usage => .ok .refused
  | .path e => .error (.path e)

/-- Runs a command line: how it ends, and the file system with the log. All records of the log have
the time `created`. -/
def run [Runtime] [Settings.Reader] [Frontend] [Console] (fs : FileSystem)
    (env : Settings.Environment) (created : Json) (words : List Text) :
    Except RunError Ending × FileSystem :=
  match readGlobals fs words with
  | .error refusal => (refusal.ending, fs)
  | .ok (globals, name, rest) =>
    match openLog fs globals with
    | (.error e, _, fs) => (.error (.log e), fs)
    | (.ok (), log, fs) =>
      let (settings, events) := Settings.load fs env globals.config
      let fs := log.logEvents fs created events
      match settings with
      | .error e => (settingsFailure e, fs)
      | .ok settings =>
        match readCommand fs name rest with
        | .error refusal => (refusal.ending, fs)
        | .ok command =>
          let (result, store) := (command.run fs settings).run .empty
          let fs := log.logEvents fs created store.events
          match result with
          | .error e => (.error (.query e), fs)
          | .ok (status, output) =>
            match output.mapM (Console.display .output) with
            | .ok shown => (.ok (.done status shown []), fs)
            | .error e => (.error (.console e), fs)

end MaskedPath.CommandLine
