import MaskedPath.Event
import MaskedPath.Settings.Basic

namespace MaskedPath

namespace Settings

structure Environment where
  config : Option Text
  masks : Option Text
deriving DecidableEq, Repr

inductive Error
  | unknownSource (cause : PathError)
  | unreadable (source : Path) (cause : PathError)
  | nulInPath
  | malformed (source : Path) (cause : Raised)
  | notAMapping (source : Path)
  | keyNotText
  | invalid (source : Option Path) (cause : Raised)
  | other (cause : Raised)
deriving DecidableEq

def sourceText : Option Path → Text
  | some p => p.render
  | none => "None".toList

def Error.heading : Error → Text
  | .unreadable p _ | .malformed p _ => "Failed to read settings from ".toList ++ p.render
  | .notAMapping p => "Settings in ".toList ++ p.render ++ " must be a mapping".toList
  | .invalid p _ => "Invalid settings in ".toList ++ sourceText p
  | .unknownSource _ | .nulInPath | .keyNotText | .other _ => []

def Error.message (e : Error) : Text :=
  match e with
  | .unknownSource cause => cause.message.toList
  | .unreadable _ cause => e.heading ++ ": ".toList ++ cause.message.toList
  | .nulInPath => PathError.nul.message.toList
  | .malformed _ cause | .invalid _ cause => e.heading ++ ": ".toList ++ cause.message.toList
  | .notAMapping _ => e.heading
  | .keyNotText => "keywords must be strings".toList
  | .other cause => cause.message.toList

/-- Whether an error is one of settings, and not one that only reading them runs into. -/
def Error.isOfSettings : Error → Bool
  | .unreadable .. | .malformed .. | .notAMapping _ | .invalid .. => true
  | .unknownSource _ | .nulInPath | .keyNotText | .other _ => false

/-! ## Documents -/

section

variable [Reader]

def readObject (fs : FileSystem) (p : Path) : Except Error Reader.Object :=
  match fs.read p with
  | .error .nul => .error .nulInPath
  | .error e => .error (.unreadable p e)
  | .ok bytes => (Reader.load bytes).mapError fun e =>
    if e.isOneOf ["OSError", "YAMLError"] then .malformed p e else .other e

def entriesOf (p : Path) (o : Reader.Object) : Except Error (List (Reader.Object × Reader.Object)) :=
  if Reader.isTrue o then
    match Reader.entries? o with
    | some entries => .ok entries
    | none => .error (.notAMapping p)
  else .ok []

def named : List (Reader.Object × Reader.Object) → Option (List (WideText × Reader.Object)) :=
  List.mapM fun entry => (Reader.text? entry.1).map fun key => (key, entry.2)

def ofEntries (source : Option Path) (entries : List (Reader.Object × Reader.Object)) :
    Except Error Settings :=
  match named entries with
  | none => .error .keyNotText
  | some data => (Reader.validate data).mapError fun e =>
    if e.isOneOf ["ValidationError"] then .invalid source e else .other e

end

/-! ## Loading -/

def standardSource : Path := .parse "masking.yaml".toList

def isThere (fs : FileSystem) (p : Path) : Except PathError Bool := fs.holds (fun _ => true) p

def sourceOf (fs : FileSystem) (env : Environment) (path : Option Text) :
    Except Error (Option Path) :=
  match path, env.config with
  | some path, _ => .ok (some (.parse path))
  | none, some (c :: config) => .ok (some (.parse (c :: config)))
  | none, _ =>
    match isThere fs standardSource with
    | .ok true => .ok (some standardSource)
    | .ok false => .ok none
    | .error e => .error (.unknownSource e)

def addedMasks (env : Environment) : List Text :=
  match env.masks with
  | none => []
  | some masks => ((splitWhere (· = ',') masks).map strip).filter (· ≠ [])

def load [Reader] (fs : FileSystem) (env : Environment) (path : Option Text) :
    Except Error Settings × List Event :=
  let extend (s : Settings) : Settings := { s with nameMasks := s.nameMasks ++ addedMasks env }
  match sourceOf fs env path with
  | .error e => (.error e, [])
  | .ok none => ((ofEntries none []).map extend, [])
  | .ok (some p) =>
    match readObject fs p >>= entriesOf p with
    | .error e => (.error e, [])
    | .ok entries => ((ofEntries (some p) entries).map extend, [.settingsLoaded p])

end Settings

end MaskedPath
