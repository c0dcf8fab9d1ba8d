import MaskedPath.FileSystem.Write
import MaskedPath.Log.Record

/-!
# The log

The log has a threshold and handlers, some of which are sinks: files that records are appended to as
lines of JSON. Opening the log sets the threshold and puts one sink in the place of those that are
there; the other handlers stay. A record below the threshold is not taken; one that is taken but cannot
be written leaves the file as it is.
-/

namespace MaskedPath

namespace Log

inductive Handler
  | sink (path : Path)
  | other (name : Text)
deriving DecidableEq

def Handler.sink? : Handler → Option Path
  | .sink path => some path
  | .other _ => none

structure State where
  threshold : Int
  handlers : List Handler
deriving DecidableEq

namespace State

def sinks (log : State) : List Path := log.handlers.filterMap Handler.sink?

def sink (log : State) : Option Path := log.sinks.head?

def others (log : State) : List Handler := log.handlers.filter fun h => h.sink?.isNone

end State

/-- A log that was not opened takes warnings and what is above them. -/
def unopened : State := ⟨Level.warning.number, []⟩

/-! ## Thresholds -/

inductive Threshold
  | number (n : Int)
  | pattern
  | styles
deriving DecidableEq, Repr

def pattern : String := "%(levelname)s:%(name)s:%(message)s"

def styles : String :=
  "\x7b'%': (<class 'logging.PercentStyle'>, '%(levelname)s:%(name)s:%(message)s'), " ++
  "'\x7b': (<class 'logging.StrFormatStyle'>, '\x7blevelname\x7d:\x7bname\x7d:\x7bmessage\x7d'), " ++
  "'$': (<class 'logging.StringTemplateStyle'>, '$\x7blevelname\x7d:$\x7bname\x7d:$\x7bmessage\x7d')\x7d"

def thresholds : List (String × Threshold) := [
  ("NOTSET", .number 0),
  ("DEBUG", .number 10),
  ("INFO", .number 20),
  ("WARN", .number 30),
  ("WARNING", .number 30),
  ("ERROR", .number 40),
  ("FATAL", .number 50),
  ("CRITICAL", .number 50),
  ("BASIC_FORMAT", .pattern),
  ("_STYLES", .styles)]

def upper (c : CodePoint) : WideText :=
  if 97 ≤ c.val ∧ c.val ≤ 122 then [.ofByte (UInt8.ofNat (c.val - 32))]
  else if c.val = 0x131 then wideOf "I"
  else if c.val = 0x17f then wideOf "S"
  else if c.val = 0xfb05 ∨ c.val = 0xfb06 then wideOf "ST"
  else [c]

/-- What a name stands for in any case of letters; an unknown name stands for the level of
information, as does an empty one. -/
def Threshold.ofName (name : WideText) : Threshold :=
  let name := name.flatMap upper
  ((thresholds.find? fun t => name = wideOf t.1).map (·.2)).getD (.number Level.info.number)

/-! ## Opening -/

inductive OpenError
  | unknownLevel
  | notALevel
  | path (e : PathError)
deriving DecidableEq, Repr

def OpenError.message : OpenError → Text
  | .unknownLevel => "Unknown level: ".toList ++ Quoted.ofText pattern.toList
  | .notALevel => "Level not an integer or a valid string: ".toList ++ styles.toList
  | .path e => e.message.toList

def standardPath : Text := "./masking-resolver.log.jsonl".toList

def pathOf : Option Text → Path
  | none | some [] => .parse standardPath
  | some t => .parse t

/-- The log and the file system after the log is opened with a sink and the name of a threshold. The
sinks that are there are taken away before the directories above the new one are made; where that fails
the log is left without a sink. -/
def State.opened (log : State) (fs : FileSystem) (path : Option Text) (level : WideText) :
    Except OpenError Unit × State × FileSystem :=
  match Threshold.ofName level with
  | .pattern => (.error .unknownLevel, log, fs)
  | .styles => (.error .notALevel, log, fs)
  | .number n =>
    let p := pathOf path
    match fs.ensureDirectories p.anchor p.parent.segments with
    | (.ok (), fs) => (.ok (), ⟨n, log.others ++ [.sink p]⟩, fs)
    | (.error e, fs) => (.error (.path e), ⟨n, log.others⟩, fs)

/-! ## Writing -/

def State.takes (log : State) (level : Int) : Bool := log.threshold ≤ level

def appendLine (fs : FileSystem) (p : Path) (line : WideText) : FileSystem :=
  let bytes := ((narrow? line).map Utf8.encode).getD []
  match fs.append p bytes with
  | .ok fs => fs
  | .error _ => fs

structure LevelError where
  kind : String
deriving DecidableEq, Repr

def LevelError.message (e : LevelError) : Text :=
  "'>=' not supported between instances of '".toList ++ e.kind.toList ++ "' and 'int'".toList

def reachesSinks : Json → Except LevelError Bool
  | .int n => .ok (0 ≤ n)
  | .bool _ => .ok true
  | .float x => .ok (0 ≤ x)
  | other => .error ⟨other.kind⟩

def State.handle (log : State) (fs : FileSystem) (r : Record) : Except LevelError FileSystem := do
  if ← reachesSinks r.levelNumber then
    match r.line with
    | .ok line => return log.sinks.foldl (fun fs p => appendLine fs p line) fs
    | .error _ => return fs
  else return fs

def State.log (log : State) (fs : FileSystem) (level : Int) (r : Record) :
    Except LevelError (Bool × FileSystem) := do
  if log.takes level then return (true, ← log.handle fs r) else return (false, fs)

def State.logEvents (log : State) (fs : FileSystem) (created : Json) (events : List Event) :
    FileSystem :=
  events.foldl (fun fs e =>
    match log.log fs e.level.number (.ofEvent created e) with
    | .ok (_, fs) => fs
    | .error _ => fs) fs

end Log

end MaskedPath
