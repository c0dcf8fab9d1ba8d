import MaskedPath.CommandLine.Layout
import MaskedPath.CommandLine.Reach
import MaskedPath.Standard.Console
import MaskedPath.Standard.Frontend
import MaskedPath.Standard.Reader
import MaskedPath.Standard.Runtime
import Std.Time.DateTime.Timestamp

namespace MaskedPath.Program

open scoped MaskedPath.Standard

def placeText (place : Place) : String := String.ofList ('/' :: joinWith ['/'] place)

/-- A file system with a place whose path resolves. A file may be closed to reading. -/
def probe (fs : FileSystem) (place : Place) (resolved : String) (isDirectory : Bool) :
    IO FileSystem := do
  let path := placeText place
  if resolved ≠ path then return fs.put place (.link resolved.toList)
  else if isDirectory then return fs.put place .directory
  else match ← (IO.FS.readBinFile path).toBaseIO with
    | .ok bytes => return fs.put place (.file bytes.data.toList)
    | .error _ => return { fs.put place (.file []) with closed := place :: fs.closed }

def lookUp (fs : FileSystem) (here : Place) : List Text → IO FileSystem
  | [] => return fs
  | name :: rest => do
    let place := here ++ [name]
    let fs ← match fs.node? place with
      | some _ => pure fs
      | none =>
        match ← (IO.FS.realPath (placeText place)).toBaseIO with
        | .ok resolved => probe fs place (toString resolved) (← resolved.isDir)
        | .error (.permissionDenied ..) => pure { fs with closed := here :: fs.closed }
        | .error _ => pure fs
    lookUp fs place rest

def lookUpPath (fs : FileSystem) (p : Path) : IO FileSystem := do
  let names := FileSystem.namesOf p.render |>.filter (· ≠ [])
  let start := FileSystem.startOf fs.home p.render
  let fs ← lookUp fs start names
  match fs.resolve p with
  | .ok resolved => lookUp fs [] (resolved.segments.map Segment.text)
  | .error _ => return fs

def lookUpAll (fs : FileSystem) (paths : List Path) : IO FileSystem := paths.foldlM lookUpPath fs

def setting? (name : String) : IO (Option Text) := return (← IO.getEnv name).map String.toList

def shown (w : WideText) : String :=
  String.ofList (w.map fun c => (c.toChar?).getD Utf8.replacement)

def makeAbove (before after : FileSystem) (p : Path) : IO Unit :=
  (List.range p.segments.length).forM fun depth => do
    let directory : Path := ⟨p.anchor, p.segments.take depth⟩
    match before.isDirectory directory, after.isDirectory directory with
    | .ok false, .ok true => IO.FS.createDirAll (String.ofList directory.render)
    | _, _ => pure ()

def writeLog (before after : FileSystem) (p : Path) : IO Unit := do
  makeAbove before after p
  let old := (before.read p).toOption
  match (after.read p).toOption with
  | some content =>
    if old ≠ some content then IO.FS.writeBinFile (String.ofList p.render) ⟨content.toArray⟩
  | none => pure ()

def printAll (stream : IO.FS.Stream) (output : List CommandLine.Output) : IO Unit :=
  (output.flatMap CommandLine.Output.draw).forM fun line => stream.putStrLn (shown line)

def now : IO Json := do
  let nanoseconds := (← Std.Time.Timestamp.now).toNanosecondsSinceUnixEpoch.toInt
  return .float (Float.ofInt nanoseconds / 1e9)

def run (words : List Text) : IO UInt32 := do
  let env : Settings.Environment :=
    ⟨← setting? "MASKING_RESOLVER_CONFIG", ← setting? "MASKING_RESOLVER_MASKS"⟩
  let home := (FileSystem.namesOf (toString (← IO.currentDir)).toList).filter (· ≠ [])
  let fs ← lookUp ⟨[], home, []⟩ [] home
  let fs ← lookUpAll fs (CommandLine.firstReached env words)
  let config := (valuesOfConfig words).getLast?
  let fs ← match (Settings.load fs env config).1 with
    | .ok settings => lookUpAll fs (CommandLine.thenReached settings words)
    | .error _ => pure fs
  let (ending, after) := CommandLine.run fs env (← now) words
  (CommandLine.logPath? words).forM (writeLog fs after)
  let errors ← IO.getStderr
  match ending with
  | .ok .refused =>
    errors.putStrLn "Usage: masking-resolver [OPTIONS] COMMAND [ARGS]..."
    return 2
  | .ok (.done status output messages) =>
    printAll (← IO.getStdout) output
    printAll errors messages
    return UInt32.ofNat status
  | .error e =>
    errors.putStrLn (shown e.message)
    return 1
where
  /-- The settings files that words name. -/
  valuesOfConfig (words : List Text) : List Text :=
    CommandLine.valuesOf (CommandLine.split words).1 .config

end MaskedPath.Program

def main (words : List String) : IO UInt32 := MaskedPath.Program.run (words.map String.toList)
