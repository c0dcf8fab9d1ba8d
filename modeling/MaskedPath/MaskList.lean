import MaskedPath.Event

namespace MaskedPath.MaskList

inductive Line
  | skipped
  | ignored (entry : WideText)
  | mask (library : Library)
deriving DecidableEq

def Line.read (line : WideText) : Line :=
  let entry := stripWide line
  if entry = [] ∨ entry.head? = some (.ofChar '#') then .skipped
  else
    let library := Library.ofEntry entry
    if library.IsVoid then .ignored entry else .mask library

def Line.library? : Line → Option Library
  | .mask l => some l
  | _ => none

def Line.event? : Line → Option Event
  | .ignored entry => some (.maskIgnored entry)
  | _ => none

def parse (lines : List WideText) : List Library :=
  lines.filterMap fun line => (Line.read line).library?

def events (lines : List WideText) : List Event :=
  lines.filterMap fun line => (Line.read line).event?

/-! ## Lists in files -/

def bundle : Path := .parse "/usr/share/masking-resolver/masks".toList

def sources (resource : Text) : List Path :=
  if resource.head? = some '/' then [.parse resource]
  else [bundle.join resource, .parse resource]

/-- What a system answers about paths: whether there is a file, and what it holds. A file that is there
may fail to be read all the same. -/
structure Access where
  isFile : Path → Except PathError Bool
  read : Path → Except PathError Bytes

def Access.ofFiles (fs : FileSystem) : Access := ⟨fs.isFile, fs.read⟩

def readLines? (a : Access) (p : Path) : Except Failure (Option (List WideText)) := do
  if ← orFail .path (a.isFile p) then
    let bytes ← orFail .path (a.read p)
    let text ← orFail .decoding (decodeText .utf8 bytes)
    return some (lines text)
  else return none

def readSource (a : Access) (p : Path) : List Library × List Event :=
  match readLines? a p with
  | .ok (some lines) =>
    (parse lines, events lines ++ [.masksLoaded (parse lines).length p])
  | .ok none => ([], [])
  | .error e => ([], [.masksFailed p e])

def readFrom (a : Access) (resource : Text) : List Library × List Event :=
  let parts := (sources resource).map (readSource a)
  (parts.flatMap (·.1), parts.flatMap (·.2))

def read (fs : FileSystem) (resource : Text) : List Library × List Event :=
  readFrom (.ofFiles fs) resource

end MaskedPath.MaskList
