import MaskedPath.Event
import MaskedPath.Log.Template
import MaskedPath.Log.Timestamp

namespace MaskedPath.Log

structure Record where
  logger : Json
  level : Json
  levelNumber : Json
  template : Json
  arguments : Template.Arguments
  created : Json
  extras : List (WideText × Json)

inductive PayloadError
  | timestamp (e : Timestamp.Error)
  | template (e : Template.Error)
deriving DecidableEq, Repr

def PayloadError.message : PayloadError → Text
  | .timestamp e => e.message
  | .template e => e.message

namespace Record

def standardNames : List String := [
  "name", "msg", "args", "levelname", "levelno", "pathname", "filename", "module", "exc_info",
  "exc_text", "stack_info", "lineno", "funcName", "created", "msecs", "relativeCreated", "thread",
  "threadName", "processName", "process", "message", "asctime", "taskName"]

def setMember (name : WideText) (value : Json) :
    List (WideText × Json) → List (WideText × Json)
  | [] => [(name, value)]
  | (n, v) :: rest =>
    if n = name then (n, value) :: rest else (n, v) :: setMember name value rest

/-- A record with an attribute set. A standard attribute that no payload shows changes nothing. -/
def set (r : Record) (name : WideText) (value : Json) : Record :=
  if name = wideOf "name" then { r with logger := value }
  else if name = wideOf "levelname" then { r with level := value }
  else if name = wideOf "levelno" then { r with levelNumber := value }
  else if name = wideOf "msg" then { r with template := value }
  else if name = wideOf "args" then { r with arguments := .single value }
  else if name = wideOf "created" then { r with created := value }
  else if standardNames.any fun n => name = wideOf n then r
  else { r with extras := setMember name value r.extras }

def setAll (r : Record) (attributes : List (WideText × Json)) : Record :=
  attributes.foldl (fun r a => r.set a.1 a.2) r

def ofEvent (created : Json) (e : Event) : Record where
  logger := .ofString e.source
  level := .ofString e.level.name
  levelNumber := .int e.level.number
  template := .text e.message
  arguments := .several []
  created := created
  extras := []

def message (r : Record) : Except Template.Error WideText :=
  let isPlain := match r.arguments with
    | .several values => values.isEmpty
    | .single value => value.isNothing
  if isPlain then .ok r.template.display else Template.render r.template.display r.arguments

def schema : Json :=
  .object [(wideOf "name", .ofString "masking_resolver.log"), (wideOf "ver", .ofString "1.0.0")]

def payload (r : Record) : Except PayloadError (List (WideText × Json)) := do
  let time ← (Timestamp.ofJson r.created >>= Timestamp.render).mapError .timestamp
  let message ← r.message.mapError .template
  let fixed : List (WideText × Json) := [
    (wideOf "ts", .ofText time),
    (wideOf "lvl", r.level),
    (wideOf "schema", schema),
    (wideOf "logger", r.logger),
    (wideOf "message", .text message)]
  return fixed ++ r.extras.filter fun extra => (fixed.lookup extra.1).isNone

def line (r : Record) : Except PayloadError WideText :=
  r.payload.map fun members => (Json.object members).render ++ wideOf "\n"

end Record

end MaskedPath.Log
