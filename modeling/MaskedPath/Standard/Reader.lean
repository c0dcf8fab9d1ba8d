import MaskedPath.Settings.Schema
import MaskedPath.Yaml.Value

namespace MaskedPath

namespace Settings

def Issue.message (i : Issue) : Text :=
  let place := i.field.name.toList ++ match i.index with
    | some n => '.' :: decimal n
    | none => []
  place ++ ": ".toList ++ i.misfit.name.toList

def unifyLines : Text → Text
  | [] => []
  | '\r' :: '\n' :: rest => '\n' :: unifyLines rest
  | c :: rest => (if c = '\r' then '\n' else c) :: unifyLines rest

def datumOfAtom : Yaml.Atom → Datum
  | .text t => .text t
  | .bytes b => .bytes b
  | .bool b => .bool b
  | .int n => .int n
  | .float x => .float x
  | .null | .moment _ => .other

def datumOfItem : Yaml.Value → Datum
  | .atom a => datumOfAtom a
  | _ => .other

def datumOf (d : Yaml.Document) : Yaml.Value → Datum
  | .atom a => datumOfAtom a
  | .list items => .list (items.map fun id => datumOfItem (d.value id))
  | .tuples pairs => .list (pairs.map fun _ => .other)
  | .set members => .list (members.map fun m => datumOfAtom m.1)
  | .mapping _ => .other

end Settings

namespace Yaml

inductive Object
  | nothing
  | value (d : Document) (v : Value)

namespace Object

def isTrue : Object → Bool
  | .nothing => false
  | .value _ v => !v.isEmpty

def entries? : Object → Option (List (Object × Object))
  | .value d (.mapping entries) =>
    some (entries.map fun entry => (.value d (.atom entry.1), .value d (d.value entry.2)))
  | _ => none

def text? : Object → Option WideText
  | .value _ (.atom (.text t)) => some t
  | _ => none

def datum : Object → Settings.Datum
  | .nothing => .other
  | .value d v => Settings.datumOf d v

end Object

def ScalarError.kind : ScalarError → String
  | .hugeCodePoint => "OverflowError"
  | .emptyNumeral => "IndexError"
  | .unknownWord _ => "KeyError"
  | .notATimestamp => "AttributeError"
  | .timestampOfMapping => "TypeError"
  | .endlessText => "RecursionError"
  | _ => "ValueError"

def Error.raised : Error → Raised
  | .fault f => ⟨["YAMLError"], f.text⟩
  | .scalar e => ⟨[e.kind], String.ofList e.message⟩

/-- What is cut short by the end of the file is decoded by itself. -/
def textOfBytes (bytes : Bytes) : Except Raised Text :=
  (Utf8.decode bytes).mapError fun e =>
    let e := if e.fault = .unexpectedEnd then { e with position := 0 } else e
    ⟨["UnicodeDecodeError", "UnicodeError", "ValueError"], (DecodingError.notUtf8 e).message⟩

def load (bytes : Bytes) : Except Raised Object := do
  match ← (Document.read (Settings.unifyLines (← textOfBytes bytes))).mapError Error.raised with
  | some d => return .value d (d.value d.root)
  | none => return .nothing

end Yaml

namespace Settings

def issuesMessage (issues : List Issue) : String :=
  String.ofList (joinWith [';', ' '] (issues.map Issue.message))

def validate (data : List (WideText × Yaml.Object)) : Except Raised Settings :=
  (ofData (data.map fun entry => (entry.1, entry.2.datum))).mapError fun issues =>
    ⟨["ValidationError", "ValueError"], issuesMessage issues⟩

end Settings

namespace Standard

scoped instance reader : Settings.Reader where
  Object := Yaml.Object
  load := Yaml.load
  isTrue := Yaml.Object.isTrue
  entries? := Yaml.Object.entries?
  text? := Yaml.Object.text?
  validate := Settings.validate
  validate_nil := rfl

end Standard

end MaskedPath
