import MaskedPath.Number.Binary
import MaskedPath.Text.Quoted

namespace MaskedPath

inductive Json
  | null
  | bool (b : Bool)
  | int (n : Int)
  | float (x : Float)
  | text (t : WideText)
  | list (items : List Json)
  | object (members : List (WideText × Json))

namespace Json

instance : Inhabited Json := ⟨.null⟩

def ofText (t : Text) : Json := .text (wide t)

def ofString (s : String) : Json := .text (wideOf s)

def escaped (c : CodePoint) : WideText :=
  if c = '"' then wideOf "\\\""
  else if c = '\\' then wideOf "\\\\"
  else if c = '\n' then wideOf "\\n"
  else if c = '\r' then wideOf "\\r"
  else if c = '\t' then wideOf "\\t"
  else if c = '\x08' then wideOf "\\b"
  else if c = '\x0c' then wideOf "\\f"
  else if c.val < 0x20 then wide ('\\' :: 'u' :: hexPadded 4 c.val)
  else [c]

def quoted (t : WideText) : WideText :=
  .ofChar '"' :: t.flatMap escaped ++ [.ofChar '"']

def floatText (x : Float) : Text :=
  match Binary.ofFloat? x with
  | some b => b.render
  | none =>
    if x.isNaN then "NaN".toList
    else if x < 0 then "-Infinity".toList
    else "Infinity".toList

def comma : WideText := wideOf ", "

mutual

def render : Json → WideText
  | .null => wideOf "null"
  | .bool b => wideOf (if b then "true" else "false")
  | .int n => wide (decimalInt n)
  | .float x => wide (floatText x)
  | .text t => quoted t
  | .list items => .ofChar '[' :: joinWith comma (renderItems items) ++ [.ofChar ']']
  | .object members => .ofChar '\x7b' :: joinWith comma (renderMembers members) ++ [.ofChar '\x7d']

def renderItems : List Json → List WideText
  | [] => []
  | item :: items => item.render :: renderItems items

def renderMembers : List (WideText × Json) → List WideText
  | [] => []
  | (name, value) :: members =>
    (quoted name ++ wideOf ": " ++ value.render) :: renderMembers members

end

end Json

end MaskedPath
