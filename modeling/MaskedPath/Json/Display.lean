import MaskedPath.Json.Basic

namespace MaskedPath.Json

def kind : Json → String
  | .null => "NoneType"
  | .bool _ => "bool"
  | .int _ => "int"
  | .float _ => "float"
  | .text _ => "str"
  | .list _ => "list"
  | .object _ => "dict"

def isNothing : Json → Bool
  | .null => true
  | .bool b => !b
  | .int n => n = 0
  | .float x => x == 0
  | .text t => t = []
  | .list items => items.isEmpty
  | .object members => members.isEmpty

def floatDisplay (x : Float) : Text :=
  match Binary.ofFloat? x with
  | some b => b.render
  | none =>
    if x.isNaN then "nan".toList
    else if x < 0 then "-inf".toList
    else "inf".toList

mutual

def quotedDisplay : Json → Text
  | .null => "None".toList
  | .bool b => (if b then "True" else "False").toList
  | .int n => decimalInt n
  | .float x => floatDisplay x
  | .text t => Quoted.ofWide t
  | .list items => '[' :: joinWith [',', ' '] (displayItems items) ++ [']']
  | .object members => '\x7b' :: joinWith [',', ' '] (displayMembers members) ++ ['\x7d']

def displayItems : List Json → List Text
  | [] => []
  | item :: items => item.quotedDisplay :: displayItems items

def displayMembers : List (WideText × Json) → List Text
  | [] => []
  | (name, value) :: members =>
    (Quoted.ofWide name ++ [':', ' '] ++ value.quotedDisplay) :: displayMembers members

end

def display : Json → WideText
  | .text t => t
  | j => wide j.quotedDisplay

end MaskedPath.Json
