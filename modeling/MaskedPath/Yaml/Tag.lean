import MaskedPath.Yaml.Timestamp

namespace MaskedPath.Yaml

inductive Tag
  | null
  | bool
  | int
  | float
  | binary
  | timestamp
  | orderedMap
  | pairs
  | set
  | text
  | sequence
  | mapping
  | merge
  | value
  | other (name : Text)
deriving DecidableEq, Repr

def tagFront : Text := "tag:yaml.org,2002:".toList

def tagNames : List (String × Tag) :=
  [("null", .null), ("bool", .bool), ("int", .int), ("float", .float), ("binary", .binary),
    ("timestamp", .timestamp), ("omap", .orderedMap), ("pairs", .pairs), ("set", .set),
    ("str", .text), ("seq", .sequence), ("map", .mapping), ("merge", .merge), ("value", .value)]

def Tag.ofName (name : Text) : Tag :=
  match tagNames.find? fun t => tagFront ++ t.1.toList = name with
  | some (_, tag) => tag
  | none => .other name

/-! ## Plain scalars -/

def isDigitPart (c : Char) : Bool := isDigit c || c = '_'

def unsigned (t : Text) : Text :=
  match t with
  | '+' :: rest => rest
  | '-' :: rest => rest
  | rest => rest

def isSixtieth (t : Text) : Bool :=
  match t with
  | [c] => isDigit c
  | [c, d] => '0' ≤ c && c ≤ '5' && isDigit d
  | _ => false

def boolWords : List (String × Bool) :=
  [("yes", true), ("no", false), ("true", true), ("false", false), ("on", true), ("off", false)]

def spellings (word : String) : List Text :=
  let small := word.toList
  [small, (small.take 1).map Char.toUpper ++ small.drop 1, small.map Char.toUpper]

def isWord (t : Text) (words : List String) : Bool := words.any fun w => (spellings w).contains t

def looksInt (t : Text) : Bool :=
  match unsigned t with
  | ['0'] => true
  | '0' :: 'b' :: rest => rest ≠ [] && rest.all fun c => c = '0' || c = '1' || c = '_'
  | '0' :: 'x' :: rest =>
    rest ≠ [] && rest.all fun c => isDigitPart c || ('a' ≤ c && c ≤ 'f') || ('A' ≤ c && c ≤ 'F')
  | '0' :: rest => rest ≠ [] && rest.all fun c => ('0' ≤ c && c ≤ '7') || c = '_'
  | c :: rest =>
    match splitWhere (· = ':') (c :: rest) with
    | whole :: sixtieths => isDigit c && whole.all isDigitPart && sixtieths.all isSixtieth
    | [] => false
  | [] => false

def isExponent (t : Text) : Bool :=
  match t with
  | [] => true
  | e :: sign :: digits =>
    (e = 'e' || e = 'E') && (sign = '+' || sign = '-') && digits ≠ [] && digits.all isDigit
  | _ => false

def isFraction (t : Text) : Bool := isExponent (t.dropWhile isDigitPart)

def looksFloat (t : Text) : Bool :=
  let u := unsigned t
  [".inf", ".Inf", ".INF"].any (·.toList = u) || [".nan", ".NaN", ".NAN"].any (·.toList = t) ||
    match t with
    | '.' :: rest => rest.head?.any isDigit && isFraction rest
    | _ =>
      match cutAt? (· = '.') u with
      | none => false
      | some (whole, fraction) =>
        match splitWhere (· = ':') whole with
        | [] => false
        | digits :: sixtieths =>
          digits.head?.any isDigit && digits.all isDigitPart && sixtieths.all isSixtieth &&
            if sixtieths = [] then isFraction fraction else fraction.all isDigitPart

def withoutBreak (t : Text) : Text := if t.getLast? = some '\n' then t.dropLast else t

def Tag.ofPlain (text : Text) : Tag :=
  let t := withoutBreak text
  if text = [] ∨ t = ['~'] ∨ isWord t ["null"] then .null
  else if isWord t (boolWords.map (·.1)) then .bool
  else if looksFloat t then .float
  else if looksInt t then .int
  else if t = ['<', '<'] then .merge
  else if Timestamp.looksImplicit t then .timestamp
  else if t = ['='] then .value
  else .text

end MaskedPath.Yaml
