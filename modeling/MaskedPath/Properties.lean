import MaskedPath.Text.Line
import MaskedPath.Text.Numeral
import MaskedPath.Text.Quoted

/-!
# Properties documents

A properties document lists keys and values. A logical line is a line, or several that end in an odd
number of backslashes and the one after them; blank lines and lines that begin with `#` or `!` are
skipped. A logical line is cut at its first separator that no backslash escapes, and the escapes of
both parts are undone.
-/

namespace MaskedPath.Properties

/-- A malformed `\u` escape: cut short by the end of the text, which then is what remains from the
backslash on, or without a code point in its four digits. -/
inductive Error
  | shortEscape (remaining : WideText)
  | badDigits (digits : WideText)
deriving DecidableEq, Repr

def Error.message : Error → WideText
  | .shortEscape remaining =>
    wideOf "Malformed \\uxxxx encoding: " ++ wide (Quoted.ofWide remaining)
  | .badDigits digits => wideOf "Malformed \\uxxxx encoding: \\u" ++ digits

def isGap (c : CodePoint) : Bool := c = ' ' ∨ c = '\t' ∨ c = '\x0c'

def isSeparator (c : CodePoint) : Bool := c = '=' ∨ c = ':'

/-! ## Logical lines -/

def trailingBackslashes (line : WideText) : Nat :=
  (line.reverse.takeWhile (· = .ofChar '\\')).length

def isContinued (line : WideText) : Bool := trailingBackslashes line % 2 == 1

def isSkipped : WideText → Bool
  | [] => true
  | c :: _ => c = '#' ∨ c = '!'

/-- The logical lines of `raws`, where `pending` is what the lines before have left open. -/
def logicalLinesAfter (pending : Option WideText) : List WideText → List WideText
  | [] => pending.toList
  | raw :: raws =>
    let line := raw.dropWhile isGap
    if pending.isNone && isSkipped line then logicalLinesAfter none raws
    else
      let line := pending.getD [] ++ line
      if isContinued line then logicalLinesAfter (some line.dropLast) raws
      else line :: logicalLinesAfter none raws

def logicalLines (document : WideText) : List WideText :=
  logicalLinesAfter none (lines document)

/-! ## Entries -/

/-- The key of a logical line, with its escapes, and what follows it. -/
def splitKey : WideText → WideText × WideText
  | [] => ([], [])
  | [c] => if isSeparator c || isGap c then ([], [c]) else ([c], [])
  | c :: d :: rest =>
    if c = '\\' then
      let (key, after) := splitKey rest
      (c :: d :: key, after)
    else if isSeparator c || isGap c then ([], c :: d :: rest)
    else
      let (key, after) := splitKey (d :: rest)
      (c :: key, after)

def valueOf (after : WideText) : WideText :=
  match after.dropWhile isGap with
  | [] => []
  | c :: rest => if isSeparator c then rest.dropWhile isGap else c :: rest

def splitEntry (line : WideText) : WideText × WideText :=
  let (key, after) := splitKey line
  (key, valueOf after)

/-! ## Escapes -/

def codePoint? (digits : WideText) : Option CodePoint := do
  let value ← Numeral.parse? 16 digits
  if 0 ≤ value then
    if h : value.toNat < 0x110000 then some ⟨value.toNat, h⟩ else none
  else none

def escapeLetter (c : CodePoint) : CodePoint :=
  if c = 't' then .ofChar '\t'
  else if c = 'n' then .ofChar '\n'
  else if c = 'r' then .ofChar '\r'
  else if c = 'f' then .ofChar '\x0c'
  else c

def unescape : WideText → Except Error WideText
  | [] => .ok []
  | [c] => .ok [c]
  | c :: d :: rest =>
    if c ≠ '\\' then (unescape (d :: rest)).map (c :: ·)
    else if d ≠ 'u' then (unescape rest).map (escapeLetter d :: ·)
    else match rest with
      | x₁ :: x₂ :: x₃ :: x₄ :: rest =>
        match codePoint? [x₁, x₂, x₃, x₄] with
        | some p => (unescape rest).map (p :: ·)
        | none => .error (.badDigits [x₁, x₂, x₃, x₄])
      | short => .error (.shortEscape (c :: d :: short))

/-! ## Documents -/

/-- Keys with their values, each key once, in the order of first appearance. -/
abbrev Entries := List (WideText × WideText)

def Entries.insert (key value : WideText) : Entries → Entries
  | [] => [(key, value)]
  | (k, v) :: entries =>
    if k = key then (k, value) :: entries else (k, v) :: Entries.insert key value entries

def Entries.find? (key : WideText) (entries : Entries) : Option WideText :=
  entries.lookup key

def readEntry (line : WideText) : Except Error (WideText × WideText) := do
  let (key, value) := splitEntry line
  let value ← unescape value
  let key ← unescape key
  return (key, value)

def readLines (entries : Entries) : List WideText → Except Error Entries
  | [] => .ok entries
  | line :: rest => do
    let (key, value) ← readEntry line
    readLines (entries.insert key value) rest

def parse (document : WideText) : Except Error Entries :=
  readLines [] (logicalLines document)

end MaskedPath.Properties
