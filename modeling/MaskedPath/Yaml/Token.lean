import MaskedPath.Text.Numeral
import MaskedPath.Yaml.Cursor

namespace MaskedPath.Yaml

structure TagText where
  handle : Option Text
  suffix : Text
deriving DecidableEq, Repr

inductive Directive
  | version (major minor : Nat)
  | handle (handle front : Text)
  | other
deriving DecidableEq, Repr

inductive Token
  | directive (d : Directive)
  | documentStart
  | documentEnd
  | streamEnd
  | sequenceStart
  | mappingStart
  | blockEnd
  | flowSequenceStart
  | flowSequenceEnd
  | flowMappingStart
  | flowMappingEnd
  | blockEntry
  | flowEntry
  | key
  | value
  | alias (name : Text)
  | anchor (name : Text)
  | tag (t : TagText)
  | scalar (plain : Bool) (text : WideText)
deriving DecidableEq, Repr

def longestNumeral : Nat := 4300

def refuse {α : Type} (f : Fault) : Except Error α := .error (.fault f)

def isNameChar (c : Char) : Bool := c.isAlphanum || c = '-' || c = '_'

/-! ## Anchors -/

def endsAnchor (c : Char) : Bool := isGapOrEnd c || "?:,]\x7d%@".toList.contains c || c.toNat = 0x60

def readAnchor (c : Cursor) : Except Error (Text × Cursor) :=
  let (name, c) := c.next.span isNameChar
  if name = [] ∨ !endsAnchor c.head then refuse .badAnchor else .ok (name, c)

/-! ## Tags -/

def isSuffixChar (c : Char) : Bool := c.isAlphanum || "-;/?:@&=+$,_.!~*'()[]".toList.contains c

def readEscapes : Nat → Cursor → Except Error (Bytes × Cursor)
  | 0, c => .ok ([], c)
  | fuel + 1, c =>
    match c.rest with
    | '%' :: a :: b :: _ =>
      match Numeral.digit? 16 a, Numeral.digit? 16 b with
      | some high, some low => do
        let (bytes, c) ← readEscapes fuel (c.skip 3)
        return (UInt8.ofNat (high * 16 + low) :: bytes, c)
      | _, _ => refuse .badTag
    | '%' :: _ => refuse .badTag
    | _ => .ok ([], c)

def readSuffixParts : Nat → Cursor → Except Error (Text × Cursor)
  | 0, c => .ok ([], c)
  | fuel + 1, c =>
    let (plain, c) := c.span isSuffixChar
    if c.head = '%' then do
      let (bytes, c) ← readEscapes (fuel + 1) c
      match Utf8.decode bytes with
      | .error _ => refuse .badTag
      | .ok t =>
        let (rest, c) ← readSuffixParts fuel c
        return (plain ++ t ++ rest, c)
    else .ok (plain, c)

def readSuffix (c : Cursor) : Except Error (Text × Cursor) := do
  if isSuffixChar c.head ∨ c.head = '%' then readSuffixParts (c.rest.length + 1) c
  else refuse .badTag

def readHandle (c : Cursor) : Except Error (Text × Cursor) :=
  if c.head ≠ '!' then refuse .badTag
  else
    let after := c.next
    if after.head = ' ' then .ok (['!'], after)
    else
      let (name, c) := after.span isNameChar
      if c.head = '!' then .ok ('!' :: name ++ ['!'], c.next) else refuse .badTag

def hasHandle (c : Cursor) : Bool :=
  (c.next.rest.takeWhile (!isSpaceOrEnd ·)).contains '!'

def readTagText (c : Cursor) : Except Error (TagText × Cursor) := do
  if c.peek 1 = '<' then
    let (suffix, c) ← readSuffix (c.skip 2)
    if c.head = '>' then return (⟨none, suffix⟩, c.next) else refuse .badTag
  else if isGapOrEnd (c.peek 1) then return (⟨none, ['!']⟩, c.next)
  else if hasHandle c then
    let (handle, c) ← readHandle c
    let (suffix, c) ← readSuffix c
    return (⟨some handle, suffix⟩, c)
  else
    let (suffix, c) ← readSuffix c.next
    return (⟨some ['!'], suffix⟩, c)

def readTag (c : Cursor) : Except Error (TagText × Cursor) := do
  let (tag, c) ← readTagText c
  if isSpaceOrEnd c.head then return (tag, c) else refuse .badTag

/-! ## Directives -/

def readVersionNumber (c : Cursor) : Except Error (Nat × Cursor) :=
  let (digits, c) := c.span Char.isDigit
  match Numeral.digits? 10 digits with
  | some n =>
    if longestNumeral < digits.length then .error (.scalar (.longNumeral digits.length))
    else .ok (n, c)
  | none => refuse .badDirective

def readVersion (c : Cursor) : Except Error (Directive × Cursor) := do
  let (major, c) ← readVersionNumber (c.skipWhile (· = ' '))
  if c.head ≠ '.' then refuse .badDirective
  else
    let (minor, c) ← readVersionNumber c.next
    if isSpaceOrEnd c.head then return (.version major minor, c) else refuse .badDirective

def readHandleDirective (c : Cursor) : Except Error (Directive × Cursor) := do
  let (handle, c) ← readHandle (c.skipWhile (· = ' '))
  if c.head ≠ ' ' then refuse .badDirective
  else
    let (front, c) ← readSuffix (c.skipWhile (· = ' '))
    if isSpaceOrEnd c.head then return (.handle handle front, c) else refuse .badDirective

def readDirective (c : Cursor) : Except Error (Directive × Cursor) := do
  let (name, c) := c.next.span isNameChar
  if name = [] ∨ !isSpaceOrEnd c.head then refuse .badDirective
  else
    let (directive, c) ←
      if name = "YAML".toList then readVersion c
      else if name = "TAG".toList then readHandleDirective c
      else pure (.other, c.skipWhile (!isLineEnd ·))
    let c := c.skipComment
    if isLineEnd c.head then return (directive, c.skipBreak) else refuse .badDirective

end MaskedPath.Yaml
