import MaskedPath.Yaml.Scalar

/-!
# From text to tokens

The lexer turns indentation into tokens and finds the keys of mappings. A key without a question mark
is known as one only at its colon, so the lexer remembers where a key may have begun, one place for
each level of brackets; the colon must follow on the same line, within 1024 characters.
-/

namespace MaskedPath.Yaml

/-- A place where a key may have begun: the number of tokens before it, its cursor, and whether it must
be a key because of its indentation. -/
structure KeyPlace where
  position : Nat
  cursor : Cursor
  required : Bool
deriving DecidableEq, Repr

structure Lexer where
  cursor : Cursor
  tokens : List Token
  indent : Int
  outer : List Int
  depth : Nat
  mayStartKey : Bool
  keys : List (Nat × KeyPlace)
deriving Repr

def keyLength : Nat := 1024

namespace Lexer

def start (document : Text) : Lexer := ⟨.start document, [], -1, [], 0, true, []⟩

def inFlow (l : Lexer) : Bool := l.depth ≠ 0

def push (l : Lexer) (t : Token) : Lexer := { l with tokens := l.tokens ++ [t] }

/-! ## Keys -/

def forgetKey (l : Lexer) : Except Error Lexer :=
  match l.keys.lookup l.depth with
  | none => .ok l
  | some key =>
    if key.required then refuse .missingColon
    else .ok { l with keys := l.keys.filter (·.1 ≠ l.depth) }

def isStale (l : Lexer) (key : KeyPlace) : Bool :=
  key.cursor.line ≠ l.cursor.line || keyLength < l.cursor.index - key.cursor.index

def forgetStaleKeys (l : Lexer) : Except Error Lexer :=
  if l.keys.any fun k => l.isStale k.2 && k.2.required then refuse .missingColon
  else .ok { l with keys := l.keys.filter fun k => !l.isStale k.2 }

def saveKey (l : Lexer) : Except Error Lexer :=
  if l.mayStartKey then do
    let required := !l.inFlow && l.indent = l.cursor.column
    let l ← l.forgetKey
    return { l with keys := (l.depth, ⟨l.tokens.length, l.cursor, required⟩) :: l.keys }
  else .ok l

/-! ## Indentation -/

def unwindBlocks (column : Int) : List Int → Int → List Token → Int × List Int × List Token
  | [], indent, tokens => (indent, [], tokens)
  | next :: outer, indent, tokens =>
    if column < indent then unwindBlocks column outer next (tokens ++ [.blockEnd])
    else (indent, next :: outer, tokens)

def unwind (l : Lexer) (column : Int) : Lexer :=
  if l.inFlow then l
  else
    let (indent, outer, tokens) := unwindBlocks column l.outer l.indent l.tokens
    { l with indent := indent, outer := outer, tokens := tokens }

def indentTo (l : Lexer) (column : Nat) (position : Nat) (t : Token) : Lexer :=
  if l.indent < column then
    { l with
      outer := l.indent :: l.outer, indent := column, tokens := l.tokens.insertIdx position t }
  else l

/-! ## Tokens -/

def skipGaps : Nat → Lexer → Lexer
  | 0, l => l
  | fuel + 1, l =>
    let c := l.cursor.skipComment
    match c.lineBreak? with
    | some (_, c) => skipGaps fuel { l with cursor := c, mayStartKey := l.mayStartKey || !l.inFlow }
    | none => { l with cursor := c }

def toToken (l : Lexer) : Lexer :=
  let c := l.cursor
  let c := if c.index = 0 ∧ c.head = byteOrderMark then c.next else c
  skipGaps (c.rest.length + 1) { l with cursor := c }

def take (l : Lexer) (t : Token) (length : Nat) : Lexer :=
  { l.push t with cursor := l.cursor.skip length }

def atEnd (l : Lexer) : Except Error Lexer := do
  let l ← (l.unwind (-1)).forgetKey
  return { l.push .streamEnd with mayStartKey := false, keys := [] }

def atDirective (l : Lexer) : Except Error Lexer := do
  let l ← (l.unwind (-1)).forgetKey
  let (d, c) ← readDirective l.cursor
  return { l.push (.directive d) with cursor := c, mayStartKey := false }

def atSeparator (l : Lexer) (t : Token) : Except Error Lexer := do
  let l ← (l.unwind (-1)).forgetKey
  return { l.take t 3 with mayStartKey := false }

def atOpening (l : Lexer) (t : Token) : Except Error Lexer := do
  let l ← l.saveKey
  return { l.take t 1 with depth := l.depth + 1, mayStartKey := true }

def atClosing (l : Lexer) (t : Token) : Except Error Lexer := do
  let l ← l.forgetKey
  return { l.take t 1 with depth := l.depth - 1, mayStartKey := false }

def atComma (l : Lexer) : Except Error Lexer := do
  let l ← l.forgetKey
  return { l.take .flowEntry 1 with mayStartKey := true }

def atIndicator (l : Lexer) (opening t : Token) (misplaced : Fault) : Except Error Lexer := do
  if l.inFlow then (← l.forgetKey).take t 1 |> pure
  else if l.mayStartKey then
    let l ← (l.indentTo l.cursor.column l.tokens.length opening).forgetKey
    return l.take t 1
  else refuse misplaced

def atEntry (l : Lexer) : Except Error Lexer := do
  let l ← l.atIndicator .sequenceStart .blockEntry .misplacedEntry
  return { l with mayStartKey := true }

def atKey (l : Lexer) : Except Error Lexer := do
  let l ← l.atIndicator .mappingStart .key .misplacedKey
  return { l with mayStartKey := !l.inFlow }

def atValue (l : Lexer) : Except Error Lexer := do
  match l.keys.lookup l.depth with
  | some key =>
    let l := { l with
      keys := l.keys.filter (·.1 ≠ l.depth), tokens := l.tokens.insertIdx key.position .key }
    let l := if l.inFlow then l else l.indentTo key.cursor.column key.position .mappingStart
    return { l.take .value 1 with mayStartKey := false }
  | none =>
    let l ← l.atIndicator .mappingStart .value .misplacedValue
    return { l with mayStartKey := !l.inFlow }

def atNode (l : Lexer) (read : Cursor → Except Error (Token × Cursor)) : Except Error Lexer := do
  let l ← l.saveKey
  let (t, c) ← read l.cursor
  return { l.push t with cursor := c, mayStartKey := false }

def readNamed (token : Text → Token) (c : Cursor) : Except Error (Token × Cursor) := do
  let (name, c) ← readAnchor c
  return (token name, c)

def readTagToken (c : Cursor) : Except Error (Token × Cursor) := do
  let (t, c) ← readTag c
  return (.tag t, c)

def readQuotedToken (quote : Char) (c : Cursor) : Except Error (Token × Cursor) := do
  let (text, c) ← readQuoted quote (c.rest.length + 1) c.next
  return (.scalar false text, c)

def atPlain (l : Lexer) : Except Error Lexer := do
  let l ← l.saveKey
  let (text, c, broken) := readPlain l.inFlow (l.indent + 1) (l.cursor.rest.length + 1) l.cursor
  return { l.push (.scalar true (wide text)) with cursor := c, mayStartKey := broken }

def atBlock (l : Lexer) (folds : Bool) : Except Error Lexer := do
  let l ← l.forgetKey
  let (text, c) ← readBlock folds l.indent l.cursor
  return { l.push (.scalar false (wide text)) with cursor := c, mayStartKey := true }

def isIndicator (c : Char) : Bool :=
  isGapOrEnd c || "-?:,[]\x7b\x7d#&*!|>'\"%@".toList.contains c || c.toNat = 0x60

def startsPlain (l : Lexer) : Bool :=
  let d := l.cursor.head
  !isIndicator d || (!isGapOrEnd (l.cursor.peek 1) && (d = '-' || (!l.inFlow && (d = '?' || d = ':'))))

def readToken (l : Lexer) : Except Error Lexer :=
  let c := l.cursor
  let followed := isGapOrEnd (c.peek 1)
  let atFront := c.column = 0
  match c.head with
  | '[' => l.atOpening .flowSequenceStart
  | '\x7b' => l.atOpening .flowMappingStart
  | ']' => l.atClosing .flowSequenceEnd
  | '\x7d' => l.atClosing .flowMappingEnd
  | ',' => l.atComma
  | '*' => l.atNode (readNamed .alias)
  | '&' => l.atNode (readNamed .anchor)
  | '!' => l.atNode readTagToken
  | '\'' => l.atNode (readQuotedToken '\'')
  | '"' => l.atNode (readQuotedToken '"')
  | d =>
    if d = '%' ∧ atFront then l.atDirective
    else if d = '-' ∧ atFront ∧ c.isMarker '-' then l.atSeparator .documentStart
    else if d = '.' ∧ atFront ∧ c.isMarker '.' then l.atSeparator .documentEnd
    else if d = '-' ∧ followed then l.atEntry
    else if d = '?' ∧ (l.inFlow ∨ followed) then l.atKey
    else if d = ':' ∧ (l.inFlow ∨ followed) then l.atValue
    else if d = '|' ∧ !l.inFlow then l.atBlock false
    else if d = '>' ∧ !l.inFlow then l.atBlock true
    else if l.startsPlain then l.atPlain
    else refuse .noToken

/-- The tokens before the first one that may still turn out to begin a key. -/
def settled (l : Lexer) : List Token :=
  match ((l.keys.filter fun k => !l.isStale k.2).map fun k => k.2.position).min? with
  | some position => l.tokens.take position
  | none => l.tokens

def run : Nat → Lexer → List Token × Option Error
  | 0, l => (l.tokens, none)
  | fuel + 1, l =>
    let known := l.settled
    match l.toToken.forgetStaleKeys with
    | .error e => (known, some e)
    | .ok l =>
      let l := l.unwind l.cursor.column
      if l.cursor.rest = [] then
        match l.atEnd with
        | .ok l => (l.tokens, none)
        | .error e => (known, some e)
      else match l.readToken with
        | .ok l => run fuel l
        | .error e => (known, some e)

end Lexer

def tokensOf (document : Text) : List Token × Option Error :=
  if document.all isAllowed then (Lexer.start document).run (document.length + 1)
  else ([], some (.fault .notPrintable))

end MaskedPath.Yaml
