import MaskedPath.Yaml.Token

namespace MaskedPath.Yaml

/-! ## Quoted scalars -/

def escapedBy (c : Char) : Option Char :=
  match c with
  | '0' => some '\x00'
  | 'a' => some '\x07'
  | 'b' => some '\x08'
  | 't' | '\t' => some '\t'
  | 'n' => some '\n'
  | 'v' => some '\x0b'
  | 'f' => some '\x0c'
  | 'r' => some '\r'
  | 'e' => some '\x1b'
  | ' ' => some ' '
  | '"' => some '"'
  | '\\' => some '\\'
  | '/' => some '/'
  | 'N' => some '\x85'
  | '_' => some '\xa0'
  | 'L' => some '\u2028'
  | 'P' => some '\u2029'
  | _ => none

def escapeWidth (c : Char) : Option Nat :=
  match c with
  | 'x' => some 2
  | 'u' => some 4
  | 'U' => some 8
  | _ => none

def escapedCodePoint (digits : Text) : Except Error CodePoint :=
  match Numeral.digits? 16 digits with
  | none => refuse .badEscape
  | some n =>
    if h : n < 0x110000 then .ok ⟨n, h⟩
    else .error (.scalar (if n < Nat.pow 2 31 then .codePoint else .hugeCodePoint))

def readBreaks : Nat → Cursor → Except Error (Text × Cursor)
  | 0, c => .ok ([], c)
  | fuel + 1, c =>
    if c.isSeparator then refuse .openQuote
    else
      let c := c.skipWhile isGap
      match c.lineBreak? with
      | some (b, c) => do
        let (breaks, c) ← readBreaks fuel c
        return (b :: breaks, c)
      | none => .ok ([], c)

def folded (first : Char) (breaks : Text) : Text :=
  if first ≠ '\n' then first :: breaks
  else if breaks = [] then [' ']
  else breaks

def readEscape (c : Cursor) : Except Error (WideText × Cursor) :=
  let c := c.next
  match escapedBy c.head, escapeWidth c.head with
  | some d, _ => .ok ([.ofChar d], c.next)
  | none, some width =>
    let digits := c.next.rest.take width
    if digits.length = width ∧ digits.all (fun d => (Numeral.digit? 16 d).isSome) then do
      let p ← escapedCodePoint digits
      return ([p], c.skip (width + 1))
    else refuse .badEscape
  | none, none =>
    match c.lineBreak? with
    | some (_, c) => do
      let (breaks, c) ← readBreaks (c.rest.length + 1) c
      return (wide breaks, c)
    | none => refuse .badEscape

def readQuoted (quote : Char) : Nat → Cursor → Except Error (WideText × Cursor)
  | 0, _ => refuse .openQuote
  | fuel + 1, c =>
    let continueWith (part : WideText) (c : Cursor) : Except Error (WideText × Cursor) := do
      let (text, c) ← readQuoted quote fuel c
      return (part ++ text, c)
    let d := c.head
    if c.rest = [] then refuse .openQuote
    else if d = quote then
      if quote = '\'' ∧ c.peek 1 = '\'' then continueWith [.ofChar '\''] (c.skip 2)
      else .ok ([], c.next)
    else if d = '\\' ∧ quote = '"' then do
      let (part, c) ← readEscape c
      continueWith part c
    else if isGap d ∨ isBreak d then
      let (gap, after) := c.span isGap
      match after.lineBreak? with
      | some (first, after) => do
        let (breaks, after) ← readBreaks (after.rest.length + 1) after
        continueWith (wide (folded first breaks)) after
      | none => if after.rest = [] then refuse .openQuote else continueWith (wide gap) after
    else continueWith [.ofChar d] c.next

/-! ## Plain scalars -/

def endsPlain (inFlow : Bool) (c d : Char) : Bool :=
  isGapOrEnd c ||
    (c = ':' && (isGapOrEnd d || (inFlow && ",[]\x7b\x7d".toList.contains d))) ||
    (inFlow && ",?[]\x7b\x7d".toList.contains c)

def plainRun (inFlow : Bool) : Text → Text
  | [] => []
  | c :: rest =>
    if endsPlain inFlow c (rest.headD '\x00') then [] else c :: plainRun inFlow rest

def readPlainBreaks : Nat → Cursor → Text × Cursor × Bool
  | 0, c => ([], c, true)
  | fuel + 1, c =>
    let c := c.skipWhile (· = ' ')
    match c.lineBreak? with
    | some (b, c) =>
      if c.isSeparator then ([], c, false)
      else
        let (breaks, c, more) := readPlainBreaks fuel c
        (b :: breaks, c, more)
    | none => ([], c, true)

def readPlainGap (c : Cursor) : Option Text × Cursor × Bool :=
  let (spaces, after) := c.span (· = ' ')
  match after.lineBreak? with
  | some (first, after) =>
    if after.isSeparator then (none, after, true)
    else
      let (breaks, after, more) := readPlainBreaks (after.rest.length + 1) after
      (if more then some (folded first breaks) else none, after, true)
  | none => (if spaces = [] then none else some spaces, after, false)

def readPlain (inFlow : Bool) (indent : Int) : Nat → Cursor → Text × Cursor × Bool
  | 0, c => ([], c, false)
  | fuel + 1, c =>
    let run := plainRun inFlow c.rest
    let (gap, after, broken) := readPlainGap (c.skip run.length)
    match gap with
    | none => (run, after, broken)
    | some gap =>
      if after.head = '#' ∨ (!inFlow ∧ (after.column : Int) < indent) ∨
          plainRun inFlow after.rest = [] then (run, after, broken)
      else
        let (text, after, broken) := readPlain inFlow indent fuel after
        (run ++ gap ++ text, after, broken)

/-! ## Block scalars -/

inductive Chomping
  | strip
  | clip
  | keep
deriving DecidableEq, Repr

def Chomping.ofSign? (c : Char) : Option Chomping :=
  if c = '+' then some .keep else if c = '-' then some .strip else none

def readHeader (c : Cursor) : Except Error ((Chomping × Option Nat) × Cursor) := do
  let digit? (c : Cursor) : Option Nat := Numeral.digit? 10 c.head
  let (chomping, increment, c) :=
    match Chomping.ofSign? c.head, digit? c with
    | some s, _ =>
      match digit? c.next with
      | some n => (s, some n, c.skip 2)
      | none => (s, none, c.next)
    | none, some n =>
      match Chomping.ofSign? c.next.head with
      | some s => (s, some n, c.skip 2)
      | none => (.clip, some n, c.next)
    | none, none => (.clip, none, c)
  if increment = some 0 ∨ !isSpaceOrEnd c.head then refuse .badHeader
  else return ((chomping, increment), c)

def readLeadingBreaks : Nat → Nat → Cursor → Text × Nat × Cursor
  | 0, deepest, c => ([], deepest, c)
  | fuel + 1, deepest, c =>
    let c := c.skipWhile (· = ' ')
    let deepest := max deepest c.column
    match c.lineBreak? with
    | some (b, c) =>
      let (breaks, deepest, c) := readLeadingBreaks fuel deepest c
      (b :: breaks, deepest, c)
    | none => ([], deepest, c)

def skipIndent (c : Cursor) (indent : Nat) : Cursor :=
  c.skip (min ((c.rest.takeWhile (· = ' ')).length) (indent - c.column))

def readBlockBreaks (indent : Nat) : Nat → Cursor → Text × Cursor
  | 0, c => ([], c)
  | fuel + 1, c =>
    let c := skipIndent c indent
    match c.lineBreak? with
    | some (b, c) =>
      let (breaks, c) := readBlockBreaks indent fuel c
      (b :: breaks, c)
    | none => ([], c)

def readBlockLines (folds : Bool) (indent : Nat) :
    Nat → Text → Text → Cursor → Text × Text × Text × Cursor
  | 0, last, before, c => ([], last, before, c)
  | fuel + 1, last, before, c =>
    if c.column = indent ∧ c.rest ≠ [] then
      let startsFull := !isGap c.head
      let (line, after) := c.span (!isLineEnd ·)
      let (last, after) := match after.lineBreak? with
        | some (b, after) => ([b], after)
        | none => ([], after)
      let (breaks, after) := readBlockBreaks indent (after.rest.length + 1) after
      if after.column = indent ∧ after.rest ≠ [] then
        let between :=
          if folds ∧ last = ['\n'] ∧ startsFull ∧ !isGap after.head then
            if breaks = [] then [' '] else []
          else last
        let (text, last, breaks, after) := readBlockLines folds indent fuel last breaks after
        (before ++ line ++ between ++ text, last, breaks, after)
      else (before ++ line, last, breaks, after)
    else ([], last, before, c)

def readBlock (folds : Bool) (indent : Int) (c : Cursor) : Except Error (Text × Cursor) := do
  let ((chomping, increment), c) ← readHeader c.next
  let c := c.skipComment
  if !isLineEnd c.head then refuse .badHeader
  else
    let c := c.skipBreak
    let least := (max (indent + 1) 1).toNat
    let fuel := c.rest.length + 1
    let (breaks, column, c) := match increment with
      | none =>
        let (breaks, deepest, c) := readLeadingBreaks fuel 0 c
        (breaks, max least deepest, c)
      | some n =>
        let column := least + n - 1
        let (breaks, c) := readBlockBreaks column fuel c
        (breaks, column, c)
    let (text, last, breaks, c) := readBlockLines folds column fuel [] breaks c
    let tail := match chomping with
      | .strip => []
      | .clip => last
      | .keep => last ++ breaks
    return (text ++ tail, c)

end MaskedPath.Yaml
