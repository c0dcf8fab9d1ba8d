import MaskedPath.Json.Display
import MaskedPath.Number.Rounded

namespace MaskedPath.Template

/-! ## Pieces -/

inductive Source
  | next
  | member (name : WideText)
  | unclosed
deriving DecidableEq, Repr

inductive Amount
  | absent
  | given (n : Nat)
  | taken
deriving DecidableEq, Repr

structure Flags where
  left : Bool
  sign : Bool
  blank : Bool
  alternate : Bool
  zeros : Bool
deriving DecidableEq, Repr

structure Directive where
  source : Source
  flags : Flags
  width : Amount
  precision : Amount
  conversion : Option CodePoint
  index : Nat
deriving DecidableEq, Repr

inductive Piece
  | literal (c : CodePoint)
  | directive (d : Directive)
deriving DecidableEq, Repr

def closing? (depth : Nat) : WideText → Option (WideText × WideText)
  | [] => none
  | c :: rest =>
    if c = ')' then
      match depth with
      | 0 | 1 => some ([], rest)
      | depth + 1 => (closing? depth rest).map fun p => (c :: p.1, p.2)
    else
      (closing? (if c = '(' then depth + 1 else depth) rest).map fun p => (c :: p.1, p.2)

def takeSource (t : WideText) : Source × WideText :=
  if t.head? = some (.ofChar '(') then
    match closing? 1 (t.drop 1) with
    | some (name, rest) => (.member name, rest)
    | none => (.unclosed, [])
  else (.next, t)

def isFlag (c : CodePoint) : Bool := ['-', '+', ' ', '#', '0'].any fun f => c = .ofChar f

def takeFlags (t : WideText) : Flags × WideText :=
  let given := t.takeWhile isFlag
  let has (f : Char) : Bool := given.contains (.ofChar f)
  (⟨has '-', has '+', has ' ', has '#', has '0'⟩, t.dropWhile isFlag)

def isDigit (c : CodePoint) : Bool := 48 ≤ c.val && c.val ≤ 57

def takeAmount (t : WideText) : Amount × WideText :=
  if t.head? = some (.ofChar '*') then (.taken, t.drop 1)
  else
    let digits := t.takeWhile isDigit
    if digits = [] then (.absent, t)
    else (.given (digits.foldl (fun n c => n * 10 + (c.val - 48)) 0), t.dropWhile isDigit)

def takePrecision (t : WideText) : Amount × WideText :=
  if t.head? = some (.ofChar '.') then
    match takeAmount (t.drop 1) with
    | (.absent, rest) => (.given 0, rest)
    | other => other
  else (.absent, t)

def dropSize (t : WideText) : WideText :=
  if ['h', 'l', 'L'].any fun c => t.head? = some (.ofChar c) then t.drop 1 else t

def takeDirective (index : Nat) (t : WideText) : Directive × Nat :=
  let (source, rest) := takeSource t
  let (flags, rest) := takeFlags rest
  let (width, rest) := takeAmount rest
  let (precision, rest) := takePrecision rest
  let rest := dropSize rest
  let before := t.length - rest.length
  (⟨source, flags, width, precision, rest.head?, index + before⟩, before + 1)

def piecesFrom (index : Nat) : WideText → List Piece
  | [] => []
  | c :: rest =>
    if c ≠ '%' then .literal c :: piecesFrom (index + 1) rest
    else if rest.head? = some (.ofChar '%') then .literal c :: piecesFrom (index + 2) (rest.drop 1)
    else
      let (d, length) := takeDirective (index + 1) rest
      .directive d :: piecesFrom (index + 1 + length) (rest.drop length)
termination_by t => t.length
decreasing_by all_goals simp only [List.length_drop, List.length_cons]; omega

def parse (t : WideText) : List Piece := piecesFrom 0 t

/-! ## Errors -/

inductive Error
  | tooFew
  | tooMany
  | noMembers
  | memberOfList
  | noMember (name : WideText)
  | unclosedName
  | cutShort
  | unknownConversion (c : CodePoint) (index : Nat)
  | amountNotInt
  | widthTooBig
  | precisionTooBig
  | widthOutOfRange
  | precisionOutOfRange
  | notInt (conversion : Char) (kind : String)
  | notReal (conversion : Char) (kind : String)
  | notFloat (kind : String)
  | infinite
  | notANumber
  | intTooLarge
  | notAChar
  | charOutOfRange
deriving DecidableEq, Repr

def Error.message : Error → Text
  | .tooFew => "not enough arguments for format string".toList
  | .tooMany => "not all arguments converted during string formatting".toList
  | .noMembers => "format requires a mapping".toList
  | .memberOfList => "list indices must be integers or slices, not str".toList
  | .noMember name => Quoted.ofWide name
  | .unclosedName => "incomplete format key".toList
  | .cutShort => "incomplete format".toList
  | .unknownConversion c index =>
    let shown := if 31 ≤ c.val ∧ c.val ≤ 126 then Char.ofNat c.val else '?'
    "unsupported format character '".toList ++ shown :: "' (0x".toList ++ Nat.toDigits 16 c.val ++
      ") at index ".toList ++ decimal index
  | .amountNotInt => "* wants int".toList
  | .widthTooBig => "width too big".toList
  | .precisionTooBig => "precision too big".toList
  | .widthOutOfRange => "Python int too large to convert to C ssize_t".toList
  | .precisionOutOfRange => "Python int too large to convert to C int".toList
  | .notInt c kind =>
    ['%', c] ++ " format: an integer is required, not ".toList ++ kind.toList
  | .notReal c kind =>
    ['%', c] ++ " format: a real number is required, not ".toList ++ kind.toList
  | .notFloat kind => "must be real number, not ".toList ++ kind.toList
  | .infinite => "cannot convert float infinity to integer".toList
  | .notANumber => "cannot convert float NaN to integer".toList
  | .intTooLarge => "int too large to convert to float".toList
  | .notAChar => "%c requires int or char".toList
  | .charOutOfRange => "%c arg not in range(0x110000)".toList

/-! ## Arguments -/

/-- The arguments of a template: several, or one value, whose members directives may name. -/
inductive Arguments
  | several (values : List Json)
  | single (value : Json)

/-- The values that directives have yet to take, and the value whose members they may name. -/
structure Supply where
  pending : List Json
  holder : Option Json

def Arguments.supply : Arguments → Supply
  | .several values => ⟨values, none⟩
  | .single value =>
    let holder := match value with
      | .list _ | .object _ => some value
      | _ => none
    ⟨[value], holder⟩

abbrev Take := StateT Supply (Except Error)

def next : Take Json := do
  match (← get).pending with
  | [] => throw .tooFew
  | value :: rest =>
    modify fun s => { s with pending := rest }
    return value

def choose : Source → Take Unit
  | .next => return
  | source => do
    let holder := (← get).holder
    match source, holder with
    | _, none => throw .noMembers
    | .member name, some (.object members) =>
      match members.lookup name with
      | some value => modify fun s => { s with pending := [value] }
      | none => throw (.noMember name)
    | .member _, some _ => throw .memberOfList
    | _, some _ => throw .unclosedName

def intOf? : Json → Option Int
  | .int n => some n
  | .bool b => some (if b then 1 else 0)
  | _ => none

def nextInt : Take Int := do
  match intOf? (← next) with
  | some n => return n
  | none => throw .amountNotInt

def widthBound : Nat := Nat.pow 2 63

def precisionBound : Nat := Nat.pow 2 31

def widthOf : Amount → Take Int
  | .absent => return 0
  | .given n => if n < widthBound then return n else throw .widthTooBig
  | .taken => do
    let n ← nextInt
    if -(widthBound : Int) ≤ n ∧ n < widthBound then return n else throw .widthOutOfRange

def precisionOf : Amount → Take (Option Nat)
  | .absent => return none
  | .given n => if n < precisionBound then return some n else throw .precisionTooBig
  | .taken => do
    let n ← nextInt
    if -(precisionBound : Int) ≤ n ∧ n < precisionBound then return some n.toNat
    else throw .precisionOutOfRange

/-! ## Conversions -/

inductive Converted
  | text (t : WideText)
  | number (negative : Bool) (marker digits : Text)

def upperAscii (t : Text) : Text := t.map Char.toUpper

def asciiOnly (c : Char) : Text :=
  if c.toNat < 0x80 then [c] else Quoted.hexEscape c.toNat

def convertInt (conversion : Char) (flags : Flags) (precision : Option Nat) (n : Int) :
    Converted :=
  let base := match conversion with
    | 'o' => 8
    | 'x' | 'X' => 16
    | _ => 10
  let digits := Binary.padDigits (precision.getD 0) (Nat.toDigits base n.natAbs)
  let marker := if flags.alternate ∧ base ≠ 10 then ['0', conversion] else []
  .number (n < 0) marker (if conversion = 'X' then upperAscii digits else digits)

def intFor (conversion : Char) (value : Json) : Except Error Int :=
  match intOf? value, value with
  | some n, _ => .ok n
  | none, .float x =>
    if conversion = 'd' ∨ conversion = 'i' ∨ conversion = 'u' then
      match Binary.ofFloat? x with
      | some b =>
        let magnitude : Nat := b.mantissa * Nat.pow 2 b.exponent.toNat / Nat.pow 2 (-b.exponent).toNat
        .ok (if b.negative then -(magnitude : Int) else magnitude)
      | none => if x.isNaN then .error .notANumber else .error .infinite
    else .error (.notInt conversion value.kind)
  | none, _ =>
    if conversion = 'd' ∨ conversion = 'i' ∨ conversion = 'u' then
      .error (.notReal conversion value.kind)
    else .error (.notInt conversion value.kind)

def floatFor (value : Json) : Except Error Float :=
  match intOf? value, value with
  | some n, _ =>
    let x := (Decimal.mk n.natAbs 0).toFloat
    if x.isInf then .error .intTooLarge else .ok (if n < 0 then -x else x)
  | none, .float x => .ok x
  | none, _ => .error (.notFloat value.kind)

def floatDigits (conversion : Char) (flags : Flags) (precision : Nat) (b : Binary) : Text :=
  match conversion.toLower with
  | 'e' => b.scientific precision flags.alternate
  | 'f' => b.fixed precision flags.alternate
  | _ => b.general precision flags.alternate

def standardPrecision : Nat := 6

def convertFloat (conversion : Char) (flags : Flags) (precision : Option Nat) (x : Float) :
    Converted :=
  let cased (t : Text) : Text := if conversion.isUpper then upperAscii t else t
  match Binary.ofFloat? x with
  | some b =>
    .number b.negative [] (cased (floatDigits conversion flags (precision.getD standardPrecision) b))
  | none =>
    if x.isNaN then .number false [] (cased "nan".toList)
    else .number (x < 0) [] (cased "inf".toList)

def charFor (value : Json) : Except Error CodePoint :=
  match intOf? value, value with
  | some n, _ =>
    if h : 0 ≤ n ∧ n < 0x110000 then .ok ⟨n.toNat, by omega⟩ else .error .charOutOfRange
  | none, .text [c] => .ok c
  | none, _ => .error .notAChar

def convert (conversion : CodePoint) (index : Nat) (flags : Flags) (precision : Option Nat)
    (value : Json) : Except Error Converted :=
  let cut (t : WideText) : Converted :=
    .text (match precision with
      | some n => t.take n
      | none => t)
  match conversion.toChar? with
  | some 's' => .ok (cut value.display)
  | some 'r' => .ok (cut (wide value.quotedDisplay))
  | some 'a' => .ok (cut (wide (value.quotedDisplay.flatMap asciiOnly)))
  | some 'c' => (charFor value).map fun c => .text [c]
  | some c =>
    if ['d', 'i', 'u', 'o', 'x', 'X'].contains c then
      (intFor c value).map (convertInt c flags precision)
    else if ['e', 'E', 'f', 'F', 'g', 'G'].contains c then
      (floatFor value).map (convertFloat c flags precision)
    else .error (.unknownConversion conversion index)
  | none => .error (.unknownConversion conversion index)

/-! ## Text -/

def layOut (flags : Flags) (width : Int) (converted : Converted) : WideText :=
  let left := flags.left ∨ width < 0
  let fill (length : Nat) (c : Char) : WideText :=
    List.replicate (width.natAbs - length) (.ofChar c)
  match converted with
  | .text t => if left then t ++ fill t.length ' ' else fill t.length ' ' ++ t
  | .number negative marker digits =>
    let sign :=
      if negative then ['-'] else if flags.sign then ['+'] else if flags.blank then [' '] else []
    let front := wide (sign ++ marker)
    let length := front.length + digits.length
    if left then front ++ wide digits ++ fill length ' '
    else if flags.zeros then front ++ fill length '0' ++ wide digits
    else fill length ' ' ++ front ++ wide digits

def renderDirective (d : Directive) : Take WideText := do
  choose d.source
  let width ← widthOf d.width
  let precision ← precisionOf d.precision
  match d.conversion with
  | none => throw .cutShort
  | some c =>
    let value ← next
    return layOut d.flags width (← convert c d.index d.flags precision value)

def renderPieces : List Piece → Take WideText
  | [] => return []
  | .literal c :: pieces => return c :: (← renderPieces pieces)
  | .directive d :: pieces => do
    let front ← renderDirective d
    return front ++ (← renderPieces pieces)

def render (template : WideText) (arguments : Arguments) : Except Error WideText := do
  let (text, supply) ← (renderPieces (parse template)).run arguments.supply
  if supply.pending ≠ [] ∧ supply.holder.isNone then throw .tooMany
  return text

end MaskedPath.Template
