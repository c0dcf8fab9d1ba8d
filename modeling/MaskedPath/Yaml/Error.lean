import MaskedPath.Text.Quoted

namespace MaskedPath.Yaml

inductive Fault
  | notPrintable
  | noToken
  | missingColon
  | misplacedEntry
  | misplacedKey
  | misplacedValue
  | badDirective
  | badAnchor
  | badTag
  | badHeader
  | badEscape
  | openQuote
  | noContent
  | openCollection
  | missingDocument
  | secondDocument
  | unknownHandle
  | unknownAnchor
  | repeatedAnchor
  | unknownTag
  | wrongContent
  | unhashableKey
  | badMerge
  | notBase64
deriving DecidableEq, Repr

def Fault.text : Fault → String
  | .notPrintable => "a character is not allowed"
  | .noToken => "a character cannot start a token"
  | .missingColon => "a key has no colon"
  | .misplacedEntry => "a sequence entry is not allowed here"
  | .misplacedKey => "a mapping key is not allowed here"
  | .misplacedValue => "a mapping value is not allowed here"
  | .badDirective => "a directive is malformed"
  | .badAnchor => "an anchor is malformed"
  | .badTag => "a tag is malformed"
  | .badHeader => "the header of a block scalar is malformed"
  | .badEscape => "an escape is malformed"
  | .openQuote => "a quoted scalar does not end"
  | .noContent => "a node has no content"
  | .openCollection => "a collection does not end"
  | .missingDocument => "a document does not start"
  | .secondDocument => "there is a second document"
  | .unknownHandle => "a tag handle is unknown"
  | .unknownAnchor => "an alias has no anchor"
  | .repeatedAnchor => "an anchor is repeated"
  | .unknownTag => "a tag is unknown"
  | .wrongContent => "a node has the wrong content for its tag"
  | .unhashableKey => "a key is a collection"
  | .badMerge => "what is merged is no mapping"
  | .notBase64 => "binary data is malformed"

inductive TimeUnit
  | month
  | hour
  | minute
  | second
deriving DecidableEq, Repr

def TimeUnit.text : TimeUnit → String
  | .month => "month must be in 1..12"
  | .hour => "hour must be in 0..23"
  | .minute => "minute must be in 0..59"
  | .second => "second must be in 0..59"

inductive ScalarError
  | codePoint
  | hugeCodePoint
  | emptyNumeral
  | badNumeral (base : Nat) (text : WideText)
  | longNumeral (digits : Nat)
  | badDecimal (text : WideText)
  | unknownWord (text : WideText)
  | year (n : Nat)
  | unit (u : TimeUnit)
  | day
  | offset (days seconds : Int)
  | notATimestamp
  | timestampOfMapping
  | endlessText
deriving DecidableEq, Repr

def shownLength : Nat := 200

def spanText (days seconds : Int) : Text :=
  let part (name : String) (n : Int) : List Text :=
    if n = 0 then [] else [name.toList ++ decimalInt n]
  match part "days=" days ++ part "seconds=" seconds with
  | [] => ['0']
  | parts => joinWith [',', ' '] parts

def ScalarError.message : ScalarError → Text
  | .codePoint => "chr() arg not in range(0x110000)".toList
  | .hugeCodePoint => "Python int too large to convert to C int".toList
  | .emptyNumeral => "string index out of range".toList
  | .badNumeral base t =>
    "invalid literal for int() with base ".toList ++ decimal base ++ [':', ' '] ++
      (Quoted.ofWide t).take shownLength
  | .longNumeral n =>
    "Exceeds the limit (4300 digits) for integer string conversion: value has ".toList ++
      decimal n ++ " digits; use sys.set_int_max_str_digits() to increase the limit".toList
  | .badDecimal t => "could not convert string to float: ".toList ++ Quoted.ofWide t
  | .unknownWord t => Quoted.ofWide t
  | .year n => "year ".toList ++ decimal n ++ " is out of range".toList
  | .unit u => u.text.toList
  | .day => "day is out of range for month".toList
  | .offset days seconds =>
    "offset must be a timedelta strictly between -timedelta(hours=24) and timedelta(hours=24), ".toList
      ++ "not datetime.timedelta(".toList ++ spanText days seconds ++ [')', '.']
  | .notATimestamp => "'NoneType' object has no attribute 'groupdict'".toList
  | .timestampOfMapping => "expected string or bytes-like object, got 'list'".toList
  | .endlessText => "maximum recursion depth exceeded".toList

inductive Error
  | fault (f : Fault)
  | scalar (e : ScalarError)
deriving DecidableEq, Repr

end MaskedPath.Yaml
