import MaskedPath.Text.Utf8

namespace MaskedPath

inductive Encoding
  | latin1
  | utf8
  | ascii
deriving DecidableEq, Repr

inductive DecodingError
  | notUtf8 (e : Utf8.Error)
  | notAscii (byte : UInt8) (position : Nat)
deriving DecidableEq, Repr

def Utf8.Fault.text : Utf8.Fault → String
  | .invalidStart => "invalid start byte"
  | .invalidContinuation => "invalid continuation byte"
  | .unexpectedEnd => "unexpected end of data"

def hexByte (b : UInt8) : Text := hexPadded 2 b.toNat

def Utf8.Error.place (e : Utf8.Error) : String :=
  match e.bytes with
  | [b] => "byte 0x" ++ String.ofList (hexByte b) ++ " in position " ++ toString e.position
  | bytes => "bytes in position " ++ toString e.position ++ "-" ++
      toString (e.position + bytes.length - 1)

def DecodingError.message : DecodingError → String
  | .notUtf8 e => "'utf-8' codec can't decode " ++ e.place ++ ": " ++ e.fault.text
  | .notAscii b n => "'ascii' codec can't decode byte 0x" ++ String.ofList (hexByte b) ++
      " in position " ++ toString n ++ ": ordinal not in range(128)"

def decodeAsciiAt (position : Nat) : Bytes → Except DecodingError WideText
  | [] => .ok []
  | b :: rest =>
    if b < 0x80 then (decodeAsciiAt (position + 1) rest).map (.ofByte b :: ·)
    else .error (.notAscii b position)

def decodeText : Encoding → Bytes → Except DecodingError WideText
  | .latin1, bytes => .ok (bytes.map .ofByte)
  | .utf8, bytes => (Utf8.decode bytes).map wide |>.mapError .notUtf8
  | .ascii, bytes => decodeAsciiAt 0 bytes

end MaskedPath
