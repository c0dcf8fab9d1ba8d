import MaskedPath.Text.Printable
import MaskedPath.Text.Decoding

namespace MaskedPath.Quoted

def quoteFor (hasSingle hasDouble : Bool) : Char :=
  if hasSingle && !hasDouble then '"' else '\''

def hexEscape (n : Nat) : Text :=
  if n < 0x100 then '\\' :: 'x' :: hexPadded 2 n
  else if n < 0x10000 then '\\' :: 'u' :: hexPadded 4 n
  else '\\' :: 'U' :: hexPadded 8 n

def escaped (quote : Char) (c : CodePoint) : Text :=
  if c = quote ∨ c = '\\' then ['\\', Char.ofNat c.val]
  else if c = '\t' then ['\\', 't']
  else if c = '\n' then ['\\', 'n']
  else if c = '\r' then ['\\', 'r']
  else match c.toChar? with
    | some d => if isPrintable c.val then [d] else hexEscape c.val
    | none => hexEscape c.val

def ofWide (w : WideText) : Text :=
  let quote := quoteFor (w.contains (.ofChar '\'')) (w.contains (.ofChar '"'))
  quote :: w.flatMap (escaped quote) ++ [quote]

def ofText (t : Text) : Text := ofWide (wide t)

def escapedByte (quote : Char) (b : UInt8) : Text :=
  if b.toNat < 0x80 then escaped quote (.ofByte b) else hexEscape b.toNat

def ofBytes (bytes : Bytes) : Text :=
  let quote := quoteFor (bytes.contains 0x27) (bytes.contains 0x22)
  'b' :: quote :: bytes.flatMap (escapedByte quote) ++ [quote]

def listOf (items : List WideText) : Text :=
  '[' :: joinWith [',', ' '] (items.map ofWide) ++ [']']

end MaskedPath.Quoted
