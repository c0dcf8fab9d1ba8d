import MaskedPath.Text.Utf8

/-!
# The runtime

What the program takes from the language it is run by and does not define: two methods of
decompression, and the compilation of a module's source. Nothing is assumed of them.
-/

namespace MaskedPath

/-- An exception: its class and those above it, the nearest first, and its text. -/
structure Raised where
  classes : List String
  message : String
deriving DecidableEq, Repr

def Raised.isOneOf (e : Raised) (classes : List String) : Bool := e.classes.any (· ∈ classes)

/-- A decompressor gives the content, and whether the data says that it ends there. -/
class Runtime where
  bzip2 : Bytes → Except Raised (Bytes × Bool)
  lzma : Bytes → Except Raised (Bytes × Bool)
  compile (source : Bytes) (location : Text) : Except Raised Unit

end MaskedPath
