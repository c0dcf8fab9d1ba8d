import MaskedPath.Runtime

namespace MaskedPath

/-- The settings of a masking resolver. A capacity of zero stands for no bound. -/
structure Settings where
  searchPath : List Text
  nameMasks : List Text
  maskFiles : List Text
  libraryMasks : List Text
  capacity : Nat
deriving DecidableEq, Repr

namespace Settings

def standard : Settings := ⟨[], [], [], [], 1024⟩

/-- A parser of documents in UTF-8 files and a validation of named objects. An object may count as true,
be a mapping with its entries, and be a text. Fields that are not named have their defaults. -/
class Reader where
  Object : Type
  load : Bytes → Except Raised Object
  isTrue : Object → Bool
  entries? : Object → Option (List (Object × Object))
  text? : Object → Option WideText
  validate : List (WideText × Object) → Except Raised Settings
  validate_nil : validate [] = .ok standard

end Settings

end MaskedPath
