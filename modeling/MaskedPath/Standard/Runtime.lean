import MaskedPath.Standard.BlockSort
import MaskedPath.Standard.RangeCoded

namespace MaskedPath.Standard

def expandSorted (packed : Bytes) : Except Raised (Bytes × Bool) :=
  match BlockSort.expand packed with
  | some content => .ok content
  | none => .error ⟨["OSError", "Exception"], "Invalid data stream"⟩

def rangeCodedError (message : String) : Raised := ⟨["LZMAError", "Exception"], message⟩

/-- Ahead of range coded data come a version, the length of its options, and these. -/
def expandRangeCoded (packed : Bytes) : Except Raised (Bytes × Bool) :=
  let start := 4 + Archive.field packed 2 2
  if packed.length ≤ start then .ok ([], false)
  else match RangeCoded.options? ((packed.take start).drop 4) with
    | none => .error (rangeCodedError "Invalid or unsupported options")
    | some o =>
      match RangeCoded.expand o (packed.drop start) with
      | some content => .ok content
      | none => .error (rangeCodedError "Corrupt input data")

/-- Every source compiles; the program itself compiles none. -/
scoped instance runtime : Runtime where
  bzip2 := expandSorted
  lzma := expandRangeCoded
  compile _ _ := .ok ()

end MaskedPath.Standard
