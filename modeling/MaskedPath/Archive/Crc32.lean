import MaskedPath.Text.Utf8

namespace MaskedPath.Crc32

def polynomial : UInt32 := 0xedb88320

def shiftBit (r : UInt32) : UInt32 :=
  if r &&& 1 = 1 then (r >>> 1) ^^^ polynomial else r >>> 1

def addByte (r : UInt32) (b : UInt8) : UInt32 :=
  let r := r ^^^ b.toUInt32
  shiftBit (shiftBit (shiftBit (shiftBit (shiftBit (shiftBit (shiftBit (shiftBit r)))))))

def ofBytes (bytes : Bytes) : UInt32 := bytes.foldl addByte 0xffffffff ^^^ 0xffffffff

end MaskedPath.Crc32
