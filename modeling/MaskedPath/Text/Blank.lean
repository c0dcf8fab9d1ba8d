import MaskedPath.Text.Basic

namespace MaskedPath

def isBlank (n : Nat) : Bool :=
  (0x9 ≤ n && n ≤ 0xd) || (0x1c ≤ n && n ≤ 0x20) || n == 0x85 || n == 0xa0 || n == 0x1680 ||
    (0x2000 ≤ n && n ≤ 0x200a) || n == 0x2028 || n == 0x2029 || n == 0x202f || n == 0x205f ||
    n == 0x3000

def strip (t : Text) : Text := trimBoth (fun c => isBlank c.toNat) t

def stripWide (w : WideText) : WideText := trimBoth (fun c => isBlank c.val) w

end MaskedPath
