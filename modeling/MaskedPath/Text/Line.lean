import MaskedPath.Text.Basic

namespace MaskedPath

def isLineBoundary (n : Nat) : Bool :=
  (0xa ≤ n && n ≤ 0xd) || (0x1c ≤ n && n ≤ 0x1e) || n == 0x85 || n == 0x2028 || n == 0x2029

def lines : WideText → List WideText
  | [] => []
  | [c] => if isLineBoundary c.val then [[]] else [[c]]
  | c :: d :: rest =>
    if c = '\r' ∧ d = '\n' then [] :: lines rest
    else if isLineBoundary c.val then [] :: lines (d :: rest)
    else match lines (d :: rest) with
      | [] => [[c]]
      | line :: more => (c :: line) :: more

end MaskedPath
