import MaskedPath.Failure

namespace MaskedPath

inductive Policy
  | keepAll
  | keepRecent (capacity : Nat) (pos : 0 < capacity)
deriving DecidableEq

namespace Policy

def defaultCapacity : Nat := 1024

def standard : Policy := .keepRecent defaultCapacity (by decide)

instance : Inhabited Policy := ⟨standard⟩

def recent (capacity : Int) : Except Failure Policy :=
  if h : 0 < capacity.toNat then .ok (.keepRecent capacity.toNat h)
  else .error (.badCapacity capacity)

def render : Policy → Text
  | .keepAll => "NoEviction()".toList
  | .keepRecent capacity _ => "LruEviction(max_entries=".toList ++ decimal capacity ++ [')']

end Policy

end MaskedPath
