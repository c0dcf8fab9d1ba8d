import MaskedPath.Cache.Policy
import MaskedPath.Library

/-!
# Caches of attributions

A cache maps keys to libraries, the least recently used key first if its policy bounds it, else in
the order of insertion. What is not in the cache is computed and stored; a computation may fail, and
then nothing changes, or find nothing, which is stored but never served.
-/

namespace MaskedPath

structure Cache where
  policy : Policy
  entries : List (Text × Option Library)
deriving DecidableEq

namespace Cache

def empty (policy : Policy) : Cache := ⟨policy, []⟩

instance : Inhabited Cache := ⟨empty default⟩

def keys (c : Cache) : List Text := c.entries.map (·.1)

def size (c : Cache) : Nat := c.entries.length

def contains (c : Cache) (key : Text) : Bool := c.keys.contains key

def stored? (c : Cache) (key : Text) : Option Library := (c.entries.lookup key).join

def without (key : Text) (entries : List (Text × Option Library)) :
    List (Text × Option Library) :=
  entries.filter (·.1 ≠ key)

def setEntry (key : Text) (value : Option Library) :
    List (Text × Option Library) → List (Text × Option Library)
  | [] => [(key, value)]
  | (k, v) :: rest => if k = key then (k, value) :: rest else (k, v) :: setEntry key value rest

def touch (c : Cache) (key : Text) : Cache :=
  match c.policy with
  | .keepAll => c
  | .keepRecent _ _ =>
    { c with entries := without key c.entries ++ c.entries.filter (·.1 = key) }

def excess (policy : Policy) (entries : List (Text × Option Library)) : Nat :=
  match policy with
  | .keepAll => 0
  | .keepRecent capacity _ => entries.length - capacity

def stored (c : Cache) (key : Text) (value : Option Library) : List (Text × Option Library) :=
  match c.policy with
  | .keepAll => setEntry key value c.entries
  | .keepRecent _ _ => without key c.entries ++ [(key, value)]

def evictedBy (c : Cache) (key : Text) (value : Option Library) : Nat :=
  excess c.policy (c.stored key value)

/-- The cache with `key` stored; the entries used least recently give way. -/
def insert (c : Cache) (key : Text) (value : Option Library) : Cache :=
  { c with entries := (c.stored key value).drop (c.evictedBy key value) }

/-- The library for a key, from the cache or computed. -/
def getOrCompute {ε : Type} (c : Cache) (compute : Text → Except ε (Option Library)) (key : Text) :
    Except ε (Option Library) × Cache :=
  match c.stored? key with
  | some library => (.ok (some library), c.touch key)
  | none =>
    match compute key with
    | .ok value => (.ok value, c.insert key value)
    | .error e => (.error e, c)

def evict (c : Cache) (key : Text) : Bool × Cache :=
  ((c.stored? key).isSome, { c with entries := without key c.entries })

def clear (c : Cache) : Cache := empty c.policy

def render (c : Cache) : Text :=
  "AttributionCache(".toList ++ decimal c.size ++ " entries, ".toList ++ c.policy.render ++ [')']

end Cache

end MaskedPath
