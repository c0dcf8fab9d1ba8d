import MaskedPath.Cache.Trace
import MaskedPath.MaskList
import MaskedPath.Registry

namespace MaskedPath

structure Module where
  name : Text
  location : Location
  source : Bytes
  isPackage : Bool
  finalized : Bool
deriving DecidableEq, Repr

/-- Answers that never change. -/
structure Answers where
  locate : Text → Except Failure (Option Location)
  enumerate : Text → Except Failure (List Location)
  resolve : Text → Bool → Except Failure (Option Module)

inductive Resolver
  | nowhere
  | fixed (id : Nat) (answers : Answers)
  | search (entries : List Path) (parent : Resolver)
  | masking (id : Nat) (parent : Resolver)

inductive Origin
  | masked
  | notMasked
  | indeterminate
deriving DecidableEq, Repr

def Origin.name : Origin → String
  | .masked => "masked"
  | .notMasked => "not_masked"
  | .indeterminate => "indeterminate"

inductive Attributor
  | identifier (i : Identifier)
  | given (answer : Text → Except Failure (Option Library))

def Attributor.run [Runtime] (fs : FileSystem) (key : Text) :
    Attributor → Except Failure (Option Library × Option Event)
  | .identifier i => (i.attributeUrl fs key).map fun a => (some a.library, some (.attribution a))
  | .given answer => (answer key).map fun l => (l, none)

def Attributor.library [Runtime] (fs : FileSystem) (a : Attributor) (key : Text) :
    Except Failure (Option Library) :=
  (a.run fs key).map (·.1)

/-- What belongs to one masking resolver: its masks, its cache, what the cache computes with, and the
keys computed so far. -/
structure Masking where
  registry : Registry
  cache : Cache
  attributor : Attributor
  computed : List Text

instance : Inhabited Masking := ⟨⟨default, default, .identifier {}, []⟩⟩

inductive Query
  | locate (name : Text)
  | enumerate (name : Text)
  | resolve (name : Text)
deriving DecidableEq, Repr

structure Store where
  maskings : List Masking
  calls : List (Nat × Query)
  events : List Event

namespace Store

def empty : Store := ⟨[], [], []⟩

def masking (s : Store) (id : Nat) : Masking := s.maskings.getD id default

def setMasking (s : Store) (id : Nat) (m : Masking) : Store :=
  { s with maskings := s.maskings.set id m }

end Store

/-- A computation that may fail and that changes the store; changes made before a failure stay. -/
abbrev Action := ExceptT Failure (StateM Store)

namespace Action

def run {α : Type} (action : Action α) (s : Store) : Except Failure α × Store := action s

def emit (e : Event) : Action Unit := modify fun s => { s with events := s.events ++ [e] }

def record (id : Nat) (q : Query) : Action Unit :=
  modify fun s => { s with calls := s.calls ++ [(id, q)] }

def getMasking (id : Nat) : Action Masking := return (← get).masking id

def modifyMasking (id : Nat) (change : Masking → Masking) : Action Unit :=
  modify fun s => s.setMasking id (change (s.masking id))

end Action

end MaskedPath
