import MaskedPath.Resolver.Query

namespace MaskedPath

variable [Runtime]

namespace Masking

open MaskedPath.Action

def addName (id : Nat) : Option Text → Action Unit
  | none => return
  | some name => do
    modifyMasking id fun m => { m with registry := m.registry.addName name }
    emit (.nameMaskAdded name)

def addLibraries (id : Nat) (entries : List (Option Library)) : Action Nat := do
  let accepted := Registry.maskable entries
  if accepted = [] then return 0
  else
    modifyMasking id fun m => { m with registry := m.registry.addLibraries entries }
    emit (.libraryMasksAdded accepted.length)
    return accepted.length

def loadLibraries (fs : FileSystem) (id : Nat) (resource : Text) : Action Unit := do
  let (masks, events) := MaskList.read fs resource
  events.forM emit
  let _ ← addLibraries id (masks.map some)

def clearCache (id : Nat) : Action Unit :=
  modifyMasking id fun m => { m with cache := m.cache.clear }

def evict (id : Nat) (key : Text) : Action Bool := do
  let (present, cache) := (← getMasking id).cache.evict key
  modifyMasking id fun m => { m with cache := cache }
  return present

end Masking

namespace Resolver

open MaskedPath.Action

def mask (parent : Resolver) (names : List Text) (attributor : Attributor) (policy : Policy) :
    Action Resolver := do
  let id := (← get).maskings.length
  modify fun s =>
    { s with maskings := s.maskings ++ [⟨.empty, .empty policy, attributor, []⟩] }
  names.forM fun name => Masking.addName id (some name)
  return .masking id parent

def masking? : Resolver → Option (Nat × Resolver)
  | .masking id parent => some (id, parent)
  | _ => none

def resourceOrigin (fs : FileSystem) (id : Nat) (parent : Resolver) (name : Text) :
    Action Origin :=
  Masking.originOfFirst fs id (parent.locate fs) [name]

def moduleOrigin (fs : FileSystem) (id : Nat) (parent : Resolver) (name : Text) :
    Action Origin :=
  Masking.originOfFirst fs id (parent.locate fs) (ModuleName.candidates name)

def render (s : Store) : Resolver → Text
  | .nowhere => "None".toList
  | .fixed _ _ => "Answers()".toList
  | .search entries _ =>
    "SearchPathResolver(".toList ++ Quoted.listOf (entries.map (wide ·.render)) ++ [')']
  | .masking id parent =>
    "MaskingResolver(".toList ++ parent.render s ++ ", ".toList ++
      (s.masking id).registry.render ++ [')']

end Resolver

end MaskedPath
