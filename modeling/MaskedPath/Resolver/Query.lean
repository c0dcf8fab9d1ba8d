import MaskedPath.Resolver.Search

/-!
# Queries

The three questions to a resolver and the origins that a masking resolver judges by. A search asks
the parent first. A masking resolver hides names and resources by its name masks without asking the
parent, and what comes from a masked library after asking; what is masked cannot be told from what is
absent.
-/

namespace MaskedPath

variable [Runtime]

namespace Masking

open MaskedPath.Action

/-- The events of looking for the library of a key: none if the cache has it or it cannot be
computed. -/
def lookupEvents (fs : FileSystem) (m : Masking) (key : Text) : List Event :=
  match m.cache.computed (.get key) with
  | none => []
  | some _ =>
    match m.attributor.run fs key with
    | .ok (library, event) =>
      let evicted := m.cache.evictedBy key library
      event.toList ++ if evicted = 0 then [] else [.evicted evicted]
    | .error _ => []

def libraryOf (fs : FileSystem) (id : Nat) (key : Text) : Action (Option Library) := do
  let m ← getMasking id
  let (library, cache) := m.cache.getOrCompute (m.attributor.library fs) key
  let computed := (m.cache.computed (.get key)).toList
  modifyMasking id fun m => { m with cache, computed := m.computed ++ computed }
  (m.lookupEvents fs key).forM emit
  ofExcept library

def locationOrigin (fs : FileSystem) (id : Nat) (location : Location) : Action Origin := do
  match Location.archiveKey? location with
  | none => return .indeterminate
  | some key =>
    let library ← libraryOf fs id key
    if (← getMasking id).registry.hidesLibrary library then
      if let some library := library then emit (.hiddenByLibrary location library)
      return .masked
    else return .notMasked

def originOfFirst (fs : FileSystem) (id : Nat) (locate : Text → Action (Option Location)) :
    List Text → Action Origin
  | [] => return .notMasked
  | resource :: rest => do
    match ← locate resource with
    | some location => locationOrigin fs id location
    | none => originOfFirst fs id locate rest

def visible (fs : FileSystem) (id : Nat) : List Location → Action (List Location)
  | [] => return []
  | location :: rest => do
    let origin ← locationOrigin fs id location
    let others ← visible fs id rest
    return if origin = .masked then others else location :: others

end Masking

namespace Resolver

open MaskedPath.Action

def locate (fs : FileSystem) : Resolver → Text → Action (Option Location)
  | .nowhere, _ => return none
  | .fixed id answers, name => do
    record id (.locate name)
    ofExcept (answers.locate name)
  | .search entries parent, name => do
    match ← parent.locate fs name with
    | some location => return some location
    | none =>
      let name := Search.plainName name
      if name = [] then return none else Search.locate fs name entries
  | .masking id parent, name => do
    if (← getMasking id).registry.hidesResource name then
      emit (.hiddenByResource name)
      return none
    else if (← Masking.originOfFirst fs id (parent.locate fs) [name]) = .masked then return none
    else parent.locate fs name

def enumerate (fs : FileSystem) : Resolver → Text → Action (List Location)
  | .nowhere, _ => return []
  | .fixed id answers, name => do
    record id (.enumerate name)
    ofExcept (answers.enumerate name)
  | .search entries parent, name => do
    let locations ← parent.enumerate fs name
    let name := Search.plainName name
    let own ← if name = [] then pure [] else Search.enumerate fs name entries
    return locations ++ own
  | .masking id parent, name => do
    if (← getMasking id).registry.hidesResource name then return []
    else
      let locations ← parent.enumerate fs name
      Masking.visible fs id locations

/-- The module in the first of some resources that `locate` finds. -/
def firstModule (fs : FileSystem) (locate : Text → Action (Option Location)) (name : Text)
    (finalize : Bool) : List Text → Action (Option Module)
  | [] => return none
  | resource :: rest => do
    match ← locate resource with
    | some location =>
      let source ← ofExcept (Location.read fs location)
      if finalize then ofExcept (orFail .compilation (Runtime.compile source location))
      emit (.resolved name location)
      return some ⟨name, location, source, ModuleName.isPackageFile resource, finalize⟩
    | none => firstModule fs locate name finalize rest

def resolve (fs : FileSystem) : Resolver → Text → Bool → Action (Option Module)
  | .nowhere, _, _ => return none
  | .fixed id answers, name, finalize => do
    record id (.resolve name)
    ofExcept (answers.resolve name finalize)
  | .search entries parent, name, finalize =>
    firstModule fs ((Resolver.search entries parent).locate fs) name finalize
      (ModuleName.candidates name)
  | .masking id parent, name, finalize => do
    if (← getMasking id).registry.hidesName name then
      emit (.hiddenByName name)
      return none
    else if (← Masking.originOfFirst fs id (parent.locate fs) (ModuleName.candidates name)) = .masked
    then return none
    else parent.resolve fs name finalize

def require (fs : FileSystem) (r : Resolver) (name : Text) (finalize : Bool) : Action Module := do
  match ← r.resolve fs name finalize with
  | some m => return m
  | none => throw (.noModule name)

end Resolver

end MaskedPath
