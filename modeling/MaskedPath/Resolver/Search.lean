import MaskedPath.Resolver.Basic

namespace MaskedPath.Search

def plainName (name : Text) : Text := name.dropWhile (· = '/')

def archiveHas (fs : FileSystem) (entry : Path) (name : Text) : Action Bool := do
  match fs.readArchive entry with
  | .ok archive => return (archive.member? name).isSome
  | .error e =>
    if e.isSkippable then
      Action.emit (.entrySkipped entry e)
      return false
    else throw e

def locateInEntry (fs : FileSystem) (name : Text) (entry : Path) : Action (Option Location) := do
  if ← ofExcept (orFail .path (fs.isDirectory entry)) then
    let candidate := entry.join name
    if ← ofExcept (orFail .path (fs.isFile candidate)) then
      return some (← ofExcept (orFail .path (Location.ofFile fs candidate)))
    else return none
  else if ← ofExcept (orFail .path (fs.isFile entry)) then
    if ← archiveHas fs entry name then
      return some (← ofExcept (orFail .path (Location.ofMember fs entry name)))
    else return none
  else return none

def locate (fs : FileSystem) (name : Text) : List Path → Action (Option Location)
  | [] => return none
  | entry :: entries => do
    match ← locateInEntry fs name entry with
    | some location => return some location
    | none => locate fs name entries

def enumerate (fs : FileSystem) (name : Text) : List Path → Action (List Location)
  | [] => return []
  | entry :: entries => do
    let first ← locateInEntry fs name entry
    let others ← enumerate fs name entries
    return first.toList ++ others

end MaskedPath.Search
