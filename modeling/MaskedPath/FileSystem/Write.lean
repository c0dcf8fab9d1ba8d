import MaskedPath.FileSystem.Basic

namespace MaskedPath.FileSystem

def put (fs : FileSystem) (place : Place) (node : Node) : FileSystem :=
  { fs with nodes := (place, node) :: fs.nodes.filter (·.1 ≠ place) }

def lastName (fs : FileSystem) (t : Text) : Except Errno (Place × Option Node) :=
  match (namesOf t).reverse with
  | name :: before =>
    if name = [] ∨ name = ['.'] ∨ name = ['.', '.'] then fs.walkText t
    else match fs.walk linkMax (startOf fs.home t) before.reverse with
      | .error e => .error e
      | .ok (here, some .directory) =>
        if nameMax < byteLength name then .error .nameTooLong
        else .ok (here ++ [name], fs.node? (here ++ [name]))
      | .ok (_, some _) => .error .notDirectory
      | .ok (_, none) => .error .noEntry
  | [] => .error .noEntry

def makeDirectory (fs : FileSystem) (p : Path) : Except PathError FileSystem :=
  let t := p.render
  if '\x00' ∈ t then .error .nul
  else if pathMax ≤ byteLength t then .error (.system .nameTooLong t)
  else match fs.lastName t with
    | .ok (place, none) => .ok (fs.put place .directory)
    | .ok (_, some _) => .error (.system .exists t)
    | .error e => .error (.system e t)

def unlessDirectory (fs : FileSystem) (p : Path) (e : PathError) : Except PathError Unit := do
  if e = .nul then throw e
  if ← fs.isDirectory p then return () else throw e

/-- Makes a directory and those above it that are missing. What was made before a failure stays. -/
def ensureDirectories (fs : FileSystem) (anchor : Anchor) (segments : List Segment) :
    Except PathError Unit × FileSystem :=
  let p : Path := ⟨anchor, segments⟩
  match fs.makeDirectory p with
  | .ok fs => (.ok (), fs)
  | .error (.system .noEntry t) =>
    if h : segments = [] then (.error (.system .noEntry t), fs)
    else
      have : segments.dropLast.length < segments.length := by
        have := List.length_pos_iff.mpr h
        simp; omega
      match fs.ensureDirectories anchor segments.dropLast with
      | (.error e, fs) => (.error e, fs)
      | (.ok (), fs) =>
        match fs.makeDirectory p with
        | .ok fs => (.ok (), fs)
        | .error (.system .noEntry t) => (.error (.system .noEntry t), fs)
        | .error e => (fs.unlessDirectory p e, fs)
  | .error e => (fs.unlessDirectory p e, fs)
termination_by segments.length

def makeDirectories (fs : FileSystem) (anchor : Anchor) (segments : List Segment) :
    Except PathError FileSystem :=
  match fs.ensureDirectories anchor segments with
  | (.ok (), fs) => .ok fs
  | (.error e, _) => .error e

def updateFile (fs : FileSystem) (p : Path) (change : Bytes → Bytes) :
    Except PathError FileSystem :=
  let t := p.render
  if '\x00' ∈ t then .error .nul
  else match fs.walkText t with
    | .ok (place, some (.file content)) => .ok (fs.put place (.file (change content)))
    | .ok (place, none) => .ok (fs.put place (.file (change [])))
    | .ok _ => .error (.system .isDirectory t)
    | .error e => .error (.system e t)

def append (fs : FileSystem) (p : Path) (content : Bytes) : Except PathError FileSystem :=
  fs.updateFile p (· ++ content)

def write (fs : FileSystem) (p : Path) (content : Bytes) : Except PathError FileSystem := do
  let fs ← fs.makeDirectories p.anchor p.parent.segments
  fs.updateFile p fun _ => content

def makeLink (fs : FileSystem) (p : Path) (target : Text) : Except PathError FileSystem := do
  let fs ← fs.makeDirectories p.anchor p.parent.segments
  let t := p.render
  match fs.lastName t with
  | .ok (place, none) => return fs.put place (.link target)
  | .ok (_, some _) => throw (.system .exists t)
  | .error e => throw (.system e t)

def remove (fs : FileSystem) (p : Path) : Except PathError FileSystem :=
  let t := p.render
  match fs.lastName t with
  | .ok (place, some _) => .ok { fs with nodes := fs.nodes.filter (!place.isPrefixOf ·.1) }
  | .ok (_, none) => .error (.system .noEntry t)
  | .error e => .error (.system e t)

end MaskedPath.FileSystem
