import MaskedPath.FileSystem.Basic

/-!
# Resolving paths

A resolved path is absolute and free of links and double dots. Names that do not exist stay as they
are, and a double dot takes away the name before it once the links are gone. A link that is met again
under the same name while it is being resolved leads back to itself, which is an error.
-/

namespace MaskedPath.FileSystem

/-- Where a walk has come: names from the root down, or from the current directory, which may begin with
double dots. -/
structure Spot where
  isRelative : Bool
  names : List Text
deriving DecidableEq, Repr

namespace Spot

def start (here : Spot) (t : Text) : Spot := if t.head? = some '/' then ⟨false, []⟩ else here

def text (s : Spot) : Text := (if s.isRelative then [] else ['/']) ++ joinWith ['/'] s.names

def anchor (s : Spot) : Anchor := if s.isRelative then .relative else .root

def ofPath (p : Path) : Spot := ⟨false, p.segments.map Segment.text⟩

def child (s : Spot) (name : Text) : Spot := { s with names := s.names ++ [name] }

def parent (s : Spot) : Spot :=
  match s.names.getLast? with
  | none => if s.isRelative then s.child ['.', '.'] else s
  | some name =>
    if name = ['.', '.'] then s.child name else { s with names := s.names.dropLast }

end Spot

def normalNames (names : List Text) : List Text :=
  names.foldl (fun done name =>
    if name = [] ∨ name = ['.'] then done
    else if name = ['.', '.'] then done.dropLast
    else done ++ [name]) []

def placeOf (fs : FileSystem) (s : Spot) : Place :=
  normalNames (if s.isRelative then fs.home ++ s.names else s.names)

/-- Whether a directory that a spot leads through may not be searched. -/
def Bars (fs : FileSystem) (s : Spot) : Prop :=
  ∃ k < s.names.length, fs.placeOf { s with names := s.names.take k } ∈ fs.closed

def Refuses (fs : FileSystem) (s : Spot) : Prop := pathMax ≤ byteLength s.text ∨ fs.Bars s

instance (fs : FileSystem) (s : Spot) : Decidable (fs.Bars s) := by
  unfold Bars; infer_instance

instance (fs : FileSystem) (s : Spot) : Decidable (fs.Refuses s) := by
  unfold Refuses; infer_instance

/-- The target of the link at a spot; where the system refuses to look, there is none. -/
def linkAt? (fs : FileSystem) (s : Spot) : Option Text :=
  if fs.Refuses s then none
  else match fs.node? (fs.placeOf s) with
    | some (.link target) => some target
    | _ => none

inductive Resolution
  | done (spot : Spot)
  | loop (anchor : Anchor) (names : List Text)

/-- A path that the resolution stops at, and the names after it. They stand for themselves if their
text begins with a slash. -/
def Resolution.stop (anchor : Anchor) (names rest : List Text) : Resolution :=
  match Path.anchorOf (joinWith ['/'] rest) with
  | .relative => .loop anchor (names ++ rest)
  | restAnchor => .loop restAnchor rest

def resolveNames (fs : FileSystem) (depth : Nat) (active : List Spot) (here : Spot) :
    List Text → Resolution
  | [] => .done here
  | name :: rest =>
    if name = [] ∨ name = ['.'] then fs.resolveNames depth active here rest
    else if name = ['.', '.'] then fs.resolveNames depth active here.parent rest
    else
      let there := here.child name
      match fs.linkAt? there with
      | some target =>
        match depth with
        | 0 => .stop there.anchor there.names rest
        | depth + 1 =>
          if there ∈ active then .stop there.anchor there.names rest
          else match fs.resolveNames depth (there :: active) (here.start target)
              (namesOf target) with
            | .done spot => fs.resolveNames (depth + 1) active spot rest
            | .loop anchor names => .stop anchor names rest
      | none => fs.resolveNames depth active there rest
termination_by names => (depth, names.length)

/-- A bound on the links that are being resolved at one time. They are distinct, and one link has a name
for the root and one for each number of double dots up to there. -/
def resolutionDepth (fs : FileSystem) : Nat := (fs.nodes.length + 1) * (fs.home.length + 2)

def Resolution.path (fs : FileSystem) : Resolution → Path
  | .done spot => .ofNames (fs.placeOf spot)
  | .loop .relative names => .ofNames (normalNames (fs.home ++ names))
  | .loop anchor names => { Path.ofNames (normalNames names) with anchor }

def resolve (fs : FileSystem) (p : Path) : Except PathError Path :=
  let t := p.render
  if '\x00' ∈ t then .error .nul
  else
    let resolution := fs.resolveNames fs.resolutionDepth [] (Spot.start ⟨true, []⟩ t) (namesOf t)
    let resolved := resolution.path fs
    match fs.status resolved.render with
    | .error .tooManyLinks => .error (.linkLoop resolved.render)
    | _ => .ok resolved

end MaskedPath.FileSystem
