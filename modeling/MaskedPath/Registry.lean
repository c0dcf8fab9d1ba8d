import MaskedPath.Library
import MaskedPath.ModuleName

namespace MaskedPath

structure Registry where
  names : List Text
  libraries : List Library
deriving DecidableEq, Repr

namespace Registry

def empty : Registry := ⟨[], []⟩

instance : Inhabited Registry := ⟨empty⟩

def resources (r : Registry) : List Text := r.names.map ModuleName.resourceForm

def addName (r : Registry) (name : Text) : Registry := { r with names := r.names ++ [name] }

def ofNames (names : List Text) : Registry := names.foldl addName empty

/-- The libraries that can be masked: those given that are not void. -/
def maskable (entries : List (Option Library)) : List Library :=
  entries.filterMap fun entry => entry.filter fun l => !decide l.IsVoid

def addLibraries (r : Registry) (entries : List (Option Library)) : Registry :=
  { r with libraries := r.libraries ++ maskable entries }

def hidesName (r : Registry) (name : Text) : Bool := r.names.any (·.isPrefixOf name)

def hidesResource (r : Registry) (path : Text) : Bool := r.resources.any (·.isPrefixOf path)

/-- Whether a library mask matches a library; none matches the void one. -/
def hidesLibrary (r : Registry) : Option Library → Bool
  | none => false
  | some l => !decide l.IsVoid && r.libraries.any fun mask => decide (mask.Matches l)

def render (r : Registry) : Text :=
  "MaskRegistry(prefixes=".toList ++ Quoted.listOf (r.names.map wide) ++ ", libraries=".toList ++
    Quoted.listOf (r.libraries.map Library.render) ++ [')']

end Registry

end MaskedPath
