import MaskedPath.Resolver.Query

namespace MaskedPath

def sourceText (source : Bytes) : Except Failure Text :=
  orFail (fun e => .decoding (.notUtf8 e)) (Utf8.decode source)

structure ModuleSpec where
  name : Text
  origin : Location
  isPackage : Bool
  source : Bytes
deriving DecidableEq, Repr

def ModuleSpec.parent (s : ModuleSpec) : Text := ModuleName.parent s.name s.isPackage

def Resolver.spec? [Runtime] (fs : FileSystem) (r : Resolver) (name : Text) :
    Action (Option ModuleSpec) := do
  match ← r.resolve fs name true with
  | none => return none
  | some m =>
    Action.emit (.imported name m.location)
    return some ⟨name, m.location, m.isPackage, m.source⟩

namespace Finder

inductive Operation
  | install
  | uninstall
  | enter
  | leave
deriving DecidableEq, Repr

def step {α : Type} [DecidableEq α] (installed : List α) (finder : α) : Operation → List α
  | .install | .enter => if finder ∈ installed then installed else finder :: installed
  | .uninstall | .leave => installed.erase finder

def run {α : Type} [DecidableEq α] (installed : List α) (steps : List (α × Operation)) : List α :=
  steps.foldl (fun installed s => step installed s.1 s.2) installed

end Finder

end MaskedPath
