import MaskedPath.Text.Basic

namespace MaskedPath.ModuleName

def resourceForm (name : Text) : Text := name.map fun c => if c = '.' then '/' else c

def sourceSuffix : Text := ['.', 'p', 'y']

def packageFile : Text := "__init__.py".toList

def plain (name : Text) : Text := resourceForm name ++ sourceSuffix

def package (name : Text) : Text := resourceForm name ++ '/' :: packageFile

def candidates (name : Text) : List Text := [plain name, package name]

def isPackageFile (resource : Text) : Bool := ('/' :: packageFile).isSuffixOf resource

def parent (name : Text) (isPackage : Bool) : Text :=
  if isPackage then name
  else match cutAt? (· = '.') name.reverse with
    | some (_, before) => before.reverse
    | none => []

end MaskedPath.ModuleName
