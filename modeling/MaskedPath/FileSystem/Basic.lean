import MaskedPath.Path
import MaskedPath.Text.Quoted

/-!
# File systems

A file system assigns a file, a directory or a symbolic link to places, and has a current directory.
A place is the list of names from the root down. A walk takes the names of a path one by one, goes to
the parent at a double dot and follows links, at most forty of them. It looks no name up in a closed
directory, and a closed file cannot be read.
-/

namespace MaskedPath

inductive Node
  | file (content : Bytes)
  | directory
  | link (target : Text)
deriving DecidableEq, Repr

abbrev Place := List Text

/-- The nodes at their places, the latest first, and the current directory. The root is a directory.
The directories at `closed` may not be searched and the files there may not be read. -/
structure FileSystem where
  nodes : List (Place × Node)
  home : Place
  closed : List Place := []
deriving DecidableEq, Repr

inductive Errno
  | noEntry
  | noPermission
  | exists
  | notDirectory
  | isDirectory
  | invalidArgument
  | nameTooLong
  | tooManyLinks
  | valueTooLarge
deriving DecidableEq, Repr

def Errno.number : Errno → Nat
  | .noEntry => 2
  | .noPermission => 13
  | .exists => 17
  | .notDirectory => 20
  | .isDirectory => 21
  | .invalidArgument => 22
  | .nameTooLong => 36
  | .tooManyLinks => 40
  | .valueTooLarge => 75

def Errno.text : Errno → String
  | .noEntry => "No such file or directory"
  | .noPermission => "Permission denied"
  | .exists => "File exists"
  | .notDirectory => "Not a directory"
  | .isDirectory => "Is a directory"
  | .invalidArgument => "Invalid argument"
  | .nameTooLong => "File name too long"
  | .tooManyLinks => "Too many levels of symbolic links"
  | .valueTooLarge => "Value too large for defined data type"

def Errno.isAbsence : Errno → Bool
  | .noEntry | .notDirectory | .tooManyLinks => true
  | _ => false

/-- Why an operation on a path fails: an error of the system, a NUL in the path, or links that lead
back to themselves. -/
inductive PathError
  | system (e : Errno) (path : Text)
  | nul
  | linkLoop (path : Text)
deriving DecidableEq, Repr

def Errno.message (e : Errno) : String :=
  "[Errno " ++ toString e.number ++ "] " ++ e.text

def PathError.message : PathError → String
  | .system e path => e.message ++ ": " ++ String.ofList (Quoted.ofText path)
  | .nul => "embedded null byte"
  | .linkLoop path => "Symlink loop from " ++ String.ofList (Quoted.ofText path)

namespace FileSystem

def node? (fs : FileSystem) (place : Place) : Option Node :=
  if place = [] then some .directory else fs.nodes.lookup place

def nameMax : Nat := 255

def pathMax : Nat := 4096

def linkMax : Nat := 40

def byteLength (t : Text) : Nat := (Utf8.encode t).length

def namesOf (t : Text) : List Text := splitWhere (· = '/') t

def startOf (here : Place) (t : Text) : Place := if t.head? = some '/' then [] else here

instance (fs : FileSystem) (place : Place) : Decidable (place ∈ fs.closed) := inferInstance

/-- Walks from the directory `here` and gives the place reached and its node; the last name need not
exist. -/
def walk (fs : FileSystem) (links : Nat) (here : Place) :
    List Text → Except Errno (Place × Option Node)
  | [] => .ok (here, some .directory)
  | name :: rest =>
    if name ≠ [] ∧ here ∈ fs.closed then .error .noPermission
    else if name = [] ∨ name = ['.'] then fs.walk links here rest
    else if name = ['.', '.'] then fs.walk links here.dropLast rest
    else if nameMax < byteLength name then .error .nameTooLong
    else match fs.node? (here ++ [name]) with
      | none => if rest = [] then .ok (here ++ [name], none) else .error .noEntry
      | some .directory => fs.walk links (here ++ [name]) rest
      | some (.file content) =>
        if rest = [] then .ok (here ++ [name], some (.file content)) else .error .notDirectory
      | some (.link target) =>
        match links with
        | 0 => .error .tooManyLinks
        | links + 1 => fs.walk links (startOf here target) (namesOf target ++ rest)
termination_by names => (links, names.length)

def walkText (fs : FileSystem) (t : Text) : Except Errno (Place × Option Node) :=
  if t = [] then .error .noEntry
  else if pathMax ≤ byteLength t then .error .nameTooLong
  else fs.walk linkMax (startOf fs.home t) (namesOf t)

def status (fs : FileSystem) (t : Text) : Except Errno Node :=
  match fs.walkText t with
  | .ok (_, some node) => .ok node
  | .ok (_, none) => .error .noEntry
  | .error e => .error e

/-- Whether what a path leads to satisfies `test`; an absent path does not, nor does one with a
NUL. -/
def holds (fs : FileSystem) (test : Node → Bool) (p : Path) : Except PathError Bool :=
  let t := p.render
  if '\x00' ∈ t then .ok false
  else match fs.status t with
    | .ok node => .ok (test node)
    | .error e => if e.isAbsence then .ok false else .error (.system e t)

def isDirectoryNode : Node → Bool
  | .directory => true
  | _ => false

def isFileNode : Node → Bool
  | .file _ => true
  | _ => false

def isDirectory (fs : FileSystem) (p : Path) : Except PathError Bool := fs.holds isDirectoryNode p

def isFile (fs : FileSystem) (p : Path) : Except PathError Bool := fs.holds isFileNode p

def read (fs : FileSystem) (p : Path) : Except PathError Bytes :=
  let t := p.render
  if '\x00' ∈ t then .error .nul
  else match fs.walkText t with
    | .ok (place, some (.file content)) =>
      if place ∈ fs.closed then .error (.system .noPermission t) else .ok content
    | .ok (_, some _) => .error (.system .isDirectory t)
    | .ok (_, none) => .error (.system .noEntry t)
    | .error e => .error (.system e t)

end FileSystem

end MaskedPath
