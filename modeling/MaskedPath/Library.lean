import MaskedPath.Properties
import MaskedPath.Text.Blank

namespace MaskedPath

/-- The coordinates of a library. No group and the empty group both stand for any group. -/
structure Library where
  group : Option WideText
  artifact : WideText
deriving DecidableEq, Repr

namespace Library

def void : Library := ⟨some [], []⟩

def groupText (l : Library) : WideText := l.group.getD []

def Matches (l m : Library) : Prop :=
  (l.groupText = [] ∨ m.groupText = [] ∨ l.groupText = m.groupText) ∧ l.artifact = m.artifact

instance (l m : Library) : Decidable (l.Matches m) := by
  unfold Matches; infer_instance

def IsVoid (l : Library) : Prop := l.groupText = [] ∧ l.artifact = []

instance (l : Library) : Decidable l.IsVoid := by
  unfold IsVoid; infer_instance

def render (l : Library) : WideText :=
  if l.groupText = [] then l.artifact else l.groupText ++ .ofChar ':' :: l.artifact

def groupOf (text : WideText) : Option WideText :=
  if text = [] then none else some text

/-- The library that a mask entry names: an artifact, or a group and an artifact with a colon
between them; what follows a second colon is not read. -/
def ofEntry (entry : WideText) : Library :=
  let entry := stripWide entry
  if entry = [] then void
  else match cutAt? (· = .ofChar ':') entry with
    | none => ⟨none, entry⟩
    | some (group, rest) =>
      let artifact := stripWide (rest.takeWhile (· ≠ .ofChar ':'))
      if artifact = [] then void else ⟨groupOf (stripWide group), artifact⟩

def ofProperties (entries : Properties.Entries) : Library :=
  let value (key : String) := stripWide ((entries.find? (wideOf key)).getD [])
  let artifact := value "artifactId"
  if artifact = [] then void else ⟨groupOf (value "groupId"), artifact⟩

end Library

end MaskedPath
