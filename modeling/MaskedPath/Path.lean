import MaskedPath.Text.Basic

namespace MaskedPath

structure Segment where
  text : Text
  ne_nil : text ≠ []
  ne_dot : text ≠ ['.']
  no_slash : '/' ∉ text
deriving DecidableEq

def Segment.ofText? (t : Text) : Option Segment :=
  if h : t ≠ [] ∧ t ≠ ['.'] ∧ '/' ∉ t then some ⟨t, h.1, h.2.1, h.2.2⟩ else none

inductive Anchor
  | relative
  | root
  | doubleRoot
deriving DecidableEq, Repr

structure Path where
  anchor : Anchor
  segments : List Segment
deriving DecidableEq

namespace Path

/-- The anchor of a path's text: two slashes differ from one, three or more do not. -/
def anchorOf (t : Text) : Anchor :=
  match (t.takeWhile (· = '/')).length with
  | 0 => .relative
  | 2 => .doubleRoot
  | _ => .root

def segmentsOf (t : Text) : List Segment :=
  (splitWhere (· = '/') t).filterMap Segment.ofText?

def parse (t : Text) : Path := ⟨anchorOf t, segmentsOf t⟩

def Anchor.text : Anchor → Text
  | .relative => []
  | .root => ['/']
  | .doubleRoot => ['/', '/']

def render (p : Path) : Text :=
  match p.anchor, p.segments with
  | .relative, [] => ['.']
  | anchor, segments => Anchor.text anchor ++ joinWith ['/'] (segments.map Segment.text)

def current : Path := ⟨.relative, []⟩

/-- The path named `name` below `p`; an absolute name stands for itself. -/
def join (p : Path) (name : Text) : Path :=
  match anchorOf name with
  | .relative => ⟨p.anchor, p.segments ++ segmentsOf name⟩
  | _ => parse name

def parent (p : Path) : Path := ⟨p.anchor, p.segments.dropLast⟩

def ofNames (names : List Text) : Path := ⟨.root, names.filterMap Segment.ofText?⟩

instance : Inhabited Path := ⟨current⟩

end Path

end MaskedPath
