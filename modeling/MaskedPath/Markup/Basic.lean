import MaskedPath.Markup.Emoji

namespace MaskedPath.Markup

/-! ## Pieces -/

inductive Piece
  | plain (t : WideText)
  | tag (position : Nat) (content : WideText)
deriving DecidableEq, Repr

def opensTag (c : CodePoint) : Bool :=
  (97 ≤ c.val && c.val ≤ 122) || ['#', '/', '@'].any fun d => c = .ofChar d

def content? : WideText → Option (WideText × WideText)
  | [] => none
  | c :: rest =>
    if c = ']' then some ([], rest)
    else if c = '[' then none
    else (content? rest).map fun p => (c :: p.1, p.2)

def tagAt? (t : WideText) : Option WideText :=
  match t with
  | bracket :: c :: rest =>
    if bracket = '[' ∧ opensTag c then (content? rest).map fun p => c :: p.1 else none
  | _ => none

def isBackslash (c : CodePoint) : Bool := c = '\\'

def pending (reversed : WideText) : List Piece :=
  if reversed = [] then [] else [.plain reversed.reverse]

/-- The pieces of the rest of a text, which starts at `index`, after the plain text `reversed`. Two
backslashes ahead of a tag are one; an odd one keeps the tag as text. -/
def piecesFrom (index : Nat) (reversed : WideText) : WideText → List Piece
  | [] => pending reversed
  | c :: rest =>
    let slashes := ((c :: rest).takeWhile isBackslash).length
    match tagAt? ((c :: rest).drop slashes) with
    | none => piecesFrom (index + 1) (c :: reversed) rest
    | some content =>
      let kept := slashes / 2
      let length := slashes + content.length + 2
      let literal : List Piece := if kept = 0 then [] else [.plain (List.replicate kept (.ofChar '\\'))]
      let tag : Piece :=
        if slashes % 2 = 1 then .plain (.ofChar '[' :: content ++ [.ofChar ']'])
        else .tag (index + 2 * kept) content
      pending reversed ++ literal ++ tag :: piecesFrom (index + length) [] ((c :: rest).drop length)
termination_by t => t.length
decreasing_by
  · simp
  · simp only [List.length_drop, List.length_cons]; omega

def parse (t : WideText) : List Piece := piecesFrom 0 [] t

/-! ## Tags -/

inductive Error
  | nothingOpen (position : Nat)
  | notOpen (tag : WideText) (position : Nat)
deriving DecidableEq, Repr

def Error.message : Error → WideText
  | .nothingOpen position =>
    wideOf "closing tag '[/]' at position " ++ wide (decimal position) ++
      wideOf " has nothing to close"
  | .notOpen tag position =>
    wideOf "closing tag '[" ++ tag ++ wideOf "]' at position " ++ wide (decimal position) ++
      wideOf " doesn't match any open tag"

def shortNames : List (String × String) := [
  ("b", "bold"), ("d", "dim"), ("i", "italic"), ("u", "underline"), ("r", "reverse"),
  ("c", "conceal"), ("s", "strike"), ("uu", "underline2"), ("o", "overline")]

def lower (c : CodePoint) : CodePoint :=
  match c.toChar? with
  | some d => .ofChar d.toLower
  | none => c

def fullName (name : WideText) : WideText :=
  let name := (stripWide name).map lower
  ((shortNames.find? fun n => name = wideOf n.1).map fun n => wideOf n.2).getD name

def nameOf (content : WideText) : WideText := content.takeWhile (· ≠ '=')

/-- The name that a tag closes, empty if it closes the last one open; none if it opens one. -/
def closed? (content : WideText) : Option WideText :=
  match nameOf content with
  | c :: name => if c = '/' then some (stripWide name) else none
  | [] => none

def step (openTags : List WideText) (position : Nat) (content : WideText) :
    Except Error (List WideText) :=
  match closed? content with
  | none => .ok (fullName (nameOf content) :: openTags)
  | some [] =>
    match openTags with
    | [] => .error (.nothingOpen position)
    | _ :: rest => .ok rest
  | some name =>
    if openTags.contains (fullName name) then .ok (openTags.erase (fullName name))
    else .error (.notOpen content position)

def unescape : WideText → WideText
  | [] => []
  | [c] => [c]
  | c :: d :: rest => if c = '\\' ∧ d = '[' then d :: unescape rest else c :: unescape (d :: rest)

def isDropped (c : CodePoint) : Bool :=
  c.val = 7 || c.val = 8 || c.val = 11 || c.val = 12 || c.val = 13

def plainFrom (openTags : List WideText) : List Piece → Except Error WideText
  | [] => .ok []
  | .plain t :: pieces =>
    (plainFrom openTags pieces).map (((Emoji.replace (unescape t)).filter (!isDropped ·)) ++ ·)
  | .tag position content :: pieces => do plainFrom (← step openTags position content) pieces

def plain (t : WideText) : Except Error WideText := plainFrom [] (parse t)

end MaskedPath.Markup
