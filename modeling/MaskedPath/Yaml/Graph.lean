import MaskedPath.Yaml.Lexer
import MaskedPath.Yaml.Tag

namespace MaskedPath.Yaml

abbrev NodeId := Nat

inductive Content
  | scalar (text : WideText)
  | sequence (items : List NodeId)
  | mapping (pairs : List (NodeId × NodeId))
deriving DecidableEq, Repr

structure Node where
  tag : Tag
  content : Content
deriving DecidableEq, Repr

instance : Inhabited Node := ⟨⟨.null, .scalar []⟩⟩

abbrev Graph := List Node

structure Building where
  tokens : List Token
  error : Error
  graph : Graph
  anchors : List (Text × NodeId)
  handles : List (Text × Text)

abbrev Build := StateT Building (Except Error)

namespace Build

def fail {α : Type} (f : Fault) : Build α := throw (.fault f)

def peek : Build Token := do
  match (← get).tokens with
  | t :: _ => return t
  | [] => throw (← get).error

def pass : Build Unit := modify fun b => { b with tokens := b.tokens.drop 1 }

def sees (tokens : List Token) : Build Bool := return tokens.contains (← peek)

def add (node : Node) : Build NodeId := do
  let id := (← get).graph.length
  modify fun b => { b with graph := b.graph ++ [node] }
  return id

def setContent (id : NodeId) (content : Content) : Build Unit :=
  modify fun b => { b with graph := b.graph.modify id fun node => { node with content := content } }

def empty : Build NodeId := add ⟨.null, .scalar []⟩

def name (anchor : Option Text) (id : NodeId) : Build Unit :=
  match anchor with
  | none => return
  | some anchor => modify fun b => { b with anchors := (anchor, id) :: b.anchors }

def named (anchor : Text) : Build NodeId := do
  match (← get).anchors.lookup anchor with
  | some id => return id
  | none => fail .unknownAnchor

def anchor? : Build (Option Text) := do
  match ← peek with
  | .anchor name =>
    pass
    return some name
  | _ => return none

def tag? : Build (Option TagText) := do
  match ← peek with
  | .tag t =>
    pass
    return some t
  | _ => return none

def tagName (t : TagText) : Build Text := do
  match t.handle with
  | none => return t.suffix
  | some handle =>
    match (← get).handles.lookup handle with
    | some front => return front ++ t.suffix
    | none => fail .unknownHandle

def properties : Build (Option Text × Option Text) := do
  let anchor ← anchor?
  let tag ← tag?
  let anchor ← if anchor.isNone && tag.isSome then anchor? else pure anchor
  match tag with
  | none => return (anchor, none)
  | some tag => return (anchor, some (← tagName tag))

def collectionTag (implied : Tag) : Option Text → Tag
  | none => implied
  | some name => if name = ['!'] then implied else .ofName name

def scalarTag (plain : Bool) (text : WideText) (name : Option Text) : Tag :=
  if (plain ∧ name = none) ∨ name = some ['!'] then
    match narrow? text with
    | some t => .ofPlain t
    | none => .text
  else match name with
    | none => .text
    | some name => .ofName name

def openNode (anchor name : Option Text) (implied : Tag) (content : Content) : Build NodeId := do
  let id ← add ⟨collectionTag implied name, content⟩
  Build.name anchor id
  return id

mutual

def node (inBlock bare : Bool) : Nat → Build NodeId
  | 0 => fail .noContent
  | fuel + 1 => do
    match ← peek with
    | .alias anchor =>
      pass
      named anchor
    | _ =>
      let (anchor, tag) ← properties
      let token ← peek
      if let some anchor := anchor then
        if ((← get).anchors.lookup anchor).isSome then fail .repeatedAnchor
      match token with
      | .scalar plain text =>
        pass
        let id ← add ⟨scalarTag plain text tag, .scalar text⟩
        name anchor id
        return id
      | .flowSequenceStart =>
        pass
        let id ← openNode anchor tag .sequence (.sequence [])
        setContent id (.sequence (← flowEntries true fuel))
        return id
      | .flowMappingStart =>
        pass
        let id ← openNode anchor tag .mapping (.mapping [])
        setContent id (.mapping (← flowPairs true fuel))
        return id
      | token =>
        if bare ∧ token = .blockEntry then
          let id ← openNode anchor tag .sequence (.sequence [])
          setContent id (.sequence (← bareEntries fuel))
          return id
        else if inBlock ∧ token = .sequenceStart then
          pass
          let id ← openNode anchor tag .sequence (.sequence [])
          setContent id (.sequence (← blockEntries fuel))
          return id
        else if inBlock ∧ token = .mappingStart then
          pass
          let id ← openNode anchor tag .mapping (.mapping [])
          setContent id (.mapping (← blockPairs fuel))
          return id
        else if anchor.isSome ∨ tag.isSome then
          let id ← add ⟨scalarTag true [] tag, .scalar []⟩
          name anchor id
          return id
        else fail .noContent

def nodeUnless (ends : List Token) (inBlock bare : Bool) : Nat → Build NodeId
  | 0 => fail .noContent
  | fuel + 1 => do
    if ← sees ends then empty else node inBlock bare fuel

def blockEntries : Nat → Build (List NodeId)
  | 0 => fail .openCollection
  | fuel + 1 => do
    match ← peek with
    | .blockEntry =>
      pass
      let item ← nodeUnless [.blockEntry, .blockEnd] true false fuel
      return item :: (← blockEntries fuel)
    | .blockEnd =>
      pass
      return []
    | _ => fail .openCollection

def bareEntries : Nat → Build (List NodeId)
  | 0 => fail .openCollection
  | fuel + 1 => do
    match ← peek with
    | .blockEntry =>
      pass
      let item ← nodeUnless [.blockEntry, .key, .value, .blockEnd] true false fuel
      return item :: (← bareEntries fuel)
    | _ => return []

def blockValue : Nat → Build NodeId
  | 0 => fail .openCollection
  | fuel + 1 => do
    match ← peek with
    | .value =>
      pass
      nodeUnless [.key, .value, .blockEnd] true true fuel
    | _ => empty

def blockPairs : Nat → Build (List (NodeId × NodeId))
  | 0 => fail .openCollection
  | fuel + 1 => do
    match ← peek with
    | .key =>
      pass
      let key ← nodeUnless [.key, .value, .blockEnd] true true fuel
      let value ← blockValue fuel
      return (key, value) :: (← blockPairs fuel)
    | .blockEnd =>
      pass
      return []
    | _ => fail .openCollection

def flowValue (closing : Token) : Nat → Build NodeId
  | 0 => fail .openCollection
  | fuel + 1 => do
    match ← peek with
    | .value =>
      pass
      nodeUnless [.flowEntry, closing] false false fuel
    | _ => empty

def comma (first : Bool) : Build Unit := do
  if first then return
  else match ← peek with
    | .flowEntry => pass
    | _ => fail .openCollection

def flowEntries (first : Bool) : Nat → Build (List NodeId)
  | 0 => fail .openCollection
  | fuel + 1 => do
    if ← sees [.flowSequenceEnd] then
      pass
      return []
    else
      comma first
      match ← peek with
      | .key =>
        pass
        let id ← add ⟨.mapping, .mapping []⟩
        let key ← nodeUnless [.value, .flowEntry, .flowSequenceEnd] false false fuel
        let value ← flowValue .flowSequenceEnd fuel
        setContent id (.mapping [(key, value)])
        return id :: (← flowEntries false fuel)
      | .flowSequenceEnd =>
        pass
        return []
      | _ =>
        let item ← node false false fuel
        return item :: (← flowEntries false fuel)

def flowPairs (first : Bool) : Nat → Build (List (NodeId × NodeId))
  | 0 => fail .openCollection
  | fuel + 1 => do
    if ← sees [.flowMappingEnd] then
      pass
      return []
    else
      comma first
      match ← peek with
      | .key =>
        pass
        let key ← nodeUnless [.value, .flowEntry, .flowMappingEnd] false false fuel
        let value ← flowValue .flowMappingEnd fuel
        return (key, value) :: (← flowPairs false fuel)
      | .flowMappingEnd =>
        pass
        return []
      | _ =>
        let key ← node false false fuel
        let value ← empty
        return (key, value) :: (← flowPairs false fuel)

end

/-! ## Documents -/

def standardHandles : List (Text × Text) := [(['!'], ['!']), (['!', '!'], tagFront)]

def passEnds : Nat → Build Unit
  | 0 => return
  | fuel + 1 => do
    match ← peek with
    | .documentEnd =>
      pass
      passEnds fuel
    | _ => return

def directives (versioned : Bool) (handles : List (Text × Text)) :
    Nat → Build (List (Text × Text))
  | 0 => return handles
  | fuel + 1 => do
    match ← peek with
    | .directive (.version major _) =>
      if versioned ∨ major ≠ 1 then fail .badDirective
      else
        pass
        directives true handles fuel
    | .directive (.handle handle front) =>
      if (handles.lookup handle).isSome then fail .badDirective
      else
        pass
        directives versioned (handles ++ [(handle, front)]) fuel
    | .directive .other =>
      pass
      directives versioned handles fuel
    | _ => return handles

def markedDocument (fuel : Nat) : Build NodeId := do
  let handles ← directives false [] fuel
  match ← peek with
  | .documentStart =>
    pass
    modify fun b => { b with handles := handles ++ standardHandles }
    match ← peek with
    | .directive _ | .documentStart | .documentEnd | .streamEnd => empty
    | _ => node true false fuel
  | _ => fail .missingDocument

def document? (first : Bool) (fuel : Nat) : Build (Option NodeId) := do
  match ← peek with
  | .streamEnd => return none
  | token =>
    let marked := match token with
      | .directive _ | .documentStart => true
      | _ => false
    if first ∧ !marked then
      modify fun b => { b with handles := standardHandles }
      some <$> node true false fuel
    else
      passEnds fuel
      match ← peek with
      | .streamEnd => return none
      | _ => some <$> markedDocument fuel

def onlyDocument (fuel : Nat) : Build (Option NodeId) := do
  let root ← document? true fuel
  if root.isNone then return none
  else
    passEnds fuel
    match ← peek with
    | .streamEnd => return root
    | _ =>
      let _ ← directives false [] fuel
      match ← peek with
      | .documentStart => fail .secondDocument
      | _ => fail .missingDocument

end Build

def graphOf (document : Text) : Except Error (Option NodeId × Graph) := do
  let (tokens, error) := tokensOf document
  let start : Building := ⟨tokens, error.getD (.fault .noToken), [], [], []⟩
  let (root, built) ← (Build.onlyDocument (4 * tokens.length + 8)).run start
  return (root, built.graph)

end MaskedPath.Yaml
