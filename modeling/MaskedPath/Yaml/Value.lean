import MaskedPath.Number.Binary
import MaskedPath.Yaml.Scalars

namespace MaskedPath.Yaml

inductive Value
  | atom (a : Atom)
  | list (items : List NodeId)
  | tuples (pairs : List (NodeId × NodeId))
  | set (members : List (Atom × NodeId))
  | mapping (entries : List (Atom × NodeId))

instance : Inhabited Value := ⟨.atom .null⟩

def Value.isEmpty : Value → Bool
  | .atom .null => true
  | .atom (.bool b) => !b
  | .atom (.int n) => n = 0
  | .atom (.float x) => x == 0
  | .atom (.text t) => t = []
  | .atom (.bytes b) => b = []
  | .atom (.moment _) => false
  | .list items => items = []
  | .tuples pairs => pairs.isEmpty
  | .set members => members.isEmpty
  | .mapping entries => entries.isEmpty

structure Valuation where
  graph : Graph
  values : List (NodeId × Value)
  pending : List NodeId

abbrev Evaluation := StateT Valuation (Except Error)

namespace Evaluation

def fail {α : Type} (f : Fault) : Evaluation α := throw (.fault f)

def node (id : NodeId) : Evaluation Node := return ((← get).graph.getD id default)

def set (id : NodeId) (v : Value) : Evaluation Unit :=
  modify fun s => { s with values := (id, v) :: s.values }

def pairsOf (id : NodeId) : Evaluation (List (NodeId × NodeId)) := do
  match (← node id).content with
  | .mapping pairs => return pairs
  | _ => fail .wrongContent

def change (id : NodeId) (f : Node → Node) : Evaluation Unit :=
  modify fun s => { s with graph := s.graph.modify id f }

/-! ## Merging -/

def isMapping (id : NodeId) : Evaluation Bool := do
  match (← node id).content with
  | .mapping _ => return true
  | _ => return false

mutual

def flatten : Nat → NodeId → Evaluation Unit
  | 0, _ => return
  | fuel + 1, id => do
    let (merged, own) ← mergedPairs fuel id (← pairsOf id)
    change id fun n => { n with content := .mapping (merged ++ own) }

def mergedPairs : Nat → NodeId → List (NodeId × NodeId) →
    Evaluation (List (NodeId × NodeId) × List (NodeId × NodeId))
  | 0, _, pairs => return ([], pairs)
  | _ + 1, _, [] => return ([], [])
  | fuel + 1, id, (key, value) :: rest => do
    match (← node key).tag with
    | .merge =>
      change id fun n => match n.content with
        | .mapping pairs => { n with content := .mapping (pairs.filter (·.1 ≠ key)) }
        | _ => n
      let here ← match (← node value).content with
        | .mapping _ => do
          flatten fuel value
          pairsOf value
        | .sequence items => mergedItems fuel items
        | .scalar _ => fail .badMerge
      let (merged, own) ← mergedPairs fuel id rest
      return (here ++ merged, own)
    | tag =>
      if tag = .value then change key fun n => { n with tag := .text }
      let (merged, own) ← mergedPairs fuel id rest
      return (merged, (key, value) :: own)

def mergedItems : Nat → List NodeId → Evaluation (List (NodeId × NodeId))
  | 0, _ => return []
  | _ + 1, [] => return []
  | fuel + 1, item :: items => do
    if ← isMapping item then
      flatten fuel item
      let first ← pairsOf item
      let others ← mergedItems fuel items
      return others ++ first
    else fail .badMerge

end

/-! ## Nodes -/

/-- The text of a scalar; a mapping stands for the value of its key `=`. A chain of such values that is
longer than the graph leads back to itself. -/
def scalarText : Nat → NodeId → Evaluation WideText
  | 0, _ => throw (.scalar .endlessText)
  | fuel + 1, id => do
    match (← node id).content with
    | .scalar text => return text
    | .sequence _ => fail .wrongContent
    | .mapping pairs =>
      match ← pairs.findM? fun pair => return (← node pair.1).tag = .value with
      | some (_, value) => scalarText fuel value
      | none => fail .wrongContent

def evaluate (id : NodeId) : Evaluation Value := do
  match (← get).values.lookup id with
  | some v => return v
  | none =>
    let n ← node id
    let later (v : Value) : Evaluation Value := do
      set id v
      modify fun s => { s with pending := s.pending ++ [id] }
      return v
    match n.tag with
    | .sequence => later (.list [])
    | .orderedMap | .pairs => later (.tuples [])
    | .set => later (.set [])
    | .mapping => later (.mapping [])
    | tag =>
      if tag.isScalar then
        let text ← scalarText ((← get).graph.length + 1) id
        if tag = .timestamp ∧ (← isMapping id) then throw (.scalar .timestampOfMapping)
        let v := Value.atom (← Atom.read tag text)
        set id v
        return v
      else fail .unknownTag

def sameKey (a b : Atom) : Bool :=
  let number? : Atom → Option (Sum Int Float)
    | .bool b => some (.inl (if b then 1 else 0))
    | .int n => some (.inl n)
    | .float x => some (match (Binary.ofFloat? x).bind Binary.toInt? with
      | some n => .inl n
      | none => .inr x)
    | _ => none
  match number? a, number? b with
  | some (.inl m), some (.inl n) => m = n
  | some (.inr x), some (.inr y) => x == y
  | some _, _ => false
  | none, some _ => false
  | none, none =>
    match a, b with
    | .null, .null => true
    | .text s, .text t => s = t
    | .bytes s, .bytes t => s = t
    | .moment s, .moment t => s = t
    | _, _ => false

def setEntry (key : Atom) (value : NodeId) : List (Atom × NodeId) → List (Atom × NodeId)
  | [] => [(key, value)]
  | (k, v) :: rest =>
    if sameKey k key then (k, value) :: rest else (k, v) :: setEntry key value rest

def entries : List (NodeId × NodeId) → List (Atom × NodeId) → Evaluation (List (Atom × NodeId))
  | [], done => return done
  | (key, value) :: rest, done => do
    match ← evaluate key with
    | .atom a =>
      let _ ← evaluate value
      entries rest (setEntry a value done)
    | _ => fail .unhashableKey

def mappingEntries (id : NodeId) : Evaluation (List (Atom × NodeId)) := do
  if ← isMapping id then
    let size := (← get).graph.foldl (fun size n => match n.content with
      | .mapping pairs => size + pairs.length + 1
      | .sequence items => size + items.length + 1
      | .scalar _ => size + 1) 0
    flatten (2 * size + 2) id
    entries (← pairsOf id) []
  else fail .wrongContent

def singlePairs : List NodeId → Evaluation (List (NodeId × NodeId))
  | [] => return []
  | item :: items => do
    match (← node item).content with
    | .mapping [(key, value)] =>
      let _ ← evaluate key
      let _ ← evaluate value
      return (key, value) :: (← singlePairs items)
    | _ => fail .wrongContent

def fill (id : NodeId) : Evaluation Unit := do
  let n ← node id
  match n.tag, n.content with
  | .sequence, .sequence items =>
    let _ ← items.mapM evaluate
    set id (.list items)
  | .orderedMap, .sequence items => set id (.tuples (← singlePairs items))
  | .pairs, .sequence items => set id (.tuples (← singlePairs items))
  | .set, _ => set id (.set (← mappingEntries id))
  | .mapping, _ => set id (.mapping (← mappingEntries id))
  | _, _ => fail .wrongContent

def fillPending : Nat → Evaluation Unit
  | 0 => return
  | fuel + 1 => do
    match (← get).pending with
    | [] => return
    | id :: rest =>
      modify fun s => { s with pending := rest }
      fill id
      fillPending fuel

def all (root : NodeId) : Evaluation Unit := do
  let _ ← evaluate root
  fillPending (← get).graph.length

end Evaluation

structure Document where
  root : NodeId
  values : List (NodeId × Value)

namespace Document

def value (d : Document) (id : NodeId) : Value := (d.values.lookup id).getD default

def read (text : Text) : Except Error (Option Document) := do
  let (root, graph) ← graphOf text
  match root with
  | none => return none
  | some root =>
    let (_, valuation) ← (Evaluation.all root).run ⟨graph, [], []⟩
    return some ⟨root, valuation.values⟩

end Document

end MaskedPath.Yaml
