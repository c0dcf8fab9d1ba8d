namespace MaskedPath.Huffman

inductive Tree
  | empty
  | leaf (symbol : Nat)
  | node (zero one : Tree)
deriving Repr

inductive Filling
  | exact
  | incomplete
  | oversubscribed
deriving DecidableEq, Repr

def maxLength : Nat := 15

def countOf (lengths : List Nat) (length : Nat) : Nat := lengths.count length

def fillFrom (lengths : List Nat) : (remaining length left : Nat) → Filling
  | 0, _, left => if left = 0 then .exact else .incomplete
  | remaining + 1, length, left =>
    let count := countOf lengths length
    if 2 * left < count then .oversubscribed
    else fillFrom lengths remaining (length + 1) (2 * left - count)

def filling (lengths : List Nat) : Filling := fillFrom lengths maxLength 1 1

def Tree.insert (symbol : Nat) : (length : Nat) → (word : Nat) → Tree → Tree
  | 0, _, _ => .leaf symbol
  | length + 1, word, tree =>
    let (zero, one) := match tree with
      | .node zero one => (zero, one)
      | _ => (.empty, .empty)
    if word / Nat.pow 2 length % 2 = 0 then .node (Tree.insert symbol length word zero) one
    else .node zero (Tree.insert symbol length word one)

def symbolsOf (lengths : List Nat) (length : Nat) : List Nat :=
  (lengths.zipIdx.filter (·.1 = length)).map (·.2)

def buildFrom (lengths : List Nat) : (remaining length first : Nat) → Tree → Tree
  | 0, _, _, tree => tree
  | remaining + 1, length, first, tree =>
    let symbols := symbolsOf lengths length
    let tree := symbols.zipIdx.foldl (fun tree (symbol, k) =>
      Tree.insert symbol length (first + k) tree) tree
    buildFrom lengths remaining (length + 1) (2 * (first + symbols.length)) tree

def ofLengths (lengths : List Nat) : Tree := buildFrom lengths maxLength 1 0 .empty

/-- A code whose words have at least one bit: the words that begin with zero, and with one. -/
structure Code where
  zero : Tree
  one : Tree
deriving Repr

def Code.ofLengths (lengths : List Nat) : Code :=
  match Huffman.ofLengths lengths with
  | .node zero one => ⟨zero, one⟩
  | _ => ⟨.empty, .empty⟩

def Code.branch (c : Code) (bit : Bool) : Tree := if bit then c.one else c.zero

end MaskedPath.Huffman
