import MaskedPath.FileSystem.Basic
import Mathlib.Tactic.SplitIfs

namespace MaskedPath.FileSystem

variable {fs : FileSystem}

def IsEntry (name : Text) : Prop :=
  name ≠ [] ∧ name ≠ ['.'] ∧ name ≠ ['.', '.'] ∧ byteLength name ≤ nameMax

/-- From the directory `here` the names lead to a place with its node, along a number of links and
through no closed directory. -/
inductive Reaches (fs : FileSystem) : Place → List Text → Nat → Place → Option Node → Prop
  | done (here : Place) : Reaches fs here [] 0 here (some .directory)
  | skip {here there : Place} {name : Text} {rest : List Text} {n : Nat} {node : Option Node}
      (stays : name = [] ∨ name = ['.']) (free : name ≠ [] → here ∉ fs.closed)
      (later : Reaches fs here rest n there node) : Reaches fs here (name :: rest) n there node
  | up {here there : Place} {rest : List Text} {n : Nat} {node : Option Node}
      (free : here ∉ fs.closed) (later : Reaches fs here.dropLast rest n there node) :
      Reaches fs here (['.', '.'] :: rest) n there node
  | missing {here : Place} {name : Text} (entry : IsEntry name) (free : here ∉ fs.closed)
      (held : fs.node? (here ++ [name]) = none) :
      Reaches fs here [name] 0 (here ++ [name]) none
  | file {here : Place} {name : Text} {content : Bytes} (entry : IsEntry name)
      (free : here ∉ fs.closed) (held : fs.node? (here ++ [name]) = some (.file content)) :
      Reaches fs here [name] 0 (here ++ [name]) (some (.file content))
  | down {here there : Place} {name : Text} {rest : List Text} {n : Nat} {node : Option Node}
      (entry : IsEntry name) (free : here ∉ fs.closed)
      (held : fs.node? (here ++ [name]) = some .directory)
      (later : Reaches fs (here ++ [name]) rest n there node) :
      Reaches fs here (name :: rest) n there node
  | follow {here there : Place} {name target : Text} {rest : List Text} {n : Nat}
      {node : Option Node} (entry : IsEntry name) (free : here ∉ fs.closed)
      (held : fs.node? (here ++ [name]) = some (.link target))
      (later : Reaches fs (startOf here target) (namesOf target ++ rest) n there node) :
      Reaches fs here (name :: rest) (n + 1) there node

/-! ## Walks that succeed -/

theorem isEntry_of_not {name : Text} (moves : ¬ (name = [] ∨ name = ['.']))
    (notUp : name ≠ ['.', '.']) (short : ¬ nameMax < byteLength name) : IsEntry name := by
  rw [not_or] at moves
  exact ⟨moves.1, moves.2, notUp, Nat.le_of_not_lt short⟩

theorem free_of_not {here : Place} {name : Text} (allowed : ¬ (name ≠ [] ∧ here ∈ fs.closed))
    (moves : ¬ (name = [] ∨ name = ['.'])) : here ∉ fs.closed :=
  fun closed => allowed ⟨fun empty => moves (.inl empty), closed⟩

theorem reaches_of_walk {links : Nat} {here there : Place} {names : List Text} {node : Option Node}
    (walked : fs.walk links here names = .ok (there, node)) :
    ∃ n ≤ links, Reaches fs here names n there node := by
  fun_induction walk fs links here names with
  | case1 links here =>
      cases walked
      exact ⟨0, Nat.zero_le _, .done there⟩
  | case2 links here name rest barred => cases walked
  | case3 links here name rest allowed stays ih =>
      obtain ⟨n, le, later⟩ := ih walked
      exact ⟨n, le, .skip stays (fun full closed => allowed ⟨full, closed⟩) later⟩
  | case4 links here rest allowed moves ih =>
      obtain ⟨n, le, later⟩ := ih walked
      exact ⟨n, le, .up (free_of_not allowed moves) later⟩
  | case5 links here name rest allowed moves notUp long => cases walked
  | case6 links here name allowed moves notUp short held =>
      cases walked
      have entry := isEntry_of_not moves notUp short
      exact ⟨0, Nat.zero_le _, .missing entry (free_of_not allowed moves) held⟩
  | case7 links here name rest allowed moves notUp short held more => cases walked
  | case8 links here name rest allowed moves notUp short held ih =>
      obtain ⟨n, le, later⟩ := ih walked
      have entry := isEntry_of_not moves notUp short
      exact ⟨n, le, .down entry (free_of_not allowed moves) held later⟩
  | case9 links here name allowed moves notUp short content held =>
      cases walked
      have entry := isEntry_of_not moves notUp short
      exact ⟨0, Nat.zero_le _, .file entry (free_of_not allowed moves) held⟩
  | case10 links here name rest allowed moves notUp short content held more => cases walked
  | case11 here name rest allowed moves notUp short target held => cases walked
  | case12 here name rest allowed moves notUp short target held links ih =>
      obtain ⟨n, le, later⟩ := ih walked
      have entry := isEntry_of_not moves notUp short
      exact ⟨n + 1, Nat.succ_le_succ le, .follow entry (free_of_not allowed moves) held later⟩

theorem reaches_of_walkText {t : Text} {there : Place} {node : Option Node}
    (walked : fs.walkText t = .ok (there, node)) :
    ∃ n, Reaches fs (startOf fs.home t) (namesOf t) n there node := by
  unfold walkText at walked
  split_ifs at walked
  obtain ⟨n, -, reaches⟩ := reaches_of_walk walked
  exact ⟨n, reaches⟩

theorem walk_stays {links : Nat} {here : Place} {name : Text} {rest : List Text}
    (stays : name = [] ∨ name = ['.']) (free : name ≠ [] → here ∉ fs.closed) :
    fs.walk links here (name :: rest) = fs.walk links here rest := by
  rw [walk, if_neg fun barred => free barred.1 barred.2, if_pos stays]

theorem walk_up {links : Nat} {here : Place} {rest : List Text} (free : here ∉ fs.closed) :
    fs.walk links here (['.', '.'] :: rest) = fs.walk links here.dropLast rest := by
  rw [walk, if_neg fun barred => free barred.2, if_neg (by decide), if_pos rfl]

theorem walk_entry {links : Nat} {here : Place} {name : Text} {rest : List Text}
    (entry : IsEntry name) (free : here ∉ fs.closed) : fs.walk links here (name :: rest) =
      match fs.node? (here ++ [name]) with
      | none => if rest = [] then .ok (here ++ [name], none) else .error .noEntry
      | some .directory => fs.walk links (here ++ [name]) rest
      | some (.file content) =>
        if rest = [] then .ok (here ++ [name], some (.file content)) else .error .notDirectory
      | some (.link target) =>
        match links with
        | 0 => .error .tooManyLinks
        | links + 1 => fs.walk links (startOf here target) (namesOf target ++ rest) := by
  obtain ⟨nonempty, notDot, notUp, short⟩ := entry
  rw [walk, if_neg fun barred => free barred.2, if_neg (not_or.mpr ⟨nonempty, notDot⟩),
    if_neg notUp]
  exact if_neg (Nat.not_lt.mpr short)

theorem Reaches.walk_eq {here there : Place} {names : List Text} {n : Nat} {node : Option Node}
    (reaches : Reaches fs here names n there node) {links : Nat} (enough : n ≤ links) :
    fs.walk links here names = .ok (there, node) := by
  induction reaches generalizing links with
  | done here => rw [walk]
  | skip stays free later ih =>
      rw [walk_stays stays free]
      exact ih enough
  | up free later ih =>
      rw [walk_up free]
      exact ih enough
  | missing entry free held => simp [walk_entry entry free, held]
  | file entry free held => simp [walk_entry entry free, held]
  | down entry free held later ih =>
      rw [walk_entry entry free, held]
      exact ih enough
  | follow entry free held later ih =>
      cases links with
      | zero => exact absurd enough (Nat.not_succ_le_zero _)
      | succ links =>
          rw [walk_entry entry free, held]
          exact ih (Nat.le_of_succ_le_succ enough)

/-! ## One walk for a start and names -/

theorem IsEntry.moves {name : Text} (entry : IsEntry name) : ¬ (name = [] ∨ name = ['.']) :=
  not_or.mpr ⟨entry.1, entry.2.1⟩

theorem not_isEntry_up : ¬ IsEntry ['.', '.'] := fun entry => entry.2.2.1 rfl

theorem Reaches.links_unique {here there there' : Place} {names : List Text} {n n' : Nat}
    {node node' : Option Node} (reaches : Reaches fs here names n there node)
    (reaches' : Reaches fs here names n' there' node') : n = n' := by
  induction reaches generalizing n' there' node' with
  | done here =>
      cases reaches'
      rfl
  | skip stays free later ih =>
      cases reaches' with
      | skip _ _ later' => exact ih later'
      | up => simp at stays
      | missing entry => exact absurd stays entry.moves
      | file entry => exact absurd stays entry.moves
      | down entry => exact absurd stays entry.moves
      | follow entry => exact absurd stays entry.moves
  | up free later ih =>
      cases reaches' with
      | skip stays => simp at stays
      | up _ later' => exact ih later'
      | missing entry => exact absurd entry not_isEntry_up
      | file entry => exact absurd entry not_isEntry_up
      | down entry => exact absurd entry not_isEntry_up
      | follow entry => exact absurd entry not_isEntry_up
  | missing entry free held =>
      cases reaches' with
      | skip stays => exact absurd stays entry.moves
      | up => exact absurd entry not_isEntry_up
      | missing => rfl
      | file _ _ held' => simp [held] at held'
      | down _ _ held' => simp [held] at held'
      | follow _ _ held' => simp [held] at held'
  | file entry free held =>
      cases reaches' with
      | skip stays => exact absurd stays entry.moves
      | up => exact absurd entry not_isEntry_up
      | missing _ _ held' => simp [held] at held'
      | file => rfl
      | down _ _ held' => simp [held] at held'
      | follow _ _ held' => simp [held] at held'
  | down entry free held later ih =>
      cases reaches' with
      | skip stays => exact absurd stays entry.moves
      | up => exact absurd entry not_isEntry_up
      | missing _ _ held' => simp [held] at held'
      | file _ _ held' => simp [held] at held'
      | down _ _ _ later' => exact ih later'
      | follow _ _ held' => simp [held] at held'
  | follow entry free held later ih =>
      cases reaches' with
      | skip stays => exact absurd stays entry.moves
      | up => exact absurd entry not_isEntry_up
      | missing _ _ held' => simp [held] at held'
      | file _ _ held' => simp [held] at held'
      | down _ _ held' => simp [held] at held'
      | follow _ _ held' later' =>
          rw [held] at held'
          cases held'
          rw [ih later']

/-! ## One walk after another -/

def Splits (fs : FileSystem) (here : Place) (front back : List Text) (n : Nat) (there : Place)
    (node : Option Node) : Prop :=
  ∃ n₁ n₂ middle, n = n₁ + n₂ ∧ Reaches fs here front n₁ middle (some .directory) ∧
    Reaches fs middle back n₂ there node

theorem Reaches.splits_nil {here there : Place} {back names : List Text} {n : Nat}
    {node : Option Node} (whole : [] ++ back = names) (reaches : Reaches fs here names n there node) :
    Splits fs here [] back n there node := by
  obtain rfl : back = names := whole
  exact ⟨0, n, here, (Nat.zero_add n).symm, .done here, reaches⟩

/-- A walk along names and then others goes through a directory between them. -/
theorem Reaches.splits {here there : Place} {front back : List Text} {n : Nat} {node : Option Node}
    (more : back ≠ []) (reaches : Reaches fs here (front ++ back) n there node) :
    Splits fs here front back n there node := by
  generalize whole : front ++ back = names at reaches
  induction reaches generalizing front with
  | done here => exact absurd (List.append_eq_nil_iff.mp whole).2 more
  | skip stays free later ih =>
      rcases front with _ | ⟨head, front⟩
      · exact splits_nil whole (.skip stays free later)
      · obtain ⟨rfl, tail⟩ := List.cons_eq_cons.mp whole
        obtain ⟨n₁, n₂, middle, sum, first, second⟩ := ih tail
        exact ⟨n₁, n₂, middle, sum, .skip stays free first, second⟩
  | up free later ih =>
      rcases front with _ | ⟨head, front⟩
      · exact splits_nil whole (.up free later)
      · obtain ⟨rfl, tail⟩ := List.cons_eq_cons.mp whole
        obtain ⟨n₁, n₂, middle, sum, first, second⟩ := ih tail
        exact ⟨n₁, n₂, middle, sum, .up free first, second⟩
  | missing entry free held =>
      rcases front with _ | ⟨head, front⟩
      · exact splits_nil whole (.missing entry free held)
      · obtain ⟨-, tail⟩ := List.cons_eq_cons.mp whole
        exact absurd (List.append_eq_nil_iff.mp tail).2 more
  | file entry free held =>
      rcases front with _ | ⟨head, front⟩
      · exact splits_nil whole (.file entry free held)
      · obtain ⟨-, tail⟩ := List.cons_eq_cons.mp whole
        exact absurd (List.append_eq_nil_iff.mp tail).2 more
  | down entry free held later ih =>
      rcases front with _ | ⟨head, front⟩
      · exact splits_nil whole (.down entry free held later)
      · obtain ⟨rfl, tail⟩ := List.cons_eq_cons.mp whole
        obtain ⟨n₁, n₂, middle, sum, first, second⟩ := ih tail
        exact ⟨n₁, n₂, middle, sum, .down entry free held first, second⟩
  | @follow here there name target rest n node entry free held later ih =>
      rcases front with _ | ⟨head, front⟩
      · exact splits_nil whole (.follow entry free held later)
      · obtain ⟨rfl, rfl⟩ := List.cons_eq_cons.mp whole
        obtain ⟨n₁, n₂, middle, sum, first, second⟩ := ih (List.append_assoc _ front back)
        exact ⟨n₁ + 1, n₂, middle, by omega, .follow entry free held first, second⟩

end MaskedPath.FileSystem
