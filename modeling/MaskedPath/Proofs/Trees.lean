import MaskedPath.Proofs.Paths
import MaskedPath.Proofs.Walk
import Mathlib.Data.List.Induction

namespace MaskedPath.FileSystem

def IsName (name : Text) : Prop := IsEntry name ∧ '/' ∉ name ∧ '\x00' ∉ name

/-- The places that hold something form a tree of directories, and the current directory is there. -/
structure IsTree (fs : FileSystem) : Prop where
  names : ∀ {place node}, fs.node? place = some node → ∀ name ∈ place, IsName name
  parents : ∀ {place name node}, fs.node? (place ++ [name]) = some node →
    fs.node? place = some .directory
  home : fs.node? fs.home = some .directory

variable {fs : FileSystem}

instance (name : Text) : Decidable (IsName name) := by
  unfold IsName IsEntry; infer_instance

theorem mem_nodes_of_node? {place : Place} {node : Node} (held : fs.node? place = some node)
    (nonempty : place ≠ []) : (place, node) ∈ fs.nodes := by
  unfold node? at held
  rw [if_neg nonempty] at held
  obtain ⟨front, back, split, -⟩ := List.lookup_eq_some_iff.mp held
  rw [split]
  exact List.mem_append_right _ List.mem_cons_self

theorem isTree_of_nodes
    (placed : ∀ entry ∈ fs.nodes, (∀ name ∈ entry.1, IsName name) ∧
      fs.node? entry.1.dropLast = some .directory)
    (home : fs.node? fs.home = some .directory) : IsTree fs := by
  refine ⟨?_, ?_, home⟩
  · intro place node held name member
    have nonempty : place ≠ [] := List.ne_nil_of_mem member
    exact (placed _ (mem_nodes_of_node? held nonempty)).1 name member
  · intro place name node held
    have above := (placed _ (mem_nodes_of_node? held (List.concat_ne_nil name place))).2
    rw [List.dropLast_concat] at above
    exact above

theorem IsTree.placed (tree : IsTree fs) {entry : Place × Node} (member : entry ∈ fs.nodes) :
    (∀ name ∈ entry.1, IsName name) ∧ fs.node? entry.1.dropLast = some .directory := by
  obtain ⟨place, node⟩ := entry
  rcases List.eq_nil_or_concat place with rfl | ⟨parent, name, rfl⟩
  · exact ⟨fun name inside => (List.not_mem_nil inside).elim, rfl⟩
  · rw [List.concat_eq_append] at member ⊢
    have found : (fs.nodes.lookup (parent ++ [name])).isSome :=
      List.lookup_isSome_iff.mpr ⟨_, member, beq_self_eq_true _⟩
    obtain ⟨node', looked⟩ := Option.isSome_iff_exists.mp found
    have held : fs.node? (parent ++ [name]) = some node' := by
      unfold node?
      rw [if_neg (List.concat_ne_nil _ _), looked]
    rw [List.dropLast_concat]
    exact ⟨tree.names held, tree.parents held⟩

/-! ## Where walks end -/

theorem IsTree.dropLast (tree : IsTree fs) {place : Place}
    (held : fs.node? place = some .directory) : fs.node? place.dropLast = some .directory := by
  rcases List.eq_nil_or_concat place with rfl | ⟨parent, name, rfl⟩
  · exact held
  · rw [List.concat_eq_append, List.dropLast_concat]
    rw [List.concat_eq_append] at held
    exact tree.parents held

theorem IsTree.directory_of_append (tree : IsTree fs) {place below : Place} {node : Node}
    {name : Text} (held : fs.node? (place ++ below ++ [name]) = some node) :
    fs.node? place = some .directory := by
  induction below using List.reverseRecOn generalizing name node with
  | nil =>
      rw [List.append_nil] at held
      exact tree.parents held
  | append_singleton below last ih =>
      rw [← List.append_assoc] at held
      exact ih (tree.parents held)

theorem startOf_directory {here : Place} (held : fs.node? here = some .directory) (t : Text) :
    fs.node? (startOf here t) = some .directory := by
  unfold startOf
  split_ifs
  · rfl
  · exact held

theorem Reaches.node?_eq (tree : IsTree fs) {here there : Place} {names : List Text} {n : Nat}
    {node : Option Node} (reaches : Reaches fs here names n there node)
    (held : fs.node? here = some .directory) : fs.node? there = node := by
  induction reaches with
  | done here => exact held
  | skip stays free later ih => exact ih held
  | up free later ih => exact ih (tree.dropLast held)
  | missing entry free absent => exact absent
  | file entry free there => exact there
  | down entry free there later ih => exact ih there
  | follow entry free there later ih => exact ih (startOf_directory held _)

/-! ## Paths that lead to files -/

structure LeadsToFile (fs : FileSystem) (p : Path) (there : Place) (content : Bytes) : Prop where
  noNul : '\x00' ∉ p.render
  walked : fs.walkText p.render = .ok (there, some (.file content))

theorem LeadsToFile.read_eq {p : Path} {there : Place} {content : Bytes}
    (leads : fs.LeadsToFile p there content) : fs.read p =
      if there ∈ fs.closed then .error (.system .noPermission p.render) else .ok content := by
  unfold FileSystem.read
  dsimp only
  rw [if_neg leads.noNul, leads.walked]

theorem exists_leadsToFile_of_read {p : Path} {content : Bytes} (read : fs.read p = .ok content) :
    ∃ there, fs.LeadsToFile p there content ∧ there ∉ fs.closed := by
  unfold FileSystem.read at read
  dsimp only at read
  split_ifs at read with nul
  cases walked : fs.walkText p.render with
  | error e => simp [walked] at read
  | ok result =>
      rcases result with ⟨there, _ | held | _ | target⟩
      case some.file =>
        simp only [walked] at read
        split_ifs at read with closed
        cases read
        exact ⟨there, ⟨nul, walked⟩, closed⟩
      all_goals simp [walked] at read

theorem LeadsToFile.holds_eq {p : Path} {there : Place} {content : Bytes}
    (leads : fs.LeadsToFile p there content) (test : Node → Bool) :
    fs.holds test p = .ok (test (.file content)) := by
  unfold holds status
  dsimp only
  rw [if_neg leads.noNul, leads.walked]

theorem isFile_of_read {p : Path} {content : Bytes} (read : fs.read p = .ok content) :
    fs.isFile p = .ok true := by
  obtain ⟨there, leads, -⟩ := exists_leadsToFile_of_read read
  exact leads.holds_eq isFileNode

theorem isDirectory_of_read {p : Path} {content : Bytes} (read : fs.read p = .ok content) :
    fs.isDirectory p = .ok false := by
  obtain ⟨there, leads, -⟩ := exists_leadsToFile_of_read read
  exact leads.holds_eq isDirectoryNode

theorem exists_leadsToFile_of_isFile {p : Path} (isFile : fs.isFile p = .ok true) :
    ∃ there content, fs.LeadsToFile p there content := by
  unfold FileSystem.isFile holds status at isFile
  dsimp only at isFile
  split_ifs at isFile with nul
  · cases isFile
  · cases walked : fs.walkText p.render with
    | error e =>
        simp only [walked] at isFile
        split_ifs at isFile
        cases isFile
    | ok result =>
        rcases result with ⟨there, _ | held | _ | target⟩
        case some.file => exact ⟨there, held, nul, walked⟩
        all_goals simp [walked, isFileNode, Errno.isAbsence] at isFile

/-! ## Absolute paths -/

theorem Reaches.append {here middle there : Place} {front back : List Text} {n m : Nat}
    {node node' : Option Node} (first : Reaches fs here front n middle node')
    (directory : node' = some .directory) (second : Reaches fs middle back m there node) :
    Reaches fs here (front ++ back) (n + m) there node := by
  induction first with
  | done here =>
      rw [Nat.zero_add]
      exact second
  | skip stays free later ih => exact .skip stays free (ih directory second)
  | up free later ih => exact .up free (ih directory second)
  | missing => cases directory
  | file => cases directory
  | down entry free held later ih => exact .down entry free held (ih directory second)
  | @follow here there name target rest n node entry free held later ih =>
      have joined := ih directory second
      rw [List.append_assoc] at joined
      rw [Nat.add_right_comm]
      exact .follow entry free held joined

theorem IsTree.reaches_below (tree : IsTree fs) {place below : Place} {node : Node}
    (held : fs.node? (place ++ below) = some node) (plain : ∀ target, node ≠ .link target)
    (directory : fs.node? place = some .directory)
    (free : ∀ k < below.length, place ++ below.take k ∉ fs.closed) :
    Reaches fs place below 0 (place ++ below) (some node) := by
  induction below using List.reverseRecOn generalizing node with
  | nil =>
      rw [List.append_nil] at held ⊢
      rw [directory] at held
      cases held
      exact .done place
  | append_singleton below name ih =>
      rw [← List.append_assoc] at held ⊢
      rw [List.length_append, List.length_singleton] at free
      have free_before : ∀ k < below.length, place ++ below.take k ∉ fs.closed := by
        intro k less
        have before := free k (Nat.lt_succ_of_lt less)
        rwa [List.take_append_of_le_length (Nat.le_of_lt less)] at before
      have free_last : place ++ below ∉ fs.closed := by
        simpa using free below.length (Nat.lt_succ_self _)
      have above := ih (tree.parents held) (by simp) free_before
      have entry : IsEntry name := (tree.names held name (by simp)).1
      cases node with
      | file content => exact above.append rfl (.file entry free_last held)
      | directory => exact above.append rfl (.down entry free_last held (.done _))
      | link target => exact absurd rfl (plain target)

theorem IsTree.reaches_place (tree : IsTree fs) {place : Place} {node : Node}
    (held : fs.node? place = some node) (plain : ∀ target, node ≠ .link target)
    (free : ∀ k < place.length, place.take k ∉ fs.closed) :
    Reaches fs [] place 0 place (some node) :=
  @IsTree.reaches_below fs tree [] place _ held plain rfl free

/-- A way down the tree ends at the first closed directory. -/
theorem IsTree.walk_closed (tree : IsTree fs) {place below : Place} {node : Node} (links : Nat)
    (held : fs.node? (place ++ below) = some node) {k : Nat} (less : k < below.length)
    (closed : place ++ below.take k ∈ fs.closed) :
    fs.walk links place below = .error .noPermission := by
  induction k generalizing place below with
  | zero =>
      obtain ⟨name, rest, rfl⟩ := List.exists_cons_of_length_pos less
      have entry := (tree.names held name (by simp)).1
      rw [List.take_zero, List.append_nil] at closed
      rw [walk, if_pos ⟨entry.1, closed⟩]
  | succ k ih =>
      obtain ⟨name, rest, rfl⟩ := List.exists_cons_of_length_pos (Nat.zero_lt_of_lt less)
      have entry := (tree.names held name (by simp)).1
      by_cases here : place ∈ fs.closed
      · rw [walk, if_pos ⟨entry.1, here⟩]
      · have more : rest ≠ [] := List.ne_nil_of_length_pos (by simp at less; omega)
        have directory : fs.node? (place ++ [name]) = some .directory := by
          have split :
              fs.node? (place ++ [name] ++ rest.dropLast ++ [rest.getLast more]) = some node := by
            rw [List.append_assoc _ rest.dropLast, List.dropLast_append_getLast, List.append_assoc]
            exact held
          exact tree.directory_of_append split
        rw [walk_entry entry here, directory]
        exact ih (by simpa using held) (by simpa using less) (by simpa using closed)

theorem map_text_segments {names : List Text}
    (plain : ∀ name ∈ names, name ≠ [] ∧ name ≠ ['.'] ∧ '/' ∉ name) :
    (names.filterMap Segment.ofText?).map Segment.text = names := by
  induction names with
  | nil => rfl
  | cons name names ih =>
      obtain ⟨nonempty, notDot, noSlash⟩ := plain name List.mem_cons_self
      have segment : Segment.ofText? name = some ⟨name, nonempty, notDot, noSlash⟩ := by
        unfold Segment.ofText?
        rw [dif_pos ⟨nonempty, notDot, noSlash⟩]
      have rest := ih fun other member => plain other (List.mem_cons_of_mem _ member)
      rw [List.filterMap_cons, segment, List.map_cons, rest]

theorem map_text_ofNames {place : Place} (named : ∀ name ∈ place, IsName name) :
    (Path.ofNames place).segments.map Segment.text = place := by
  apply map_text_segments
  intro name member
  obtain ⟨⟨nonempty, notDot, -, -⟩, noSlash, -⟩ := named name member
  exact ⟨nonempty, notDot, noSlash⟩

theorem render_ofNames {place : Place} (named : ∀ name ∈ place, IsName name) :
    (Path.ofNames place).render = '/' :: joinWith ['/'] place := by
  rw [Path.render_eq _ fun relative => by cases relative]
  change '/' :: Path.body _ = _
  unfold Path.body
  rw [map_text_ofNames named]

theorem namesOf_joinWith {place : Place} (nonempty : place ≠ [])
    (noSlash : ∀ name ∈ place, '/' ∉ name) : namesOf (joinWith ['/'] place) = place := by
  apply splitWhere_joinWith nonempty
  · intro name member c inside
    have different : c ≠ '/' := fun same => noSlash name member (same ▸ inside)
    simpa using different
  · simp

theorem mem_joinWith {c : Char} {pieces : List Text} (inside : c ∈ joinWith ['/'] pieces) :
    c = '/' ∨ ∃ piece ∈ pieces, c ∈ piece := by
  induction pieces with
  | nil => cases inside
  | cons piece pieces ih =>
      cases pieces with
      | nil => exact .inr ⟨piece, List.mem_cons_self, inside⟩
      | cons next pieces =>
          simp only [joinWith, List.mem_append, List.mem_singleton] at inside
          rcases inside with (here | slash) | later
          · exact .inr ⟨piece, List.mem_cons_self, here⟩
          · exact .inl slash
          · rcases ih later with slash | ⟨other, member, there⟩
            · exact .inl slash
            · exact .inr ⟨other, List.mem_cons_of_mem _ member, there⟩

theorem walkText_absolute {t : Text} (short : byteLength ('/' :: t) < pathMax) :
    fs.walkText ('/' :: t) = fs.walk linkMax [] (namesOf t) := by
  have names : namesOf ('/' :: t) = [] :: namesOf t := by simp [namesOf, splitWhere]
  unfold walkText
  rw [if_neg (List.cons_ne_nil _ _), if_neg (Nat.not_le.mpr short), names,
    walk_stays (.inl rfl) fun full => absurd rfl full]
  rfl

theorem nul_not_mem_ofNames {place : Place} (named : ∀ name ∈ place, IsName name) :
    '\x00' ∉ (Path.ofNames place).render := by
  rw [render_ofNames named]
  intro member
  rcases List.mem_cons.mp member with slash | inside
  · cases slash
  · rcases mem_joinWith inside with slash | ⟨name, there, nul⟩
    · cases slash
    · exact (named name there).2.2 nul

theorem walkText_ofNames {place : Place} (named : ∀ name ∈ place, IsName name) (nonempty : place ≠ [])
    (short : byteLength (Path.ofNames place).render < pathMax) :
    fs.walkText (Path.ofNames place).render = fs.walk linkMax [] place := by
  rw [render_ofNames named] at short ⊢
  rw [walkText_absolute short, namesOf_joinWith nonempty fun name member => (named name member).2.1]

theorem IsTree.read_ofNames (tree : IsTree fs) {place : Place} {content : Bytes}
    (held : fs.node? place = some (.file content)) : fs.read (Path.ofNames place) =
      if pathMax ≤ byteLength (Path.ofNames place).render then
        .error (.system .nameTooLong (Path.ofNames place).render)
      else if ∃ k ≤ place.length, place.take k ∈ fs.closed then
        .error (.system .noPermission (Path.ofNames place).render)
      else .ok content := by
  have named := tree.names held
  have nonempty : place ≠ [] := by
    rintro rfl
    cases held
  unfold read
  dsimp only
  rw [if_neg (nul_not_mem_ofNames named)]
  by_cases long : pathMax ≤ byteLength (Path.ofNames place).render
  · have full : (Path.ofNames place).render ≠ [] := by
      rw [render_ofNames named]
      exact List.cons_ne_nil _ _
    rw [if_pos long, walkText, if_neg full, if_pos long]
  · rw [if_neg long, walkText_ofNames named nonempty (Nat.lt_of_not_le long)]
    by_cases barred : ∃ k < place.length, place.take k ∈ fs.closed
    · obtain ⟨k, less, closed⟩ := barred
      have ends : fs.walk linkMax [] place = .error .noPermission :=
        @IsTree.walk_closed fs tree [] place _ linkMax held k less closed
      rw [ends, if_pos ⟨k, Nat.le_of_lt less, closed⟩]
    · have free : ∀ k < place.length, place.take k ∉ fs.closed := fun k less closed =>
        barred ⟨k, less, closed⟩
      rw [(tree.reaches_place held (by simp) free).walk_eq (Nat.zero_le _)]
      dsimp only
      congr 1
      rw [eq_iff_iff]
      constructor
      · exact fun closed => ⟨place.length, Nat.le_refl _, by rwa [List.take_length]⟩
      · rintro ⟨k, le, closed⟩
        rcases Nat.lt_or_eq_of_le le with less | rfl
        · exact absurd closed (free k less)
        · rwa [List.take_length] at closed

end MaskedPath.FileSystem
