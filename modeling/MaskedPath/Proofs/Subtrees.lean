import MaskedPath.Proofs.Trees

namespace MaskedPath

/-! ## Names below a directory -/

structure IsWayDown (below : Place) : Prop where
  nonempty : below ≠ []
  named : ∀ name ∈ below, FileSystem.IsName name

def relativeName (below : Place) : Text := joinWith ['/'] below

theorem mem_joinWith_of_mem {c : Char} {piece separator : Text} {pieces : List Text}
    (member : piece ∈ pieces) (inside : c ∈ piece) : c ∈ joinWith separator pieces := by
  induction pieces with
  | nil => cases member
  | cons first pieces ih =>
      cases pieces with
      | nil =>
          rw [List.mem_singleton.mp member] at inside
          exact inside
      | cons next pieces =>
          simp only [joinWith, List.mem_append]
          rcases List.mem_cons.mp member with rfl | later
          · exact .inl (.inl inside)
          · exact .inr (ih later)

namespace IsWayDown

variable {below : Place}

theorem segments (down : IsWayDown below) :
    (below.filterMap Segment.ofText?).map Segment.text = below :=
  FileSystem.map_text_ofNames down.named

theorem body_segments (down : IsWayDown below) :
    Path.body (below.filterMap Segment.ofText?) = relativeName below := by
  unfold Path.body relativeName
  rw [down.segments]

theorem namesOf_eq (down : IsWayDown below) :
    FileSystem.namesOf (relativeName below) = below :=
  FileSystem.namesOf_joinWith down.nonempty fun name member => (down.named name member).2.1

theorem relativeName_inj {below' : Place} (down : IsWayDown below) (down' : IsWayDown below')
    (same : relativeName below = relativeName below') : below = below' := by
  rw [← down.namesOf_eq, same, down'.namesOf_eq]

theorem head?_relativeName (down : IsWayDown below) :
    (relativeName below).head? ≠ some '/' := by
  rw [← down.body_segments]
  exact Path.head?_body _

theorem relativeName_ne_nil (down : IsWayDown below) : relativeName below ≠ [] := by
  intro empty
  have names := down.namesOf_eq
  rw [empty] at names
  exact (down.named [] (by simp [← names, FileSystem.namesOf, splitWhere])).1.1 rfl

end IsWayDown

/-! ## Paths and their names -/

namespace Path

def names (p : Path) : List Text := p.segments.map Segment.text

theorem render_ne_nil (p : Path) : p.render ≠ [] := by
  intro empty
  have same := parse_render p
  rw [empty] at same
  rw [← same] at empty
  cases empty

theorem join_relativeName (d : Path) {below : Place} (down : IsWayDown below) :
    (d.join (relativeName below)).anchor = d.anchor ∧
      (d.join (relativeName below)).names = d.names ++ below := by
  have relative : anchorOf (relativeName below) = .relative := by
    unfold anchorOf
    rw [← down.body_segments, takeWhile_body]
    rfl
  have segments : segmentsOf (relativeName below) = below.filterMap Segment.ofText? := by
    rw [← down.body_segments, segmentsOf_body]
  unfold join
  rw [relative]
  refine ⟨rfl, ?_⟩
  change (d.segments ++ segmentsOf _).map Segment.text = _
  rw [segments, List.map_append, down.segments]
  rfl

theorem nul_mem_render {p : Path} : '\x00' ∈ p.render ↔ ∃ name ∈ p.names, '\x00' ∈ name := by
  by_cases named : p.anchor = .relative → p.segments ≠ []
  · rw [render_eq p named, List.mem_append]
    constructor
    · rintro (sign | inside)
      · cases anchor : p.anchor <;> simp [anchor, Anchor.text] at sign
      · rcases FileSystem.mem_joinWith inside with slash | found
        · cases slash
        · exact found
    · rintro ⟨name, member, nul⟩
      exact .inr (mem_joinWith_of_mem member nul)
  · simp only [Classical.not_imp, not_not] at named
    obtain ⟨anchor, segments⟩ := p
    obtain ⟨rfl, rfl⟩ := named
    simp [render, names]

end Path

namespace FileSystem

variable {fs : FileSystem}

theorem namesOf_slash (t : Text) : namesOf ('/' :: t) = [] :: namesOf t := by
  simp [namesOf, splitWhere]

theorem walk_empty (links : Nat) (here : Place) (rest : List Text) :
    fs.walk links here ([] :: rest) = fs.walk links here rest :=
  walk_stays (.inl rfl) fun full => absurd rfl full

theorem walk_render (links : Nat) (here : Place) {p : Path}
    (named : p.anchor = .relative → p.segments ≠ []) :
    fs.walk links here (namesOf p.render) = fs.walk links here p.names := by
  have walk_body (segments : List Segment) : fs.walk links here (namesOf (Path.body segments)) =
      fs.walk links here (segments.map Segment.text) := by
    by_cases nonempty : segments = []
    · subst nonempty
      exact walk_empty links here []
    · exact congrArg (fs.walk links here) (Path.splitWhere_body nonempty)
  obtain ⟨anchor, segments⟩ := p
  cases anchor with
  | relative =>
      cases segments with
      | nil => exact absurd rfl (named rfl)
      | cons s segments => exact walk_body (s :: segments)
  | root =>
      change fs.walk links here (namesOf ('/' :: Path.body segments)) = _
      rw [namesOf_slash, walk_empty]
      exact walk_body segments
  | doubleRoot =>
      change fs.walk links here (namesOf ('/' :: '/' :: Path.body segments)) = _
      rw [namesOf_slash, walk_empty, namesOf_slash, walk_empty]
      exact walk_body segments

theorem walk_names_of_ok {links : Nat} {here : Place} {p : Path} {result : Place × Option Node}
    (walked : fs.walk links here (namesOf p.render) = .ok result) :
    fs.walk links here p.names = .ok result := by
  by_cases named : p.anchor = .relative → p.segments ≠ []
  · rwa [walk_render links here named] at walked
  · simp only [Classical.not_imp, not_not] at named
    obtain ⟨anchor, segments⟩ := p
    obtain ⟨rfl, rfl⟩ := named
    change fs.walk links here [['.']] = _ at walked
    by_cases closed : here ∈ fs.closed
    · rw [walk, if_pos ⟨by decide, closed⟩] at walked
      cases walked
    · rwa [walk_stays (.inr rfl) fun _ => closed] at walked

theorem startOf_render (here : Place) (p : Path) :
    startOf here p.render = if p.anchor = .relative then here else [] := by
  obtain ⟨anchor, segments⟩ := p
  cases anchor with
  | relative =>
      cases segments with
      | nil => rfl
      | cons s segments => exact if_neg (Path.head?_body (s :: segments))
  | root => rfl
  | doubleRoot => rfl

def startOfPath (fs : FileSystem) (p : Path) : Place :=
  if p.anchor = .relative then fs.home else []

theorem walkText_render {p : Path} (named : p.anchor = .relative → p.segments ≠ [])
    (short : byteLength p.render < pathMax) :
    fs.walkText p.render = fs.walk linkMax (fs.startOfPath p) p.names := by
  unfold walkText startOfPath
  rw [if_neg p.render_ne_nil, if_neg (Nat.not_le.mpr short), startOf_render,
    walk_render _ _ named]

theorem walk_of_walkText {p : Path} {result : Place × Option Node}
    (walked : fs.walkText p.render = .ok result) :
    fs.walk linkMax (fs.startOfPath p) p.names = .ok result := by
  unfold walkText at walked
  split_ifs at walked
  rw [startOf_render] at walked
  exact walk_names_of_ok walked

/-! ## Walks down a tree -/

theorem Reaches.walk_append {here there : Place} {front : List Text} {n : Nat} {node : Option Node}
    (reaches : Reaches fs here front n there node) (directory : node = some .directory)
    (back : List Text) {links : Nat} (enough : n ≤ links) :
    fs.walk links here (front ++ back) = fs.walk (links - n) there back := by
  induction reaches generalizing links with
  | done here => rfl
  | skip stays free later ih =>
      rw [List.cons_append, walk_stays stays free]
      exact ih directory enough
  | up free later ih =>
      rw [List.cons_append, walk_up free]
      exact ih directory enough
  | missing => cases directory
  | file => cases directory
  | down entry free held later ih =>
      rw [List.cons_append, walk_entry entry free, held]
      exact ih directory enough
  | @follow here there name target rest n node entry free held later ih =>
      cases links with
      | zero => exact absurd enough (Nat.not_succ_le_zero _)
      | succ links =>
          rw [List.cons_append, walk_entry entry free, held, Nat.succ_sub_succ]
          dsimp only
          rw [← List.append_assoc]
          exact ih directory (Nat.le_of_succ_le_succ enough)

def NoLinks (fs : FileSystem) (place : Place) : Prop :=
  ∀ below target, fs.node? (place ++ below) ≠ some (.link target)

def NothingClosed (fs : FileSystem) (place : Place) : Prop := ∀ below, place ++ below ∉ fs.closed

theorem NothingClosed.here {place : Place} (free : NothingClosed fs place) : place ∉ fs.closed := by
  simpa using free []

theorem walk_absent {place below : Place} (noLinks : NoLinks fs place)
    (free : NothingClosed fs place) (directory : fs.node? place = some .directory)
    (named : ∀ name ∈ below, IsName name)
    (absent : fs.node? (place ++ below) = none) (links : Nat) :
    (∃ there, fs.walk links place below = .ok (there, none)) ∨
      ∃ e, fs.walk links place below = .error e ∧ e.isAbsence = true := by
  -- As long as the walk comes to directories, what is below them is below the first one.
  induction below generalizing place with
  | nil =>
      rw [List.append_nil, directory] at absent
      cases absent
  | cons name rest ih =>
      simp only [List.forall_mem_cons] at named
      rw [walk_entry named.1.1 free.here]
      cases held : fs.node? (place ++ [name]) with
      | none =>
          by_cases last : rest = []
          · exact .inl ⟨place ++ [name], if_pos last⟩
          · exact .inr ⟨.noEntry, if_neg last, rfl⟩
      | some node =>
          cases node with
          | file content =>
              by_cases last : rest = []
              · rw [last, held] at absent
                cases absent
              · exact .inr ⟨.notDirectory, if_neg last, rfl⟩
          | directory =>
              have noLinks_there : NoLinks fs (place ++ [name]) := fun below target => by
                rw [List.append_assoc]
                exact noLinks ([name] ++ below) target
              have free_there : NothingClosed fs (place ++ [name]) := fun below => by
                rw [List.append_assoc]
                exact free ([name] ++ below)
              refine ih noLinks_there free_there held named.2 ?_
              rw [List.append_assoc]
              exact absent
          | link target => exact absurd held (noLinks [name] target)

/-! ## Paths into a subtree -/

structure LeadsTo (fs : FileSystem) (d : Path) (place : Place) : Prop where
  noNul : '\x00' ∉ d.render
  walked : fs.walkText d.render = .ok (place, some .directory)

namespace LeadsTo

variable {d : Path} {place below : Place}

theorem isDirectory (leads : LeadsTo fs d place) : fs.isDirectory d = .ok true := by
  unfold FileSystem.isDirectory holds status
  dsimp only
  rw [if_neg leads.noNul, leads.walked]
  rfl

theorem short (leads : LeadsTo fs d place) : byteLength d.render < pathMax := by
  have walked := leads.walked
  unfold walkText at walked
  split_ifs at walked with empty long
  exact Nat.lt_of_not_le long

theorem node?_eq (tree : IsTree fs) (leads : LeadsTo fs d place) :
    fs.node? place = some .directory := by
  obtain ⟨n, reaches⟩ := reaches_of_walkText leads.walked
  exact reaches.node?_eq tree (startOf_directory tree.home _)

/-- The path of a way down is walked down from the directory. -/
theorem walkText_join (leads : LeadsTo fs d place) (down : IsWayDown below)
    (short : byteLength (d.join (relativeName below)).render < pathMax) :
    ∃ links, fs.walkText (d.join (relativeName below)).render = fs.walk links place below := by
  obtain ⟨n, enough, reaches⟩ := reaches_of_walk (walk_of_walkText leads.walked)
  obtain ⟨anchor, names⟩ := d.join_relativeName down
  have named : (d.join (relativeName below)).segments ≠ [] := by
    intro none
    rw [Path.names, none, List.map_nil] at names
    exact down.nonempty (List.append_eq_nil_iff.mp names.symm).2
  refine ⟨linkMax - n, ?_⟩
  rw [walkText_render (fun _ => named) short, startOfPath, anchor, names]
  exact reaches.walk_append rfl below enough

theorem noNul_join (leads : LeadsTo fs d place) (down : IsWayDown below) :
    '\x00' ∉ (d.join (relativeName below)).render := by
  rw [Path.nul_mem_render, (d.join_relativeName down).2]
  rintro ⟨name, member, nul⟩
  rcases List.mem_append.mp member with above | inside
  · exact leads.noNul (Path.nul_mem_render.mpr ⟨name, above, nul⟩)
  · exact (down.named name inside).2.2 nul

theorem leadsToFile_join (tree : IsTree fs) (leads : LeadsTo fs d place)
    (free : NothingClosed fs place) (down : IsWayDown below)
    (short : byteLength (d.join (relativeName below)).render < pathMax) {content : Bytes}
    (held : fs.node? (place ++ below) = some (.file content)) :
    fs.LeadsToFile (d.join (relativeName below)) (place ++ below) content := by
  obtain ⟨links, walked⟩ := leads.walkText_join down short
  refine ⟨leads.noNul_join down, ?_⟩
  rw [walked]
  have reaches := tree.reaches_below held (by simp) (leads.node?_eq tree) fun k _ => free _
  exact reaches.walk_eq (Nat.zero_le _)

theorem isFile_join (tree : IsTree fs) (leads : LeadsTo fs d place) (noLinks : NoLinks fs place)
    (free : NothingClosed fs place) (down : IsWayDown below)
    (short : byteLength (d.join (relativeName below)).render < pathMax)
    (noFile : ∀ content, fs.node? (place ++ below) ≠ some (.file content)) :
    fs.isFile (d.join (relativeName below)) = .ok false := by
  have directory := leads.node?_eq tree
  obtain ⟨links, walked⟩ := leads.walkText_join down short
  unfold FileSystem.isFile holds status
  dsimp only
  rw [if_neg (leads.noNul_join down), walked]
  cases held : fs.node? (place ++ below) with
  | none =>
      rcases walk_absent noLinks free directory down.named held links with ⟨there, nothing⟩ | failed
      · rw [nothing]
        rfl
      · obtain ⟨e, failed, absence⟩ := failed
        rw [failed]
        exact if_pos absence
  | some node =>
      have plain : ∀ target, node ≠ .link target := fun target same =>
        noLinks below target (same ▸ held)
      rw [(tree.reaches_below held plain directory fun k _ => free _).walk_eq (Nat.zero_le _)]
      cases node with
      | file content => exact absurd held (noFile content)
      | directory => rfl
      | link target => exact absurd rfl (plain target)

end LeadsTo

end FileSystem

end MaskedPath
