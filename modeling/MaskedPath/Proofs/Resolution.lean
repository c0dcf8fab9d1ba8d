import MaskedPath.FileSystem.Resolve
import MaskedPath.Proofs.Trees
import Mathlib.Data.List.Perm.Subperm

/-!
# Resolution follows the walk

Resolving the links of a path by hand comes to the place where the system's walk ends, as long as the
system does not refuse to look at a link on the way. The invariant is about the links being resolved:
each takes at least as many links as the walk still follows, so none of them is met again, and their
places are distinct, so that there is depth enough.
-/

namespace MaskedPath.FileSystem

variable {fs : FileSystem}

/-! ## Spots and their places -/

theorem normalNames_concat (names : List Text) (name : Text) :
    normalNames (names ++ [name]) =
      if name = [] ∨ name = ['.'] then normalNames names
      else if name = ['.', '.'] then (normalNames names).dropLast
      else normalNames names ++ [name] := by
  unfold normalNames
  rw [List.foldl_append]
  rfl

theorem normalNames_of_entries {names : List Text} (entries : ∀ name ∈ names, IsEntry name) :
    normalNames names = names := by
  induction names using List.reverseRecOn with
  | nil => rfl
  | append_singleton names name ih =>
      have entry := entries name (by simp)
      rw [normalNames_concat, if_neg entry.moves, if_neg entry.2.2.1,
        ih fun other member => entries other (by simp [member])]

def Spot.Clean (s : Spot) : Prop := ∀ name ∈ s.names, ¬ (name = [] ∨ name = ['.'])

namespace Spot

theorem clean_start {here : Spot} (clean : here.Clean) (t : Text) : (here.start t).Clean := by
  unfold start
  split_ifs
  · intro name member
    cases member
  · exact clean

theorem Clean.child {s : Spot} (clean : s.Clean) {name : Text}
    (moves : ¬ (name = [] ∨ name = ['.'])) : (s.child name).Clean := by
  intro other member
  rcases List.mem_append.mp member with before | last
  · exact clean other before
  · rw [List.mem_singleton.mp last]
    exact moves

theorem Clean.parent {s : Spot} (clean : s.Clean) : s.parent.Clean := by
  have up : ¬ (['.', '.'] = ([] : Text) ∨ ['.', '.'] = ['.']) := by decide
  unfold Spot.parent
  cases last : s.names.getLast? with
  | none =>
      cases s.isRelative with
      | true => exact clean.child up
      | false => exact clean
  | some name =>
      by_cases same : name = ['.', '.']
      · simp only [same, if_true]
        exact clean.child up
      · simp only [same, if_false]
        exact fun other member => clean other (List.dropLast_subset _ member)

end Spot

theorem placeOf_child (s : Spot) (name : Text) : fs.placeOf (s.child name) =
    if name = [] ∨ name = ['.'] then fs.placeOf s
    else if name = ['.', '.'] then (fs.placeOf s).dropLast
    else fs.placeOf s ++ [name] := by
  unfold placeOf Spot.child
  cases s.isRelative
  · exact normalNames_concat _ _
  · simp only [if_true, ← List.append_assoc]
    exact normalNames_concat _ _

theorem placeOf_entry (s : Spot) {name : Text} (entry : IsEntry name) :
    fs.placeOf (s.child name) = fs.placeOf s ++ [name] := by
  rw [placeOf_child, if_neg entry.moves, if_neg entry.2.2.1]

theorem placeOf_up (s : Spot) : fs.placeOf (s.child ['.', '.']) = (fs.placeOf s).dropLast := by
  rw [placeOf_child, if_neg (by decide), if_pos rfl]

theorem placeOf_parent {s : Spot} (clean : s.Clean) :
    fs.placeOf s.parent = (fs.placeOf s).dropLast := by
  unfold Spot.parent
  cases last : s.names.getLast? with
  | none =>
      have nothing : s.names = [] := List.getLast?_eq_none_iff.mp last
      cases relative : s.isRelative with
      | true =>
          simp only [if_true]
          exact placeOf_up s
      | false => simp [placeOf, relative, nothing, normalNames]
  | some name =>
      by_cases same : name = ['.', '.']
      · simp only [same, if_true]
        exact placeOf_up s
      · obtain ⟨front, split⟩ := List.getLast?_eq_some_iff.mp last
        have whole : s = Spot.child { s with names := front } name := by
          unfold Spot.child
          rw [← split]
        have moves := clean name (by simp [split])
        simp only [same, if_false]
        rw [show fs.placeOf s = _ from congrArg fs.placeOf whole, placeOf_child, if_neg moves,
          if_neg same, List.dropLast_concat, split, List.dropLast_concat]

theorem placeOf_start (s : Spot) (t : Text) :
    fs.placeOf (s.start t) = startOf (fs.placeOf s) t := by
  unfold Spot.start startOf
  split_ifs <;> rfl

theorem not_refuses {s : Spot} (free : fs.closed = []) (short : byteLength s.text < pathMax) :
    ¬ fs.Refuses s := by
  rintro (long | ⟨k, -, closed⟩)
  · exact Nat.not_le_of_lt short long
  · rw [free] at closed
    cases closed

theorem linkAt?_of_node {s : Spot} {target : Text} (seen : ¬ fs.Refuses s)
    (held : fs.node? (fs.placeOf s) = some (.link target)) : fs.linkAt? s = some target := by
  unfold linkAt?
  rw [if_neg seen, held]

theorem linkAt?_of_not_link {s : Spot}
    (held : ∀ target, fs.node? (fs.placeOf s) ≠ some (.link target)) : fs.linkAt? s = none := by
  unfold linkAt?
  split_ifs
  · rfl
  · cases node : fs.node? (fs.placeOf s) with
    | none => rfl
    | some node' =>
        cases node' with
        | file content => rfl
        | directory => rfl
        | link target => exact absurd node (held target)

theorem linkAt?_child {here : Place} {spot : Spot} {name : Text} (at_here : fs.placeOf spot = here)
    (entry : IsEntry name) (plain : ∀ target, fs.node? (here ++ [name]) ≠ some (.link target)) :
    fs.linkAt? (spot.child name) = none := by
  apply linkAt?_of_not_link
  rw [placeOf_entry spot entry, at_here]
  exact plain

/-! ## Steps of the resolution -/

theorem resolveNames_stays {depth : Nat} {active : List Spot} {here : Spot} {name : Text}
    {rest : List Text} (stays : name = [] ∨ name = ['.']) :
    fs.resolveNames depth active here (name :: rest) = fs.resolveNames depth active here rest := by
  rw [resolveNames, if_pos stays]

theorem resolveNames_up {depth : Nat} {active : List Spot} {here : Spot} {rest : List Text} :
    fs.resolveNames depth active here (['.', '.'] :: rest) =
      fs.resolveNames depth active here.parent rest := by
  rw [resolveNames, if_neg (by decide), if_pos rfl]

theorem resolveNames_entry {depth : Nat} {active : List Spot} {here : Spot} {name : Text}
    {rest : List Text} (entry : IsEntry name) (plain : fs.linkAt? (here.child name) = none) :
    fs.resolveNames depth active here (name :: rest) =
      fs.resolveNames depth active (here.child name) rest := by
  rw [resolveNames, if_neg entry.moves, if_neg entry.2.2.1]
  dsimp only
  rw [plain]

theorem resolveNames_link {depth : Nat} {active : List Spot} {here spot : Spot} {name target : Text}
    {rest : List Text} (entry : IsEntry name) (link : fs.linkAt? (here.child name) = some target)
    (unmet : here.child name ∉ active)
    (resolved : fs.resolveNames depth (here.child name :: active) (here.start target)
      (namesOf target) = .done spot) :
    fs.resolveNames (depth + 1) active here (name :: rest) =
      fs.resolveNames (depth + 1) active spot rest := by
  rw [resolveNames, if_neg entry.moves, if_neg entry.2.2.1]
  dsimp only
  rw [link]
  dsimp only
  rw [if_neg unmet, resolved]

/-! ## What is looked at -/

def lookedAt (fs : FileSystem) (depth : Nat) (active : List Spot) (here : Spot) :
    List Text → List Spot
  | [] => []
  | name :: rest =>
    if name = [] ∨ name = ['.'] then fs.lookedAt depth active here rest
    else if name = ['.', '.'] then fs.lookedAt depth active here.parent rest
    else
      let there := here.child name
      there :: match fs.linkAt? there with
        | some target =>
          match depth with
          | 0 => []
          | depth + 1 =>
            if there ∈ active then []
            else fs.lookedAt depth (there :: active) (here.start target) (namesOf target) ++
              match fs.resolveNames depth (there :: active) (here.start target)
                  (namesOf target) with
              | .done spot => fs.lookedAt (depth + 1) active spot rest
              | .loop .. => []
        | none => fs.lookedAt depth active there rest
termination_by names => (depth, names.length)

def SeesLinkAt (fs : FileSystem) (s : Spot) : Prop :=
  ∀ target, fs.node? (fs.placeOf s) = some (.link target) → ¬ fs.Refuses s

/-- Whether the system does not refuse to look at a link that is come to while a path is resolved. -/
def SeesLinks (fs : FileSystem) (p : Path) : Prop :=
  ∀ s ∈ fs.lookedAt fs.resolutionDepth [] (Spot.start ⟨true, []⟩ p.render) (namesOf p.render),
    fs.SeesLinkAt s

def spotsSeen (fs : FileSystem) (p : Path) : List Spot :=
  let start := Spot.start ⟨true, []⟩ p.render
  fs.lookedAt fs.resolutionDepth [] start (namesOf p.render) ++
    match fs.resolve p with
    | .ok resolved => [.ofPath resolved]
    | .error _ => []

/-- Whether the system refuses none of the spots seen while a path is resolved. -/
def Admits (fs : FileSystem) (p : Path) : Prop := ∀ s ∈ fs.spotsSeen p, ¬ fs.Refuses s

section

variable {depth : Nat} {active : List Spot} {here spot : Spot} {name target : Text}
  {rest : List Text}

theorem lookedAt_stays (stays : name = [] ∨ name = ['.']) :
    fs.lookedAt depth active here (name :: rest) = fs.lookedAt depth active here rest := by
  rw [lookedAt, if_pos stays]

theorem lookedAt_up : fs.lookedAt depth active here (['.', '.'] :: rest) =
    fs.lookedAt depth active here.parent rest := by
  rw [lookedAt, if_neg (by decide), if_pos rfl]

theorem mem_lookedAt_child (entry : IsEntry name) :
    here.child name ∈ fs.lookedAt depth active here (name :: rest) := by
  rw [lookedAt, if_neg entry.moves, if_neg entry.2.2.1]
  exact List.mem_cons_self

theorem lookedAt_entry (entry : IsEntry name) (plain : fs.linkAt? (here.child name) = none) :
    fs.lookedAt depth active here (name :: rest) =
      here.child name :: fs.lookedAt depth active (here.child name) rest := by
  rw [lookedAt, if_neg entry.moves, if_neg entry.2.2.1]
  dsimp only
  rw [plain]

theorem lookedAt_link (entry : IsEntry name) (link : fs.linkAt? (here.child name) = some target)
    (unmet : here.child name ∉ active) :
    fs.lookedAt (depth + 1) active here (name :: rest) = here.child name ::
      (fs.lookedAt depth (here.child name :: active) (here.start target) (namesOf target) ++
        match fs.resolveNames depth (here.child name :: active) (here.start target)
            (namesOf target) with
        | .done spot => fs.lookedAt (depth + 1) active spot rest
        | .loop .. => []) := by
  rw [lookedAt, if_neg entry.moves, if_neg entry.2.2.1]
  dsimp only
  rw [link]
  dsimp only
  rw [if_neg unmet]

end

/-! ## Links being resolved -/

def Costs (fs : FileSystem) (place : Place) (n : Nat) : Prop :=
  ∃ target there node, fs.node? place = some (.link target) ∧
    Reaches fs (startOf place.dropLast target) (namesOf target) n there node

theorem costs_of_link {here there : Place} {name target : Text} {n : Nat} {node : Option Node}
    (held : fs.node? (here ++ [name]) = some (.link target))
    (reaches : Reaches fs (startOf here target) (namesOf target) n there node) :
    Costs fs (here ++ [name]) n := by
  refine ⟨target, there, node, held, ?_⟩
  rw [List.dropLast_concat]
  exact reaches

theorem Costs.unique {place : Place} {n m : Nat} (costs : Costs fs place n)
    (costs' : Costs fs place m) : n = m := by
  obtain ⟨target, there, node, held, reaches⟩ := costs
  obtain ⟨target', there', node', held', reaches'⟩ := costs'
  rw [held] at held'
  cases held'
  exact reaches.links_unique reaches'

theorem Costs.mem_nodes {place : Place} {n : Nat} (costs : Costs fs place n) :
    place ∈ fs.nodes.map (·.1) := by
  obtain ⟨target, -, -, held, -⟩ := costs
  have nonempty : place ≠ [] := by
    rintro rfl
    cases held
  exact List.mem_map_of_mem (mem_nodes_of_node? held nonempty)

/-- What holds of the links being resolved while a walk still follows `n` links. -/
structure Pending (fs : FileSystem) (depth : Nat) (active : List Spot) (n : Nat) : Prop where
  heavy : ∀ link ∈ active, ∃ m, Costs fs (fs.placeOf link) m ∧ n ≤ m
  distinct : (active.map fs.placeOf).Nodup
  deep : fs.nodes.length < depth + active.length

namespace Pending

variable {depth n m : Nat} {active : List Spot}

theorem mono (pending : Pending fs depth active n) (le : m ≤ n) : Pending fs depth active m := by
  refine ⟨fun link member => ?_, pending.distinct, pending.deep⟩
  obtain ⟨k, costs, heavy⟩ := pending.heavy link member
  exact ⟨k, costs, Nat.le_trans le heavy⟩

theorem unmet (pending : Pending fs depth active n) {place : Place} (costs : Costs fs place m)
    (less : m < n) : place ∉ active.map fs.placeOf := by
  intro member
  obtain ⟨link, there, rfl⟩ := List.mem_map.mp member
  obtain ⟨k, costs', heavy⟩ := pending.heavy link there
  have same := costs.unique costs'
  omega

theorem length_lt (pending : Pending fs depth active n) {place : Place} (costs : Costs fs place m)
    (less : m < n) : active.length < fs.nodes.length := by
  have distinct : (place :: active.map fs.placeOf).Nodup :=
    List.nodup_cons.mpr ⟨pending.unmet costs less, pending.distinct⟩
  have known : place :: active.map fs.placeOf ⊆ fs.nodes.map (·.1) := by
    intro other member
    rcases List.mem_cons.mp member with rfl | member
    · exact costs.mem_nodes
    · obtain ⟨link, there, rfl⟩ := List.mem_map.mp member
      obtain ⟨k, costs', -⟩ := pending.heavy link there
      exact costs'.mem_nodes
  have bound := (List.subperm_of_subset distinct known).length_le
  simp only [List.length_cons, List.length_map] at bound
  omega

theorem exists_depth (pending : Pending fs depth active n) {place : Place}
    (costs : Costs fs place m) (less : m < n) : ∃ d, depth = d + 1 := by
  have room := pending.length_lt costs less
  have deep := pending.deep
  exact ⟨depth - 1, by omega⟩

theorem enter (pending : Pending fs (depth + 1) active n) {there : Spot}
    (costs : Costs fs (fs.placeOf there) m) (less : m < n) :
    Pending fs depth (there :: active) m := by
  refine ⟨?_, List.nodup_cons.mpr ⟨pending.unmet costs less, pending.distinct⟩, ?_⟩
  · intro link member
    rcases List.mem_cons.mp member with rfl | member
    · exact ⟨m, costs, Nat.le_refl m⟩
    · exact (pending.mono (Nat.le_of_lt less)).heavy link member
  · have deep := pending.deep
    simp only [List.length_cons]
    omega

end Pending

/-! ## The walk and the resolution -/

theorem Reaches.afterLink {here there : Place} {target rest : List Text} {n : Nat}
    {node : Option Node} (reaches : Reaches fs here (target ++ rest) n there node) :
    ∃ n₁ n₂ middle node', n = n₁ + n₂ ∧ Reaches fs here target n₁ middle node' ∧
      (rest = [] ∧ middle = there ∨ Reaches fs middle rest n₂ there node) := by
  by_cases more : rest = []
  · subst more
    rw [List.append_nil] at reaches
    exact ⟨n, 0, there, node, rfl, reaches, .inl ⟨rfl, rfl⟩⟩
  · obtain ⟨n₁, n₂, middle, sum, first, second⟩ := reaches.splits more
    exact ⟨n₁, n₂, middle, _, sum, first, .inr second⟩

/-- Where a walk along names ends, their resolution does. -/
theorem resolveNames_of_reaches {depth : Nat} {active : List Spot} {spot : Spot} {names : List Text}
    {here there : Place} {n : Nat} {node : Option Node}
    (reaches : Reaches fs here names n there node) (at_here : fs.placeOf spot = here)
    (clean : spot.Clean) (pending : Pending fs depth active n)
    (sees : ∀ s ∈ fs.lookedAt depth active spot names, fs.SeesLinkAt s) :
    ∃ last : Spot, fs.resolveNames depth active spot names = .done last ∧
      fs.placeOf last = there ∧ last.Clean := by
  -- Outside on the links that the walk follows, inside on the names before the next one.
  induction n using Nat.strongRecOn generalizing depth active spot names here there node with
  | ind n ih =>
    induction names generalizing spot here with
    | nil =>
        cases reaches
        exact ⟨spot, by rw [resolveNames], at_here, clean⟩
    | cons name rest inner =>
        have place : ∀ name, IsEntry name → fs.placeOf (spot.child name) = here ++ [name] := by
          intro name entry
          rw [placeOf_entry spot entry, at_here]
        cases reaches with
        | skip stays free later =>
            rw [resolveNames_stays stays]
            rw [lookedAt_stays stays] at sees
            exact inner later at_here clean sees
        | up free later =>
            rw [resolveNames_up]
            rw [lookedAt_up] at sees
            exact inner later (by rw [placeOf_parent clean, at_here]) clean.parent sees
        | missing entry free held =>
            have plain := linkAt?_child at_here entry fun target => by simp [held]
            rw [resolveNames_entry entry plain, resolveNames]
            exact ⟨spot.child name, rfl, place name entry, clean.child entry.moves⟩
        | file entry free held =>
            have plain := linkAt?_child at_here entry fun target => by simp [held]
            rw [resolveNames_entry entry plain, resolveNames]
            exact ⟨spot.child name, rfl, place name entry, clean.child entry.moves⟩
        | down entry free held later =>
            have plain := linkAt?_child at_here entry fun target => by simp [held]
            rw [resolveNames_entry entry plain]
            rw [lookedAt_entry entry plain] at sees
            exact inner later (place name entry) (clean.child entry.moves) fun s member =>
              sees s (List.mem_cons_of_mem _ member)
        | @follow _ _ _ target _ n _ entry free held later =>
            have held_there : fs.node? (fs.placeOf (spot.child name)) = some (.link target) := by
              rw [place name entry, held]
            have link : fs.linkAt? (spot.child name) = some target :=
              linkAt?_of_node (sees _ (mem_lookedAt_child entry) target held_there) held_there
            obtain ⟨n₁, n₂, middle, node', sum, first, second⟩ := later.afterLink
            have costs : Costs fs (fs.placeOf (spot.child name)) n₁ := by
              rw [place name entry]
              exact costs_of_link held first
            have less : n₁ < n + 1 := by omega
            have unmet : spot.child name ∉ active := fun member =>
              pending.unmet costs less (List.mem_map_of_mem member)
            obtain ⟨depth, rfl⟩ := pending.exists_depth costs less
            rw [lookedAt_link entry link unmet] at sees
            have inTarget := fun s member =>
              sees s (List.mem_cons_of_mem _ (List.mem_append_left _ member))
            obtain ⟨stop, resolved, stop_place, stop_clean⟩ :=
              ih n₁ less first (by rw [placeOf_start, at_here])
                (Spot.clean_start clean target) (pending.enter costs less) inTarget
            rw [resolveNames_link entry link unmet resolved]
            rw [resolved] at sees
            have inRest := fun s member =>
              sees s (List.mem_cons_of_mem _ (List.mem_append_right _ member))
            rcases second with ⟨rfl, rfl⟩ | second
            · exact ⟨stop, by rw [resolveNames], stop_place, stop_clean⟩
            · exact ih n₂ (by omega) second stop_place stop_clean (pending.mono (by omega)) inRest

/-! ## Resolved paths -/

theorem nodes_lt_resolutionDepth (fs : FileSystem) : fs.nodes.length < fs.resolutionDepth := by
  unfold resolutionDepth
  exact Nat.lt_of_lt_of_le (Nat.lt_succ_self _) (Nat.le_mul_of_pos_right _ (by omega))

theorem placeOf_home (tree : IsTree fs) : fs.placeOf ⟨true, []⟩ = fs.home := by
  unfold placeOf
  simp only [if_true, List.append_nil]
  exact normalNames_of_entries fun name member => (tree.names tree.home name member).1

theorem IsTree.resolve_of_leadsToFile (tree : IsTree fs) {p : Path} {there : Place}
    {content : Bytes} (leads : fs.LeadsToFile p there content) (sees : fs.SeesLinks p) :
    fs.resolve p = .ok (Path.ofNames there) ∧ fs.node? there = some (.file content) := by
  obtain ⟨n, reaches⟩ := reaches_of_walkText leads.walked
  have start_place : fs.placeOf (Spot.start ⟨true, []⟩ p.render) = startOf fs.home p.render := by
    rw [placeOf_start, placeOf_home tree]
  have nothing : Spot.Clean ⟨true, []⟩ := fun name member => (List.not_mem_nil member).elim
  have pending : Pending fs fs.resolutionDepth [] n :=
    ⟨fun link member => (List.not_mem_nil member).elim, List.nodup_nil, nodes_lt_resolutionDepth fs⟩
  obtain ⟨last, names, last_place, -⟩ := resolveNames_of_reaches reaches start_place
    (Spot.clean_start nothing _) pending sees
  have held := reaches.node?_eq tree (startOf_directory tree.home _)
  have known : fs.status (Path.ofNames there).render ≠ .error .tooManyLinks := by
    intro loops
    have unread : fs.read (Path.ofNames there) =
        .error (.system .tooManyLinks (Path.ofNames there).render) := by
      unfold status at loops
      unfold FileSystem.read
      dsimp only
      rw [if_neg (nul_not_mem_ofNames (tree.names held))]
      rcases walked : fs.walkText (Path.ofNames there).render with e | ⟨place, _ | node⟩
      all_goals simp_all
    rw [tree.read_ofNames held] at unread
    split_ifs at unread <;> simp at unread
  refine ⟨?_, held⟩
  unfold resolve
  dsimp only
  rw [if_neg leads.noNul, names]
  dsimp only [Resolution.path]
  rw [last_place]
  split
  · rename_i loops
    exact absurd loops known
  · rfl

theorem bars_ofNames {place : Place} (named : ∀ name ∈ place, IsName name) :
    fs.Bars (.ofPath (Path.ofNames place)) ↔ ∃ k < place.length, place.take k ∈ fs.closed := by
  have taken : ∀ k, normalNames (place.take k) = place.take k := fun k =>
    normalNames_of_entries fun name member => (named name (List.mem_of_mem_take member)).1
  unfold Bars Spot.ofPath placeOf
  simp [map_text_ofNames named, taken]

/-- A resolved path leads to the file that the path leads to, unless the system refuses it. -/
theorem IsTree.read_of_resolve (tree : IsTree fs) {p q : Path} {there : Place} {content : Bytes}
    (resolved : fs.resolve p = .ok q) (sees : fs.SeesLinks p)
    (leads : fs.LeadsToFile p there content) : fs.read q =
      if pathMax ≤ byteLength q.render then .error (.system .nameTooLong q.render)
      else if fs.Bars (.ofPath q) ∨ there ∈ fs.closed then .error (.system .noPermission q.render)
      else .ok content := by
  obtain ⟨resolved', held⟩ := tree.resolve_of_leadsToFile leads sees
  rw [resolved, Except.ok.injEq] at resolved'
  subst resolved'
  rw [tree.read_ofNames held]
  refine if_congr Iff.rfl rfl (if_congr ?_ rfl rfl)
  rw [bars_ofNames (tree.names held)]
  constructor
  · rintro ⟨k, le, closed⟩
    rcases Nat.lt_or_eq_of_le le with less | rfl
    · exact .inl ⟨k, less, closed⟩
    · rw [List.take_length] at closed
      exact .inr closed
  · rintro (⟨k, less, closed⟩ | closed)
    · exact ⟨k, Nat.le_of_lt less, closed⟩
    · exact ⟨there.length, Nat.le_refl _, by rwa [List.take_length]⟩

theorem Admits.sees {p : Path} (admits : fs.Admits p) : fs.SeesLinks p :=
  fun s member _ _ => admits s (List.mem_append_left _ member)

theorem Admits.resolved {p q : Path} (admits : fs.Admits p) (resolved : fs.resolve p = .ok q) :
    ¬ fs.Refuses (.ofPath q) := by
  apply admits
  unfold spotsSeen
  rw [resolved]
  exact List.mem_append_right _ List.mem_cons_self

end MaskedPath.FileSystem
