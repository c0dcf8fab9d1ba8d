import MaskedPath.Proofs.MoreMasks

namespace MaskedPath

open MaskedPath.Action

/-! ## Registries -/

namespace Registry

def append (r r' : Registry) : Registry := ⟨r.names ++ r'.names, r.libraries ++ r'.libraries⟩

def concat (rs : List Registry) : Registry := ⟨rs.flatMap names, rs.flatMap libraries⟩

variable (r r' r'' : Registry)

theorem append_assoc : (r.append r').append r'' = r.append (r'.append r'') := by
  simp [append]

theorem append_concat_nil : r.append (concat []) = r := by
  simp [append, concat]

theorem concat_cons (rs : List Registry) : concat (r :: rs) = r.append (concat rs) := by
  simp [append, concat]

theorem hidesResource_append (path : Text) :
    (r.append r').hidesResource path = (r.hidesResource path || r'.hidesResource path) := by
  simp [hidesResource, resources, append]

theorem hidesLibrary_append (library : Option Library) :
    (r.append r').hidesLibrary library = (r.hidesLibrary library || r'.hidesLibrary library) := by
  cases library with
  | none => rfl
  | some l => simp [hidesLibrary, append, Bool.and_or_distrib_left]

end Registry

/-! ## Two judges in one -/

namespace Judge

/-- The judge that attributes archives as `j` does and masks what `j` or `j'` masks. -/
def join (j j' : Judge) : Judge := ⟨j.registry.append j'.registry, j.libraryOf⟩

variable {j j' : Judge} (shared : j'.libraryOf = j.libraryOf)

include shared

theorem origin_join (location : Location) :
    (j.join j').origin location = j.origin location >>= fun origin =>
      if origin = .masked then .ok .masked else j'.origin location := by
  unfold origin join
  cases Location.archiveKey? location with
  | none => rfl
  | some key =>
      rw [shared]
      cases attributed : j.libraryOf key with
      | error e => simp [attributed]
      | ok library =>
          cases hidden : j.registry.hidesLibrary library <;>
            simp [attributed, hidden, Registry.hidesLibrary_append]

theorem judges_of_shared {location : Location} {origin : Origin}
    (judged : j.origin location = .ok origin) : ∃ origin', j'.origin location = .ok origin' := by
  unfold Judge.origin at judged ⊢
  cases archive : Location.archiveKey? location with
  | none => exact ⟨.indeterminate, rfl⟩
  | some key =>
      rw [archive] at judged
      obtain ⟨library, attributed, -⟩ := bind_eq_ok.mp judged
      simp [shared, attributed]

theorem keep_join (location : Option Location) :
    (j.join j').keep location = j.keep location >>= j'.keep := by
  cases location with
  | none => rfl
  | some location =>
      simp only [keep, origin_join shared, bind_assoc]
      refine bind_congr fun origin => ?_
      by_cases masked : origin = .masked <;> simp [masked, keep]

theorem visible_join (locations : List Location) :
    (j.join j').visible locations = j.visible locations >>= j'.visible := by
  induction locations with
  | nil => rfl
  | cons location rest ih =>
      rw [visible_cons, visible_cons, ih, origin_join shared]
      cases judged : j.origin location with
      | error e => rfl
      | ok origin =>
          by_cases masked : origin = .masked
          · subst masked
            change (j.visible rest >>= j'.visible) >>= pure =
              (j.visible rest >>= pure) >>= j'.visible
            rw [bind_pure, bind_pure]
          · obtain ⟨origin', judged'⟩ := judges_of_shared shared judged
            simp [masked, judged', visible_cons]

end Judge

/-! ## Two levels in one -/

namespace Replies

structure AgreeOnResources (p q : Replies) : Prop where
  locate : p.locate = q.locate
  enumerate : p.enumerate = q.enumerate

variable {p q : Replies} {j j' : Judge}

theorem AgreeOnResources.trans {q' : Replies} (first : p.AgreeOnResources q)
    (second : q.AgreeOnResources q') : p.AgreeOnResources q' :=
  ⟨first.locate.trans second.locate, first.enumerate.trans second.enumerate⟩

theorem AgreeOnResources.masked (agree : p.AgreeOnResources q) (j : Judge) :
    (p.masked j).AgreeOnResources (q.masked j) where
  locate := funext fun name => by rw [masked_locate, masked_locate, agree.locate]
  enumerate := funext fun name => by rw [masked_enumerate, masked_enumerate, agree.enumerate]

theorem guarded_guarded {α : Type} {hidden hidden' : Bool} {nothing : α}
    {filter filter' both : α → Except Failure α} (keeps : filter' nothing = .ok nothing)
    (joined : ∀ x, both x = filter x >>= filter') (answer : Except Failure α) :
    (if hidden' then .ok nothing
      else (if hidden then .ok nothing else answer >>= filter) >>= filter') =
        if hidden || hidden' then .ok nothing else answer >>= both := by
  cases hidden' with
  | true => simp
  | false =>
      cases hidden with
      | true => simpa using keeps
      | false =>
          have same : both = fun x => filter x >>= filter' := funext joined
          simp [same, bind_assoc]

theorem masked_masked (shared : j'.libraryOf = j.libraryOf) :
    ((p.masked j).masked j').AgreeOnResources (p.masked (j.join j')) where
  locate := by
    funext name
    have hides : (j.join j').registry.hidesResource name = _ :=
      Registry.hidesResource_append j.registry j'.registry name
    rw [masked_locate, masked_locate, masked_locate, hides]
    have keeps : j'.keep none = .ok none := rfl
    exact guarded_guarded keeps (Judge.keep_join shared) (p.locate name)
  enumerate := by
    funext name
    have hides : (j.join j').registry.hidesResource name = _ :=
      Registry.hidesResource_append j.registry j'.registry name
    rw [masked_enumerate, masked_enumerate, masked_enumerate, hides]
    have keeps : j'.visible [] = .ok [] := rfl
    exact guarded_guarded keeps (Judge.visible_join shared) (p.enumerate name)

end Replies

/-! ## Stacks -/

namespace Resolver

/-- Masking resolvers over `parent`, the first of them lowest. -/
def stack (parent : Resolver) (ids : List Nat) : Resolver :=
  ids.foldl (fun below id => masking id below) parent

/-- The levels above `base` add their masks to those that `base` answers by. -/
theorem stack_agrees [Runtime] {fs : FileSystem} {judges : Nat → Judge} {p : Replies} {ids : List Nat}
    {base : Resolver} {j : Judge}
    (agrees : (base.replies fs judges).AgreeOnResources (p.masked j))
    (shared : ∀ id ∈ ids, (judges id).libraryOf = j.libraryOf) :
    ((base.stack ids).replies fs judges).AgreeOnResources
      (p.masked ⟨j.registry.append (.concat (ids.map fun id => (judges id).registry)),
        j.libraryOf⟩) := by
  induction ids generalizing base j with
  | nil =>
      rw [List.map_nil, Registry.append_concat_nil]
      exact agrees
  | cons id ids ih =>
      have own : (judges id).libraryOf = j.libraryOf := shared id List.mem_cons_self
      have above : ((masking id base).replies fs judges).AgreeOnResources
          (p.masked (j.join (judges id))) :=
        (agrees.masked (judges id)).trans (Replies.masked_masked own)
      have rest := ih above fun other member => shared other (List.mem_cons_of_mem _ member)
      rw [List.map_cons, Registry.concat_cons, ← Registry.append_assoc]
      exact rest

theorem stack_agrees_merged [Runtime] {fs : FileSystem} {judges : Nat → Judge} {ids : List Nat}
    (levels : ids ≠ []) (parent : Resolver) {whole : Nat}
    (shared : ∀ id ∈ ids, (judges id).libraryOf = (judges whole).libraryOf)
    (masks : (judges whole).registry = .concat (ids.map fun id => (judges id).registry)) :
    ((parent.stack ids).replies fs judges).AgreeOnResources
      ((masking whole parent).replies fs judges) := by
  obtain ⟨lowest, ids, rfl⟩ := List.exists_cons_of_ne_nil levels
  have own := shared lowest List.mem_cons_self
  have lowest_agrees : ((masking lowest parent).replies fs judges).AgreeOnResources
      ((parent.replies fs judges).masked (judges lowest)) := ⟨rfl, rfl⟩
  have stacked := stack_agrees lowest_agrees fun id member =>
    (shared id (List.mem_cons_of_mem _ member)).trans own.symm
  rw [← Registry.concat_cons, own] at stacked
  rw [replies, show judges whole = ⟨_, (judges whole).libraryOf⟩ from rfl, masks]
  exact stacked

end Resolver

/-- Masking resolvers that attribute archives alike, stacked over one parent, locate and list every
resource as one masking resolver over the parent does that has the name masks and the library masks
of all levels. -/
theorem stacked_masks_eq_merged [Runtime] {fs : FileSystem} {s : Store} (reached : Reachable fs s)
    {ids : List Nat} (levels : ids ≠ []) (parent : Resolver) {whole : Nat}
    (attributions : ∀ id ∈ ids, (s.judge fs id).libraryOf = (s.judge fs whole).libraryOf)
    (masks : (s.masking whole).registry = .concat (ids.map fun id => (s.masking id).registry))
    (name : Text) :
    let stacked := parent.stack ids
    let merged := Resolver.masking whole parent
    ((stacked.locate fs name).run s).1 = ((merged.locate fs name).run s).1 ∧
      ((stacked.enumerate fs name).run s).1 = ((merged.enumerate fs name).run s).1 := by
  intro stacked merged
  have agree : (stacked.replies fs (s.judge fs)).AgreeOnResources
      (merged.replies fs (s.judge fs)) :=
    Resolver.stack_agrees_merged levels parent attributions masks
  have faithful := reached.faithful
  rw [Resolver.locate_run faithful, Resolver.locate_run faithful, Resolver.enumerate_run faithful,
    Resolver.enumerate_run faithful]
  exact ⟨congrFun agree.locate name, congrFun agree.enumerate name⟩

/-! ## Three levels over one parent -/

namespace Levels

open scoped MaskedPath.Standard

open Twice

def masking (names : List Text) (below : Resolver) (s : Store) : Store :=
  ((below.mask names attributor (.keepRecent 1 (by decide))).run s).2

def maskLibrary (id : Nat) (artifact : Char) (s : Store) : Store :=
  (((Masking.Operation.addLibraries [some (library artifact)]).perform files id parent).run s).2

def store : Store :=
  let stacked := masking [['z']] (parent.stack [0, 1])
    (masking [] (parent.stack [0]) (masking [['y'], ['y', '.']] parent .empty))
  let merged := masking [['y'], ['y', '.'], ['z']] parent stacked
  maskLibrary 3 'm' (maskLibrary 3 'l' (maskLibrary 2 'm' (maskLibrary 0 'l' merged)))

theorem reachable : Reachable files store :=
  .perform (.perform (.perform (.perform (.mask (.mask (.mask (.mask .start
    parent _ attributor _) (parent.stack [0]) _ attributor _) (parent.stack [0, 1]) _ attributor _)
    parent _ attributor _) 0 (by decide) parent _) 2 (by decide) parent _) 3 (by decide) parent _)
    3 (by decide) parent _

theorem shared : ∀ id ∈ [0, 1, 2],
    (store.judge files id).libraryOf = (store.judge files 3).libraryOf := by
  intro id member
  simp only [List.mem_cons, List.not_mem_nil, or_false] at member
  rcases member with rfl | rfl | rfl <;> rfl

end Levels

open scoped MaskedPath.Standard in
theorem stacked_masks_eq_merged_levels :
    let stacked := Twice.parent.stack [0, 1, 2]
    (Levels.store.masking 3).registry =
        .concat ([0, 1, 2].map fun id => (Levels.store.masking id).registry) ∧
      ((stacked.locate Twice.files ['x']).run Levels.store).1 = .ok none ∧
      ((stacked.enumerate Twice.files ['x']).run Levels.store).1 = .ok [Twice.loose] ∧
      ((stacked.enumerate Twice.files ['y', '/', 'x']).run Levels.store).1 = .ok [] := by
  intro stacked
  have masks : (Levels.store.masking 3).registry =
      .concat ([0, 1, 2].map fun id => (Levels.store.masking id).registry) := by
    decide
  have agree := stacked_masks_eq_merged Levels.reachable (by simp) Twice.parent Levels.shared masks
  have faithful := Levels.reachable.faithful
  refine ⟨masks, ?_, ?_, ?_⟩
  · rw [(agree ['x']).1, Resolver.locate_run faithful]
    rfl
  · rw [(agree ['x']).2, Resolver.enumerate_run faithful]
    rfl
  · rw [(agree ['y', '/', 'x']).2, Resolver.enumerate_run faithful]
    rfl

end MaskedPath
