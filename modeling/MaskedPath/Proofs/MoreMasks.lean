import MaskedPath.Proofs.ModuleNames
import MaskedPath.Proofs.Session
import MaskedPath.Proofs.Strictness
import MaskedPath.Standard.Runtime

namespace MaskedPath

open MaskedPath.Action

/-! ## Registries -/

namespace Registry

variable {r r' r'' : Registry}

structure Within (r r' : Registry) : Prop where
  names : r.names ⊆ r'.names
  libraries : r.libraries ⊆ r'.libraries

theorem hidesLibrary_iff {library : Option Library} : r.hidesLibrary library = true ↔
    ∃ l, library = some l ∧ ¬ l.IsVoid ∧ ∃ mask ∈ r.libraries, mask.Matches l := by
  cases library <;> simp [hidesLibrary]

theorem Within.refl (r : Registry) : r.Within r := ⟨List.Subset.refl _, List.Subset.refl _⟩

theorem Within.trans (first : r.Within r') (second : r'.Within r'') : r.Within r'' :=
  ⟨List.Subset.trans first.names second.names,
    List.Subset.trans first.libraries second.libraries⟩

theorem within_addName (r : Registry) (name : Text) : r.Within (r.addName name) :=
  ⟨List.subset_append_left _ _, List.Subset.refl _⟩

theorem within_addLibraries (r : Registry) (entries : List (Option Library)) :
    r.Within (r.addLibraries entries) :=
  ⟨List.Subset.refl _, List.subset_append_left _ _⟩

section

variable (within : r.Within r')

include within

theorem Within.addName (name : Text) : (r.addName name).Within (r'.addName name) := by
  refine ⟨List.append_subset.mpr ⟨?_, List.subset_append_right _ _⟩, within.libraries⟩
  exact List.Subset.trans within.names (List.subset_append_left _ _)

theorem Within.addLibraries (entries : List (Option Library)) :
    (r.addLibraries entries).Within (r'.addLibraries entries) := by
  refine ⟨within.names, List.append_subset.mpr ⟨?_, List.subset_append_right _ _⟩⟩
  exact List.Subset.trans within.libraries (List.subset_append_left _ _)

theorem Within.hidesName {name : Text} (hidden : r.hidesName name = true) :
    r'.hidesName name = true := by
  obtain ⟨mask, member, starts⟩ := hidesName_iff.mp hidden
  exact hidesName_iff.mpr ⟨mask, within.names member, starts⟩

theorem Within.hidesResource {path : Text} (hidden : r.hidesResource path = true) :
    r'.hidesResource path = true := by
  obtain ⟨mask, member, starts⟩ := hidesResource_iff.mp hidden
  exact hidesResource_iff.mpr ⟨mask, within.names member, starts⟩

theorem Within.hidesLibrary {library : Option Library} (hidden : r.hidesLibrary library = true) :
    r'.hidesLibrary library = true := by
  obtain ⟨l, given, real, mask, member, same⟩ := hidesLibrary_iff.mp hidden
  exact hidesLibrary_iff.mpr ⟨l, given, real, mask, within.libraries member, same⟩

end

end Registry

/-! ## Judges -/

namespace Judge

variable {j j' : Judge} {p : Replies}

theorem stricter_of_within (attributions : j'.libraryOf = j.libraryOf)
    (within : j.registry.Within j'.registry) : j'.Stricter j where
  name _ := within.hidesName
  resource _ := within.hidesResource
  origin location := by
    unfold origin
    rw [attributions]
    cases Location.archiveKey? location with
    | none => exact .inl rfl
    | some key =>
        cases attributed : j.libraryOf key with
        | error e => exact .inl (by simp [attributed])
        | ok library =>
            cases hidden' : j'.registry.hidesLibrary library with
            | true => exact .inr ⟨by simp [attributed, hidden'], _, by simp [attributed]; rfl⟩
            | false =>
                have hidden : j.registry.hidesLibrary library = false := by
                  cases hidden : j.registry.hidesLibrary library with
                  | false => rfl
                  | true => rw [within.hidesLibrary hidden] at hidden'; cases hidden'
                exact .inl (by simp [attributed, hidden, hidden'])

structure SameMasks (j' j : Judge) : Prop where
  libraryOf_eq : j'.libraryOf = j.libraryOf
  within : j.registry.Within j'.registry
  back : j'.registry.Within j.registry

namespace SameMasks

variable (same : j'.SameMasks j)

include same

theorem stricter : j'.Stricter j := stricter_of_within same.libraryOf_eq same.within

theorem stricter_back : j.Stricter j' := stricter_of_within same.libraryOf_eq.symm same.back

theorem origin_eq : j'.origin = j.origin := same.stricter.origin_antisymm same.stricter_back

theorem originOfFirst_eq : j'.originOfFirst = j.originOfFirst := by
  unfold originOfFirst
  rw [same.origin_eq]

theorem masked_eq : p.masked j' = p.masked j :=
  (Replies.showsLess_of_stricter same.stricter).antisymm
    (Replies.showsLess_of_stricter same.stricter_back)

theorem addedLibraries (entries : List (Option Library)) :
    (Masking.addedLibraries j' entries).SameMasks (Masking.addedLibraries j entries) :=
  ⟨same.libraryOf_eq, same.within.addLibraries entries, same.back.addLibraries entries⟩

end SameMasks

end Judge

/-! ## Sessions -/

namespace Masking

variable (fs : FileSystem) (p : Replies)

theorem reply_grows (op : Operation) (j : Judge) :
    j.registry.Within (op.reply fs p j).2.registry ∧ (op.reply fs p j).2.libraryOf = j.libraryOf := by
  cases op with
  | addName name =>
      cases name with
      | none => exact ⟨.refl _, rfl⟩
      | some name => exact ⟨Registry.within_addName _ name, rfl⟩
  | addLibraries entries => exact ⟨Registry.within_addLibraries _ entries, rfl⟩
  | loadLibraries resource => exact ⟨Registry.within_addLibraries _ _, rfl⟩
  | clearCache => exact ⟨.refl _, rfl⟩
  | evict key => exact ⟨.refl _, rfl⟩
  | locationOrigin location => exact ⟨.refl _, rfl⟩
  | resourceOrigin name => exact ⟨.refl _, rfl⟩
  | moduleOrigin name => exact ⟨.refl _, rfl⟩
  | locate name => exact ⟨.refl _, rfl⟩
  | enumerate name => exact ⟨.refl _, rfl⟩
  | resolve name finalize => exact ⟨.refl _, rfl⟩

theorem judgeAfter_grows (ops : List Operation) (j : Judge) :
    j.registry.Within (judgeAfter fs p ops j).registry ∧
      (judgeAfter fs p ops j).libraryOf = j.libraryOf := by
  induction ops generalizing j with
  | nil => exact ⟨.refl _, rfl⟩
  | cons op ops ih =>
      obtain ⟨within, attributions⟩ := reply_grows fs p op j
      obtain ⟨within', attributions'⟩ := ih (op.reply fs p j).2
      exact ⟨within.trans within', attributions'.trans attributions⟩

theorem reply_sameMasks {j j' : Judge} (same : j'.SameMasks j) (op : Operation) :
    (op.reply fs p j').1 = (op.reply fs p j).1 ∧
      (op.reply fs p j').2.SameMasks (op.reply fs p j).2 := by
  cases op with
  | addName name =>
      cases name with
      | none => exact ⟨rfl, same⟩
      | some name =>
          exact ⟨rfl, same.libraryOf_eq, same.within.addName name, same.back.addName name⟩
  | addLibraries entries => exact ⟨rfl, same.addedLibraries entries⟩
  | loadLibraries resource => exact ⟨rfl, same.addedLibraries _⟩
  | clearCache => exact ⟨rfl, same⟩
  | evict key => exact ⟨rfl, same⟩
  | locationOrigin location => exact ⟨by simp only [Operation.reply, same.origin_eq], same⟩
  | resourceOrigin name => exact ⟨by simp only [Operation.reply, same.originOfFirst_eq], same⟩
  | moduleOrigin name => exact ⟨by simp only [Operation.reply, same.originOfFirst_eq], same⟩
  | locate name => exact ⟨by simp only [Operation.reply, same.masked_eq], same⟩
  | enumerate name => exact ⟨by simp only [Operation.reply, same.masked_eq], same⟩
  | resolve name finalize => exact ⟨by simp only [Operation.reply, same.masked_eq], same⟩

theorem replyAll_sameMasks {j j' : Judge} (same : j'.SameMasks j) (ops : List Operation) :
    replyAll fs p ops j' = replyAll fs p ops j := by
  induction ops generalizing j j' with
  | nil => rfl
  | cons op ops ih =>
      obtain ⟨answer, after⟩ := reply_sameMasks fs p same op
      exact congrArg₂ List.cons answer (ih after)

end Masking

/-- Of two masking resolvers over one parent that attribute archives alike, the one whose masks are
among the other's shows all that the other shows. So a resolver shows after a session no more than
before it, and two with the same masks answer every session alike. -/
theorem more_masks_show_less [Runtime] {fs : FileSystem} {s : Store} (reached : Reachable fs s)
    {id id' : Nat} (known : id < s.maskings.length) (known' : id' < s.maskings.length) {parent : Resolver}
    (below : parent.Below id) (below' : parent.Below id')
    (attributions : (s.judge fs id').libraryOf = (s.judge fs id).libraryOf) :
    let masks (i : Nat) := (s.masking i).registry
    let answers (i : Nat) (store : Store) := (Resolver.masking i parent).answers fs store
    let session (i : Nat) (ops : List Masking.Operation) := Masking.performAll fs i parent ops s
    ((masks id).Within (masks id') → (answers id' s).ShowsLess (answers id s)) ∧
      (∀ ops, (answers id (session id ops).2).ShowsLess (answers id s)) ∧
      ((masks id).Within (masks id') → (masks id').Within (masks id) →
        ∀ ops, (session id' ops).1 = (session id ops).1) := by
  intro masks answers session
  have faithful := reached.faithful
  refine ⟨fun within => ?_, fun ops => ?_, fun within back ops => ?_⟩
  · simp only [answers, Resolver.answers_eq_replies faithful, Resolver.replies]
    exact Replies.showsLess_of_stricter (Judge.stricter_of_within attributions within)
  · obtain ⟨grown, same⟩ := Masking.judgeAfter_grows fs (parent.replies fs (s.judge fs)) ops
      (s.judge fs id)
    simp only [answers, session, Masking.answers_afterSession below known faithful,
      Resolver.answers_eq_replies faithful, Resolver.replies]
    exact Replies.showsLess_of_stricter (Judge.stricter_of_within same grown)
  · have same : (s.judge fs id').SameMasks (s.judge fs id) := ⟨attributions, within, back⟩
    simp only [session, (Masking.performAll_replies below known faithful ops).1,
      (Masking.performAll_replies below' known' faithful ops).1]
    exact Masking.replyAll_sameMasks fs _ same ops

/-! ## Two resolvers over one parent -/

namespace Twice

open scoped MaskedPath.Standard

def inA : Location := "jar:a!/x".toList

def inB : Location := "jar:b!/x".toList

def inC : Location := "jar:c!/x".toList

def loose : Location := "file:///x".toList

def parent : Resolver := .fixed 0
  ⟨fun _ => .ok (some inB), fun _ => .ok [inA, loose, inC, inB, inA], fun _ _ => .ok none⟩

def library (artifact : Char) : Library := ⟨none, wide [artifact]⟩

def attributor : Attributor := .given fun key =>
  .ok (some (if key = ['c'] then library 'm' else library 'l'))

def files : FileSystem := ⟨[], [], []⟩

def bare : Store :=
  ((parent.mask [['z'], ['y'], ['y']] attributor .standard).run
    ((parent.mask [['y']] attributor .keepAll).run .empty).2).2

def masks : Masking.Operation := .addLibraries [none, some (library 'l')]

def store : Store := ((masks.perform files 1 parent).run bare).2

theorem reachable : Reachable files store :=
  .perform (.mask (.mask .start parent [['y']] attributor .keepAll) parent [['z'], ['y'], ['y']]
    attributor .standard) 1 (by decide) parent masks

end Twice

open scoped MaskedPath.Standard in
theorem more_masks_show_less_library :
    let answers (i : Nat) := (Resolver.masking i Twice.parent).answers Twice.files Twice.store
    (Twice.store.masking 0).registry.Within (Twice.store.masking 1).registry ∧
      (answers 1).ShowsLess (answers 0) ∧
      (answers 0).enumerate ['x'] =
        .ok [Twice.inA, Twice.loose, Twice.inC, Twice.inB, Twice.inA] ∧
      (answers 1).enumerate ['x'] = .ok [Twice.loose, Twice.inC] := by
  intro answers
  have within : (Twice.store.masking 0).registry.Within (Twice.store.masking 1).registry :=
    ⟨by decide, by decide⟩
  obtain ⟨less, -, -⟩ := more_masks_show_less Twice.reachable
    (show 0 < Twice.store.maskings.length by decide)
    (show 1 < Twice.store.maskings.length by decide) (show Twice.parent.Below 0 from trivial)
    (show Twice.parent.Below 1 from trivial) rfl
  refine ⟨within, less within, ?_, ?_⟩
  · simp only [answers, Resolver.answers_eq_replies Twice.reachable.faithful]
    rfl
  · simp only [answers, Resolver.answers_eq_replies Twice.reachable.faithful]
    rfl

end MaskedPath
