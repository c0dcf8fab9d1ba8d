import MaskedPath.Proofs.ModuleNames
import MaskedPath.Proofs.Session
import MaskedPath.Standard.Runtime

namespace MaskedPath

open MaskedPath.Action ModuleName

/-! ## Adding masks -/

theorem Masking.addMasks_sets {s : Store} {id : Nat} (masks : List (Option Text))
    (known : id < s.maskings.length) :
    s.Sets id { s.masking id with
        registry := masks.reduceOption.foldl Registry.addName (s.masking id).registry }
      ((masks.forM (addName id)).run s).2 := by
  induction masks generalizing s with
  | nil => exact s.sets_self id
  | cons mask masks ih =>
      cases mask with
      | none => exact ih known
      | some name =>
          obtain ⟨-, first⟩ := addName_sets known name
          have rest := ih (by rw [first.count_eq]; exact known)
          rw [first.own] at rest
          exact first.trans rest

/-! ## Answers without a question -/

def Store.logged (s : Store) (e : Event) : Store := { s with events := s.events ++ [e] }

namespace Resolver

variable {fs : FileSystem} {s : Store} {id : Nat} {name : Text}

theorem locate_run_of_hidden [Runtime] (hidden : (s.masking id).registry.hidesResource name = true)
    (parent : Resolver) : ((masking id parent).locate fs name).run s =
      (.ok none, s.logged (.hiddenByResource name)) := by
  change Action.run (if (s.masking id).registry.hidesResource name = true then _ else _) s = _
  rw [if_pos hidden]
  rfl

theorem enumerate_run_of_hidden [Runtime] (hidden : (s.masking id).registry.hidesResource name = true)
    (parent : Resolver) : ((masking id parent).enumerate fs name).run s = (.ok [], s) := by
  change Action.run (if (s.masking id).registry.hidesResource name = true then _ else _) s = _
  rw [if_pos hidden]
  rfl

theorem resolve_run_of_hidden [Runtime] (hidden : (s.masking id).registry.hidesName name = true)
    (parent : Resolver) (finalize : Bool) : ((masking id parent).resolve fs name finalize).run s =
      (.ok none, s.logged (.hiddenByName name)) := by
  change Action.run (if (s.masking id).registry.hidesName name = true then _ else _) s = _
  rw [if_pos hidden]
  rfl

end Resolver

/-- Whatever name masks a masking resolver gets, those that hide a module's name hide both files that
can hold the module, and without slashes in the name and the masks a mask hides the name exactly if it
hides the module's file. The three questions for what is hidden are answered from the masks: whatever
the parent is, it is not asked, and only the record of events changes. -/
theorem masks_hide_in_both_views [Runtime] {fs : FileSystem} {s : Store} {id : Nat}
    (known : id < s.maskings.length) (masks : List (Option Text)) (parent : Resolver) (name : Text)
    (finalize : Bool) :
    let after := ((masks.forM (Masking.addName id)).run s).2
    let registry := (after.masking id).registry
    let r : Resolver := .masking id parent
    registry.names = (s.masking id).registry.names ++ masks.reduceOption ∧
    (registry.hidesName name = true →
      ∀ resource ∈ candidates name, registry.hidesResource resource = true) ∧
    ('/' ∉ name → (∀ mask ∈ registry.names, '/' ∉ mask) →
      (registry.hidesName name = true ↔ registry.hidesResource (plain name) = true)) ∧
    (registry.hidesName name = true →
      (r.resolve fs name finalize).run after = (.ok none, after.logged (.hiddenByName name)) ∧
      ∀ resource ∈ candidates name,
        (r.locate fs resource).run after =
          (.ok none, after.logged (.hiddenByResource resource)) ∧
        (r.enumerate fs resource).run after = (.ok [], after)) := by
  intro after registry r
  have own : after.masking id = _ := (Masking.addMasks_sets masks known).own
  have names : registry.names = (s.masking id).registry.names ++ masks.reduceOption := by
    simp only [registry, own, Registry.foldl_addName]
  refine ⟨names, Registry.hidesResource_of_hidesName, Registry.hidesName_iff_hidesResource_plain,
    fun hidden => ⟨Resolver.resolve_run_of_hidden hidden parent finalize,
      fun resource candidate => ?_⟩⟩
  have both := Registry.hidesResource_of_hidesName hidden resource candidate
  exact ⟨Resolver.locate_run_of_hidden both parent, Resolver.enumerate_run_of_hidden both parent⟩

/-! ## A parent that has everything -/

def everywhere : Resolver :=
  .fixed 0 ⟨fun name => .ok (some name), fun name => .ok [name], fun name _ =>
    .ok (some ⟨name, name, [], false, false⟩)⟩

def everywhereMasked : Store :=
  ((everywhere.mask ["a.Secret".toList] (.identifier {}) .keepAll).run .empty).2

open scoped MaskedPath.Standard in
theorem masks_hide_in_both_views_everywhere :
    let fs : FileSystem := ⟨[], [], []⟩
    let after := (([none, some ['b']].forM (Masking.addName 0)).run everywhereMasked).2
    let registry := (after.masking 0).registry
    let r : Resolver := .masking 0 everywhere
    let name := "a.SecretImpl".toList
    0 < everywhereMasked.maskings.length ∧ registry.names = ["a.Secret".toList, ['b']] ∧
      '/' ∉ name ∧ (∀ mask ∈ registry.names, '/' ∉ mask) ∧
      registry.hidesName name = true ∧ registry.hidesResource (plain name) = true ∧
      plain name ∈ candidates name ∧
      (r.resolve fs name false).run after = (.ok none, after.logged (.hiddenByName name)) ∧
      (r.enumerate fs (plain name)).run after = (.ok [], after) := by
  intro fs after registry r name
  have known : 0 < everywhereMasked.maskings.length := by decide
  obtain ⟨names, -, alike, answers⟩ :=
    @masks_hide_in_both_views _ fs _ _ known [none, some ['b']] everywhere name false
  have noSlash : '/' ∉ name := by decide
  have masks_noSlash : ∀ mask ∈ registry.names, '/' ∉ mask := by decide
  have hidden : registry.hidesName name = true := by decide
  have candidate : plain name ∈ candidates name := List.mem_cons_self
  obtain ⟨resolved, resources⟩ := answers hidden
  exact ⟨known, names, noSlash, masks_noSlash, hidden, (alike noSlash masks_noSlash).mp hidden,
    candidate, resolved, (resources _ candidate).2⟩

end MaskedPath
