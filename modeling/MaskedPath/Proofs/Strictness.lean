import MaskedPath.Proofs.Queries
import MaskedPath.Proofs.Shown

/-!
# Stricter judges

One judge is stricter than another if it hides every name that the other hides and if each location
has the origin that the other gives it, or is masked. Over one parent the stricter judge shows less:
what it answers is what the other answers or nothing, and of a list it leaves a part, in order. Two
judges of which each is stricter than the other cannot be told apart.
-/

namespace MaskedPath

/-- Whether `j'` hides what `j` hides and differs from it only in what else it masks. -/
structure Judge.Stricter (j' j : Judge) : Prop where
  name : ∀ name, j.registry.hidesName name = true → j'.registry.hidesName name = true
  resource : ∀ path, j.registry.hidesResource path = true → j'.registry.hidesResource path = true
  origin : ∀ location, j'.origin location = j.origin location ∨
    j'.origin location = .ok .masked ∧ ∃ origin, j.origin location = .ok origin

/-- Whether `fewer` answers as `more` does, but for what it leaves out. -/
structure Replies.ShowsLess (fewer more : Replies) : Prop where
  locate : ∀ name, fewer.locate name = .ok none ∨ fewer.locate name = more.locate name
  enumerate : ∀ name shown, more.enumerate name = .ok shown →
    ∃ part, fewer.enumerate name = .ok part ∧ part.Sublist shown
  enumerate_error : ∀ name e, more.enumerate name = .error e →
    fewer.enumerate name = .ok [] ∨ fewer.enumerate name = .error e
  resolve : ∀ name finalize,
    fewer.resolve name finalize = .ok none ∨ fewer.resolve name finalize = more.resolve name finalize

/-! ## Judging -/

namespace Judge.Stricter

variable {j j' : Judge} (stricter : j'.Stricter j)

include stricter

theorem shown {path : Text} (shown' : j'.registry.hidesResource path = false) :
    j.registry.hidesResource path = false := by
  simpa [shown'] using stricter.resource path

theorem originOfFirst (locate : Text → Except Failure (Option Location)) (resources : List Text) :
    j'.originOfFirst locate resources = j.originOfFirst locate resources ∨
      j'.originOfFirst locate resources = .ok .masked := by
  unfold Judge.originOfFirst
  cases resources.findSomeM? locate with
  | error e => exact .inl rfl
  | ok found =>
      cases found with
      | none => exact .inl rfl
      | some location => exact (stricter.origin location).imp_right And.left

theorem visible_ok {locations shown : List Location} (visible : j.visible locations = .ok shown) :
    ∃ part, j'.visible locations = .ok part ∧ part.Sublist shown := by
  induction locations generalizing shown with
  | nil =>
      cases visible
      exact ⟨[], rfl, .slnil⟩
  | cons location rest ih =>
      rw [visible_cons] at visible
      obtain ⟨origin, judged, visible⟩ := bind_eq_ok.mp visible
      obtain ⟨others, seen, visible⟩ := bind_eq_ok.mp visible
      obtain rfl := Except.ok.inj visible
      obtain ⟨part, seen', sublist⟩ := ih seen
      have masked_sublist : part.Sublist (if origin = .masked then others else location :: others) := by
        split
        · exact sublist
        · exact sublist.cons location
      rcases stricter.origin location with same | ⟨masked, -⟩
      · refine ⟨if origin = .masked then part else location :: part, ?_, ?_⟩
        · rw [visible_cons, same, judged, seen']
          rfl
        · split
          · exact sublist
          · exact sublist.cons_cons location
      · refine ⟨part, ?_, masked_sublist⟩
        rw [visible_cons, masked, seen']
        rfl

theorem visible_error {locations : List Location} {e : Failure}
    (failed : j.visible locations = .error e) : j'.visible locations = .error e := by
  induction locations with
  | nil => cases failed
  | cons location rest ih =>
      rw [visible_cons] at failed ⊢
      cases judged : j.origin location with
      | error cause =>
          rw [judged] at failed
          rcases stricter.origin location with same | ⟨-, origin, given⟩
          · rw [same, judged]
            exact failed
          · rw [judged] at given
            cases given
      | ok origin =>
          have rest_failed : j.visible rest = .error e := by
            cases seen : j.visible rest with
            | error cause => rw [judged, seen] at failed; exact failed
            | ok others => rw [judged, seen] at failed; cases failed
          obtain ⟨origin', judged'⟩ : ∃ origin', j'.origin location = .ok origin' := by
            rcases stricter.origin location with same | ⟨masked, -⟩
            · exact ⟨origin, same.trans judged⟩
            · exact ⟨.masked, masked⟩
          rw [judged', ih rest_failed]
          rfl

theorem origin_antisymm (back : j.Stricter j') : j'.origin = j.origin := by
  funext location
  rcases stricter.origin location with same | ⟨masked, -⟩
  · exact same
  · rcases back.origin location with same | ⟨masked', -⟩
    · exact same.symm
    · rw [masked, masked']

end Judge.Stricter

/-! ## Answering -/

namespace Replies

variable {j j' : Judge} {p : Replies}

theorem guarded_or {α : Type} {hidden hidden' : Bool} (hides : hidden = true → hidden' = true)
    {verdict verdict' : Except Failure Origin}
    (judges : verdict' = verdict ∨ verdict' = .ok .masked) (answer : Except Failure (Option α)) :
    let guarded (hidden : Bool) (verdict : Except Failure Origin) : Except Failure (Option α) :=
      if hidden = true then return none
      else do if (← verdict) = .masked then return none else answer
    guarded hidden' verdict' = .ok none ∨ guarded hidden' verdict' = guarded hidden verdict := by
  intro guarded
  cases hidden' with
  | true => exact .inl rfl
  | false =>
      have shown : hidden = false := by simpa using hides
      subst shown
      rcases judges with rfl | rfl
      · exact .inr rfl
      · exact .inl rfl

theorem showsLess_of_stricter (stricter : j'.Stricter j) :
    (p.masked j').ShowsLess (p.masked j) where
  locate name :=
    guarded_or (stricter.resource name) (stricter.originOfFirst p.locate [name]) (p.locate name)
  enumerate name shown listed := by
    cases hidden : j'.registry.hidesResource name with
    | true => exact ⟨[], enumerate_of_hidden hidden, List.nil_sublist _⟩
    | false =>
        rw [enumerate_of_shown (stricter.shown hidden)] at listed
        rw [enumerate_of_shown hidden]
        obtain ⟨locations, below, visible⟩ := bind_eq_ok.mp listed
        rw [below]
        exact stricter.visible_ok visible
  enumerate_error name e failed := by
    cases hidden : j'.registry.hidesResource name with
    | true => exact .inl (enumerate_of_hidden hidden)
    | false =>
        rw [enumerate_of_shown (stricter.shown hidden)] at failed
        rw [enumerate_of_shown hidden]
        cases below : p.enumerate name with
        | error cause =>
            rw [below] at failed
            exact .inr failed
        | ok locations =>
            rw [below] at failed
            exact .inr (stricter.visible_error failed)
  resolve name finalize :=
    guarded_or (stricter.name name) (stricter.originOfFirst p.locate (ModuleName.candidates name))
      (p.resolve name finalize)

theorem ShowsLess.antisymm {fewer more : Replies} (less : fewer.ShowsLess more)
    (back : more.ShowsLess fewer) : fewer = more := by
  have optional {α : Type} {x y : Except Failure (Option α)} (one : x = .ok none ∨ x = y)
      (other : y = .ok none ∨ y = x) : x = y := by
    rcases one with rfl | same
    · rcases other with rfl | same
      · rfl
      · exact same.symm
    · exact same
  have lists : fewer.enumerate = more.enumerate := by
    funext name
    cases listed : more.enumerate name with
    | ok shown =>
        obtain ⟨part, listed', sublist⟩ := less.enumerate name shown listed
        obtain ⟨whole, again, sublist'⟩ := back.enumerate name part listed'
        obtain rfl := Except.ok.inj (listed.symm.trans again)
        rw [listed', sublist.antisymm sublist']
    | error e =>
        rcases less.enumerate_error name e listed with nothing | failed
        · obtain ⟨part, listed', -⟩ := back.enumerate name [] nothing
          rw [listed] at listed'
          cases listed'
        · exact failed
  obtain ⟨locate, enumerate, resolve⟩ := fewer
  obtain ⟨locate', enumerate', resolve'⟩ := more
  obtain rfl : locate = locate' := funext fun name => optional (less.locate name) (back.locate name)
  obtain rfl : enumerate = enumerate' := lists
  obtain rfl : resolve = resolve' := funext fun name => funext fun finalize =>
    optional (less.resolve name finalize) (back.resolve name finalize)
  rfl

end Replies

end MaskedPath
