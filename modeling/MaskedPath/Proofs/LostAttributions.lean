import MaskedPath.Proofs.MoreMasks

namespace MaskedPath

open MaskedPath.Action

theorem Registry.hidesLibrary_of_isVoid {library : Library} (void : library.IsVoid) (r : Registry) :
    r.hidesLibrary (some library) = false := by
  simp [hidesLibrary, void]

namespace Judge

variable {j j' : Judge}

theorem origin_of_isVoid {location : Location} {key : Text} {library : Library}
    (archive : Location.archiveKey? location = some key)
    (attributed : j.libraryOf key = .ok (some library)) (void : library.IsVoid) :
    j.origin location = .ok .notMasked := by
  unfold origin
  rw [archive]
  simp [attributed, Registry.hidesLibrary_of_isVoid void]

/-- Of two judges with the same masks, the one that attributes every archive is stricter than the one
that has lost some of its attributions. -/
theorem stricter_of_lost (masks : j.registry = j'.registry)
    (attributes : ∀ key, ∃ library, j'.libraryOf key = .ok library)
    (lost : ∀ key, j.libraryOf key = j'.libraryOf key ∨ j.libraryOf key = .ok (some .void)) :
    j'.Stricter j where
  name name hidden := by rwa [masks] at hidden
  resource path hidden := by rwa [masks] at hidden
  origin location := by
    cases archive : Location.archiveKey? location with
    | none => exact .inl (by simp [origin, archive])
    | some key =>
        rcases lost key with same | void
        · exact .inl (by simp [origin, archive, same, masks])
        · have judged := origin_of_isVoid archive void ⟨rfl, rfl⟩
          obtain ⟨library, attributed⟩ := attributes key
          rw [judged]
          cases hidden : j'.registry.hidesLibrary library with
          | true => exact .inr ⟨by simp [origin, archive, attributed, hidden], _, rfl⟩
          | false => exact .inl (by simp [origin, archive, attributed, hidden])

end Judge

/-- A masking resolver that has lost attributions to the void library shows all that one shows with
the same masks and all attributions. No location of a void library is masked, in whatever session. -/
theorem lost_attributions_show_more [Runtime] {fs : FileSystem} {s : Store} (reached : Reachable fs s)
    {id id' : Nat} (parent : Resolver) (masks : (s.masking id').registry = (s.masking id).registry)
    (attributes : ∀ key, ∃ library, (s.judge fs id).libraryOf key = .ok library)
    (lost : ∀ key, (s.judge fs id').libraryOf key = (s.judge fs id).libraryOf key ∨
      (s.judge fs id').libraryOf key = .ok (some .void)) :
    let answers (i : Nat) := (Resolver.masking i parent).answers fs s
    (answers id).ShowsLess (answers id') ∧
      ∀ i location key library, Location.archiveKey? location = some key →
        (s.judge fs i).libraryOf key = .ok (some library) → library.IsVoid →
        ((Masking.locationOrigin fs i location).run s).1 = .ok .notMasked := by
  intro answers
  have faithful := reached.faithful
  refine ⟨?_, fun i location key library archive attributed void => ?_⟩
  · simp only [answers, Resolver.answers_eq_replies faithful, Resolver.replies]
    exact Replies.showsLess_of_stricter (Judge.stricter_of_lost masks attributes lost)
  · rw [(Masking.gives_locationOrigin i location s faithful rfl).1]
    exact Judge.origin_of_isVoid archive attributed void

/-! ## One lost attribution -/

namespace Lossy

open scoped MaskedPath.Standard

def attributor : Attributor := .given fun key =>
  .ok (some (if key = ['b'] then .void else if key = ['c'] then Twice.library 'm'
    else Twice.library 'l'))

def bare : Store :=
  ((Twice.parent.mask [] attributor .keepAll).run
    ((Twice.parent.mask [] Twice.attributor .keepAll).run .empty).2).2

def masks : Masking.Operation := .addLibraries [none, some .void, some (Twice.library 'l')]

def store : Store :=
  ((masks.perform Twice.files 1 Twice.parent).run
    ((masks.perform Twice.files 0 Twice.parent).run bare).2).2

theorem reachable : Reachable Twice.files store :=
  .perform (.perform (.mask (.mask .start Twice.parent [] Twice.attributor .keepAll) Twice.parent []
    attributor .keepAll) 0 (by decide) Twice.parent masks) 1 (by decide) Twice.parent masks

theorem lost (key : Text) :
    (store.judge Twice.files 1).libraryOf key = (store.judge Twice.files 0).libraryOf key ∨
      (store.judge Twice.files 1).libraryOf key = .ok (some .void) := by
  have given : (store.judge Twice.files 1).libraryOf key =
      .ok (some (if key = ['b'] then .void else if key = ['c'] then Twice.library 'm'
        else Twice.library 'l')) := rfl
  have given' : (store.judge Twice.files 0).libraryOf key =
      .ok (some (if key = ['c'] then Twice.library 'm' else Twice.library 'l')) := rfl
  rw [given, given']
  by_cases second : key = ['b']
  · exact .inr (by rw [if_pos second])
  · exact .inl (by rw [if_neg second])

end Lossy

open scoped MaskedPath.Standard in
theorem lost_attributions_show_more_second :
    let answers (i : Nat) := (Resolver.masking i Twice.parent).answers Twice.files Lossy.store
    (answers 0).ShowsLess (answers 1) ∧
      (answers 0).enumerate ['x'] = .ok [Twice.loose, Twice.inC] ∧
      (answers 1).enumerate ['x'] = .ok [Twice.loose, Twice.inC, Twice.inB] ∧
      ((Masking.locationOrigin Twice.files 1 Twice.inB).run Lossy.store).1 = .ok .notMasked := by
  intro answers
  obtain ⟨less, void⟩ := lost_attributions_show_more Lossy.reachable Twice.parent
    (show (Lossy.store.masking 1).registry = (Lossy.store.masking 0).registry by decide)
    (fun key => ⟨_, rfl⟩) Lossy.lost
  refine ⟨less, ?_, ?_, void 1 Twice.inB ['b'] .void (by decide) rfl (by decide)⟩
  · simp only [answers, Resolver.answers_eq_replies Lossy.reachable.faithful]
    rfl
  · simp only [answers, Resolver.answers_eq_replies Lossy.reachable.faithful]
    rfl

end MaskedPath
