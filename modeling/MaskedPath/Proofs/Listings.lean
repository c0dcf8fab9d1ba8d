import MaskedPath.Proofs.Chains
import MaskedPath.Proofs.LibraryMasks
import MaskedPath.Proofs.Stacking

namespace MaskedPath

open MaskedPath.Action

namespace Replies

variable {fs : FileSystem} {j : Judge} {p : Replies}

/-- Whether what is located is among what is listed, where a list is given. -/
def ListsLocated (p : Replies) : Prop :=
  ∀ name location shown, p.locate name = .ok (some location) → p.enumerate name = .ok shown →
    location ∈ shown

theorem listsLocated_nothing : Replies.nothing.ListsLocated := by
  intro name location shown located
  cases located

theorem ListsLocated.searched [Runtime] (lists : p.ListsLocated) (entries : List Path) :
    (p.searched fs entries).ListsLocated := by
  intro name location shown located listed
  by_cases named : Search.plainName name = []
  · rw [locate_of_settled (.inr named)] at located
    rw [enumerate_of_settled (.inr named)] at listed
    exact lists name location shown located listed
  · rw [enumerate_of_named named] at listed
    obtain ⟨above, listed_above, listed⟩ := bind_eq_ok.mp listed
    obtain ⟨own, tried, listed⟩ := bind_eq_ok.mp listed
    obtain rfl := Except.ok.inj listed
    rw [List.mem_append]
    by_cases absent : p.locate name = .ok none
    · rw [locate_of_open absent named, findSomeM?_of_mapM tried] at located
      exact .inr (List.mem_of_head? (Except.ok.inj located))
    · rw [locate_of_settled (.inl absent)] at located
      exact .inl (lists name location above located listed_above)

theorem ListsLocated.masked (lists : p.ListsLocated) (j : Judge) : (p.masked j).ListsLocated := by
  intro name location shown located listed
  obtain ⟨below, passes⟩ := passes_of_masked_locate located
  have open_ : j.registry.hidesResource name = false := by
    by_contra hidden
    rw [locate_of_hidden (by simpa using hidden)] at located
    cases located
  rw [enumerate_of_shown open_] at listed
  obtain ⟨locations, listed_below, visible⟩ := bind_eq_ok.mp listed
  have member := lists name location locations below listed_below
  exact (Judge.mem_visible_iff visible).mpr ⟨member, passes⟩

end Replies

theorem Resolver.IsTower.listsLocated [Runtime] {fs : FileSystem} {judges : Nat → Judge} {r : Resolver}
    (tower : r.IsTower) : (r.replies fs judges).ListsLocated := by
  induction r with
  | nowhere => exact Replies.listsLocated_nothing
  | fixed id answers => exact tower.elim
  | search entries parent ih => exact (ih tower).searched entries
  | masking id parent ih => exact (ih tower).masked (judges id)

/-- A resource that a tower locates is among those that the tower lists under the same name, whenever
each of the two is asked: whatever queries came in between, and whatever the caches hold. -/
theorem located_mem_listed [Runtime] {fs : FileSystem} {s s₁ s₂ : Store} (reached : Reachable fs s)
    (kept₁ : s.Keeps fs s₁) (kept₂ : s.Keeps fs s₂) {r : Resolver} (tower : r.IsTower) {name : Text}
    {location : Location} {listed : List Location}
    (locates : ((r.locate fs name).run s₁).1 = .ok (some location))
    (lists : ((r.enumerate fs name).run s₂).1 = .ok listed) : location ∈ listed := by
  rw [Resolver.locate_run (kept₁.faithful reached.faithful), kept₁.judge_eq] at locates
  rw [Resolver.enumerate_run (kept₂.faithful reached.faithful), kept₂.judge_eq] at lists
  exact tower.listsLocated name location listed locates lists

/-! ## A masked archive ahead of loose files -/

namespace Ahead

open scoped MaskedPath.Standard

def files : FileSystem where
  nodes := [([['t'], "lib.jar".toList], .file Bare.bytes), ([['t'], ['a'], ['x']], .file []),
    ([['t'], ['b'], ['x']], .file []), ([['t'], ['a']], .directory), ([['t'], ['b']], .directory),
    ([['t']], .directory)]
  home := [['t']]

def below : Resolver := .search [.parse "lib.jar".toList, .parse ['a']] .nowhere

def tower : Resolver := .search [.parse ['b']] (.masking 0 below)

def masks : Masking.Operation := .addLibraries [some Packaged.library]

def store : Store :=
  ((masks.perform files 0 below).run
    ((below.mask [] (.given fun _ => .ok (some Packaged.library)) .keepAll).run .empty).2).2

theorem reachable : Reachable files store :=
  .perform (.mask .start below [] (.given fun _ => .ok (some Packaged.library)) .keepAll) 0
    (by decide) below masks

def after : Store := ((tower.locate files ['x']).run store).2

def looseA : Location := "file:///t/a/x".toList

def looseB : Location := "file:///t/b/x".toList

theorem locate_store : ((tower.locate files ['x']).run store).1 = .ok (some looseB) := by
  cbv

theorem enumerate_after :
    ((tower.enumerate files ['x']).run after).1 = .ok [looseA, looseB] := by
  cbv

end Ahead

open scoped MaskedPath.Standard in
theorem located_mem_listed_second :
    ((Ahead.tower.locate Ahead.files ['x']).run Ahead.store).1 = .ok (some Ahead.looseB) ∧
      ((Ahead.tower.enumerate Ahead.files ['x']).run Ahead.after).1 =
        .ok [Ahead.looseA, Ahead.looseB] ∧
      Ahead.looseB ∈ [Ahead.looseA, Ahead.looseB] := by
  have kept : Ahead.store.Keeps Ahead.files Ahead.after :=
    (Resolver.gives_locate Ahead.tower ['x'] _ Ahead.reachable.faithful rfl).2
  exact ⟨Ahead.locate_store, Ahead.enumerate_after,
    located_mem_listed Ahead.reachable (.refl _) kept (show Ahead.tower.IsTower from trivial)
      Ahead.locate_store Ahead.enumerate_after⟩

end MaskedPath
