import Mathlib
import MaskedPath.Proofs.Session
import MaskedPath.Standard.Runtime

namespace MaskedPath

/-! ## First hits -/

section

variable {ε α β : Type}

theorem findSomeM?_append (f : α → Except ε (Option β)) (xs ys : List α) :
    (xs ++ ys).findSomeM? f = (do
      match ← xs.findSomeM? f with
      | some y => return some y
      | none => ys.findSomeM? f) := by
  induction xs with
  | nil => rfl
  | cons x xs ih =>
      rw [List.cons_append, List.findSomeM?_cons, List.findSomeM?_cons, bind_assoc]
      refine bind_congr fun found => ?_
      cases found with
      | some y => rfl
      | none => exact ih

/-- Where nothing that is tried fails, the first hit is the first of all hits. -/
theorem findSomeM?_of_mapM {f : α → Except ε (Option β)} {xs : List α} {hits : List (Option β)}
    (tried : xs.mapM f = .ok hits) : xs.findSomeM? f = .ok hits.reduceOption.head? := by
  induction xs generalizing hits with
  | nil =>
      cases tried
      rfl
  | cons x xs ih =>
      rw [List.mapM_cons] at tried
      obtain ⟨hit, first, tried⟩ := bind_eq_ok.mp tried
      obtain ⟨others, rest, tried⟩ := bind_eq_ok.mp tried
      obtain rfl := Except.ok.inj tried
      have later := ih rest
      rw [List.findSomeM?_cons, first]
      cases hit with
      | some y => rfl
      | none => exact later

end

namespace Replies

variable [Runtime] {fs : FileSystem} {p : Replies} {entries rest : List Path} {name : Text}

/-! ## What settles a question -/

theorem locate_of_settled (settled : p.locate name ≠ .ok none ∨ Search.plainName name = []) :
    (p.searched fs entries).locate name = p.locate name := by
  change searchedLocation fs entries p name = _
  unfold searchedLocation
  cases found : p.locate name with
  | error e => rfl
  | ok location =>
      cases location with
      | some location => rfl
      | none =>
          have empty : Search.plainName name = [] := settled.resolve_left (not_not_intro found)
          simp [empty]

theorem enumerate_of_settled
    (settled : (∀ shown, p.enumerate name ≠ .ok shown) ∨ Search.plainName name = []) :
    (p.searched fs entries).enumerate name = p.enumerate name := by
  cases listed : p.enumerate name with
  | error e => simp [searched, listed]
  | ok shown =>
      have empty : Search.plainName name = [] := settled.resolve_left fun none => none shown listed
      simp [searched, listed, empty]

theorem resolve_of_settled {finalize : Bool}
    (settled : p.locate (ModuleName.plain name) ≠ .ok none) :
    (p.searched fs entries).resolve name finalize =
      Search.moduleIn fs p.locate name finalize (ModuleName.plain name) := by
  have same : searchedLocation fs entries p (ModuleName.plain name) =
      p.locate (ModuleName.plain name) := locate_of_settled (.inl settled)
  change [ModuleName.plain name, ModuleName.package name].findSomeM? _ = _
  rw [List.findSomeM?_cons]
  unfold Search.moduleIn
  rw [same]
  cases found : p.locate (ModuleName.plain name) with
  | error e => rfl
  | ok location =>
      cases location with
      | none => exact absurd found settled
      | some location =>
          simp only [ok_bind, bind_assoc]
          refine bind_congr fun source => ?_
          cases finalize with
          | false => rfl
          | true =>
              simp only [if_true, bind_assoc]
              refine bind_congr fun compiled => rfl

theorem locate_of_open (absent : p.locate name = .ok none) (named : Search.plainName name ≠ []) :
    (p.searched fs entries).locate name =
      entries.findSomeM? (Search.located fs (Search.plainName name)) := by
  change searchedLocation fs entries p name = _
  unfold searchedLocation
  simp [absent, named]

theorem enumerate_of_named (named : Search.plainName name ≠ []) :
    (p.searched fs entries).enumerate name = p.enumerate name >>= fun above =>
      entries.mapM (Search.located fs (Search.plainName name)) >>= fun own =>
        .ok (above ++ own.reduceOption) := by
  simp [searched, named]

/-! ## One search from two -/

theorem searchedLocation_append :
    searchedLocation fs (entries ++ rest) p = searchedLocation fs rest (p.searched fs entries) := by
  funext name
  by_cases open_ : p.locate name = .ok none ∧ Search.plainName name ≠ []
  · obtain ⟨absent, named⟩ := open_
    change (p.searched fs (entries ++ rest)).locate name = _
    rw [locate_of_open absent named, findSomeM?_append]
    unfold searchedLocation
    rw [locate_of_open absent named]
    simp only [if_neg named]
    refine bind_congr fun found => ?_
    cases found <;> rfl
  · have settled : p.locate name ≠ .ok none ∨ Search.plainName name = [] := by
      rwa [not_and_or, not_not] at open_
    have below : (p.searched fs entries).locate name = p.locate name := locate_of_settled settled
    change (p.searched fs (entries ++ rest)).locate name =
      ((p.searched fs entries).searched fs rest).locate name
    rw [locate_of_settled settled, locate_of_settled (by rwa [below]), below]

theorem searched_append :
    p.searched fs (entries ++ rest) = (p.searched fs entries).searched fs rest := by
  have enumerate : (p.searched fs (entries ++ rest)).enumerate =
      ((p.searched fs entries).searched fs rest).enumerate := by
    funext name
    by_cases named : Search.plainName name = []
    · simp only [enumerate_of_settled (.inr named)]
    · simp only [enumerate_of_named named, List.mapM_append, bind_assoc, pure_bind]
      refine bind_congr fun above => bind_congr fun own => ?_
      simp only [ok_bind]
      refine bind_congr fun others => ?_
      rw [List.reduceOption_append, List.append_assoc]
  unfold searched at enumerate ⊢
  rw [searchedLocation_append]
  congr 1

theorem nothing_searched_nil : Replies.nothing.searched fs [] = .nothing := by
  have locate : searchedLocation fs [] .nothing = fun _ => .ok none := by
    funext name
    unfold searchedLocation
    by_cases named : Search.plainName name = [] <;> simp [nothing, named]
  have enumerate : (Replies.nothing.searched fs []).enumerate = fun _ => .ok [] := by
    funext name
    simp [searched, nothing]
  unfold searched at enumerate ⊢
  rw [locate]
  unfold nothing
  congr 1

/-! ## What is located is listed first -/

/-- Whether what is located is the first of what is listed, where a list is given. -/
def LocatesFirst (p : Replies) : Prop :=
  ∀ name shown, p.enumerate name = .ok shown → p.locate name = .ok shown.head?

omit [Runtime] in
theorem locatesFirst_nothing : Replies.nothing.LocatesFirst := by
  intro name shown listed
  cases listed
  rfl

theorem LocatesFirst.searched (first : p.LocatesFirst) (entries : List Path) :
    (p.searched fs entries).LocatesFirst := by
  intro name shown listed
  by_cases named : Search.plainName name = []
  · rw [enumerate_of_settled (.inr named)] at listed
    rw [locate_of_settled (.inr named)]
    exact first name shown listed
  · rw [enumerate_of_named named] at listed
    obtain ⟨above, listed_above, listed⟩ := bind_eq_ok.mp listed
    obtain ⟨own, tried, listed⟩ := bind_eq_ok.mp listed
    obtain rfl := Except.ok.inj listed
    have located := first name above listed_above
    cases above with
    | cons location above => rw [locate_of_settled (.inl (by simp [located])), located]; rfl
    | nil =>
        rw [locate_of_open located named]
        exact findSomeM?_of_mapM tried

end Replies

/-! ## Chains -/

namespace Resolver

def chain (levels : List (List Path)) : Resolver :=
  levels.foldl (fun parent entries => search entries parent) nowhere

variable [Runtime] {fs : FileSystem} {judges : Nat → Judge}

theorem replies_chain_above (levels : List (List Path)) (entries : List Path) (parent : Resolver) :
    (levels.foldl (fun parent entries => search entries parent)
      (search entries parent)).replies fs judges =
        (search (entries ++ levels.flatten) parent).replies fs judges := by
  induction levels generalizing entries parent with
  | nil => rw [List.foldl_nil, List.flatten_nil, List.append_nil]
  | cons level levels ih =>
      rw [List.foldl_cons, ih, List.flatten_cons]
      exact Replies.searched_append.symm

theorem replies_chain (levels : List (List Path)) :
    (chain levels).replies fs judges = (search levels.flatten nowhere).replies fs judges := by
  cases levels with
  | nil => exact Replies.nothing_searched_nil.symm
  | cons level levels => exact replies_chain_above levels level .nowhere

end Resolver

/-- A chain of searches answers every question, failures included, as one search through the entries
of all its levels does, and where it lists the locations of a resource it locates the first of
them. -/
theorem chain_answers_as_one_search [Runtime] {fs : FileSystem} {s : Store} (reached : Reachable fs s)
    (levels : List (List Path)) :
    let chained := (Resolver.chain levels).answers fs s
    chained = (Resolver.search levels.flatten .nowhere).answers fs s ∧
      ∀ name shown, chained.enumerate name = .ok shown → chained.locate name = .ok shown.head? := by
  intro chained
  have same : chained = (Resolver.search levels.flatten .nowhere).answers fs s := by
    simp only [chained, Resolver.answers_eq_replies reached.faithful]
    exact Resolver.replies_chain levels
  have first : chained.LocatesFirst := by
    rw [same, Resolver.answers_eq_replies reached.faithful]
    exact Replies.locatesFirst_nothing.searched _
  exact ⟨same, first⟩

/-! ## A package above a module of the same name -/

namespace Layered

def files : FileSystem where
  nodes := [([['t'], ['a'], ['p'], ModuleName.packageFile], .file []),
    ([['t'], ['b'], "p.py".toList], .file []), ([['t'], ['a'], ['p']], .directory),
    ([['t'], ['a']], .directory), ([['t'], ['b']], .directory), ([['t']], .directory)]
  home := [['t']]

def levels : List (List Path) := [[.parse ['a']], [.parse ['b']]]

def found : Module := ⟨['p'], "file:///t/b/p.py".toList, [], false, true⟩

end Layered

open scoped MaskedPath.Standard in
theorem chain_answers_as_one_search_module :
    let chained := (Resolver.chain Layered.levels).answers Layered.files .empty
    chained = (Resolver.search Layered.levels.flatten .nowhere).answers Layered.files .empty ∧
      chained.resolve ['p'] true = .ok (some Layered.found) ∧
      chained.enumerate "/p.py".toList = .ok [Layered.found.location] ∧
      chained.locate "/p.py".toList = .ok (some Layered.found.location) := by
  intro chained
  obtain ⟨same, first⟩ := chain_answers_as_one_search
    (show Reachable Layered.files .empty from .start) Layered.levels
  have listed : chained.enumerate "/p.py".toList = .ok [Layered.found.location] := by
    cbv
  refine ⟨same, ?_, listed, first _ _ listed⟩
  cbv

end MaskedPath
