import MaskedPath.Proofs.Meaning

/-!
# What is shown

What a masking resolver answers is what its parent answers, judged first: the location of a resource,
every listed location, and the location of a module whose resource is the first that the parent
finds. Each of these has an origin, and the origin is not masked.
-/

namespace MaskedPath

variable {fs : FileSystem} {j : Judge} {p : Replies}

/-- The first of some resources that `locate` finds is `found`, at a location. -/
def FirstFound (locate : Text → Except Failure (Option Location)) (resources : List Text)
    (found : Text) (location : Location) : Prop :=
  ∃ before after, resources = before ++ found :: after ∧
    (∀ missing ∈ before, locate missing = .ok none) ∧ locate found = .ok (some location)

theorem FirstFound.head {locate : Text → Except Failure (Option Location)} {found : Text}
    {location : Location} (located : locate found = .ok (some location)) (after : List Text) :
    FirstFound locate (found :: after) found location :=
  ⟨[], after, rfl, by simp, located⟩

theorem FirstFound.cons {locate : Text → Except Failure (Option Location)} {resource : Text}
    {rest : List Text} {found : Text} {location : Location} (missing : locate resource = .ok none)
    (later : FirstFound locate rest found location) :
    FirstFound locate (resource :: rest) found location := by
  obtain ⟨before, after, split, absent, located⟩ := later
  refine ⟨resource :: before, after, by rw [split]; rfl, ?_, located⟩
  intro name member
  rcases List.mem_cons.mp member with rfl | member
  · exact missing
  · exact absent name member

theorem FirstFound.unique {locate : Text → Except Failure (Option Location)}
    {resources : List Text} {found found' : Text} {location location' : Location}
    (first : FirstFound locate resources found location)
    (first' : FirstFound locate resources found' location') : found = found' := by
  obtain ⟨before, after, rfl, absent, located⟩ := first
  obtain ⟨before', after', split, absent', located'⟩ := first'
  induction before generalizing before' with
  | nil =>
      cases before' with
      | nil => exact (List.cons.inj split).1
      | cons name before' =>
          obtain ⟨rfl, -⟩ := List.cons.inj split
          cases located.symm.trans (absent' found List.mem_cons_self)
  | cons name before ih =>
      cases before' with
      | nil =>
          obtain ⟨rfl, -⟩ := List.cons.inj split
          cases located'.symm.trans (absent name List.mem_cons_self)
      | cons name' before' =>
          exact ih (fun other member => absent other (List.mem_cons_of_mem _ member)) before'
            (List.cons.inj split).2 fun other member => absent' other (List.mem_cons_of_mem _ member)

namespace Judge

theorem originOfFirst_of_firstFound {locate : Text → Except Failure (Option Location)}
    {resources : List Text} {found : Text} {location : Location}
    (first : FirstFound locate resources found location) :
    j.originOfFirst locate resources = j.origin location := by
  obtain ⟨before, after, rfl, absent, located⟩ := first
  induction before with
  | nil =>
      rw [List.nil_append, originOfFirst_cons, located]
      rfl
  | cons name before ih =>
      rw [List.cons_append, originOfFirst_cons, absent name List.mem_cons_self]
      exact ih fun other member => absent other (List.mem_cons_of_mem _ member)

theorem originOfFirst_of_none {locate : Text → Except Failure (Option Location)}
    {resources : List Text} (absent : ∀ name ∈ resources, locate name = .ok none) :
    j.originOfFirst locate resources = .ok .notMasked := by
  induction resources with
  | nil => rfl
  | cons name rest ih =>
      rw [originOfFirst_cons, absent name List.mem_cons_self]
      exact ih fun other member => absent other (List.mem_cons_of_mem _ member)

def Passes (j : Judge) (location : Location) : Prop :=
  ∃ origin, j.origin location = .ok origin ∧ origin ≠ .masked

def keep (j : Judge) : Option Location → Except Failure (Option Location)
  | none => .ok none
  | some location => do return if (← j.origin location) = .masked then none else some location

theorem mem_visible_iff {locations shown : List Location}
    (visible : j.visible locations = .ok shown) {location : Location} :
    location ∈ shown ↔ location ∈ locations ∧ j.Passes location := by
  induction locations generalizing shown with
  | nil =>
      cases visible
      simp
  | cons first rest ih =>
      rw [visible_cons] at visible
      obtain ⟨origin, judged, visible⟩ := bind_eq_ok.mp visible
      obtain ⟨tail, others, visible⟩ := bind_eq_ok.mp visible
      obtain rfl := Except.ok.inj visible
      have later := ih others
      have passes : j.Passes first ↔ origin ≠ .masked := by
        simp [Passes, judged]
      by_cases masked : origin = .masked
      · rw [if_pos masked, later, List.mem_cons, or_and_right]
        refine ⟨.inr, fun shown => shown.resolve_left ?_⟩
        rintro ⟨rfl, seen⟩
        exact passes.mp seen masked
      · rw [if_neg masked, List.mem_cons, later, List.mem_cons, or_and_right]
        refine or_congr_left ⟨?_, And.left⟩
        rintro rfl
        exact ⟨rfl, passes.mpr masked⟩

end Judge

namespace Replies

/-! ## Masking resolvers -/

section

variable (p j) (name : Text)

theorem masked_locate : (p.masked j).locate name =
    if j.registry.hidesResource name then .ok none else p.locate name >>= j.keep := by
  cases hidden : j.registry.hidesResource name with
  | true => simp [masked, hidden]
  | false =>
      cases located : p.locate name with
      | error e => simp [masked, hidden, Judge.originOfFirst_cons, located]
      | ok location =>
          cases location with
          | none => simp [masked, hidden, Judge.originOfFirst, located, Judge.keep]
          | some location =>
              have verdict : j.originOfFirst p.locate [name] = j.origin location :=
                Judge.originOfFirst_of_firstFound (.head located [])
              simp only [masked, hidden, verdict, located, Judge.keep, ok_bind]
              refine bind_congr fun origin => ?_
              split <;> rfl

theorem masked_enumerate : (p.masked j).enumerate name =
    if j.registry.hidesResource name then .ok [] else p.enumerate name >>= j.visible := by
  cases hidden : j.registry.hidesResource name <;> simp [masked, hidden]

end

section

variable {name : Text}

theorem locate_of_hidden (hidden : j.registry.hidesResource name = true) :
    (p.masked j).locate name = .ok none := by
  rw [masked_locate, if_pos hidden]

theorem enumerate_of_hidden (hidden : j.registry.hidesResource name = true) :
    (p.masked j).enumerate name = .ok [] := by
  rw [masked_enumerate, if_pos hidden]

theorem enumerate_of_shown (shown : j.registry.hidesResource name = false) :
    (p.masked j).enumerate name = p.enumerate name >>= j.visible := by
  simp [masked_enumerate, shown]

theorem resolve_of_hidden (hidden : j.registry.hidesName name = true) (finalize : Bool) :
    (p.masked j).resolve name finalize = .ok none := by
  simp [masked, hidden]

end

theorem masked_locate_of_none {name : Text} (absent : p.locate name = .ok none) :
    (p.masked j).locate name = .ok none := by
  rw [masked_locate, absent]
  split <;> rfl

theorem masked_locate_of_passes {name : Text} {location : Location}
    (shown : j.registry.hidesResource name = false) (located : p.locate name = .ok (some location))
    (passes : j.Passes location) : (p.masked j).locate name = .ok (some location) := by
  obtain ⟨origin, judged, notMasked⟩ := passes
  simp [masked_locate, shown, located, Judge.keep, judged, notMasked]

theorem eq_some_of_guarded {α : Type} {hidden : Bool} {verdict : Except Failure Origin}
    {answer : Except Failure (Option α)} {a : α}
    (given : (if hidden = true then pure none
      else do if (← verdict) = Origin.masked then return none else answer) = .ok (some a)) :
    hidden = false ∧ answer = .ok (some a) ∧ ∃ origin, verdict = .ok origin ∧ origin ≠ .masked := by
  cases hidden with
  | true => cases given
  | false =>
      obtain ⟨origin, judged, answered⟩ := bind_eq_ok.mp given
      by_cases masked : origin = .masked
      · rw [if_pos masked] at answered
        cases answered
      · rw [if_neg masked] at answered
        exact ⟨rfl, answered, origin, judged, masked⟩

theorem passes_of_masked_locate {name : Text} {location : Location}
    (located : (p.masked j).locate name = .ok (some location)) :
    p.locate name = .ok (some location) ∧ j.Passes location := by
  obtain ⟨-, below, origin, judged, notMasked⟩ := eq_some_of_guarded located
  rw [Judge.originOfFirst_of_firstFound (.head below [])] at judged
  exact ⟨below, origin, judged, notMasked⟩

theorem masked_resolve_eq_some {name : Text} {finalize : Bool} {m : Module}
    (resolved : (p.masked j).resolve name finalize = .ok (some m)) :
    j.registry.hidesName name = false ∧ p.resolve name finalize = .ok (some m) ∧
      ∃ origin, j.originOfFirst p.locate (ModuleName.candidates name) = .ok origin ∧
        origin ≠ .masked :=
  eq_some_of_guarded resolved

theorem masked_resolve_of_passes {name resource : Text} {location : Location} {finalize : Bool}
    (shown : j.registry.hidesName name = false)
    (first : FirstFound p.locate (ModuleName.candidates name) resource location)
    (passes : j.Passes location) : (p.masked j).resolve name finalize = p.resolve name finalize := by
  obtain ⟨origin, judged, notMasked⟩ := passes
  have same : j.originOfFirst p.locate (ModuleName.candidates name) = .ok origin := by
    rw [Judge.originOfFirst_of_firstFound first, judged]
  simp [masked, shown, same, notMasked]

theorem masked_resolve_of_none {name : Text} {finalize : Bool}
    (shown : j.registry.hidesName name = false)
    (absent : ∀ candidate ∈ ModuleName.candidates name, p.locate candidate = .ok none) :
    (p.masked j).resolve name finalize = p.resolve name finalize := by
  simp [masked, shown, Judge.originOfFirst_of_none absent]

end Replies

/-! ## Searches -/

namespace Search

variable [Runtime] {locate : Text → Except Failure (Option Location)} {name resource : Text}
  {finalize : Bool}

theorem moduleIn_of_none (absent : locate resource = .ok none) :
    moduleIn fs locate name finalize resource = .ok none := by
  unfold moduleIn
  rw [absent]
  rfl

/-- What is answered for a module that is found: the module, or the failure to compile it. -/
def answered (m : Module) : Except Failure (Option Module) :=
  (if m.finalized then orFail .compilation (Runtime.compile m.source m.location) else .ok ()).map
    fun _ => some m

theorem answered_eq_ok_iff {m : Module} {answer : Option Module} : answered m = .ok answer ↔
    answer = some m ∧ (m.finalized = true → Runtime.compile m.source m.location = .ok ()) := by
  unfold answered
  rw [map_eq_ok]
  cases m.finalized with
  | false => simp [eq_comm]
  | true =>
      simp only [if_true, orFail, mapError_eq_ok, forall_const]
      constructor
      · rintro ⟨⟨⟩, compiles, rfl⟩
        exact ⟨rfl, compiles⟩
      · rintro ⟨rfl, compiles⟩
        exact ⟨(), compiles, rfl⟩

theorem moduleIn_of_read {location : Location} {source : Bytes}
    (located : locate resource = .ok (some location)) (read : Location.read fs location = .ok source) :
    moduleIn fs locate name finalize resource =
      answered ⟨name, location, source, ModuleName.isPackageFile resource, finalize⟩ := by
  unfold moduleIn answered
  rw [located]
  change (Location.read fs location >>= _) = _
  rw [read, ok_bind]
  cases finalize with
  | false => rfl
  | true =>
      dsimp only [if_true]
      cases orFail Failure.compilation (Runtime.compile source location) <;> rfl

theorem moduleIn_eq_some {m : Module}
    (found : moduleIn fs locate name finalize resource = .ok (some m)) :
    locate resource = .ok (some m.location) ∧ Location.read fs m.location = .ok m.source ∧
      (finalize = true → Runtime.compile m.source m.location = .ok ()) := by
  have given := found
  unfold moduleIn at found
  obtain ⟨there, located, found⟩ := bind_eq_ok.mp found
  cases there with
  | none => cases found
  | some location =>
      obtain ⟨source, read, -⟩ := bind_eq_ok.mp found
      rw [moduleIn_of_read located read, answered_eq_ok_iff] at given
      obtain ⟨same, compiles⟩ := given
      cases same
      exact ⟨located, read, compiles⟩

theorem moduleIn_eq_none (absent : moduleIn fs locate name finalize resource = .ok none) :
    locate resource = .ok none := by
  have given := absent
  unfold moduleIn at absent
  obtain ⟨there, located, absent⟩ := bind_eq_ok.mp absent
  cases there with
  | none => exact located
  | some location =>
      obtain ⟨source, read, -⟩ := bind_eq_ok.mp absent
      rw [moduleIn_of_read located read, answered_eq_ok_iff] at given
      cases given.1

/-- A search finds a module in the first candidate that it locates. -/
theorem firstFound_of_findSomeM {resources : List Text} {m : Module}
    (found : resources.findSomeM? (moduleIn fs locate name finalize) = .ok (some m)) :
    ∃ resource, FirstFound locate resources resource m.location := by
  induction resources with
  | nil => cases found
  | cons resource rest ih =>
      rw [List.findSomeM?_cons] at found
      obtain ⟨answer, first, found⟩ := bind_eq_ok.mp found
      cases answer with
      | none =>
          obtain ⟨later, found⟩ := ih found
          exact ⟨later, found.cons (moduleIn_eq_none first)⟩
      | some there =>
          cases found
          exact ⟨resource, .head (moduleIn_eq_some first).1 rest⟩

theorem firstFound_of_resolve {entries : List Path} {m : Module}
    (resolved : (p.searched fs entries).resolve name finalize = .ok (some m)) :
    ∃ resource,
      FirstFound (p.searched fs entries).locate (ModuleName.candidates name) resource m.location :=
  firstFound_of_findSomeM resolved

theorem findSomeM_of_firstFound {resources : List Text} {location : Location} {source : Bytes}
    (first : FirstFound locate resources resource location)
    (read : Location.read fs location = .ok source) :
    resources.findSomeM? (moduleIn fs locate name finalize) =
      answered ⟨name, location, source, ModuleName.isPackageFile resource, finalize⟩ := by
  obtain ⟨before, after, split, absent, located⟩ := first
  rw [split]
  clear split
  induction before with
  | nil =>
      rw [List.nil_append, List.findSomeM?_cons, moduleIn_of_read located read]
      unfold answered
      split
      · cases orFail Failure.compilation (Runtime.compile source location) <;> rfl
      · rfl
  | cons missing before ih =>
      rw [List.cons_append, List.findSomeM?_cons,
        moduleIn_of_none (absent missing List.mem_cons_self)]
      exact ih fun other member => absent other (List.mem_cons_of_mem _ member)

theorem resolve_of_firstFound {entries : List Path} {location : Location} {source : Bytes}
    (first : FirstFound (p.searched fs entries).locate (ModuleName.candidates name) resource location)
    (read : Location.read fs location = .ok source) :
    (p.searched fs entries).resolve name finalize =
      answered ⟨name, location, source, ModuleName.isPackageFile resource, finalize⟩ :=
  findSomeM_of_firstFound first read

end Search

end MaskedPath
