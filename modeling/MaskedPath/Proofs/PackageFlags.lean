import MaskedPath.Proofs.Chains
import MaskedPath.Proofs.ModuleNames
import MaskedPath.Proofs.Verdicts
import MaskedPath.Resolver.Import

namespace MaskedPath

/-! ## Names of files -/

namespace ModuleName

def IsInitial (name : Text) : Prop :=
  ".__init__".toList <:+ name ∨ "/__init__".toList <:+ name

instance (name : Text) : Decidable (IsInitial name) :=
  inferInstanceAs (Decidable (_ ∨ _))

theorem isPackageFile_package (name : Text) : isPackageFile (package name) = true :=
  List.isSuffixOf_iff_suffix.mpr (List.suffix_append _ _)

theorem resourceForm_eq_iff {text name : Text} (noSlash : '/' ∉ text) (noDot : '.' ∉ text) :
    resourceForm name = text ↔ name = text := by
  constructor
  · rintro rfl
    have noDot : '.' ∉ name := fun member => noSlash (List.mem_map.mpr ⟨'.', member, rfl⟩)
    exact (resourceForm_of_noDot noDot).symm
  · rintro rfl
    exact resourceForm_of_noDot noDot

theorem slash_suffix_resourceForm_iff {text name : Text} (noSlash : '/' ∉ text) (noDot : '.' ∉ text) :
    '/' :: text <:+ resourceForm name ↔ '.' :: text <:+ name ∨ '/' :: text <:+ name := by
  have same : resourceForm text = text := (resourceForm_eq_iff noSlash noDot).mpr rfl
  constructor
  · rintro ⟨front, split⟩
    obtain ⟨before, rest, rfl, -, form⟩ := List.append_eq_map_iff.mp split
    obtain ⟨c, last, rfl, slash, form⟩ := List.map_eq_cons_iff.mp form
    obtain rfl := (resourceForm_eq_iff noSlash noDot).mp form
    by_cases dot : c = '.'
    · subst dot
      exact .inl ⟨before, rfl⟩
    · rw [if_neg dot] at slash
      subst slash
      exact .inr ⟨before, rfl⟩
  · rintro (⟨before, rfl⟩ | ⟨before, rfl⟩)
    · exact ⟨resourceForm before, by nth_rewrite 1 [← same]; simp [resourceForm]⟩
    · exact ⟨resourceForm before, by nth_rewrite 1 [← same]; simp [resourceForm]⟩

theorem isPackageFile_plain_iff (name : Text) :
    isPackageFile (plain name) = true ↔ IsInitial name := by
  have split : '/' :: packageFile = "/__init__".toList ++ sourceSuffix := by decide
  unfold isPackageFile plain
  rw [List.isSuffixOf_iff_suffix, split, List.suffix_append_self_iff]
  exact slash_suffix_resourceForm_iff (by decide) (by decide)

theorem isPackageFile_plain (name : Text) :
    isPackageFile (plain name) = decide (IsInitial name) := by
  rw [Bool.eq_iff_iff, isPackageFile_plain_iff, decide_eq_true_iff]

end ModuleName

/-! ## Modules of a search -/

namespace Search

variable [Runtime] {fs : FileSystem} {locate : Text → Except Failure (Option Location)}
  {name : Text} {finalize : Bool} {m : Module}

theorem moduleIn_eq_some_iff {resource : Text} :
    moduleIn fs locate name finalize resource = .ok (some m) ↔
      locate resource = .ok (some m.location) ∧ Location.read fs m.location = .ok m.source ∧
        (finalize = true → Runtime.compile m.source m.location = .ok ()) ∧
        m = ⟨name, m.location, m.source, ModuleName.isPackageFile resource, finalize⟩ := by
  constructor
  · intro found
    obtain ⟨located, read, compiles⟩ := moduleIn_eq_some found
    rw [moduleIn_of_read located read, answered_eq_ok_iff] at found
    exact ⟨located, read, compiles, Option.some.inj found.1⟩
  · rintro ⟨located, read, compiles, same⟩
    rw [moduleIn_of_read located read, answered_eq_ok_iff]
    exact ⟨congrArg some same, compiles⟩

theorem resolved_iff :
    (ModuleName.candidates name).findSomeM? (moduleIn fs locate name finalize) = .ok (some m) ↔
      moduleIn fs locate name finalize (ModuleName.plain name) = .ok (some m) ∨
        locate (ModuleName.plain name) = .ok none ∧
          moduleIn fs locate name finalize (ModuleName.package name) = .ok (some m) := by
  rw [ModuleName.candidates, List.findSomeM?_cons]
  cases first : moduleIn fs locate name finalize (ModuleName.plain name) with
  | error e =>
      have failed : locate (ModuleName.plain name) ≠ .ok none := by
        intro absent
        rw [moduleIn_of_none absent] at first
        cases first
      simp [failed]
  | ok answer =>
      cases answer with
      | some found =>
          have there := (moduleIn_eq_some first).1
          simp [there]
      | none =>
          have absent := moduleIn_eq_none first
          rw [List.findSomeM?_cons]
          cases second : moduleIn fs locate name finalize (ModuleName.package name) with
          | error e => simp [absent]
          | ok answer => cases answer <;> simp [absent]

end Search

/-! ## Packages -/

namespace Replies

/-- Whether a module is found at a location as a package: it has no plain file, and the initial file
of the package is there. -/
def FoundAsPackage (p : Replies) (name : Text) (location : Location) : Prop :=
  p.locate (ModuleName.plain name) = .ok none ∧
    p.locate (ModuleName.package name) = .ok (some location)

end Replies

section

variable [Runtime] {fs : FileSystem} {judges : Nat → Judge} {r : Resolver} {name : Text}
  {finalize : Bool} {m : Module}

theorem Resolver.IsChain.resolve_eq_some_iff (chain : r.IsChain) :
    (r.replies fs judges).resolve name finalize = .ok (some m) ↔
      Location.read fs m.location = .ok m.source ∧
        (finalize = true → Runtime.compile m.source m.location = .ok ()) ∧
        ((r.replies fs judges).locate (ModuleName.plain name) = .ok (some m.location) ∧
            m = ⟨name, m.location, m.source, ModuleName.IsInitial name, finalize⟩ ∨
          (r.replies fs judges).FoundAsPackage name m.location ∧
            m = ⟨name, m.location, m.source, true, finalize⟩) := by
  rw [chain.resolve_eq, Search.resolved_iff, Search.moduleIn_eq_some_iff,
    Search.moduleIn_eq_some_iff, ModuleName.isPackageFile_plain, ModuleName.isPackageFile_package]
  unfold Replies.FoundAsPackage
  tauto

theorem Resolver.IsChain.resolve_finalized (chain : r.IsChain)
    (resolved : (r.replies fs judges).resolve name finalize = .ok (some m)) :
    (r.replies fs judges).resolve name true = Search.answered { m with finalized := true } := by
  obtain ⟨read, -, ways⟩ := chain.resolve_eq_some_iff.mp resolved
  rw [chain.resolve_eq, ModuleName.candidates]
  rcases ways with ⟨located, same⟩ | ⟨⟨absent, located⟩, same⟩
  · rw [Search.findSomeM_of_firstFound (.head located _) read, same, ModuleName.isPackageFile_plain]
  · rw [Search.findSomeM_of_firstFound (.cons absent (.head located [])) read, same,
      ModuleName.isPackageFile_package]

end

def Module.spec (name : Text) (m : Module) : ModuleSpec := ⟨name, m.location, m.isPackage, m.source⟩

theorem Resolver.spec?_run [Runtime] (fs : FileSystem) (s : Store) (r : Resolver) (name : Text) :
    ((r.spec? fs name).run s).1 =
      ((r.resolve fs name true).run s).1.map (Option.map (Module.spec name)) := by
  unfold Resolver.spec?
  rw [Action.run_bind]
  rcases (r.resolve fs name true).run s with ⟨_ | answer, s'⟩
  · rfl
  · cases answer <;> rfl

/-- A module that a chain resolves has the location of its plain file, or, if there is none, that of
the initial file of a package. It is flagged as a package if it is found as one, and also if it is named
like an initial file. The specification for the import system has the same flag, and there is one
exactly if the module's source compiles, for else the finder fails with what the compilation raises. -/
theorem flagged_iff_found_as_package [Runtime] {fs : FileSystem} {s : Store} (reached : Reachable fs s)
    {r : Resolver} (chain : r.IsChain) (name : Text) :
    let below := r.answers fs s
    let spec := ((r.spec? fs name).run s).1
    (∀ finalize m, below.resolve name finalize = .ok (some m) →
      (m.isPackage = true ↔
        below.FoundAsPackage name m.location ∨ ModuleName.IsInitial name) ∧
      (below.locate (ModuleName.plain name) = .ok (some m.location) ∨
        below.FoundAsPackage name m.location) ∧
      spec = (orFail .compilation (Runtime.compile m.source m.location)).map
        fun _ => some (m.spec name)) ∧
    ∀ found, spec = .ok (some found) →
      ∃ m, below.resolve name true = .ok (some m) ∧ found = m.spec name := by
  intro below spec
  have below_eq : below = r.replies fs (s.judge fs) := Resolver.answers_eq_replies reached.faithful r
  have spec_eq : spec = (below.resolve name true).map (Option.map (Module.spec name)) :=
    Resolver.spec?_run fs s r name
  constructor
  · intro finalize m resolved
    rw [below_eq] at resolved spec_eq ⊢
    have told : spec = (orFail .compilation (Runtime.compile m.source m.location)).map
        fun _ => some (m.spec name) := by
      rw [spec_eq, chain.resolve_finalized resolved, Search.answered, if_pos rfl]
      cases orFail Failure.compilation (Runtime.compile m.source m.location) <;> rfl
    obtain ⟨-, -, ways⟩ := chain.resolve_eq_some_iff.mp resolved
    refine ⟨?_, ways.imp And.left And.left, told⟩
    rcases ways with ⟨located, flag⟩ | ⟨found, flag⟩
    · have apart : ¬ (r.replies fs (s.judge fs)).FoundAsPackage name m.location := by
        rintro ⟨absent, -⟩
        rw [located] at absent
        cases absent
      rw [flag]
      simp [apart]
    · rw [flag]
      simp [found]
  · intro found given
    rw [spec_eq] at given
    obtain ⟨answer, resolved, told⟩ := map_eq_ok.mp given
    obtain ⟨m, rfl, rfl⟩ := Option.map_eq_some_iff.mp told
    exact ⟨m, resolved, rfl⟩

/-! ## A package and its initial file -/

namespace Initial

open scoped MaskedPath.Standard

def chain : Resolver := Resolver.chain [[.parse ['a']]]

def name : Text := "p.__init__".toList

def location : Location := "file:///t/a/p/__init__.py".toList

def package : Module := ⟨['p'], location, [], true, false⟩

def initial : Module := { package with name := name }

theorem locate_plain :
    (chain.answers Layered.files .empty).locate (ModuleName.plain name) = .ok (some location) := by
  cbv

end Initial

open scoped MaskedPath.Standard in
theorem flagged_iff_found_as_package_initial :
    let below := Initial.chain.answers Layered.files .empty
    Reachable Layered.files .empty ∧ Initial.chain.IsChain ∧
      below.resolve ['p'] false = .ok (some Initial.package) ∧
      below.FoundAsPackage ['p'] Initial.location ∧
      ((Initial.chain.spec? Layered.files ['p']).run .empty).1 =
        .ok (some (Initial.package.spec ['p'])) := by
  intro below
  have chain : Initial.chain.IsChain := trivial
  have resolved : below.resolve ['p'] false = .ok (some Initial.package) := by cbv
  obtain ⟨flags, -⟩ := flagged_iff_found_as_package
    (show Reachable Layered.files .empty from .start) chain ['p']
  obtain ⟨flag, -, spec⟩ := flags false _ resolved
  refine ⟨.start, chain, resolved, ?_, spec⟩
  exact (flag.mp rfl).resolve_right (by decide)

open scoped MaskedPath.Standard in
/-- A module that is found as a plain one, by the name of a package's initial file, is flagged as a
package. -/
theorem plain_initial_file_flagged :
    let below := Initial.chain.answers Layered.files .empty
    Initial.chain.IsChain ∧ below.resolve Initial.name false = .ok (some Initial.initial) ∧
      Initial.initial.isPackage = true ∧
      below.locate (ModuleName.plain Initial.name) = .ok (some Initial.location) ∧
      ¬ below.FoundAsPackage Initial.name Initial.initial.location ∧
      ((Initial.chain.spec? Layered.files Initial.name).run .empty).1 =
        .ok (some (Initial.initial.spec Initial.name)) := by
  intro below
  refine ⟨trivial, by cbv, rfl, Initial.locate_plain, ?_, by cbv⟩
  rintro ⟨absent, -⟩
  rw [show below.locate (ModuleName.plain Initial.name) = _ from Initial.locate_plain] at absent
  cases absent

end MaskedPath
