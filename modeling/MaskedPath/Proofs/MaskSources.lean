import MaskedPath.CommandLine.Run
import MaskedPath.Proofs.ClearedCache
import MaskedPath.Proofs.MaskLists
import MaskedPath.Proofs.SettingsFailures
import Mathlib.Data.List.Flatten

namespace MaskedPath

/-! ## Masks that are not void -/

theorem Registry.addLibraries_of_not_isVoid {libraries : List Library}
    (noVoid : ∀ library ∈ libraries, ¬ library.IsVoid) (r : Registry) :
    r.addLibraries (libraries.map some) = ⟨r.names, r.libraries ++ libraries⟩ := by
  have kept : maskable (libraries.map some) = libraries := NoVoid.maskable_eq (r := ⟨[], _⟩) noVoid
  unfold addLibraries
  rw [kept]

namespace MaskList

theorem not_isVoid_of_mem_parse {lines : List WideText} {library : Library}
    (member : library ∈ parse lines) : ¬ library.IsVoid := by
  obtain ⟨line, -, given⟩ := List.mem_filterMap.mp member
  unfold Line.read at given
  dsimp only at given
  split at given
  · cases given
  · split at given
    · cases given
    next named =>
      obtain rfl := Option.some.inj given
      exact named

theorem Adds.not_isVoid {a : Access} {p : Path} {masks : List Library} {warned : List Event}
    (adds : Adds a p masks warned) : ∀ library ∈ masks, ¬ library.IsVoid := by
  cases adds with
  | listed there content => exact fun library member => not_isVoid_of_mem_parse member
  | _ => exact fun library member => absurd member List.not_mem_nil

theorem not_isVoid_of_mem_read {fs : FileSystem} {resource : Text} {library : Library}
    (member : library ∈ (read fs resource).1) : ¬ library.IsVoid := by
  obtain ⟨part, from_place, inside⟩ := List.mem_flatMap.mp member
  obtain ⟨p, -, rfl⟩ := List.mem_map.mp from_place
  exact (adds_readSource _ p).not_isVoid library inside

end MaskList

/-! ## Building from settings -/

open MaskedPath.Action

theorem Masking.loadAll_sets (fs : FileSystem) (files : List Text) {id : Nat} {s : Store}
    (known : id < s.maskings.length) :
    ((files.forM (loadLibraries fs id)).run s).1 = .ok () ∧
      s.Sets id { s.masking id with
          registry := ⟨(s.masking id).registry.names, (s.masking id).registry.libraries ++
            files.flatMap fun file => (MaskList.read fs file).1⟩ }
        ((files.forM (loadLibraries fs id)).run s).2 := by
  induction files generalizing s with
  | nil =>
      refine ⟨rfl, ?_⟩
      rw [List.flatMap_nil, List.append_nil]
      exact s.sets_self id
  | cons file files ih =>
      obtain ⟨done, first⟩ := loadLibraries_sets fs known file
      obtain ⟨rest_done, rest⟩ := ih (by rw [first.count_eq]; exact known)
      rw [first.own, Registry.addLibraries_of_not_isVoid
        fun _ => MaskList.not_isVoid_of_mem_read, List.append_assoc] at rest
      change ((loadLibraries fs id file >>= fun _ => files.forM (loadLibraries fs id)).run s).1 = _ ∧
        s.Sets id _ ((loadLibraries fs id file >>= fun _ => files.forM (loadLibraries fs id)).run s).2
      rw [run_bind_ok done, List.flatMap_cons]
      exact ⟨rest_done, first.trans rest⟩

namespace Settings

def registry (fs : FileSystem) (s : Settings) : Registry where
  names := s.nameMasks
  libraries := s.maskFiles.flatMap (fun file => (MaskList.read fs file).1) ++
    MaskList.parse (s.libraryMasks.map wide)

theorem build_masking (fs : FileSystem) (s : Settings) (parent : Option Resolver) (store : Store) :
    ((s.build fs parent).run store).1 =
        .ok (.masking store.maskings.length (parent.getD s.search)) ∧
      ((s.build fs parent).run store).2.masking = Function.update store.masking
        store.maskings.length ⟨s.registry fs, .empty s.policy, .identifier {}, []⟩ ∧
      ((s.build fs parent).run store).2.maskings.length = store.maskings.length + 1 := by
  let id := store.maskings.length
  let made := ((parent.getD s.search).mask s.nameMasks (.identifier {}) s.policy).run store
  obtain ⟨answered, masking_eq, count_eq⟩ :=
    Resolver.mask_masking (parent.getD s.search) s.nameMasks (.identifier {}) s.policy store
  have own : made.2.masking id = ⟨⟨s.nameMasks, []⟩, .empty s.policy, .identifier {}, []⟩ := by
    rw [masking_eq, Function.update_self, Registry.ofNames_eq]
  have known : id < made.2.maskings.length := by
    rw [count_eq]
    exact Nat.lt_succ_self _
  obtain ⟨loaded, listed⟩ := Masking.loadAll_sets fs s.maskFiles known
  obtain ⟨emitted, same⟩ := yields_emitAll (MaskList.events (s.libraryMasks.map wide))
    ((s.maskFiles.forM (Masking.loadLibraries fs id)).run made.2).2
  replace listed := listed.of_maskings_eq same
  obtain ⟨added, inline⟩ := Masking.addLibraries_sets
    ((MaskList.parse (s.libraryMasks.map wide)).map some) (by rw [listed.count_eq]; exact known)
  have masked := (listed.trans inline).masking_eq
  rw [listed.own, Registry.addLibraries_of_not_isVoid fun _ => MaskList.not_isVoid_of_mem_parse,
    own, masking_eq, Function.update_idem] at masked
  unfold build
  rw [run_bind_ok answered]
  dsimp only [Resolver.masking?]
  rw [run_bind_ok loaded, run_bind_ok emitted, run_bind_ok added]
  exact ⟨rfl, masked, ((listed.trans inline).count_eq).trans count_eq⟩

end Settings

/-! ## Parts between commas -/

theorem joinWith_cons_head {α : Type} (separator : List α) (c : α) (piece : List α)
    (pieces : List (List α)) :
    joinWith separator ((c :: piece) :: pieces) = c :: joinWith separator (piece :: pieces) := by
  cases pieces <;> rfl

theorem splitWhere_ne_nil {α : Type} (isSeparator : α → Bool) (t : List α) :
    splitWhere isSeparator t ≠ [] := by
  cases t with
  | nil => exact List.cons_ne_nil _ _
  | cons c t =>
      unfold splitWhere
      split
      · exact List.cons_ne_nil _ _
      · split <;> exact List.cons_ne_nil _ _

/-- The parts of a text between its commas. -/
structure IsParts (t : Text) (parts : List Text) : Prop where
  joined : joinWith [','] parts = t
  noComma : ∀ part ∈ parts, ',' ∉ part

theorem isParts_splitWhere (t : Text) : IsParts t (splitWhere (· = ',') t) := by
  induction t with
  | nil => exact ⟨rfl, by simp [splitWhere]⟩
  | cons c t ih =>
      obtain ⟨joined, noComma⟩ := ih
      have nonempty := splitWhere_ne_nil (· = ',') t
      unfold splitWhere
      cases split : splitWhere (· = ',') t with
      | nil => exact absurd split nonempty
      | cons part parts =>
          rw [split] at joined noComma
          by_cases comma : c = ','
          · subst comma
            refine ⟨?_, ?_⟩
            · simp [joinWith, joined]
            · simpa using noComma
          · simp only [comma, decide_false, Bool.false_eq_true, if_false]
            refine ⟨by rw [joinWith_cons_head, joined], fun other member inside => ?_⟩
            rcases List.mem_cons.mp member with rfl | later
            · rcases List.mem_cons.mp inside with here | there
              · exact comma here.symm
              · exact noComma part List.mem_cons_self there
            · exact noComma other (List.mem_cons_of_mem _ later) inside

theorem Settings.addedMasks_of_isParts {env : Environment} {parts : List Text}
    (isParts : IsParts (env.masks.getD []) parts) :
    addedMasks env = (parts.map strip).filter (· ≠ []) := by
  obtain ⟨joined, noComma⟩ := isParts
  have split : ((splitWhere (· = ',') (env.masks.getD [])).map strip).filter (· ≠ []) =
      (parts.map strip).filter (· ≠ []) := by
    cases parts with
    | nil =>
        rw [← joined]
        rfl
    | cons part parts =>
        rw [← joined, splitWhere_joinWith (List.cons_ne_nil _ _)]
        · intro piece member c inside
          have other : c ≠ ',' := fun same => noComma piece member (same ▸ inside)
          simpa using other
        · rfl
  unfold addedMasks
  cases masks : env.masks with
  | none =>
      rw [masks] at split
      exact split
  | some value =>
      rw [masks] at split
      exact split

/-! ## All sources -/

namespace CommandLine

open Settings

theorem buildMasking_masking (fs : FileSystem) (s : Settings) (store : Store) :
    ((buildMasking fs s).run store).1 =
        .ok (.masking store.maskings.length s.search, store.maskings.length, s.search) ∧
      ((buildMasking fs s).run store).2.masking = Function.update store.masking
        store.maskings.length ⟨s.registry fs, .empty s.policy, .identifier {}, []⟩ ∧
      ((buildMasking fs s).run store).2.maskings.length = store.maskings.length + 1 := by
  obtain ⟨built, masking_eq, count_eq⟩ := build_masking fs s none store
  unfold buildMasking
  rw [run_bind_ok built]
  exact ⟨rfl, masking_eq, count_eq⟩

/-- What a settings file gives, the parts of the environment's variable, and options. -/
structure Sources where
  file : Settings
  parts : List Text
  options : Additions

namespace Sources

def entries (s : Sources) : List Path := (s.file.searchPath ++ s.options.paths).map .parse

def variableMasks (s : Sources) : List Text := (s.parts.map strip).filter (· ≠ [])

def names (s : Sources) : List Text := s.file.nameMasks ++ s.variableMasks ++ s.options.masks

def libraries (fs : FileSystem) (s : Sources) : List Library :=
  s.file.maskFiles.flatMap (fun file => (MaskList.read fs file).1) ++
    s.options.libraries.flatMap (fun file => (MaskList.read fs file).1) ++
    MaskList.parse (s.file.libraryMasks.map wide)

structure Extends (s s' : Sources) : Prop where
  file_eq : s'.file = s.file
  variableMasks : s.variableMasks.Sublist s'.variableMasks
  paths : s.options.paths.Sublist s'.options.paths
  masks : s.options.masks.Sublist s'.options.masks
  libraries : s.options.libraries.Sublist s'.options.libraries

variable {s s' : Sources}

theorem Extends.entries_sublist (more : s.Extends s') : s.entries.Sublist s'.entries := by
  unfold entries
  rw [more.file_eq]
  exact ((List.Sublist.refl _).append more.paths).map _

theorem Extends.names_sublist (more : s.Extends s') : s.names.Sublist s'.names := by
  unfold names
  rw [more.file_eq]
  exact ((List.Sublist.refl _).append more.variableMasks).append more.masks

theorem Extends.libraries_sublist (fs : FileSystem) (more : s.Extends s') :
    (s.libraries fs).Sublist (s'.libraries fs) := by
  have lists := more.libraries.flatMap fun file => (MaskList.read fs file).1
  unfold Sources.libraries
  rw [more.file_eq]
  exact ((List.Sublist.refl _).append lists).append (.refl _)

theorem nil_mem_names_iff :
    [] ∈ s.names ↔ [] ∈ s.file.nameMasks ∨ [] ∈ s.options.masks := by
  unfold names variableMasks
  simp

end Sources

/-- Whether commands build, from settings, the resolver that the sources ask for. -/
def Builds (fs : FileSystem) (s : Settings) (sources : Sources) : Prop :=
  ∀ store : Store,
    let id := store.maskings.length
    let parent := Resolver.search sources.entries .nowhere
    ((buildMasking fs s).run store).1 = .ok (.masking id parent, id, parent) ∧
      (((buildMasking fs s).run store).2.masking id).registry =
        ⟨sources.names, sources.libraries fs⟩

variable {fs : FileSystem} {env : Environment} {path : Option Text} {s file : Settings}

theorem builds_extend {parts : List Text} (isParts : IsParts (env.masks.getD []) parts)
    (a : Additions) : Builds fs (extend (withAddedMasks env file) a) ⟨file, parts, a⟩ := by
  intro store
  obtain ⟨built, masking_eq, -⟩ :=
    buildMasking_masking fs (extend (withAddedMasks env file) a) store
  refine ⟨built, ?_⟩
  rw [masking_eq, Function.update_self]
  unfold registry extend withAddedMasks Sources.names Sources.variableMasks Sources.libraries
  rw [addedMasks_of_isParts isParts, List.flatMap_append]

section

variable [Reader]

def Supplies (fs : FileSystem) (env : Environment) (path : Option Text) (file : Settings) : Prop :=
  (sourceOf fs env path = .ok none ∧ file = standard) ∨
    ∃ p, sourceOf fs env path = .ok (some p) ∧ settingsAt fs p = .ok file

theorem exists_supplies (loaded : (load fs env path).1 = .ok s) :
    ∃ file, Supplies fs env path file ∧ s = withAddedMasks env file := by
  rcases load_eq_ok_iff.mp loaded with ⟨source, rfl⟩ | ⟨p, file, source, given, rfl⟩
  · exact ⟨standard, .inl ⟨source, rfl⟩, rfl⟩
  · exact ⟨file, .inr ⟨p, source, given⟩, rfl⟩

theorem Supplies.load_eq (supplies : Supplies fs env path file) (masks : Option Text) :
    (load fs { env with masks := masks } path).1 =
      .ok (withAddedMasks { env with masks := masks } file) := by
  apply load_eq_ok_iff.mpr
  rcases supplies with ⟨source, rfl⟩ | ⟨p, source, given⟩
  · exact .inl ⟨source, rfl⟩
  · exact .inr ⟨p, file, source, given, rfl⟩

/-- Whatever settings load, a command builds what all sources ask for together: the file, the parts of
the environment's variable that are not blank, the options. With more parts and options it builds more,
and nothing is lost. -/
theorem every_source_adds (loaded : (load fs env path).1 = .ok s) :
    ∃ file parts, Supplies fs env path file ∧ IsParts (env.masks.getD []) parts ∧
      ∀ a : Additions,
        let sources : Sources := ⟨file, parts, a⟩
        Builds fs (extend s a) sources ∧
          ([] ∈ sources.names ↔ [] ∈ file.nameMasks ∨ [] ∈ a.masks) ∧
          ∀ more : Sources, sources.Extends more → (∀ part ∈ more.parts, ',' ∉ part) →
            ∃ s', (load fs { env with masks := some (joinWith [','] more.parts) } path).1 = .ok s' ∧
              Builds fs (extend s' more.options) more ∧
              sources.entries.Sublist more.entries ∧ sources.names.Sublist more.names ∧
              (sources.libraries fs).Sublist (more.libraries fs) := by
  obtain ⟨file, supplies, rfl⟩ := exists_supplies loaded
  have isParts := isParts_splitWhere (env.masks.getD [])
  refine ⟨file, _, supplies, isParts, fun a => ⟨builds_extend isParts a, Sources.nil_mem_names_iff, ?_⟩⟩
  rintro ⟨file', parts', a'⟩ extended noComma
  obtain rfl : file = file' := extended.file_eq.symm
  let env' : Environment := { env with masks := some (joinWith [','] parts') }
  have isParts' : IsParts (env'.masks.getD []) parts' := ⟨rfl, noComma⟩
  have builds : Builds fs (extend (withAddedMasks env' file) a') ⟨file, parts', a'⟩ :=
    builds_extend isParts' a'
  exact ⟨_, supplies.load_eq _, builds, extended.entries_sublist, extended.names_sublist,
    extended.libraries_sublist fs⟩

end

/-! ## A file, a variable and options -/

open scoped MaskedPath.Standard

namespace Merged

def text : Text :=
  "search_path: [d]\nname_masks: [x]\nlibrary_mask_files: [m]\nlibrary_masks: [c, ':']\n".toList

def files : FileSystem where
  nodes := [([['t'], "c.yaml".toList], .file (Utf8.encode text)),
    ([['t'], ['m']], .file (Utf8.encode "# one\ng:a\n".toList)),
    ([['t'], ['n']], .file (Utf8.encode "b\n\n".toList)), ([['t']], .directory)]
  home := [['t']]

def environment : Environment := ⟨none, some " y,, ,z".toList⟩

def settings : Settings := ⟨[['d']], [['x']], [['m']], [['c'], [':']], 1024⟩

def options : Additions := ⟨[['e']], [['w']], [['n']]⟩

theorem settingsAt_source : settingsAt files OneFile.source = .ok settings := by
  have read : files.read OneFile.source = .ok (Utf8.encode text) := by cbv
  have given : ofBytes OneFile.source (Utf8.encode text) = .ok settings := by decide +kernel
  exact (settingsAt_of_read read).trans given

theorem load_eq : (load files environment (some "c.yaml".toList)).1 =
    .ok (withAddedMasks environment settings) :=
  load_eq_ok_iff.mpr (.inr ⟨OneFile.source, settings, rfl, settingsAt_source, rfl⟩)

end Merged

theorem every_source_adds_merged :
    (load Merged.files Merged.environment (some "c.yaml".toList)).1 =
        .ok (withAddedMasks Merged.environment Merged.settings) ∧
      ∃ sources : Sources,
        Builds Merged.files (extend (withAddedMasks Merged.environment Merged.settings) Merged.options)
            sources ∧
          sources.entries = [.parse ['d'], .parse ['e']] ∧
          sources.names = [['x'], ['y'], ['z'], ['w']] ∧
          sources.libraries Merged.files =
            [⟨some (wide ['g']), wide ['a']⟩, ⟨none, wide ['b']⟩, ⟨none, wide ['c']⟩] := by
  obtain ⟨file, parts, supplies, isParts, built⟩ := every_source_adds Merged.load_eq
  obtain ⟨builds, -, -⟩ := built Merged.options
  have same : file = Merged.settings := by
    rcases supplies with ⟨unsourced, -⟩ | ⟨p, source, given⟩
    · cases unsourced
    · obtain rfl := Option.some.inj (Except.ok.inj source)
      exact Except.ok.inj (given.symm.trans Merged.settingsAt_source)
  subst same
  have added := addedMasks_of_isParts isParts
  refine ⟨Merged.load_eq, _, builds, rfl, ?_, by cbv⟩
  unfold Sources.names Sources.variableMasks
  rw [← added]
  rfl

end CommandLine

end MaskedPath
