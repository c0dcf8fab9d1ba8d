import Mathlib
import MaskedPath.Proofs.Locations
import MaskedPath.Proofs.Meaning
import MaskedPath.Settings.Load
import MaskedPath.Standard.Reader

/-!
# How loading settings ends

Loading settings gives settings, or an error of settings, or an error that is none, each for causes of
its own: `Loaded`, `Refused` and `Escapes`. An error is none of settings if it is unknown whether the
standard file is there, if the path has a NUL, if reading or validating a document raises what is not
expected of it, or if a key of its mapping is no text. An object that does not count as true gives the
standard settings, even if it is no mapping.
-/

namespace MaskedPath

/-! ## Files -/

theorem FileSystem.holds_eq_error_iff {fs : FileSystem} {test : Node → Bool} {p : Path}
    {e : PathError} : fs.holds test p = .error e ↔ '\x00' ∉ p.render ∧
      ∃ errno, fs.status p.render = .error errno ∧ errno.isAbsence = false ∧
        e = .system errno p.render := by
  unfold holds
  by_cases nul : '\x00' ∈ p.render
  · simp [nul]
  · cases status : fs.status p.render with
    | ok node => simp [nul, status]
    | error errno => cases absence : errno.isAbsence <;> simp [nul, status, absence, @eq_comm _ e]

namespace Settings

variable {fs : FileSystem} {env : Environment} {path : Option Text} {p : Path} {e : Error}
  {s : Settings}

theorem isThere_eq_error_iff {cause : PathError} : isThere fs standardSource = .error cause ↔
    ∃ errno, fs.status standardSource.render = .error errno ∧ errno.isAbsence = false ∧
      cause = .system errno standardSource.render := by
  have noNul : '\x00' ∉ standardSource.render := by decide
  exact FileSystem.holds_eq_error_iff.trans (and_iff_right noNul)

theorem sourceOf_eq_error_iff : sourceOf fs env path = .error e ↔
    path = none ∧ env.config.getD [] = [] ∧
      ∃ cause, isThere fs standardSource = .error cause ∧ e = .unknownSource cause := by
  unfold sourceOf
  rcases path with _ | t
  · rcases env.config with _ | _ | ⟨c, config⟩
    all_goals
      rcases isThere fs standardSource with cause | _ | _ <;> simp [eq_comm]
  · simp

section

variable [Reader]

/-! ## One settings file -/

def ofBytes (p : Path) (bytes : Bytes) : Except Error Settings := do
  let o ← (Reader.load bytes).mapError fun e =>
    if e.isOneOf ["OSError", "YAMLError"] then .malformed p e else .other e
  ofEntries (some p) (← entriesOf p o)

def settingsAt (fs : FileSystem) (p : Path) : Except Error Settings :=
  readObject fs p >>= fun o => entriesOf p o >>= ofEntries (some p)

theorem settingsAt_of_read {bytes : Bytes} (read : fs.read p = .ok bytes) :
    settingsAt fs p = ofBytes p bytes := by
  unfold settingsAt readObject
  rw [read]
  rfl

theorem settingsAt_of_unread {cause : PathError} (failed : fs.read p = .error cause) :
    settingsAt fs p = .error (if cause = .nul then .nulInPath else .unreadable p cause) := by
  unfold settingsAt readObject
  rw [failed]
  cases cause <;> rfl

def withAddedMasks (env : Environment) (s : Settings) : Settings :=
  { s with nameMasks := s.nameMasks ++ addedMasks env }

theorem ofEntries_nil (source : Option Path) : ofEntries source [] = .ok standard := by
  unfold ofEntries
  change (Reader.validate []).mapError _ = _
  rw [Reader.validate_nil]
  rfl

theorem load_eq (fs : FileSystem) (env : Environment) (path : Option Text) :
    (load fs env path).1 = (do
      let source ← sourceOf fs env path
      let s ← match source with
        | none => .ok standard
        | some p => settingsAt fs p
      return withAddedMasks env s) := by
  have given (p : Path) : settingsAt fs p = (readObject fs p >>= entriesOf p) >>= ofEntries (some p) :=
    (bind_assoc ..).symm
  unfold load
  rcases sourceOf fs env path with cause | _ | p
  · rfl
  · dsimp only
    rw [ofEntries_nil]
    rfl
  · simp only [ok_bind, given]
    cases readObject fs p >>= entriesOf p with
    | error cause => rfl
    | ok entries => cases ofEntries (some p) entries <;> rfl

theorem load_eq_error_iff : (load fs env path).1 = .error e ↔ sourceOf fs env path = .error e ∨
    ∃ p, sourceOf fs env path = .ok (some p) ∧ settingsAt fs p = .error e := by
  rw [load_eq]
  rcases sourceOf fs env path with cause | _ | p <;> simp [bind_eq_error]

theorem load_eq_ok_iff : (load fs env path).1 = .ok s ↔
    (sourceOf fs env path = .ok none ∧ s = withAddedMasks env standard) ∨
      ∃ p given, sourceOf fs env path = .ok (some p) ∧ settingsAt fs p = .ok given ∧
        s = withAddedMasks env given := by
  rw [load_eq]
  rcases sourceOf fs env path with cause | _ | p <;> simp [bind_eq_ok, @eq_comm _ s]

/-! ## Objects -/

section

variable {bytes : Bytes} {o : Reader.Object} {cause : Raised}
  {entries : List (Reader.Object × Reader.Object)} {data : List (WideText × Reader.Object)}

theorem ofBytes_of_raised (raised : Reader.load bytes = .error cause) : ofBytes p bytes =
    .error (if cause.isOneOf ["OSError", "YAMLError"] then .malformed p cause else .other cause) := by
  unfold ofBytes
  rw [raised]
  rfl

theorem ofBytes_of_object (given : Reader.load bytes = .ok o) :
    ofBytes p bytes = entriesOf p o >>= ofEntries (some p) := by
  unfold ofBytes
  rw [given]
  rfl

theorem ofBytes_of_vacant (given : Reader.load bytes = .ok o) (vacant : Reader.isTrue o = false) :
    ofBytes p bytes = .ok standard := by
  rw [ofBytes_of_object given, entriesOf, vacant]
  exact ofEntries_nil (some p)

theorem ofBytes_of_other (given : Reader.load bytes = .ok o) (full : Reader.isTrue o = true)
    (other : Reader.entries? o = none) : ofBytes p bytes = .error (.notAMapping p) := by
  rw [ofBytes_of_object given, entriesOf, full, if_pos rfl, other]
  rfl

theorem ofBytes_of_mapping (given : Reader.load bytes = .ok o) (full : Reader.isTrue o = true)
    (mapping : Reader.entries? o = some entries) : ofBytes p bytes = ofEntries (some p) entries := by
  rw [ofBytes_of_object given, entriesOf, full, if_pos rfl, mapping]
  rfl

theorem named_eq_none_iff : named entries = none ↔ ∃ entry ∈ entries, Reader.text? entry.1 = none := by
  unfold named
  induction entries with
  | nil => simp
  | cons entry entries ih =>
      rw [List.mapM_cons, List.exists_mem_cons_iff, ← ih]
      cases Reader.text? entry.1 with
      | none => simp
      | some key => cases entries.mapM fun entry =>
          (Reader.text? entry.1).map fun key => (key, entry.2) <;> simp

theorem ofEntries_of_unnamed (unnamed : named entries = none) :
    ofEntries (some p) entries = .error .keyNotText := by
  unfold ofEntries
  rw [unnamed]

theorem ofEntries_of_named (keys : named entries = some data) :
    ofEntries (some p) entries = (Reader.validate data).mapError fun e =>
      if e.isOneOf ["ValidationError"] then .invalid (some p) e else .other e := by
  unfold ofEntries
  rw [keys]

end

/-! ## Outcomes -/

def Reads (fs : FileSystem) (p : Path) (result : Except Raised Reader.Object) : Prop :=
  ∃ bytes, fs.read p = .ok bytes ∧ Reader.load bytes = result

/-- Whether the file at a path holds a mapping that counts as true, with these entries. -/
def HoldsMapping (fs : FileSystem) (p : Path) (entries : List (Reader.Object × Reader.Object)) :
    Prop :=
  ∃ o, Reads fs p (.ok o) ∧ Reader.isTrue o = true ∧ Reader.entries? o = some entries

section

variable (fs : FileSystem) (env : Environment) (path : Option Text)

/-- How loading ends with an error of settings. -/
inductive Refused : Error → Prop
  | unreadable {p : Path} {cause : PathError} (source : sourceOf fs env path = .ok (some p))
      (unread : fs.read p = .error cause) (noNul : cause ≠ .nul) : Refused (.unreadable p cause)
  | malformed {p : Path} {cause : Raised} (source : sourceOf fs env path = .ok (some p))
      (faulty : Reads fs p (.error cause)) (caught : cause.isOneOf ["OSError", "YAMLError"] = true) :
      Refused (.malformed p cause)
  | notAMapping {p : Path} {o : Reader.Object} (source : sourceOf fs env path = .ok (some p))
      (document : Reads fs p (.ok o)) (full : Reader.isTrue o = true)
      (other : Reader.entries? o = none) : Refused (.notAMapping p)
  | invalid {p : Path} {entries : List (Reader.Object × Reader.Object)}
      {data : List (WideText × Reader.Object)} {cause : Raised}
      (source : sourceOf fs env path = .ok (some p)) (mapping : HoldsMapping fs p entries)
      (keys : named entries = some data) (misfit : Reader.validate data = .error cause)
      (caught : cause.isOneOf ["ValidationError"] = true) : Refused (.invalid (some p) cause)

/-- How loading ends with an error that is none of settings. -/
inductive Escapes : Error → Prop
  | unknownSource {errno : Errno} (unnamed : path = none) (unset : env.config.getD [] = [])
      (unknown : fs.status standardSource.render = .error errno) (present : errno.isAbsence = false) :
      Escapes (.unknownSource (.system errno standardSource.render))
  | nulInPath {p : Path} (source : sourceOf fs env path = .ok (some p)) (nul : '\x00' ∈ p.render) :
      Escapes .nulInPath
  | unread {p : Path} {cause : Raised} (source : sourceOf fs env path = .ok (some p))
      (bad : Reads fs p (.error cause)) (uncaught : cause.isOneOf ["OSError", "YAMLError"] = false) :
      Escapes (.other cause)
  | keyNotText {p : Path} {entries : List (Reader.Object × Reader.Object)}
      (source : sourceOf fs env path = .ok (some p)) (mapping : HoldsMapping fs p entries)
      (key : ∃ entry ∈ entries, Reader.text? entry.1 = none) : Escapes .keyNotText
  | unvalidated {p : Path} {entries : List (Reader.Object × Reader.Object)}
      {data : List (WideText × Reader.Object)} {cause : Raised}
      (source : sourceOf fs env path = .ok (some p)) (mapping : HoldsMapping fs p entries)
      (keys : named entries = some data) (misfit : Reader.validate data = .error cause)
      (uncaught : cause.isOneOf ["ValidationError"] = false) : Escapes (.other cause)

/-- How loading ends with settings. -/
inductive Loaded : Settings → Prop
  | unsourced (source : sourceOf fs env path = .ok none) : Loaded (withAddedMasks env standard)
  | vacant {p : Path} {o : Reader.Object} (source : sourceOf fs env path = .ok (some p))
      (document : Reads fs p (.ok o)) (vacant : Reader.isTrue o = false) :
      Loaded (withAddedMasks env standard)
  | mapping {p : Path} {entries : List (Reader.Object × Reader.Object)}
      {data : List (WideText × Reader.Object)} {s : Settings}
      (source : sourceOf fs env path = .ok (some p)) (mapping : HoldsMapping fs p entries)
      (keys : named entries = some data) (validates : Reader.validate data = .ok s) :
      Loaded (withAddedMasks env s)

end

theorem Refused.isOfSettings (refused : Refused fs env path e) : e.isOfSettings = true := by
  cases refused <;> rfl

theorem Escapes.not_isOfSettings (escapes : Escapes fs env path e) : e.isOfSettings = false := by
  cases escapes <;> rfl

theorem settingsAt_of_mapping {entries : List (Reader.Object × Reader.Object)}
    (mapping : HoldsMapping fs p entries) : settingsAt fs p = ofEntries (some p) entries := by
  obtain ⟨o, ⟨bytes, read, given⟩, full, mapping⟩ := mapping
  exact (settingsAt_of_read read).trans (ofBytes_of_mapping given full mapping)

theorem load_of_source (source : sourceOf fs env path = .ok (some p))
    (failed : settingsAt fs p = .error e) : (load fs env path).1 = .error e :=
  load_eq_error_iff.mpr (.inr ⟨p, source, failed⟩)

theorem Refused.load_eq (refused : Refused fs env path e) : (load fs env path).1 = .error e := by
  cases refused with
  | unreadable source unread noNul =>
      refine load_of_source source ((settingsAt_of_unread unread).trans ?_)
      rw [if_neg noNul]
  | malformed source faulty caught =>
      obtain ⟨bytes, read, raised⟩ := faulty
      refine load_of_source source ((settingsAt_of_read read).trans ?_)
      rw [ofBytes_of_raised raised, if_pos caught]
  | notAMapping source document full other =>
      obtain ⟨bytes, read, given⟩ := document
      exact load_of_source source ((settingsAt_of_read read).trans (ofBytes_of_other given full other))
  | invalid source mapping keys misfit caught =>
      refine load_of_source source ((settingsAt_of_mapping mapping).trans ?_)
      rw [ofEntries_of_named keys, misfit]
      exact congrArg Except.error (if_pos caught)

theorem Escapes.load_eq (escapes : Escapes fs env path e) : (load fs env path).1 = .error e := by
  cases escapes with
  | unknownSource unnamed unset unknown present =>
      have failed := isThere_eq_error_iff.mpr ⟨_, unknown, present, rfl⟩
      exact load_eq_error_iff.mpr
        (.inl (sourceOf_eq_error_iff.mpr ⟨unnamed, unset, _, failed, rfl⟩))
  | nulInPath source nul =>
      refine load_of_source source ((settingsAt_of_unread (FileSystem.read_eq_nul_iff.mpr nul)).trans ?_)
      rw [if_pos rfl]
  | unread source bad uncaught =>
      obtain ⟨bytes, read, raised⟩ := bad
      refine load_of_source source ((settingsAt_of_read read).trans ?_)
      rw [ofBytes_of_raised raised, uncaught]
      rfl
  | keyNotText source mapping key =>
      refine load_of_source source ((settingsAt_of_mapping mapping).trans ?_)
      exact ofEntries_of_unnamed (named_eq_none_iff.mpr key)
  | unvalidated source mapping keys misfit uncaught =>
      refine load_of_source source ((settingsAt_of_mapping mapping).trans ?_)
      rw [ofEntries_of_named keys, misfit]
      exact congrArg Except.error (if_neg (by simp [uncaught]))

theorem Loaded.load_eq (loaded : Loaded fs env path s) : (load fs env path).1 = .ok s := by
  rw [load_eq_ok_iff]
  cases loaded with
  | unsourced source => exact .inl ⟨source, rfl⟩
  | vacant source document vacant =>
      obtain ⟨bytes, read, given⟩ := document
      have settings := (settingsAt_of_read read).trans (ofBytes_of_vacant given vacant)
      exact .inr ⟨_, _, source, settings, rfl⟩
  | mapping source mapping keys validates =>
      refine .inr ⟨_, _, source, (settingsAt_of_mapping mapping).trans ?_, rfl⟩
      rw [ofEntries_of_named keys, validates]
      rfl

theorem outcome_of_mapping (env : Environment) (path : Option Text)
    {entries : List (Reader.Object × Reader.Object)} (source : sourceOf fs env path = .ok (some p))
    (mapping : HoldsMapping fs p entries) :
    (∃ e, settingsAt fs p = .error e ∧ (Refused fs env path e ∨ Escapes fs env path e)) ∨
      ∃ s, settingsAt fs p = .ok s ∧ Loaded fs env path (withAddedMasks env s) := by
  rw [settingsAt_of_mapping mapping]
  cases keys : named entries with
  | none =>
      have key := named_eq_none_iff.mp keys
      exact .inl ⟨_, ofEntries_of_unnamed keys, .inr (.keyNotText source mapping key)⟩
  | some data =>
      rw [ofEntries_of_named keys]
      cases validated : Reader.validate data with
      | ok s => exact .inr ⟨s, rfl, .mapping source mapping keys validated⟩
      | error cause =>
          cases caught : cause.isOneOf ["ValidationError"] with
          | true =>
              exact .inl ⟨.invalid (some p) cause, congrArg Except.error (if_pos caught),
                .inl (.invalid source mapping keys validated caught)⟩
          | false =>
              exact .inl ⟨.other cause, congrArg Except.error (if_neg (by simp [caught])),
                .inr (.unvalidated source mapping keys validated caught)⟩

theorem outcome_of_source (env : Environment) (path : Option Text)
    (source : sourceOf fs env path = .ok (some p)) :
    (∃ e, settingsAt fs p = .error e ∧ (Refused fs env path e ∨ Escapes fs env path e)) ∨
      ∃ s, settingsAt fs p = .ok s ∧ Loaded fs env path (withAddedMasks env s) := by
  cases read : fs.read p with
  | error cause =>
      rw [settingsAt_of_unread read]
      by_cases nul : cause = .nul
      · rw [if_pos nul]
        subst nul
        exact .inl ⟨_, rfl, .inr (.nulInPath source (FileSystem.read_eq_nul_iff.mp read))⟩
      · rw [if_neg nul]
        exact .inl ⟨_, rfl, .inl (.unreadable source read nul)⟩
  | ok bytes =>
      cases given : Reader.load bytes with
      | error cause =>
          rw [settingsAt_of_read read, ofBytes_of_raised given]
          have bad : Reads fs p (.error cause) := ⟨bytes, read, given⟩
          cases caught : cause.isOneOf ["OSError", "YAMLError"] with
          | true => exact .inl ⟨_, rfl, .inl (.malformed source bad caught)⟩
          | false => exact .inl ⟨_, rfl, .inr (.unread source bad caught)⟩
      | ok o =>
          have document : Reads fs p (.ok o) := ⟨bytes, read, given⟩
          cases full : Reader.isTrue o with
          | false =>
              have settings := (settingsAt_of_read read).trans (ofBytes_of_vacant given full)
              exact .inr ⟨_, settings, .vacant source document full⟩
          | true =>
              cases mapping : Reader.entries? o with
              | none =>
                  have failed := (settingsAt_of_read read).trans (ofBytes_of_other given full mapping)
                  exact .inl ⟨_, failed, .inl (.notAMapping source document full mapping)⟩
              | some entries => exact outcome_of_mapping env path source ⟨o, document, full, mapping⟩

theorem refused_or_escapes (failed : (load fs env path).1 = .error e) :
    Refused fs env path e ∨ Escapes fs env path e := by
  rcases load_eq_error_iff.mp failed with unknown | ⟨p, source, failed⟩
  · obtain ⟨unnamed, unset, cause, there, rfl⟩ := sourceOf_eq_error_iff.mp unknown
    obtain ⟨errno, status, present, rfl⟩ := isThere_eq_error_iff.mp there
    exact .inr (.unknownSource unnamed unset status present)
  · rcases outcome_of_source env path source with ⟨e', given, causes⟩ | ⟨s, given, -⟩
    · obtain rfl := Except.error.inj (failed.symm.trans given)
      exact causes
    · cases failed.symm.trans given

theorem loaded_of_load (given : (load fs env path).1 = .ok s) : Loaded fs env path s := by
  rcases load_eq_ok_iff.mp given with ⟨source, rfl⟩ | ⟨p, s', source, read, rfl⟩
  · exact .unsourced source
  · rcases outcome_of_source env path source with ⟨e, failed, -⟩ | ⟨s, given, loaded⟩
    · cases read.symm.trans failed
    · obtain rfl := Except.ok.inj (read.symm.trans given)
      exact loaded

/-- Loading settings ends with an error of settings, with another error, or with settings, each exactly
for its causes. -/
theorem load_outcomes (fs : FileSystem) (env : Environment) (path : Option Text) :
    (∀ e, (load fs env path).1 = .error e ∧ e.isOfSettings = true ↔ Refused fs env path e) ∧
    (∀ e, (load fs env path).1 = .error e ∧ e.isOfSettings = false ↔ Escapes fs env path e) ∧
    ∀ s, (load fs env path).1 = .ok s ↔ Loaded fs env path s := by
  refine ⟨fun e => ⟨?_, ?_⟩, fun e => ⟨?_, ?_⟩, fun s => ⟨loaded_of_load, Loaded.load_eq⟩⟩
  · rintro ⟨failed, ofSettings⟩
    rcases refused_or_escapes failed with refused | escapes
    · exact refused
    · rw [escapes.not_isOfSettings] at ofSettings
      cases ofSettings
  · exact fun refused => ⟨refused.load_eq, refused.isOfSettings⟩
  · rintro ⟨failed, other⟩
    rcases refused_or_escapes failed with refused | escapes
    · rw [refused.isOfSettings] at other
      cases other
    · exact escapes
  · exact fun escapes => ⟨escapes.load_eq, escapes.not_isOfSettings⟩

end

/-! ## Files that are no settings -/

open scoped MaskedPath.Standard

namespace OneFile

def files (bytes : Bytes) : FileSystem where
  nodes := [([['t'], "c.yaml".toList], .file bytes), ([['t']], .directory)]
  home := [['t']]

def source : Path := .parse "c.yaml".toList

def ending (bytes : Bytes) : Except Error Settings :=
  (load (files bytes) ⟨none, none⟩ (some "c.yaml".toList)).1

theorem read_source (bytes : Bytes) : (files bytes).read source = .ok bytes := by
  cbv

variable {bytes : Bytes}

theorem ending_of_error (failed : ofBytes source bytes = .error e) : ending bytes = .error e :=
  load_of_source rfl ((settingsAt_of_read (read_source _)).trans failed)

theorem ending_of_standard (given : ofBytes source bytes = .ok standard) :
    ending bytes = .ok standard := by
  have settings := (settingsAt_of_read (read_source _)).trans given
  exact load_eq_ok_iff.mpr (.inr ⟨source, standard, rfl, settings, rfl⟩)

def linked : FileSystem where
  nodes := [([['t'], "masking.yaml".toList], .link (List.replicate 300 'n')), ([['t']], .directory)]
  home := [['t']]

set_option maxRecDepth 2000 in
theorem status_linked : linked.status standardSource.render = .error .nameTooLong := by
  cbv

end OneFile

theorem malformed_files_escape_and_empty_values_load :
    (load OneFile.linked ⟨none, none⟩ none).1 =
        .error (.unknownSource (.system .nameTooLong "masking.yaml".toList)) ∧
      (load (OneFile.files []) ⟨none, none⟩ (some ['a', '\x00', 'b'])).1 = .error .nulInPath ∧
      OneFile.ending [0x61, 0x3a, 0x20, 0xff, 0x0a] =
        .error (.other ⟨["UnicodeDecodeError", "UnicodeError", "ValueError"],
          "'utf-8' codec can't decode byte 0xff in position 3: invalid start byte"⟩) ∧
      OneFile.ending (Utf8.encode "x: 0x_\n".toList) = .error (.other ⟨["ValueError"],
        "invalid literal for int() with base 16: ''"⟩) ∧
      OneFile.ending (Utf8.encode "1: a\n".toList) = .error .keyNotText ∧
      ∀ value ∈ ["[]\n", "false\n", "0\n", "''\n"],
        OneFile.ending (Utf8.encode value.toList) = .ok standard := by
  refine ⟨?_, by cbv, ?_, ?_, ?_, ?_⟩
  · exact (Escapes.unknownSource rfl rfl OneFile.status_linked rfl).load_eq
  · exact OneFile.ending_of_error (by decide +kernel)
  · exact OneFile.ending_of_error (by decide +kernel)
  · exact OneFile.ending_of_error (by decide +kernel)
  · have given : ∀ value ∈ ["[]\n", "false\n", "0\n", "''\n"],
        ofBytes OneFile.source (Utf8.encode value.toList) = .ok standard := by decide +kernel
    exact fun value member => OneFile.ending_of_standard (given value member)

end Settings

end MaskedPath
