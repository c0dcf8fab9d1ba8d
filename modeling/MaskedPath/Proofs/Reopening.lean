import Mathlib
import MaskedPath.Log.Sink

namespace MaskedPath.Log

/-! ## Handlers -/

namespace State

variable (log : State) (n : Int)

@[simp] theorem sinks_others : State.sinks ⟨n, log.others⟩ = [] := by
  simp only [sinks, others, List.filterMap_filter, List.filterMap_eq_nil_iff]
  intro h _
  cases h.sink? <;> rfl

@[simp] theorem others_others : State.others ⟨n, log.others⟩ = log.others := by
  simp [others]

@[simp] theorem sinks_replaced (p : Path) : State.sinks ⟨n, log.others ++ [.sink p]⟩ = [p] := by
  have none : log.others.filterMap Handler.sink? = [] := log.sinks_others n
  simp [sinks, none, Handler.sink?]

@[simp] theorem others_replaced (p : Path) :
    State.others ⟨n, log.others ++ [.sink p]⟩ = log.others := by
  simp [others, Handler.sink?]

theorem others_eq_handlers_iff : log.others = log.handlers ↔ log.sinks = [] := by
  simp [others, sinks, List.filterMap_eq_nil_iff]

end State

/-! ## One opening -/

structure Opening where
  path : Option Text
  level : WideText
deriving DecidableEq

namespace Opening

def sink (o : Opening) : Path := pathOf o.path

def number? (o : Opening) : Option Int :=
  match Threshold.ofName o.level with
  | .number n => some n
  | .pattern | .styles => none

/-- How an opening can end: the name stands for no number, the directories above the sink cannot be
made, or the sink is there. -/
inductive Ends (o : Opening) (log : State) (fs : FileSystem) :
    Except OpenError Unit → State → FileSystem → Prop
  | refused {e : OpenError} (unnumbered : o.number? = none) : Ends o log fs (.error e) log fs
  | blocked {n : Int} {e : PathError} {fs' : FileSystem} (numbered : o.number? = some n)
      (unmade : fs.ensureDirectories o.sink.anchor o.sink.parent.segments = (.error e, fs')) :
      Ends o log fs (.error (.path e)) ⟨n, log.others⟩ fs'
  | opened {n : Int} {fs' : FileSystem} (numbered : o.number? = some n)
      (made : fs.ensureDirectories o.sink.anchor o.sink.parent.segments = (.ok (), fs')) :
      Ends o log fs (.ok ()) ⟨n, log.others ++ [.sink o.sink]⟩ fs'

theorem ends (o : Opening) (log : State) (fs : FileSystem) :
    o.Ends log fs (log.opened fs o.path o.level).1 (log.opened fs o.path o.level).2.1
      (log.opened fs o.path o.level).2.2 := by
  unfold State.opened
  cases named : Threshold.ofName o.level with
  | pattern => exact .refused (by simp [number?, named])
  | styles => exact .refused (by simp [number?, named])
  | number n =>
      have numbered : o.number? = some n := by simp [number?, named]
      rcases made : fs.ensureDirectories (pathOf o.path).anchor (pathOf o.path).parent.segments with
        ⟨_ | _, fs'⟩
      · simp only [made]
        exact .blocked numbered made
      · simp only [made]
        exact .opened numbered made

/-- An opening that fails leaves the log as it was exactly if its name stands for no number, or if there
was no sink to lose and the threshold is the same. -/
theorem unchanged_iff {o : Opening} {log log' : State} {fs fs' : FileSystem} {e : OpenError}
    (failed : o.Ends log fs (.error e) log' fs') :
    log' = log ↔ ∀ n, o.number? = some n → log.sinks = [] ∧ n = log.threshold := by
  cases failed with
  | refused unnumbered => simp [unnumbered]
  | @blocked n e fs' numbered unmade =>
      rw [numbered, ← log.others_eq_handlers_iff]
      cases log
      simp [and_comm]

end Opening

/-! ## Openings in a row -/

abbrev Outcomes := List (Opening × Except OpenError Unit)

structure Run where
  log : State
  fs : FileSystem
  outcomes : Outcomes

def Run.step (run : Run) (o : Opening) : Run :=
  let (result, log, fs) := run.log.opened run.fs o.path o.level
  ⟨log, fs, run.outcomes ++ [(o, result)]⟩

def State.run (log : State) (fs : FileSystem) (openings : List Opening) : Run :=
  openings.foldl Run.step ⟨log, fs, []⟩

theorem State.run_concat (log : State) (fs : FileSystem) (openings : List Opening) (o : Opening) :
    log.run fs (openings ++ [o]) = (log.run fs openings).step o :=
  List.foldl_concat _ _ _ _

theorem outcomes_run (start : State) (fs : FileSystem) (openings : List Opening) :
    (start.run fs openings).outcomes.map (·.1) = openings := by
  induction openings using List.reverseRecOn with
  | nil => rfl
  | append_singleton openings o ih =>
      rw [State.run_concat]
      simp [Run.step, ih]

theorem run_induction {P : Outcomes → State → Prop} {start : State} (initial : P [] start)
    (kept : ∀ {outcomes log fs o result log' fs'}, P outcomes log →
      Opening.Ends o log fs result log' fs' → P (outcomes ++ [(o, result)]) log')
    (fs : FileSystem) (openings : List Opening) :
    P (start.run fs openings).outcomes (start.run fs openings).log := by
  induction openings using List.reverseRecOn with
  | nil => exact initial
  | append_singleton openings o ih =>
      rw [State.run_concat]
      exact kept ih (o.ends _ _)

def lastOpened (outcomes : Outcomes) : Option Opening :=
  ((outcomes.filter (·.2.isOk)).getLast?).map (·.1)

def lastNumbered (outcomes : Outcomes) : Option (Opening × Except OpenError Unit) :=
  (outcomes.filter (·.1.number?.isSome)).getLast?

/-- What openings make of a log: it is as it was if none of them names a number. Otherwise it has the
threshold of the last that does, and the sink of that one if it succeeded. -/
inductive Becomes (start : State) (outcomes : Outcomes) : State → Prop
  | untouched (unnumbered : lastNumbered outcomes = none) : Becomes start outcomes start
  | opened {o : Opening} {n : Int} (last : lastNumbered outcomes = some (o, .ok ()))
      (numbered : o.number? = some n) : Becomes start outcomes ⟨n, start.others ++ [.sink o.sink]⟩
  | blocked {o : Opening} {n : Int} {e : OpenError} (last : lastNumbered outcomes = some (o, .error e))
      (numbered : o.number? = some n) : Becomes start outcomes ⟨n, start.others⟩

structure Tracks (outcomes : Outcomes) : Prop where
  unopened : lastNumbered outcomes = none → lastOpened outcomes = none
  opened : ∀ {o}, lastNumbered outcomes = some (o, .ok ()) → lastOpened outcomes = some o

section

variable {start log log' : State} {fs fs' : FileSystem} {outcomes : Outcomes} {o : Opening}
  {result : Except OpenError Unit}

theorem lastNumbered_concat_of_unnumbered (unnumbered : o.number? = none) (outcomes : Outcomes)
    (result : Except OpenError Unit) :
    lastNumbered (outcomes ++ [(o, result)]) = lastNumbered outcomes := by
  simp [lastNumbered, unnumbered]

theorem lastNumbered_concat_of_numbered {n : Int} (numbered : o.number? = some n)
    (outcomes : Outcomes) (result : Except OpenError Unit) :
    lastNumbered (outcomes ++ [(o, result)]) = some (o, result) := by
  simp [lastNumbered, numbered]

theorem lastOpened_concat_ok (outcomes : Outcomes) (o : Opening) :
    lastOpened (outcomes ++ [(o, .ok ())]) = some o := by
  simp [lastOpened, Except.isOk, Except.toBool]

theorem lastOpened_concat_error (outcomes : Outcomes) (o : Opening) (e : OpenError) :
    lastOpened (outcomes ++ [(o, .error e)]) = lastOpened outcomes := by
  simp [lastOpened, Except.isOk, Except.toBool]

theorem Becomes.others (becomes : Becomes start outcomes log) : log.others = start.others := by
  cases becomes with
  | untouched unnumbered => rfl
  | opened last numbered => exact start.others_replaced _ _
  | blocked last numbered => exact start.others_others _

theorem Becomes.concat (becomes : Becomes start outcomes log)
    (ends : o.Ends log fs result log' fs') : Becomes start (outcomes ++ [(o, result)]) log' := by
  cases ends with
  | @refused e unnumbered =>
      have same := lastNumbered_concat_of_unnumbered unnumbered outcomes (.error e)
      cases becomes with
      | untouched none => exact .untouched (same.trans none)
      | opened last numbered => exact .opened (same.trans last) numbered
      | blocked last numbered => exact .blocked (same.trans last) numbered
  | blocked numbered unmade =>
      rw [becomes.others]
      exact .blocked (lastNumbered_concat_of_numbered numbered _ _) numbered
  | opened numbered made =>
      rw [becomes.others]
      exact .opened (lastNumbered_concat_of_numbered numbered _ _) numbered

theorem Tracks.concat (tracks : Tracks outcomes) (ends : o.Ends log fs result log' fs') :
    Tracks (outcomes ++ [(o, result)]) := by
  cases ends with
  | refused unnumbered =>
      constructor
      · rw [lastOpened_concat_error, lastNumbered_concat_of_unnumbered unnumbered]
        exact tracks.unopened
      · rw [lastOpened_concat_error, lastNumbered_concat_of_unnumbered unnumbered]
        exact tracks.opened
  | blocked numbered unmade =>
      constructor <;> simp [lastNumbered_concat_of_numbered numbered]
  | opened numbered made =>
      constructor <;> simp [lastNumbered_concat_of_numbered numbered, lastOpened_concat_ok]

end

theorem becomes_run (start : State) (fs : FileSystem) (openings : List Opening) :
    Becomes start (start.run fs openings).outcomes (start.run fs openings).log :=
  run_induction (.untouched rfl) Becomes.concat fs openings

theorem tracks_run (start : State) (fs : FileSystem) (openings : List Opening) :
    Tracks (start.run fs openings).outcomes :=
  run_induction (P := fun outcomes _ => Tracks outcomes) ⟨fun _ => rfl, nofun⟩ Tracks.concat fs openings

/-! ## Keeping the sink -/

/-- Whether a log is what the last successful opening made of it: it has the sink and the threshold of
that opening and no other sink. Before any opening has succeeded it has no sink, and the threshold is
what it was. -/
structure IsKept (start : State) (outcomes : Outcomes) (log : State) : Prop where
  sinks : log.sinks = ((lastOpened outcomes).map Opening.sink).toList
  threshold : ∀ o, lastOpened outcomes = some o → o.number? = some log.threshold
  unset : lastOpened outcomes = none → log.threshold = start.threshold
  others : log.others = start.others

theorem isKept_iff {start log : State} {outcomes : Outcomes} (fresh : start.sinks = [])
    (tracks : Tracks outcomes) (becomes : Becomes start outcomes log) :
    IsKept start outcomes log ↔ ∀ o e, lastNumbered outcomes = some (o, .error e) →
      lastOpened outcomes = none ∧ o.number? = some start.threshold := by
  have others := becomes.others
  cases becomes with
  | untouched unnumbered =>
      have unopened := tracks.unopened unnumbered
      have kept : IsKept start outcomes start :=
        ⟨by simp [fresh, unopened], by simp [unopened], fun _ => rfl, others⟩
      simp [kept, unnumbered]
  | @opened o n last numbered =>
      have opened := tracks.opened last
      have kept : IsKept start outcomes ⟨n, start.others ++ [.sink o.sink]⟩ :=
        ⟨by simp [opened], by simp [opened, numbered], by simp [opened], others⟩
      simp [kept, last]
  | @blocked o n e last numbered =>
      constructor
      · intro kept o' e' same
        obtain ⟨rfl, -⟩ : o = o' ∧ _ := by simpa [last] using same
        have unopened : lastOpened outcomes = none := by simpa using kept.sinks
        exact ⟨unopened, numbered.trans (congrArg some (kept.unset unopened))⟩
      · intro blocked
        obtain ⟨unopened, same⟩ := blocked o e last
        have unset : n = start.threshold := Option.some.inj (numbered.symm.trans same)
        exact ⟨by simp [unopened], by simp [unopened], fun _ => unset, others⟩

/-- Some openings leave a log without sinks as the last successful one made it exactly if the last
that names a number did not fail, or none succeeded and that one names the threshold that was set
before. Whatever happened, the log is settled by the last opening that names a number: where it failed,
the log has its threshold and no sink. One more opening that fails changes nothing exactly if it names
no number, or there is no sink to lose and it names the threshold that is set. -/
theorem run_kept_iff {start : State} (fresh : start.sinks = []) (fs : FileSystem)
    (openings : List Opening) :
    let run := start.run fs openings
    run.outcomes.map (·.1) = openings ∧ Becomes start run.outcomes run.log ∧
    (IsKept start run.outcomes run.log ↔
      ∀ o e, lastNumbered run.outcomes = some (o, .error e) →
        lastOpened run.outcomes = none ∧ o.number? = some start.threshold) ∧
    ∀ (o : Opening) e log fs', run.log.opened run.fs o.path o.level = (.error e, log, fs') →
      (log = run.log ↔
        ∀ n, o.number? = some n → run.log.sinks = [] ∧ n = run.log.threshold) := by
  intro run
  have becomes : Becomes start run.outcomes run.log := becomes_run start fs openings
  have tracks : Tracks run.outcomes := tracks_run start fs openings
  refine ⟨outcomes_run start fs openings, becomes, isKept_iff fresh tracks becomes, ?_⟩
  intro o e log fs' failed
  have ends := o.ends run.log run.fs
  rw [failed] at ends
  exact Opening.unchanged_iff ends

def infoSink : Opening := ⟨some "a.jsonl".toList, wideOf "INFO"⟩

def debugSink : Opening := ⟨some "f/b.jsonl".toList, wideOf "debug"⟩

def patternSink : Opening := ⟨some "c.jsonl".toList, wideOf "basic_format"⟩

theorem run_kept_iff_replaced :
    unopened.sinks = [] ∧
      (unopened.run ⟨[], [], []⟩ [infoSink, debugSink, patternSink]).log = ⟨10, [.sink debugSink.sink]⟩ ∧
      IsKept unopened (unopened.run ⟨[], [], []⟩ [infoSink, debugSink, patternSink]).outcomes
        (unopened.run ⟨[], [], []⟩ [infoSink, debugSink, patternSink]).log := by
  have last : lastNumbered (unopened.run ⟨[], [], []⟩ [infoSink, debugSink, patternSink]).outcomes =
      some (debugSink, .ok ()) := by cbv
  have fresh : unopened.sinks = [] := rfl
  obtain ⟨-, -, kept_iff, -⟩ := run_kept_iff fresh ⟨[], [], []⟩ [infoSink, debugSink, patternSink]
  refine ⟨fresh, by cbv, kept_iff.mpr ?_⟩
  intro o e blocked
  cases last.symm.trans blocked

def fileInTheWay : FileSystem := ⟨[([['f']], .file [])], [], []⟩

/-- A sink is lost, and the threshold changed, by an opening that fails at the directory of its own. -/
theorem blocked_opening_loses_sink :
    (unopened.run fileInTheWay [infoSink]).log = ⟨20, [.sink infoSink.sink]⟩ ∧
      (unopened.run fileInTheWay [infoSink, debugSink]).outcomes =
        [(infoSink, .ok ()), (debugSink, .error (.path (.system .exists ['f'])))] ∧
      (unopened.run fileInTheWay [infoSink, debugSink]).log = ⟨10, []⟩ ∧
      ¬ IsKept unopened (unopened.run fileInTheWay [infoSink, debugSink]).outcomes
        (unopened.run fileInTheWay [infoSink, debugSink]).log := by
  have outcomes : (unopened.run fileInTheWay [infoSink, debugSink]).outcomes =
      [(infoSink, .ok ()), (debugSink, .error (.path (.system .exists ['f'])))] := by cbv
  have lost : (unopened.run fileInTheWay [infoSink, debugSink]).log = ⟨10, []⟩ := by cbv
  refine ⟨by cbv, outcomes, lost, ?_⟩
  intro kept
  have sinks := kept.sinks
  rw [lost, outcomes] at sinks
  cases sinks

end MaskedPath.Log
