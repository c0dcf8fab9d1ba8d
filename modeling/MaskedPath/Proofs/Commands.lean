import MaskedPath.Proofs.Chains
import MaskedPath.Proofs.MaskSources
import MaskedPath.Proofs.PrintedText
import MaskedPath.Proofs.Shown

namespace MaskedPath.CommandLine

open MaskedPath.Action

section

variable [Runtime]

/-! ## What is built -/

def built (fs : FileSystem) (s : Settings) : Store := ((buildMasking fs s).run .empty).2

def judgeOf (fs : FileSystem) (s : Settings) : Judge := (built fs s).judge fs 0

def below (fs : FileSystem) (s : Settings) : Replies :=
  Replies.nothing.searched fs (s.searchPath.map .parse)

variable {fs : FileSystem} {s : Settings} {name : Text}

theorem judgeOf_eq (fs : FileSystem) (s : Settings) : judgeOf fs s =
    ⟨s.registry fs, (Attributor.identifier {}).library fs⟩ := by
  obtain ⟨-, masking_eq, -⟩ := buildMasking_masking fs s .empty
  unfold judgeOf built Store.judge
  rw [masking_eq]
  rfl

theorem built_faithful (fs : FileSystem) (s : Settings) : (built fs s).Faithful fs := by
  obtain ⟨-, masking_eq, -⟩ := buildMasking_masking fs s .empty
  exact Store.faithful_of_masking_eq masking_eq (Cache.faithful_empty s.policy) Store.faithful_empty

/-- What a command does after building is run from the store that is built. -/
theorem run_afterBuilding {α : Type} {f : Resolver × Nat × Resolver → Action α}
    {r : Except Failure α}
    (gives : Action.Gives fs ((built fs s).judge fs) (f (.masking 0 s.search, 0, s.search)) r) :
    ((buildMasking fs s >>= f).run .empty).1 = r := by
  rw [run_bind_ok (buildMasking_masking fs s .empty).1]
  exact (gives _ (built_faithful fs s) rfl).1

theorem check_resource_run (fs : FileSystem) (s : Settings) (name : Text) :
    ((check fs s name true).run .empty).1 = (do
      let origin ← (judgeOf fs s).originOfFirst (below fs s).locate [name]
      let location ← ((below fs s).masked (judgeOf fs s)).locate name
      return (if location.isSome then 0 else 1, [.text (checkLine name origin location)])) := by
  apply run_afterBuilding
  refine (Masking.gives_originOfFirst 0 (Resolver.gives_locate s.search) [name]).bind
    fun origin _ => ?_
  exact (Resolver.gives_locate (.masking 0 s.search) name).bind fun location _ => gives_pure _

theorem check_module_run (fs : FileSystem) (s : Settings) (name : Text) :
    ((check fs s name false).run .empty).1 = (do
      let origin ← (judgeOf fs s).originOfFirst (below fs s).locate (ModuleName.candidates name)
      let m ← ((below fs s).masked (judgeOf fs s)).resolve name false
      return (if (m.map (·.location)).isSome then 0 else 1,
        [.text (checkLine name origin (m.map (·.location)))])) := by
  apply run_afterBuilding
  refine (Masking.gives_originOfFirst 0 (Resolver.gives_locate s.search)
    (ModuleName.candidates name)).bind fun origin _ => ?_
  exact (Resolver.gives_resolve (.masking 0 s.search) name false).bind fun m _ => gives_pure _

theorem resources_run (fs : FileSystem) (s : Settings) (name : Text) :
    ((resources fs s name).run .empty).1 = (do
      let locations ← (below fs s).enumerate name
      let visible ← ((below fs s).masked (judgeOf fs s)).enumerate name
      return (0, [if locations = [] then
          .text (styled .dim (wideOf "No locations found for " ++ wide name))
        else .table ⟨wideOf "Locations of " ++ wide name, [wideOf "Location", wideOf "Status"],
          locations.map (resourceRow visible)⟩])) := by
  apply run_afterBuilding
  refine (Resolver.gives_enumerate s.search name).bind fun locations _ => ?_
  refine (Resolver.gives_enumerate (.masking 0 s.search) name).bind fun visible _ => ?_
  by_cases nothing : locations = []
  · simp only [nothing, if_true]
    exact gives_pure _
  · simp only [nothing, if_false]
    exact gives_pure _

/-! ## Verdicts -/

/-- Whether a name is not masked as a resource, and a location has an origin that is not masked. -/
structure Shows (fs : FileSystem) (s : Settings) (name : Text) (location : Location) : Prop where
  named : ((built fs s).masking 0).registry.hidesResource name = false
  unmasked : ∃ origin, ((Masking.locationOrigin fs 0 location).run (built fs s)).1 = .ok origin ∧
    origin ≠ .masked

theorem locationOrigin_built (location : Location) :
    ((Masking.locationOrigin fs 0 location).run (built fs s)).1 = (judgeOf fs s).origin location :=
  (Masking.gives_locationOrigin 0 location _ (built_faithful fs s) rfl).1

theorem enumerate_built :
    ((s.search.enumerate fs name).run (built fs s)).1 = (below fs s).enumerate name :=
  Resolver.enumerate_run (built_faithful fs s) s.search name

theorem shows_iff {location : Location} : Shows fs s name location ↔
    (judgeOf fs s).registry.hidesResource name = false ∧ (judgeOf fs s).Passes location := by
  refine ⟨fun shows => ⟨shows.named, ?_⟩, fun both => ⟨both.1, ?_⟩⟩
  · obtain ⟨origin, judged, notMasked⟩ := shows.unmasked
    rw [locationOrigin_built] at judged
    exact ⟨origin, judged, notMasked⟩
  · obtain ⟨origin, judged, notMasked⟩ := both.2
    rw [← locationOrigin_built] at judged
    exact ⟨origin, judged, notMasked⟩

theorem below_locatesFirst : (below fs s).LocatesFirst :=
  Replies.locatesFirst_nothing.searched _

/-! ## Checks -/

def Found (fs : FileSystem) (s : Settings) (name : Text) (location : Location)
    (output : List Output) : Prop :=
  ∃ origin, ((Masking.locationOrigin fs 0 location).run (built fs s)).1 = .ok origin ∧
    origin ≠ .masked ∧ output = [.text (checkLine name origin (some location))]

variable {status : Nat} {output : List Output} {locations : List Location}

theorem shows_of_masked_locate {location : Location}
    (located : ((below fs s).masked (judgeOf fs s)).locate name = .ok (some location)) :
    Shows fs s name location := by
  obtain ⟨shown, -, -⟩ := Replies.eq_some_of_guarded located
  exact shows_iff.mpr ⟨shown, (Replies.passes_of_masked_locate located).2⟩

theorem check_resource_visible (checked : ((check fs s name true).run .empty).1 = .ok (0, output)) :
    ∃ location, (below fs s).locate name = .ok (some location) ∧ Shows fs s name location ∧
      Found fs s name location output := by
  rw [check_resource_run] at checked
  obtain ⟨origin, judged, checked⟩ := bind_eq_ok.mp checked
  obtain ⟨location, located, checked⟩ := bind_eq_ok.mp checked
  obtain ⟨visible, rfl⟩ := Prod.mk.inj (Except.ok.inj checked)
  cases location with
  | none => cases visible
  | some location =>
      obtain ⟨there, -⟩ := Replies.passes_of_masked_locate located
      have shows := shows_of_masked_locate located
      obtain ⟨origin', judged', notMasked⟩ := (shows_iff.mp shows).2
      rw [Judge.originOfFirst_of_firstFound (.head there []), judged'] at judged
      obtain rfl := Except.ok.inj judged
      exact ⟨location, there, shows, origin', by rw [locationOrigin_built, judged'], notMasked, rfl⟩

theorem check_resource_of_shows {location : Location}
    (checked : ((check fs s name true).run .empty).1 = .ok (status, output))
    (there : (below fs s).locate name = .ok (some location)) (shows : Shows fs s name location) :
    status = 0 := by
  obtain ⟨shown, passes⟩ := shows_iff.mp shows
  rw [check_resource_run] at checked
  obtain ⟨origin, -, checked⟩ := bind_eq_ok.mp checked
  obtain ⟨answer, located, checked⟩ := bind_eq_ok.mp checked
  rw [Replies.masked_locate_of_passes shown there passes] at located
  obtain rfl := Except.ok.inj located
  exact (Prod.mk.inj (Except.ok.inj checked)).1.symm

theorem check_module_visible (checked : ((check fs s name false).run .empty).1 = .ok (0, output)) :
    ∃ location, Found fs s name location output := by
  rw [check_module_run] at checked
  obtain ⟨origin, judged, checked⟩ := bind_eq_ok.mp checked
  obtain ⟨answer, resolved, checked⟩ := bind_eq_ok.mp checked
  obtain ⟨visible, rfl⟩ := Prod.mk.inj (Except.ok.inj checked)
  cases answer with
  | none => cases visible
  | some m =>
      obtain ⟨-, unmasked, origin', judged', notMasked⟩ := Replies.masked_resolve_eq_some resolved
      obtain rfl := Except.ok.inj (judged.symm.trans judged')
      obtain ⟨resource, first⟩ := Search.firstFound_of_resolve unmasked
      have at_location : (judgeOf fs s).origin m.location = .ok origin :=
        (Judge.originOfFirst_of_firstFound first).symm.trans judged
      exact ⟨m.location, origin, by rw [locationOrigin_built, at_location], notMasked, rfl⟩

theorem check_visible {asResource : Bool}
    (checked : ((check fs s name asResource).run .empty).1 = .ok (0, output)) :
    ∃ location, Found fs s name location output := by
  cases asResource with
  | true =>
      obtain ⟨location, -, -, found⟩ := check_resource_visible checked
      exact ⟨location, found⟩
  | false => exact check_module_visible checked

/-! ## Listings -/

theorem resources_ok (listed : ((resources fs s name).run .empty).1 = .ok (status, output)) :
    status = 0 ∧ ∃ locations visible, (below fs s).enumerate name = .ok locations ∧
      (∀ location ∈ locations, location ∈ visible ↔ Shows fs s name location) ∧
      output = [if locations = [] then
          .text (styled .dim (wideOf "No locations found for " ++ wide name))
        else .table ⟨wideOf "Locations of " ++ wide name, [wideOf "Location", wideOf "Status"],
          locations.map (resourceRow visible)⟩] := by
  rw [resources_run] at listed
  obtain ⟨locations, there, listed⟩ := bind_eq_ok.mp listed
  obtain ⟨visible, shown, listed⟩ := bind_eq_ok.mp listed
  obtain ⟨rfl, rfl⟩ := Prod.mk.inj (Except.ok.inj listed)
  refine ⟨rfl, locations, visible, there, fun location member => ?_, rfl⟩
  rw [shows_iff]
  cases hidden : (judgeOf fs s).registry.hidesResource name with
  | true =>
      rw [Replies.enumerate_of_hidden hidden] at shown
      obtain rfl := Except.ok.inj shown
      simp
  | false =>
      rw [Replies.enumerate_of_shown hidden, there] at shown
      rw [Judge.mem_visible_iff shown]
      simp [member]

end

/-! ## What is handed to the console -/

def unstyled (_ : Style) (t : WideText) : WideText := t

def originNote (origin : Origin) : WideText := wideOf ("(origin: " ++ origin.name ++ ")")

def visibleLine (draw : Style → WideText → WideText) (name : Text) (location : Location)
    (origin : Origin) : WideText :=
  draw .green (wideOf "visible") ++
    (wideOf " " ++ wide name ++ wideOf " -> " ++ wide location ++ wideOf " ") ++
    draw .dim (originNote origin)

def listing (draw : Style → WideText → WideText) (name : Text)
    (rows : List (List WideText)) : Output :=
  if rows = [] then .text (draw .dim (wideOf "No locations found for " ++ wide name))
  else .table ⟨wideOf "Locations of " ++ wide name, [wideOf "Location", wideOf "Status"], rows⟩

def rowOf (draw : Style → WideText → WideText) (shown : Bool) (location : Location) :
    List WideText :=
  [wide location, if shown then draw .green (wideOf "visible") else draw .red (wideOf "masked")]

section

variable {codes : WideText → Prop} {name : Text} {location : Location} {origin : Origin}
  {locations : List Location}

theorem checkLine_some (location : Location) (origin : Origin) :
    checkLine name origin (some location) = visibleLine styled name location origin := by
  simp [checkLine, visibleLine, originNote]

theorem listing_resourceRow (visible : List Location) :
    (if locations = [] then
      .text (styled .dim (wideOf "No locations found for " ++ wide name))
    else .table ⟨wideOf "Locations of " ++ wide name, [wideOf "Location", wideOf "Status"],
      locations.map (resourceRow visible)⟩) =
      listing styled name (locations.map fun l => rowOf styled (visible.contains l) l) := by
  simp only [listing, List.map_eq_nil_iff]
  rfl

theorem isPlain_originNote : IsPlain codes (originNote origin) := by
  have split : originNote origin =
      wideOf "(origin" ++ .ofChar ':' :: wideOf (" " ++ origin.name ++ ")") := by
    cases origin <;> rfl
  rw [split]
  exact .of_one_colon (by cases origin <;> decide)

theorem visibleLine_reads (named : IsPlain codes (wide name)) (there : IsPlain codes (wide location)) :
    Reads codes (visibleLine styled name location origin)
      (visibleLine unstyled name location origin) := by
  have arrow : IsPlain codes (wideOf "->") := .of_forall (by decide)
  have middle := IsPlain.nil.append_blank (named.append_blank (arrow.append_blank
    (there.append_blank .nil)))
  refine .line .green .dim (.of_forall (by decide)) ?_ isPlain_originNote
  simpa [wideOf, wide] using middle

theorem rowOf_reads (shown : Bool) (there : IsPlain codes (wide location)) :
    List.Forall₂ (Reads codes) (rowOf styled shown location) (rowOf unstyled shown location) := by
  cases shown with
  | true => exact .cons (.plain there) (.cons (.styled .green (.of_forall (by decide))) .nil)
  | false => exact .cons (.plain there) (.cons (.styled .red (.of_forall (by decide))) .nil)

theorem listing_reads {shown : Location → Bool} (named : IsPlain codes (wide name))
    (there : ∀ location ∈ locations, IsPlain codes (wide location)) :
    (listing styled name (locations.map fun l => rowOf styled (shown l) l)).Reads codes
      (listing unstyled name (locations.map fun l => rowOf unstyled (shown l) l)) := by
  have plain {t : String} (ordinary : ∀ c ∈ wideOf t, IsOrdinary c) : IsPlain codes (wideOf t) :=
    .of_forall ordinary
  unfold listing
  by_cases nothing : locations = []
  · have absent : IsPlain codes (wideOf "No locations found for " ++ wide name) := by
      have begins := (plain (t := "No locations found for") (by decide)).append_blank named
      simpa [wideOf, wide] using begins
    simp only [nothing, List.map_nil, if_true]
    exact .styled .dim absent
  · have title : IsPlain codes (wideOf "Locations of " ++ wide name) := by
      have begins := (plain (t := "Locations of") (by decide)).append_blank named
      simpa [wideOf, wide] using begins
    simp only [List.map_eq_nil_iff, nothing, if_false]
    refine ⟨.plain title,
      .cons (.plain (plain (by decide))) (.cons (.plain (plain (by decide))) .nil), ?_⟩
    refine List.forall₂_map_left_iff.mpr (List.forall₂_map_right_iff.mpr ?_)
    exact List.forall₂_same.mpr fun location member => rowOf_reads _ (there location member)

end

/-! ## Checks beside listings -/

section

variable [Runtime] [Console] {fs : FileSystem} {s : Settings} {name : Text}

def Command.Ends (fs : FileSystem) (s : Settings) (c : Command) (status : Nat)
    (shown : List Output) : Prop :=
  ∃ output, ((c.run fs s).run .empty).1 = .ok (status, output) ∧
    output.mapM (Console.display .output) = .ok shown

theorem run_eq_done_iff [Settings.Reader] [Frontend] {env : Settings.Environment} {created : Json}
    {words rest : List Text} {globals : Globals} {kind : CommandName} {log : Log.State}
    {opened : FileSystem} {c : Command} {status : Nat} {shown : List Output}
    (split : readGlobals fs words = .ok (globals, kind, rest))
    (logging : openLog fs globals = (.ok (), log, opened))
    (loaded : (Settings.load opened env globals.config).1 = .ok s)
    (given : readCommand (log.logEvents opened created
      (Settings.load opened env globals.config).2) kind rest = .ok c) :
    (run fs env created words).1 = .ok (.done status shown []) ↔
      c.Ends (log.logEvents opened created (Settings.load opened env globals.config).2) s status
        shown := by
  unfold run
  rw [split]
  dsimp only
  rw [logging]
  dsimp only
  rw [loaded]
  dsimp only
  rw [given]
  dsimp only
  unfold Command.Ends
  rcases (c.run _ s).run .empty with ⟨e | ⟨status', output⟩, store⟩
  · simp
  · dsimp only
    cases displayed : output.mapM (Console.display .output) <;> simp [displayed]

/-- Whether a console shows this of output: what it makes of it with its styles; and if the texts in it
are plain, and it fits on a console that keeps plain text, the output without them. -/
structure Displays (texts : List Text) (o : (Style → WideText → WideText) → Output)
    (shown : List Output) : Prop where
  display_eq : [o styled].mapM (Console.display .output) = .ok shown
  plainly : ∀ codes width, Console.KeepsPlain codes width →
    (∀ t ∈ texts, IsPlain codes (wide t)) → (o unstyled).Fits width → shown = [o unstyled]

def Tells (fs : FileSystem) (s : Settings) (name : Text) (draw : Style → WideText → WideText)
    (location : Location) (row : List WideText) : Prop :=
  Shows fs s name location ∧ row = [wide location, draw .green (wideOf "visible")] ∨
    ¬ Shows fs s name location ∧ row = [wide location, draw .red (wideOf "masked")]

def Lists (fs : FileSystem) (s : Settings) (name : Text) (locations : List Location)
    (shown : List Output) : Prop :=
  ∃ rows : (Style → WideText → WideText) → List (List WideText),
    (∀ draw, List.Forall₂ (Tells fs s name draw) locations (rows draw)) ∧
      Displays (name :: locations) (fun draw => listing draw name (rows draw)) shown

def Reports (fs : FileSystem) (s : Settings) (name : Text) (location : Location)
    (shown : List Output) : Prop :=
  ∃ origin, ((Masking.locationOrigin fs 0 location).run (built fs s)).1 = .ok origin ∧
    origin ≠ .masked ∧
    Displays [name, location] (fun draw => .text (visibleLine draw name location origin)) shown

variable {shown shown' : List Output} {status status' : Nat} {output : List Output} {a : Additions}

omit [Runtime] in
theorem mapM_singleton_eq_ok {o : Output} : [o].mapM (Console.display .output) = .ok shown ↔
    ∃ u, Console.display .output o = .ok u ∧ shown = [u] := by
  rw [mapM_eq_ok_iff, List.forall₂_cons_left_iff]
  simp

omit [Runtime] in
theorem Displays.of_reads {texts : List Text} {o : (Style → WideText → WideText) → Output}
    (displayed : [o styled].mapM (Console.display .output) = .ok shown)
    (reads : ∀ codes, (∀ t ∈ texts, IsPlain codes (wide t)) → (o styled).Reads codes (o unstyled)) :
    Displays texts o shown := by
  refine ⟨displayed, fun codes width keeps plain fits => ?_⟩
  obtain ⟨u, given, rfl⟩ := mapM_singleton_eq_ok.mp displayed
  obtain rfl := Except.ok.inj (given.symm.trans (keeps .output _ _ (reads codes plain) fits))
  rfl

theorem Found.reports {location : Location} (found : Found fs s name location output)
    (displayed : output.mapM (Console.display .output) = .ok shown) :
    Reports fs s name location shown := by
  obtain ⟨origin, judged, notMasked, rfl⟩ := found
  rw [checkLine_some] at displayed
  refine ⟨origin, judged, notMasked, .of_reads displayed fun codes plain => ?_⟩
  exact visibleLine_reads (plain name (by simp)) (plain location (by simp))

omit [Console] in
theorem tells_rowOf {visible : List Location} {location : Location}
    (shown : location ∈ visible ↔ Shows fs s name location) (draw : Style → WideText → WideText) :
    Tells fs s name draw location (rowOf draw (visible.contains location) location) := by
  by_cases member : location ∈ visible
  · rw [List.contains_iff_mem.mpr member]
    exact .inl ⟨shown.mp member, rfl⟩
  · rw [Bool.eq_false_iff.mpr fun contained => member (List.contains_iff_mem.mp contained)]
    exact .inr ⟨fun shows => member (shown.mpr shows), rfl⟩

theorem resources_lists (listed : (Command.resources name a).Ends fs s status shown) :
    ∃ locations, (below fs (extend s a)).enumerate name = .ok locations ∧
      Lists fs (extend s a) name locations shown := by
  obtain ⟨output, listed, displayed⟩ := listed
  obtain ⟨-, locations, visible, there, marks, rfl⟩ := resources_ok listed
  rw [listing_resourceRow] at displayed
  refine ⟨locations, there, fun draw => locations.map fun l => rowOf draw (visible.contains l) l,
    fun draw => ?_, .of_reads displayed fun codes plain => ?_⟩
  · refine List.forall₂_map_right_iff.mpr (List.forall₂_same.mpr fun location member => ?_)
    exact tells_rowOf (marks location member) draw
  · exact listing_reads (plain name List.mem_cons_self)
      fun location member => plain location (List.mem_cons_of_mem _ member)

/-- A check and a listing of one name agree. The rows of the listing are the parent's locations in
their order, each with its mark; the check succeeds exactly if the first of them is marked visible, and
reports that one. Whatever a check reports, of a resource or of a module, has an origin that is not
masked. Names and locations are handed to the console as markup, and are shown as they stand if they are
plain and fit. -/
theorem check_agrees_with_resources
    (checked : (Command.check name true a).Ends fs s status shown)
    (listed : (Command.resources name a).Ends fs s status' shown') :
    let t := extend s a
    ∃ locations, ((t.search.enumerate fs name).run (built fs t)).1 = .ok locations ∧
      Lists fs t name locations shown' ∧
      (status = 0 ↔ ∃ first, locations.head? = some first ∧ Shows fs t name first) ∧
      (status = 0 → ∃ first, locations.head? = some first ∧ Reports fs t name first shown) ∧
      ∀ subject asResource report, (Command.check subject asResource a).Ends fs s 0 report →
        ∃ location, Reports fs t subject location report := by
  intro t
  obtain ⟨locations, there, lists⟩ := resources_lists listed
  obtain ⟨output, checked, displayed⟩ := checked
  -- What a name is located at is the first of what is enumerated, whatever the search path is.
  have located := below_locatesFirst name locations there
  have visible (succeeds : status = 0) : ∃ first, locations.head? = some first ∧
      Shows fs t name first ∧ Found fs t name first output := by
    subst succeeds
    obtain ⟨first, found, shows, reported⟩ := check_resource_visible checked
    exact ⟨first, Except.ok.inj (located.symm.trans found), shows, reported⟩
  refine ⟨locations, enumerate_built.trans there, lists, ⟨fun succeeds => ?_, ?_⟩,
    fun succeeds => ?_, ?_⟩
  · obtain ⟨first, head, shows, -⟩ := visible succeeds
    exact ⟨first, head, shows⟩
  · rintro ⟨first, head, shows⟩
    rw [head] at located
    exact check_resource_of_shows checked located shows
  · obtain ⟨first, head, -, found⟩ := visible succeeds
    exact ⟨first, head, found.reports displayed⟩
  · rintro subject asResource report ⟨output, checked, displayed⟩
    obtain ⟨location, found⟩ := check_visible checked
    exact ⟨location, found.reports displayed⟩

section

variable {location : Location} {origin : Origin} {line table : Output}

/-- A name with one location, which is shown: what a check and a listing of it print. -/
theorem ends_of_one_location (there : (below fs (extend s a)).enumerate name = .ok [location])
    (unhidden : ((extend s a).registry fs).hidesResource name = false)
    (judged : (judgeOf fs (extend s a)).origin location = .ok origin) (notMasked : origin ≠ .masked)
    (checked : Console.display .output (.text (visibleLine styled name location origin)) = .ok line)
    (listed : Console.display .output (listing styled name [rowOf styled true location]) =
      .ok table) :
    (Command.check name true a).Ends fs s 0 [line] ∧
      (Command.resources name a).Ends fs s 0 [table] := by
  have located := below_locatesFirst name _ there
  have passes : (judgeOf fs (extend s a)).Passes location := ⟨origin, judged, notMasked⟩
  have named : (judgeOf fs (extend s a)).registry.hidesResource name = false := by
    rw [judgeOf_eq]
    exact unhidden
  rw [← checkLine_some] at checked
  constructor
  · refine ⟨_, ?_, mapM_singleton_eq_ok.mpr ⟨_, checked, rfl⟩⟩
    refine (check_resource_run fs (extend s a) name).trans ?_
    rw [Judge.originOfFirst_of_firstFound (.head located []), judged,
      Replies.masked_locate_of_passes named located passes]
    rfl
  · refine ⟨_, ?_, mapM_singleton_eq_ok.mpr ⟨_, listed, rfl⟩⟩
    have visible : (judgeOf fs (extend s a)).visible [location] = .ok [location] := by
      rw [Judge.visible_cons, judged]
      simp [notMasked, Judge.visible]
    refine (resources_run fs (extend s a) name).trans ?_
    have marked : [location].contains location = true := by simp
    rw [Replies.enumerate_of_shown named, there, ok_bind, ok_bind, visible, ok_bind,
      listing_resourceRow, List.map_singleton, marked]
    rfl

end

end

/-! ## A loose file -/

open scoped MaskedPath.Standard

namespace Loose

def files : FileSystem where
  nodes := [([['t'], ['d'], ['x']], .file []), ([['t'], ['d']], .directory), ([['t']], .directory)]
  home := [['t']]

def options : Additions := ⟨[['d']], [], []⟩

def path : Path := .parse "/t/d/x".toList

def location : Location := .ofResolved path

theorem enumerate_below :
    (below files (extend .standard options)).enumerate ['x'] = .ok [location] := by
  cbv

def line : Output := .text (wideOf "visible x -> file:///t/d/x (origin: indeterminate)")

def table : Output := .table ⟨wideOf "Locations of x", [wideOf "Location", wideOf "Status"],
  [[wide location, wideOf "visible"]]⟩

theorem isPlain_name : IsPlain Emoji.IsKnown (wide ['x']) := .of_forall (by decide)

theorem display_line : Console.display .output
    (.text (visibleLine styled ['x'] location .indeterminate)) = .ok line :=
  Standard.keepsPlain 80 _ _ _ (visibleLine_reads isPlain_name (isPlain_ofResolved path)) (by decide)

theorem display_table :
    Console.display .output (listing styled ['x'] [rowOf styled true location]) = .ok table := by
  have located : ∀ l ∈ [location], IsPlain Emoji.IsKnown (wide l) :=
    List.forall_mem_singleton.mpr (isPlain_ofResolved path)
  have reads := @listing_reads _ _ _ (fun _ => true) isPlain_name located
  exact Standard.keepsPlain 80 _ _ _ reads (by decide)

theorem ends : (Command.check ['x'] true options).Ends files .standard 0 [line] ∧
    (Command.resources ['x'] options).Ends files .standard 0 [table] :=
  ends_of_one_location enumerate_below (by cbv) (by rfl) (by decide) display_line display_table

end Loose

theorem check_agrees_with_resources_loose :
    (Command.check ['x'] true Loose.options).Ends Loose.files .standard 0 [Loose.line] ∧
      (Command.resources ['x'] Loose.options).Ends Loose.files .standard 0 [Loose.table] ∧
      Shows Loose.files (extend .standard Loose.options) ['x'] Loose.location ∧
      Reports Loose.files (extend .standard Loose.options) ['x'] Loose.location
        [Loose.line] := by
  obtain ⟨checked, listed⟩ := Loose.ends
  obtain ⟨locations, there, -, succeeds, reported, -⟩ := check_agrees_with_resources checked listed
  obtain rfl := Except.ok.inj
    (there.symm.trans (enumerate_built.trans Loose.enumerate_below))
  obtain ⟨first, head, shows⟩ := succeeds.mp rfl
  obtain ⟨first', head', reports⟩ := reported rfl
  obtain rfl := Option.some.inj head
  obtain rfl := Option.some.inj head'
  exact ⟨checked, listed, shows, reports⟩

/-! ## A location that is taken for a tag -/

namespace Tagged

/-- A name with brackets: of a name and a location with this name in it, what stands between the opening
bracket of the one and the closing bracket of the other is a tag. -/
def resource : Text := "]x[b".toList

def bytes : Bytes :=
  Packaged.bytesOf ("PK\x03\x04\x14\x00\x00\x00\x00\x00\x00\x00!\x00\x00\x00\x00\x00\x00\x00\x00\x00" ++
    "\x00\x00\x00\x00\x04\x00\x00\x00]x[b") ++
  Packaged.bytesOf ("PK\x01\x02\x14\x00\x14\x00\x00\x00\x00\x00\x00\x00!\x00\x00\x00\x00\x00\x00\x00\x00" ++
    "\x00\x00\x00\x00\x00\x04\x00\x00\x00\x00\x00\x00\x00\x00\x00\x00\x00\x80\x01\x00\x00\x00\x00]x[b") ++
  Packaged.bytesOf "PK\x05\x06\x00\x00\x00\x00\x01\x00\x01\x002\x00\x00\x00\"\x00\x00\x00\x00\x00"

def member : Member where
  rawName := resource
  flags := 0
  method := 0
  checksum := 0
  packedSize := 0
  size := 0
  attributes := 0x1800000
  headerOffset := 0
  limit := 34

set_option maxRecDepth 4000 in
theorem parse_bytes : Archive.parse bytes = .ok ⟨bytes, [member]⟩ := by
  cbv

def files : FileSystem := OneArchive.files bytes

def options : Additions := ⟨["lib.jar".toList], [], []⟩

def location : Location := Location.ofMemberAt OneArchive.key resource

theorem enumerate_below :
    (below files (extend .standard options)).enumerate resource = .ok [location] := by
  have held : ((Archive.mk bytes [member]).member? resource).isSome = true := by decide
  have located : Search.located files resource OneArchive.entry = .ok (some location) := by
    unfold files
    rw [OneArchive.located_entry parse_bytes, held]
    rfl
  unfold below
  rw [Replies.enumerate_of_named (by decide)]
  change (([OneArchive.entry].mapM (Search.located files resource)) >>= _) = _
  rw [List.mapM_cons, located]
  rfl

theorem origin_location :
    (judgeOf files (extend .standard options)).origin location = .ok .notMasked := by
  have attributed : ({} : Identifier).attributePath files OneArchive.entry =
      .ok (.noMetadata OneArchive.entry) := by
    apply Identifier.attributePath_of_no_metadata
      (FileSystem.readArchive_of_read (OneArchive.read_entry bytes) parse_bytes)
    apply eq_ok_of_toOption
    decide
  have void : ({} : Identifier).libraryAt files OneArchive.entry = .ok .void := by
    unfold Identifier.libraryAt
    rw [attributed]
    rfl
  rw [judgeOf_eq]
  exact OneArchive.origin_eq void _ resource

def line : WideText := wideOf "visible ]xx[b (origin: not_masked)"

theorem plain_line :
    Markup.plain (visibleLine styled resource location .notMasked) = .ok line := by
  cbv

theorem display_line : Console.display .output
    (.text (visibleLine styled resource location .notMasked)) = .ok (.text line) := by
  change Except.mapError _ ((Markup.plain _).map _) = _
  rw [plain_line]
  rfl

theorem plain_location :
    Markup.plain (wide location) = .ok (Markup.shown (wide location)) := by
  have untagged : Markup.parse (wide location) = [.plain (wide location)] := by cbv
  unfold Markup.plain
  rw [untagged]
  simp [Markup.plainFrom, Except.map, Markup.shown]

def table : Table := ⟨wideOf "Locations of ]x[b", [wideOf "Location", wideOf "Status"],
  [[Markup.shown (wide location), wideOf "visible"]]⟩

theorem plain_table : Table.plain ⟨wideOf "Locations of " ++ wide resource,
    [wideOf "Location", wideOf "Status"], [rowOf styled true location]⟩ = .ok table := by
  have titled : Markup.plain (wideOf "Locations of " ++ wide resource) =
      .ok (wideOf "Locations of ]x[b") := by cbv
  have plain {t : String} (ordinary : ∀ c ∈ wideOf t, IsOrdinary c) :
      Markup.plain (wideOf t) = .ok (wideOf t) :=
    (Markup.prints_plain (.of_forall ordinary)).plain_eq
  have heads := And.intro (plain (t := "Location") (by decide)) (plain (t := "Status") (by decide))
  have mark : Markup.plain (styled .green (wideOf "visible")) = .ok (wideOf "visible") :=
    (Markup.prints_of_reads (.styled .green (.of_forall (by decide)))).plain_eq
  simp [Table.plain, table, columnsOf, plainAll, rowOf, List.range_succ_eq_map, heads, titled,
    plain_location, mark]

theorem display_table : Console.display .output
    (listing styled resource [rowOf styled true location]) = .ok (.table table) := by
  change Except.mapError _ ((Table.plain _).map _) = _
  rw [plain_table]
  rfl

theorem ends : (Command.check resource true options).Ends files .standard 0 [.text line] ∧
    (Command.resources resource options).Ends files .standard 0 [.table table] :=
  ends_of_one_location enumerate_below (by cbv) origin_location (by decide) display_line display_table

end Tagged

/-- A check that succeeds, of a name with one location, which it does not print. -/
theorem visible_location_taken_for_tag :
    let t := extend .standard Tagged.options
    (Command.check Tagged.resource true Tagged.options).Ends Tagged.files .standard 0
        [.text Tagged.line] ∧
      (Command.resources Tagged.resource Tagged.options).Ends Tagged.files .standard 0
        [.table Tagged.table] ∧
      ((t.search.enumerate Tagged.files Tagged.resource).run (built Tagged.files t)).1 =
        .ok [Tagged.location] ∧
      ¬ wide Tagged.location <:+: Tagged.line := by
  intro t
  obtain ⟨checked, listed⟩ := Tagged.ends
  exact ⟨checked, listed, enumerate_built.trans Tagged.enumerate_below, by decide⟩

end MaskedPath.CommandLine
