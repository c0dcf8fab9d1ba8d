import MaskedPath.MaskList
import MaskedPath.Proofs.Locations
import MaskedPath.Proofs.Numerals
import Mathlib.Data.List.DropRight

namespace MaskedPath

/-! ## Trimmed text -/

section

variable {α : Type} {drops : α → Bool} {l : List α}

structure IsTrimmed (drops : α → Bool) (l : List α) : Prop where
  head : ∀ a ∈ l.head?, drops a = false
  last : ∀ a ∈ l.getLast?, drops a = false

theorem forall_head?_dropWhile (drops : α → Bool) (l : List α) :
    ∀ a ∈ (l.dropWhile drops).head?, drops a = false := by
  intro a head
  have first := List.head?_dropWhile_not drops l
  rw [Option.mem_def.mp head] at first
  exact first

theorem isTrimmed_trimBoth (drops : α → Bool) (l : List α) : IsTrimmed drops (trimBoth drops l) := by
  refine ⟨fun a head => ?_, fun a last => ?_⟩
  · obtain ⟨rest, whole⟩ : trimBoth drops l <+: l.dropWhile drops := List.rdropWhile_prefix drops _
    refine forall_head?_dropWhile drops l a ?_
    rw [← whole, List.head?_append, Option.mem_def.mp head]
    rfl
  · rw [trimBoth, List.getLast?_reverse] at last
    exact forall_head?_dropWhile drops _ a last

theorem dropWhile_of_head? (head : ∀ a ∈ l.head?, drops a = false) : l.dropWhile drops = l := by
  cases l with
  | nil => rfl
  | cons a l => simp [head a rfl]

theorem IsTrimmed.trimBoth_eq (trimmed : IsTrimmed drops l) : trimBoth drops l = l := by
  have last : ∀ a ∈ l.reverse.head?, drops a = false := by
    rw [List.head?_reverse]
    exact trimmed.last
  rw [trimBoth, dropWhile_of_head? trimmed.head, dropWhile_of_head? last, List.reverse_reverse]

theorem trimBoth_eq_self_iff : trimBoth drops l = l ↔ IsTrimmed drops l := by
  constructor
  · intro same
    rw [← same]
    exact isTrimmed_trimBoth drops l
  · exact IsTrimmed.trimBoth_eq

theorem mem_of_mem_trimBoth {a : α} (member : a ∈ trimBoth drops l) : a ∈ l := by
  obtain ⟨before, after, whole, -⟩ := exists_trimBoth drops l
  rw [whole]
  exact List.mem_append_left _ (List.mem_append_right _ member)

theorem head?_trimBoth (head : ∀ a ∈ l.head?, drops a = false) (nonempty : trimBoth drops l ≠ []) :
    (trimBoth drops l).head? = l.head? := by
  obtain ⟨before, after, whole, before_dropped, -⟩ := exists_trimBoth drops l
  obtain ⟨a, rest, trimmed⟩ := List.exists_cons_of_ne_nil nonempty
  rw [trimmed] at whole ⊢
  cases before with
  | nil =>
      rw [whole]
      rfl
  | cons b before =>
      have stays := head b (by rw [whole]; rfl)
      rw [before_dropped b List.mem_cons_self] at stays
      cases stays

end

theorem cutAt?_eq_none_iff {α : Type} {isEnd : α → Bool} {l : List α} :
    cutAt? isEnd l = none ↔ ∀ a ∈ l, isEnd a = false := by
  induction l with
  | nil => simp [cutAt?]
  | cons a l ih =>
      cases ends : isEnd a <;> simp [cutAt?, ends, ih]

theorem exists_of_cutAt? {α : Type} {isEnd : α → Bool} {l front rest : List α}
    (cut : cutAt? isEnd l = some (front, rest)) :
    ∃ a, l = front ++ a :: rest ∧ isEnd a = true ∧ ∀ b ∈ front, isEnd b = false := by
  induction l generalizing front with
  | nil => cases cut
  | cons a l ih =>
      rw [cutAt?] at cut
      split_ifs at cut with ends
      · cases cut
        exact ⟨a, rfl, ends, by simp⟩
      · obtain ⟨⟨before, after⟩, later, same⟩ := Option.map_eq_some_iff.mp cut
        cases same
        obtain ⟨c, rfl, colon, inside⟩ := ih later
        refine ⟨c, rfl, colon, ?_⟩
        exact List.forall_mem_cons.mpr ⟨by simpa using ends, inside⟩

namespace Library

/-! ## Normal forms -/

/-- What the group and the artifact of a mask entry are: trimmed, not empty and without a colon. -/
structure IsCoordinate (t : WideText) : Prop where
  ne_nil : t ≠ []
  stripped : stripWide t = t
  noColon : .ofChar ':' ∉ t

inductive IsNormal : Library → Prop
  | void : IsNormal .void
  | anyGroup {artifact : WideText} (coordinate : IsCoordinate artifact) : IsNormal ⟨none, artifact⟩
  | grouped {group artifact : WideText} (group_coordinate : IsCoordinate group)
      (artifact_coordinate : IsCoordinate artifact) : IsNormal ⟨some group, artifact⟩

theorem stripWide_stripWide (t : WideText) : stripWide (stripWide t) = stripWide t :=
  (isTrimmed_trimBoth _ t).trimBoth_eq

theorem isCoordinate_stripWide {t : WideText} (noColon : .ofChar ':' ∉ t) (nonempty : stripWide t ≠ []) :
    IsCoordinate (stripWide t) :=
  ⟨nonempty, stripWide_stripWide t, fun member => noColon (mem_of_mem_trimBoth member)⟩

theorem noColon_takeWhile (t : WideText) : .ofChar ':' ∉ t.takeWhile (· ≠ .ofChar ':') := by
  intro member
  simpa using List.mem_takeWhile_imp member

/-- What an entry names: nothing, or what its parts around the first colon do. -/
inductive Names (entry : WideText) : Library → Prop
  | nothing : Names entry .void
  | artifact (coordinate : IsCoordinate (stripWide entry)) : Names entry ⟨none, stripWide entry⟩
  | parts {group rest : WideText} (cut : stripWide entry = group ++ .ofChar ':' :: rest)
      (noColon : .ofChar ':' ∉ group)
      (coordinate : IsCoordinate (stripWide (rest.takeWhile (· ≠ .ofChar ':')))) :
      Names entry ⟨groupOf (stripWide group), stripWide (rest.takeWhile (· ≠ .ofChar ':'))⟩

theorem names_ofEntry (entry : WideText) : Names entry (ofEntry entry) := by
  unfold ofEntry
  by_cases blank : stripWide entry = []
  · simp only [blank, if_true]
    exact .nothing
  simp only [blank, if_false]
  cases cut : cutAt? (fun c => decide (c = .ofChar ':')) (stripWide entry) with
  | none =>
      have noColon : .ofChar ':' ∉ stripWide entry := fun member => by
        simpa using cutAt?_eq_none_iff.mp cut _ member
      exact .artifact ⟨blank, stripWide_stripWide entry, noColon⟩
  | some parts =>
      obtain ⟨group, rest⟩ := parts
      obtain ⟨c, whole, colon, inside⟩ := exists_of_cutAt? cut
      obtain rfl : c = .ofChar ':' := by simpa using colon
      have noColon : .ofChar ':' ∉ group := fun member => by simpa using inside _ member
      by_cases empty : stripWide (rest.takeWhile (· ≠ .ofChar ':')) = []
      · simp only [empty, if_true]
        exact .nothing
      · simp only [empty, if_false]
        exact .parts whole noColon (isCoordinate_stripWide (noColon_takeWhile rest) empty)

theorem Names.isNormal {entry : WideText} {l : Library} (names : Names entry l) : l.IsNormal := by
  cases names with
  | nothing => exact .void
  | artifact coordinate => exact .anyGroup coordinate
  | @parts group rest cut noColon coordinate =>
      unfold groupOf
      split_ifs with empty
      · exact .anyGroup coordinate
      · exact .grouped (isCoordinate_stripWide noColon empty) coordinate

/-! ## Normal forms as entries -/

theorem IsCoordinate.colon_eq_false {t : WideText} (coordinate : IsCoordinate t) :
    ∀ c ∈ t, decide (c = .ofChar ':') = false :=
  fun _ member => decide_eq_false fun colon => coordinate.noColon (colon ▸ member)

theorem IsCoordinate.trimmed {t : WideText} (coordinate : IsCoordinate t) :
    IsTrimmed (fun c => isBlank c.val) t :=
  trimBoth_eq_self_iff.mp coordinate.stripped

theorem render_anyGroup (artifact : WideText) : render ⟨none, artifact⟩ = artifact := rfl

theorem render_grouped {group : WideText} (nonempty : group ≠ []) (artifact : WideText) :
    render ⟨some group, artifact⟩ = group ++ .ofChar ':' :: artifact :=
  if_neg nonempty

theorem stripWide_grouped {group artifact : WideText} (group_coordinate : IsCoordinate group)
    (artifact_coordinate : IsCoordinate artifact) :
    stripWide (group ++ .ofChar ':' :: artifact) = group ++ .ofChar ':' :: artifact := by
  obtain ⟨c, front, rfl⟩ := List.exists_cons_of_ne_nil group_coordinate.ne_nil
  obtain ⟨d, back, rfl⟩ := List.exists_cons_of_ne_nil artifact_coordinate.ne_nil
  have last : (c :: front ++ .ofChar ':' :: d :: back).getLast? = (d :: back).getLast? := by
    rw [List.getLast?_append, List.getLast?_cons_cons]
    simp [List.getLast?_cons]
  refine IsTrimmed.trimBoth_eq ⟨group_coordinate.trimmed.head, ?_⟩
  rw [last]
  exact artifact_coordinate.trimmed.last

theorem ofEntry_artifact {artifact : WideText} (coordinate : IsCoordinate artifact) :
    ofEntry artifact = ⟨none, artifact⟩ := by
  have uncut : cutAt? (fun c => decide (c = .ofChar ':')) artifact = none :=
    cutAt?_eq_none_iff.mpr coordinate.colon_eq_false
  simp only [ofEntry, coordinate.stripped, coordinate.ne_nil, if_false, uncut]

theorem ofEntry_grouped {group artifact : WideText} (group_coordinate : IsCoordinate group)
    (artifact_coordinate : IsCoordinate artifact) :
    ofEntry (group ++ .ofChar ':' :: artifact) = ⟨some group, artifact⟩ := by
  have cut : cutAt? (fun c => decide (c = .ofChar ':')) (group ++ .ofChar ':' :: artifact) =
      some (group, artifact) :=
    Location.cutAt?_append group_coordinate.colon_eq_false (by simp)
  have whole : artifact.takeWhile (· ≠ .ofChar ':') = artifact := by
    rw [List.takeWhile_eq_self_iff]
    intro c member
    simpa using artifact_coordinate.colon_eq_false c member
  have nonempty : group ++ .ofChar ':' :: artifact ≠ [] := by simp
  simp only [ofEntry, stripWide_grouped group_coordinate artifact_coordinate, nonempty, if_false, cut,
    whole, artifact_coordinate.stripped, artifact_coordinate.ne_nil, group_coordinate.stripped, groupOf,
    group_coordinate.ne_nil]

theorem IsNormal.ofEntry_render {l : Library} (normal : l.IsNormal) : ofEntry l.render = l := by
  cases normal with
  | void => decide
  | anyGroup coordinate => exact ofEntry_artifact coordinate
  | grouped group_coordinate artifact_coordinate =>
      rw [render_grouped group_coordinate.ne_nil]
      exact ofEntry_grouped group_coordinate artifact_coordinate

theorem IsNormal.stripWide_render {l : Library} (normal : l.IsNormal) :
    stripWide l.render = l.render := by
  cases normal with
  | void => decide
  | anyGroup coordinate => exact coordinate.stripped
  | grouped group_coordinate artifact_coordinate =>
      rw [render_grouped group_coordinate.ne_nil]
      exact stripWide_grouped group_coordinate artifact_coordinate

/-! ## Masks as entries -/

def LooksLikeComment (l : Library) : Prop :=
  l.group = none ∧ l.artifact.head? = some (.ofChar '#')

instance (l : Library) : Decidable l.LooksLikeComment := by
  unfold LooksLikeComment; infer_instance

theorem head?_group {entry group rest : WideText} (cut : stripWide entry = group ++ .ofChar ':' :: rest)
    (nonempty : stripWide group ≠ []) : (stripWide group).head? = (stripWide entry).head? := by
  cases group with
  | nil => exact absurd rfl nonempty
  | cons c group =>
      -- The entry is trimmed, so the group that stands at its front loses nothing there.
      have begins : (stripWide entry).head? = some c := by
        rw [cut]
        rfl
      have stays : ∀ d ∈ (c :: group).head?, isBlank d.val = false := by
        intro d head
        exact (isTrimmed_trimBoth _ entry).head d (begins.trans head)
      rw [begins]
      exact head?_trimBoth stays nonempty

theorem Names.head?_render_iff {entry : WideText} {l : Library} (names : Names entry l)
    (named : ¬ l.IsVoid) (noComment : (stripWide entry).head? ≠ some (.ofChar '#')) :
    l.render.head? = some (.ofChar '#') ↔ l.LooksLikeComment := by
  cases names with
  | nothing => exact absurd ⟨rfl, rfl⟩ named
  | artifact coordinate => simp [LooksLikeComment, render_anyGroup]
  | @parts group rest cut noColon coordinate =>
      by_cases empty : stripWide group = []
      · simp [groupOf, empty, LooksLikeComment, render_anyGroup]
      · obtain ⟨c, more, trimmed⟩ := List.exists_cons_of_ne_nil empty
        have begins := head?_group cut empty
        rw [← begins, trimmed] at noComment
        simpa [groupOf, LooksLikeComment, render_grouped, trimmed] using noComment

end Library

namespace MaskList

open Library

theorem library?_read_eq_some {line : WideText} {l : Library}
    (given : (Line.read line).library? = some l) : (stripWide line).head? ≠ some (.ofChar '#') ∧
      l = ofEntry (stripWide line) ∧ ¬ l.IsVoid := by
  dsimp only [Line.read] at given
  split_ifs at given with skipped void
  · cases given
  · cases given
  · obtain rfl := Option.some.inj given
    exact ⟨(not_or.mp skipped).2, rfl, void⟩

theorem library?_read_render {l : Library} (normal : l.IsNormal) (named : ¬ l.IsVoid) :
    (Line.read l.render).library? =
      if l.render.head? = some (.ofChar '#') then none else some l := by
  have nonempty : l.render ≠ [] := by
    intro empty
    rw [← normal.ofEntry_render, empty] at named
    exact named (by decide)
  dsimp only [Line.read]
  rw [normal.stripWide_render, normal.ofEntry_render]
  by_cases comment : l.render.head? = some (.ofChar '#')
  · rw [if_pos (.inr comment), if_pos comment]
    rfl
  · rw [if_neg (not_or.mpr ⟨nonempty, comment⟩), if_neg named, if_neg comment]
    rfl

theorem parse_map_render (lines : List WideText) : parse ((parse lines).map render) =
    (parse lines).filter fun l => ¬ l.LooksLikeComment := by
  have again : ∀ l ∈ parse lines, (Line.read l.render).library? =
      Option.guard (fun l => decide (¬ l.LooksLikeComment)) l := by
    intro l member
    obtain ⟨line, -, given⟩ := List.mem_filterMap.mp member
    obtain ⟨noComment, rfl, named⟩ := library?_read_eq_some given
    have names := names_ofEntry (stripWide line)
    rw [library?_read_render names.isNormal named]
    have comment := names.head?_render_iff named (by rwa [stripWide_stripWide])
    by_cases looks : (ofEntry (stripWide line)).LooksLikeComment <;>
      simp [comment, looks, Option.guard]
  rw [parse, List.filterMap_map, ← List.filterMap_eq_filter]
  exact List.filterMap_congr again

/-- Every entry names a library of a normal form, and each of these is named by what it is written as.
So is every mask of a list, but for those that are written as comments. -/
theorem normal_forms_read_back :
    (∀ l : Library, l.IsNormal ↔ ∃ entry, ofEntry entry = l) ∧
      (∀ l : Library, l.IsNormal → ofEntry l.render = l) ∧
      (∀ entry, ofEntry (ofEntry entry).render = ofEntry entry) ∧
      ∀ lines, parse ((parse lines).map render) =
        (parse lines).filter fun l => ¬ l.LooksLikeComment := by
  have normal (entry : WideText) : (ofEntry entry).IsNormal := (names_ofEntry entry).isNormal
  refine ⟨fun l => ⟨fun isNormal => ⟨_, isNormal.ofEntry_render⟩, ?_⟩,
    fun l isNormal => isNormal.ofEntry_render, fun entry => (normal entry).ofEntry_render,
    parse_map_render⟩
  rintro ⟨entry, rfl⟩
  exact normal entry

theorem normal_forms_read_back_hash :
    let l : Library := ⟨some (wideOf "g"), wideOf "#a"⟩
    let lines := [wideOf " g : #a : 1 ", wideOf " : #a", wideOf "# b", wideOf "b\u2003"]
    l.IsNormal ∧ l.render = wideOf "g:#a" ∧ ofEntry l.render = l ∧
      parse lines = [l, ⟨none, wideOf "#a"⟩, ⟨none, wideOf "b"⟩] ∧
      parse ((parse lines).map render) = [l, ⟨none, wideOf "b"⟩] := by
  intro l lines
  have normal : l.IsNormal :=
    .grouped ⟨by decide, by decide, by decide⟩ ⟨by decide, by decide, by decide⟩
  have masks : parse lines = [l, ⟨none, wideOf "#a"⟩, ⟨none, wideOf "b"⟩] := by decide
  obtain ⟨-, read, -, again⟩ := normal_forms_read_back
  refine ⟨normal, by decide, read l normal, masks, ?_⟩
  rw [again, masks]
  decide

end MaskList

end MaskedPath
