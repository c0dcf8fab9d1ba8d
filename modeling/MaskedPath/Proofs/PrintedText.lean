import MaskedPath.Proofs.ArchiveKeys
import MaskedPath.Proofs.Meaning
import MaskedPath.Proofs.ModuleNames
import MaskedPath.Standard.Console
import Mathlib.Data.List.Forall2

/-!
# Plain text on a console

What a console makes of markup is its own affair. Of plain text it makes nothing: a console that keeps
plain text shows it as it stands, without the styles around it, where it fits on the screen. The location
of a loose file is always plain.
-/

namespace MaskedPath

theorem isInfix_append_cons {α : Type} {x : α} {w a b : List α} (absent : x ∉ w)
    (h : w <:+: a ++ x :: b) : w <:+: a ∨ w <:+: b := by
  induction a with
  | nil =>
      rcases List.infix_cons_iff.mp h with begins | inside
      · rw [List.prefix_nil.mp (isPrefix_of_isPrefix_append_cons (a := []) absent begins)]
        exact .inl List.nil_infix
      · exact .inr inside
  | cons c a ih =>
      rcases List.infix_cons_iff.mp h with begins | inside
      · exact .inl (isPrefix_of_isPrefix_append_cons (a := c :: a) absent begins).isInfix
      · exact (ih inside).imp_left fun inside => List.infix_cons inside

namespace CommandLine

variable {codes : WideText → Prop} {t u : WideText}

/-- No markup, no emoji and only printable characters; `codes` are the names of emoji. -/
structure IsPlain (codes : WideText → Prop) (t : WideText) : Prop where
  noBracket : .ofChar '[' ∉ t
  noSlash : .ofChar '\\' ∉ t
  noEmoji : ∀ code, codes code → .ofChar ' ' ∉ code → ¬ .ofChar ':' :: code ++ [.ofChar ':'] <:+: t
  printable : ∀ c ∈ t, 32 ≤ c.val ∧ c.val ≤ 126

/-- What a text with markup reads without it, if all else in it is plain. -/
inductive Reads (codes : WideText → Prop) : WideText → WideText → Prop
  | plain {t : WideText} : IsPlain codes t → Reads codes t t
  | styled {t : WideText} (s : Style) : IsPlain codes t → Reads codes (styled s t) t
  | line {front middle back : WideText} (s s' : Style) : IsPlain codes front →
      IsPlain codes middle → IsPlain codes back →
      Reads codes (CommandLine.styled s front ++ middle ++ CommandLine.styled s' back)
        (front ++ middle ++ back)

structure Table.Reads (codes : WideText → Prop) (t u : Table) : Prop where
  title : CommandLine.Reads codes t.title u.title
  columns : List.Forall₂ (CommandLine.Reads codes) t.columns u.columns
  rows : List.Forall₂ (List.Forall₂ (CommandLine.Reads codes)) t.rows u.rows

def Output.Reads (codes : WideText → Prop) : Output → Output → Prop
  | .text t, .text u => CommandLine.Reads codes t u
  | .table t, .table u => t.Reads codes u
  | _, _ => False

/-- The width of a table with a blank on both sides of each cell and rules around the columns. -/
def Table.width (t : Table) : Nat :=
  (columnsOf t.columns.length (t.columns :: t.rows)).foldl (fun width column =>
    width + ((column.map List.length).foldl max 0 + 3)) 1

def Output.Fits (width : Nat) : Output → Prop
  | .text t => t.length ≤ width
  | .table t => t.width ≤ width ∧ t.title.length ≤ t.width ∧
      ∀ row ∈ t.rows, row.length = t.columns.length

instance (width : Nat) : DecidablePred (Output.Fits width)
  | .text _ => inferInstanceAs (Decidable (_ ≤ _))
  | .table _ => inferInstanceAs (Decidable (_ ∧ _))

/-- A console of this width shows what output reads, if that is plain and fits. -/
def Console.KeepsPlain [Console] (codes : WideText → Prop) (width : Nat) : Prop :=
  ∀ (stream : Stream) (o u : Output), o.Reads codes u → u.Fits width →
    Console.display stream o = .ok u

/-! ## Plain text -/

def IsOrdinary (c : CodePoint) : Prop :=
  c ≠ .ofChar '[' ∧ c ≠ .ofChar '\\' ∧ c ≠ .ofChar ':' ∧ 32 ≤ c.val ∧ c.val ≤ 126

instance (c : CodePoint) : Decidable (IsOrdinary c) := inferInstanceAs (Decidable (_ ∧ _))

namespace IsPlain

theorem of_forall (ordinary : ∀ c ∈ t, IsOrdinary c) : IsPlain codes t where
  noBracket inside := (ordinary _ inside).1 rfl
  noSlash inside := (ordinary _ inside).2.1 rfl
  noEmoji _ _ _ inside := (ordinary _ (inside.subset List.mem_cons_self)).2.2.1 rfl
  printable c member := (ordinary c member).2.2.2

theorem nil : IsPlain codes [] := of_forall (by simp)

theorem of_infix (plain : IsPlain codes u) (inside : t <:+: u) : IsPlain codes t where
  noBracket member := plain.noBracket (inside.subset member)
  noSlash member := plain.noSlash (inside.subset member)
  noEmoji code known noBlank within := plain.noEmoji code known noBlank (within.trans inside)
  printable c member := plain.printable c (inside.subset member)

theorem append_blank (plain : IsPlain codes t) (plain' : IsPlain codes u) :
    IsPlain codes (t ++ .ofChar ' ' :: u) where
  noBracket := by
    have other : CodePoint.ofChar '[' ≠ .ofChar ' ' := by decide
    simp [plain.noBracket, plain'.noBracket, other]
  noSlash := by
    have other : CodePoint.ofChar '\\' ≠ .ofChar ' ' := by decide
    simp [plain.noSlash, plain'.noSlash, other]
  noEmoji code known noBlank inside := by
    have other : CodePoint.ofChar ' ' ≠ .ofChar ':' := by decide
    have absent : .ofChar ' ' ∉ CodePoint.ofChar ':' :: code ++ [.ofChar ':'] := by
      simp [noBlank, other]
    exact (isInfix_append_cons absent inside).elim (plain.noEmoji code known noBlank)
      (plain'.noEmoji code known noBlank)
  printable c member := by
    rcases List.mem_append.mp member with before | after
    · exact plain.printable c before
    · rcases List.mem_cons.mp after with rfl | after
      · decide
      · exact plain'.printable c after

theorem of_one_colon {front back : WideText} (ordinary : ∀ c ∈ front ++ back, IsOrdinary c) :
    IsPlain codes (front ++ .ofChar ':' :: back) where
  noBracket := by
    have other : CodePoint.ofChar '[' ≠ .ofChar ':' := by decide
    have absent : .ofChar '[' ∉ front ++ back := fun inside => (ordinary _ inside).1 rfl
    simpa [other] using absent
  noSlash := by
    have other : CodePoint.ofChar '\\' ≠ .ofChar ':' := by decide
    have absent : .ofChar '\\' ∉ front ++ back := fun inside => (ordinary _ inside).2.1 rfl
    simpa [other] using absent
  noEmoji code _ _ inside := by
    have counted := inside.sublist.count_le (.ofChar ':')
    have absent : .ofChar ':' ∉ front ++ back := fun inside => (ordinary _ inside).2.2.1 rfl
    rw [List.mem_append, not_or] at absent
    simp [List.count_append, List.count_eq_zero_of_not_mem absent.1,
      List.count_eq_zero_of_not_mem absent.2] at counted
  printable c member := by
    rcases List.mem_append.mp member with before | after
    · exact (ordinary c (List.mem_append_left _ before)).2.2.2
    · rcases List.mem_cons.mp after with rfl | after
      · decide
      · exact (ordinary c (List.mem_append_right _ after)).2.2.2

end IsPlain

theorem isOrdinary_of_isPlain {c : Char} (plain : Percent.isPlain c = true) :
    IsOrdinary (.ofChar c) := by
  have all : ∀ n < 128, Percent.isPlain (Char.ofNat n) = true → IsOrdinary (.ofChar (Char.ofNat n)) := by
    decide
  have ascii : c.toNat < 128 := of_decide_eq_true (Percent.isAscii_of_isPlain plain)
  have ordinary := all c.toNat ascii
  rw [Char.ofNat_toNat] at ordinary
  exact ordinary plain

theorem isPlain_ofResolved (p : Path) : IsPlain codes (wide (Location.ofResolved p)) := by
  have scheme : ∀ c ∈ wide "file".toList, IsOrdinary c := by decide
  have slashes : ∀ c ∈ wide "//".toList, IsOrdinary c := by decide
  have path : ∀ c ∈ wide (Percent.encode p.render), IsOrdinary c := by
    intro c member
    obtain ⟨d, inside, rfl⟩ := List.mem_map.mp member
    exact isOrdinary_of_isPlain (Percent.isPlain_encode _ _ inside)
  have one : wide (Location.ofResolved p) = wide "file".toList ++ .ofChar ':' ::
      (wide "//".toList ++ wide (Percent.encode p.render)) := by
    simp [Location.ofResolved, Location.filePrefix, wide]
  rw [one]
  refine .of_one_colon fun c member => ?_
  rcases List.mem_append.mp member with front | back
  · exact scheme c front
  · exact (List.mem_append.mp back).elim (slashes c) (path c)

end CommandLine

/-! ## Emoji -/

namespace Emoji

open CommandLine (IsPlain)

def IsKnown (code : WideText) : Prop := ∃ emoji, (narrow? code).bind ofCode? = some emoji

theorem code?_eq_some {t code after : WideText} (found : code? t = some (code, after)) :
    t = code ++ .ofChar ':' :: after ∧ .ofChar ' ' ∉ code := by
  induction t generalizing code with
  | nil => cases found
  | cons c t ih =>
      rw [code?] at found
      split at found
      · next colon =>
          obtain ⟨rfl, rfl⟩ := Prod.mk.inj (Option.some.inj found)
          exact ⟨by rw [colon, List.nil_append], List.not_mem_nil⟩
      · next other =>
          split at found
          · cases found
          · next ordinary =>
              obtain ⟨⟨code', after'⟩, found', parts⟩ := Option.map_eq_some_iff.mp found
              obtain ⟨rfl, rfl⟩ := Prod.mk.inj parts
              obtain ⟨rfl, noBlank⟩ := ih found'
              refine ⟨rfl, fun inside => ?_⟩
              rcases List.mem_cons.mp inside with rfl | inside
              · exact ordinary (by decide)
              · exact noBlank inside

theorem replace_of_plain {t : WideText} (plain : IsPlain IsKnown t) : replace t = t := by
  fun_induction replace t with
  | case1 => rfl
  | case2 c t other ih => rw [ih (plain.of_infix (List.suffix_cons c t).isInfix)]
  | case3 c t colon uncoded ih => rw [ih (plain.of_infix (List.suffix_cons c t).isInfix)]
  | case4 c t colon code after coded smaller emoji known ih =>
      obtain rfl := not_not.mp colon
      obtain ⟨rfl, noBlank⟩ := code?_eq_some coded
      exact absurd ⟨[], after, by simp⟩ (plain.noEmoji code ⟨emoji, known⟩ noBlank)
  | case5 c t colon code after coded smaller unknown ih =>
      obtain ⟨rfl, -⟩ := code?_eq_some coded
      have rest : after <:+ c :: (code ++ .ofChar ':' :: after) :=
        ⟨c :: code ++ [.ofChar ':'], by simp⟩
      rw [ih (plain.of_infix rest.isInfix), List.cons_append]

end Emoji

/-! ## Tags -/

namespace Markup

open CommandLine

/-! ### Pieces -/

theorem tagAt?_of_ne {c : CodePoint} (other : c ≠ .ofChar '[') (t : WideText) :
    tagAt? (c :: t) = none := by
  cases t with
  | nil => rfl
  | cons d t =>
      exact if_neg fun both => other both.1

theorem tagAt?_of_not_mem {t : WideText} (noBracket : .ofChar '[' ∉ t) : tagAt? t = none := by
  cases t with
  | nil => rfl
  | cons c t => exact tagAt?_of_ne (List.ne_of_not_mem_cons noBracket).symm t

theorem isBackslash_bracket : isBackslash (.ofChar '[') = false := by decide

theorem piecesFrom_of_tag {t content : WideText} (tag : tagAt? t = some content) (index : Nat)
    (reversed : WideText) :
    piecesFrom index reversed t = pending reversed ++ .tag index content ::
      piecesFrom (index + (content.length + 2)) [] (t.drop (content.length + 2)) := by
  cases t with
  | nil => cases tag
  | cons c t =>
      have bracket : c = .ofChar '[' := by
        by_contra other
        rw [tagAt?_of_ne other] at tag
        cases tag
      subst bracket
      have noSlashes : (CodePoint.ofChar '[' :: t).takeWhile isBackslash = [] :=
        List.takeWhile_cons_of_neg (by simp [isBackslash_bracket])
      rw [piecesFrom, noSlashes]
      simp [tag]

theorem drop_tag (content rest : WideText) :
    (CodePoint.ofChar '[' :: (content ++ .ofChar ']' :: rest)).drop (content.length + 2) = rest := by
  simp [List.drop_append]

theorem piecesFrom_of_untagged {c : CodePoint} {t : WideText}
    (untagged : tagAt? ((c :: t).drop ((c :: t).takeWhile isBackslash).length) = none) (index : Nat)
    (reversed : WideText) :
    piecesFrom index reversed (c :: t) = piecesFrom (index + 1) (c :: reversed) t := by
  rw [piecesFrom]
  dsimp only
  rw [untagged]

theorem tagAt?_afterSlashes {t : WideText} {last : CodePoint} (noBracket : .ofChar '[' ∉ t)
    (other : last ≠ .ofChar '[') (noSlash : isBackslash last = false) (rest : WideText) :
    tagAt? ((t ++ last :: rest).drop ((t ++ last :: rest).takeWhile isBackslash).length) = none := by
  induction t with
  | nil =>
      have noSlashes : (last :: rest).takeWhile isBackslash = [] :=
        List.takeWhile_cons_of_neg (by simp [noSlash])
      rw [List.nil_append, noSlashes]
      exact tagAt?_of_ne other rest
  | cons c t ih =>
      rw [List.cons_append]
      by_cases slash : isBackslash c = true
      · rw [List.takeWhile_cons_of_pos slash, List.length_cons, List.drop_succ_cons]
        exact ih (List.not_mem_of_not_mem_cons noBracket)
      · rw [List.takeWhile_cons_of_neg slash]
        exact tagAt?_of_ne (List.ne_of_not_mem_cons noBracket).symm _

theorem piecesFrom_append {t rest : WideText} {last : CodePoint} (noBracket : .ofChar '[' ∉ t)
    (other : last ≠ .ofChar '[') (noSlash : isBackslash last = false) (index : Nat)
    (reversed : WideText) :
    piecesFrom index reversed (t ++ last :: rest) =
      piecesFrom (index + t.length + 1) (last :: (t.reverse ++ reversed)) rest := by
  -- Backslashes are read together with the bracket after them. Here `last` always stands between.
  have untagged := tagAt?_afterSlashes noBracket other noSlash rest
  induction t generalizing index reversed with
  | nil => exact piecesFrom_of_untagged untagged index reversed
  | cons c t ih =>
      have noBracket' := List.not_mem_of_not_mem_cons noBracket
      rw [List.cons_append] at untagged ⊢
      rw [piecesFrom_of_untagged untagged,
        ih noBracket' _ _ (tagAt?_afterSlashes noBracket' other noSlash rest)]
      simp [Nat.add_assoc, Nat.add_comm 1]

theorem piecesFrom_of_not_mem {t : WideText} (noBracket : .ofChar '[' ∉ t) (index : Nat)
    (reversed : WideText) : piecesFrom index reversed t = pending (t.reverse ++ reversed) := by
  induction t generalizing index reversed with
  | nil =>
      rw [piecesFrom]
      rfl
  | cons c t ih =>
      have untagged : tagAt? ((c :: t).drop ((c :: t).takeWhile isBackslash).length) = none :=
        tagAt?_of_not_mem fun inside => noBracket (List.mem_of_mem_drop inside)
      rw [piecesFrom_of_untagged untagged, ih (List.not_mem_of_not_mem_cons noBracket)]
      simp

theorem piecesFrom_of_plain {codes : WideText → Prop} {t rest content : WideText}
    (plain : IsPlain codes t) (tag : tagAt? rest = some content) (index : Nat) :
    piecesFrom index [] (t ++ rest) =
      pending t.reverse ++ piecesFrom (index + t.length) [] rest := by
  rcases List.eq_nil_or_concat' t with rfl | ⟨init, last, rfl⟩
  · rfl
  · have other : last ≠ .ofChar '[' := by
      rintro rfl
      exact plain.noBracket (by simp)
    have noSlash : isBackslash last = false := by
      refine decide_eq_false ?_
      rintro rfl
      exact plain.noSlash (by simp)
    have noBracket : .ofChar '[' ∉ init := fun inside =>
      plain.noBracket (List.mem_append_left _ inside)
    have reversed : last :: (init.reverse ++ []) = (init ++ [last]).reverse := by simp
    rw [List.append_assoc, List.singleton_append, piecesFrom_append noBracket other noSlash,
      piecesFrom_of_tag tag, reversed, piecesFrom_of_tag tag _ [], List.length_append]
    rfl

/-! ### What is printed -/

def shown (t : WideText) : WideText := (Emoji.replace (unescape t)).filter (!isDropped ·)

def Prints (t printed : WideText) : Prop :=
  ∀ index, plainFrom [] (piecesFrom index [] t) = .ok printed

theorem Prints.plain_eq {t printed : WideText} (prints : Prints t printed) : plain t = .ok printed :=
  prints 0

theorem unescape_of_not_mem {t : WideText} (noBracket : .ofChar '[' ∉ t) : unescape t = t := by
  fun_induction unescape t with
  | case1 => rfl
  | case2 c => rfl
  | case3 c d rest escaped ih =>
      obtain rfl := escaped.2
      simp at noBracket
  | case4 c d rest unescaped ih => rw [ih (List.not_mem_of_not_mem_cons noBracket)]

theorem shown_of_plain {t : WideText} (plain : IsPlain Emoji.IsKnown t) : shown t = t := by
  unfold shown
  rw [unescape_of_not_mem plain.noBracket, Emoji.replace_of_plain plain]
  refine List.filter_eq_self.mpr fun c member => ?_
  have printable := plain.printable c member
  simp only [isDropped, Bool.not_eq_true', Bool.or_eq_false_iff, decide_eq_false_iff_not]
  omega

theorem plainFrom_pending {t : WideText} (plain : IsPlain Emoji.IsKnown t)
    (openTags : List WideText) (pieces : List Piece) :
    plainFrom openTags (pending t.reverse ++ pieces) =
      (plainFrom openTags pieces).map (t ++ ·) := by
  unfold pending
  cases t with
  | nil =>
      rw [List.reverse_nil, if_pos rfl, List.nil_append]
      cases plainFrom openTags pieces <;> rfl
  | cons c t =>
      rw [if_neg (by simp), List.reverse_reverse]
      change (plainFrom openTags pieces).map (shown (c :: t) ++ ·) = _
      rw [shown_of_plain plain]

theorem prints_plain {t : WideText} (plain : IsPlain Emoji.IsKnown t) : Prints t t := by
  intro index
  have text := plainFrom_pending plain [] []
  rw [List.append_nil] at text
  rw [piecesFrom_of_not_mem plain.noBracket, List.append_nil, text]
  simp [plainFrom, Except.map]

theorem Prints.after {t rest content printed : WideText} (prints : Prints rest printed)
    (tag : tagAt? rest = some content) (plain : IsPlain Emoji.IsKnown t) :
    Prints (t ++ rest) (t ++ printed) := by
  intro index
  rw [piecesFrom_of_plain plain tag, plainFrom_pending plain, prints]
  rfl

/-! ### Styles -/

theorem styled_append (s : Style) (t rest : WideText) :
    styled s t ++ rest = .ofChar '[' :: (s.name ++ .ofChar ']' ::
      (t ++ .ofChar '[' :: (.ofChar '/' :: s.name ++ .ofChar ']' :: rest))) := by
  simp [styled, wideOf, wide]

theorem content?_append {name : WideText}
    (noBracket : ∀ c ∈ name, c ≠ .ofChar '[' ∧ c ≠ .ofChar ']') (rest : WideText) :
    content? (name ++ .ofChar ']' :: rest) = some (name, rest) := by
  induction name with
  | nil => exact if_pos rfl
  | cons c name ih =>
      obtain ⟨notOpening, notClosing⟩ := noBracket c List.mem_cons_self
      rw [List.cons_append, content?, if_neg notClosing, if_neg notOpening,
        ih fun d member => noBracket d (List.mem_cons_of_mem _ member)]
      rfl

theorem tagAt?_append {c : CodePoint} {name : WideText} (opens : opensTag c = true)
    (noBracket : ∀ d ∈ name, d ≠ .ofChar '[' ∧ d ≠ .ofChar ']') (rest : WideText) :
    tagAt? (.ofChar '[' :: (c :: (name ++ .ofChar ']' :: rest))) = some (c :: name) := by
  change (if _ then (content? (name ++ CodePoint.ofChar ']' :: rest)).map _ else none) = _
  rw [if_pos ⟨rfl, opens⟩, content?_append noBracket]
  rfl

theorem tagAt?_opening (s : Style) (rest : WideText) :
    tagAt? (.ofChar '[' :: (s.name ++ .ofChar ']' :: rest)) = some s.name := by
  cases s <;> exact tagAt?_append (by decide) (by decide) rest

theorem tagAt?_ending (s : Style) (rest : WideText) :
    tagAt? (.ofChar '[' :: (.ofChar '/' :: s.name ++ .ofChar ']' :: rest)) =
      some (.ofChar '/' :: s.name) := by
  cases s <;> exact tagAt?_append (by decide) (by decide) rest

theorem tagAt?_styled (s : Style) (t rest : WideText) :
    tagAt? (styled s t ++ rest) = some s.name := by
  rw [styled_append]
  exact tagAt?_opening s _

theorem step_opening (s : Style) (openTags : List WideText) (position : Nat) :
    step openTags position s.name = .ok (s.name :: openTags) := by
  cases s <;> rfl

theorem step_ending (s : Style) (openTags : List WideText) (position : Nat) :
    step (s.name :: openTags) position (.ofChar '/' :: s.name) = .ok openTags := by
  have closed : closed? (.ofChar '/' :: s.name) = some s.name := by cases s <;> decide
  have full : fullName s.name = s.name := by cases s <;> decide
  have named : s.name ≠ [] := by cases s <;> decide
  unfold step
  rw [closed]
  split
  · next absent => cases absent
  · next empty => exact absurd (Option.some.inj empty) named
  · next name _ found =>
      obtain rfl := Option.some.inj found
      rw [full, if_pos (by simp), List.erase_cons_head]

theorem Prints.styled {t rest printed : WideText} (prints : Prints rest printed) (s : Style)
    (plain : IsPlain Emoji.IsKnown t) :
    Prints (CommandLine.styled s t ++ rest) (t ++ printed) := by
  intro index
  rw [styled_append, piecesFrom_of_tag (tagAt?_opening s _), drop_tag,
    piecesFrom_of_plain plain (tagAt?_ending s _), piecesFrom_of_tag (tagAt?_ending s _), drop_tag]
  change (step [] index s.name >>= fun openTags => plainFrom openTags _) = _
  rw [step_opening, ok_bind, plainFrom_pending plain]
  change (step _ _ _ >>= fun openTags => plainFrom openTags _).map _ = _
  rw [step_ending, ok_bind, prints]
  rfl

theorem prints_of_reads {t u : WideText} (reads : Reads Emoji.IsKnown t u) : Prints t u := by
  cases reads with
  | plain plain => exact prints_plain plain
  | styled s plain =>
      have printed := (prints_plain .nil).styled s plain
      simpa using printed
  | line s s' front middle back =>
      have printed := (((prints_plain .nil).styled s' back).after (tagAt?_styled s' _ []) middle).styled
        s front
      simpa using printed

end Markup

/-! ## Tables -/

theorem mapM_eq_ok_iff {ε α β : Type} {f : α → Except ε β} {xs : List α} {ys : List β} :
    xs.mapM f = .ok ys ↔ List.Forall₂ (fun x y => f x = .ok y) xs ys := by
  induction xs generalizing ys with
  | nil => simp [@eq_comm _ []]
  | cons x xs ih =>
      rw [List.mapM_cons, List.forall₂_cons_left_iff]
      simp [bind_eq_ok, ih, @eq_comm _ ys]

namespace CommandLine

theorem columnsOf_columnsOf {width : Nat} {rows : List (List WideText)}
    (filled : ∀ row ∈ rows, row.length = width) :
    columnsOf rows.length (columnsOf width rows) = rows := by
  refine List.ext_getElem (by simp [columnsOf]) fun j _ inRows => ?_
  have length_eq := filled rows[j] (List.getElem_mem inRows)
  refine List.ext_getElem (by simp [columnsOf, length_eq]) fun i _ inRow => ?_
  simp [columnsOf, inRows, inRow]

theorem plainAll_of_reads {ts us : List WideText}
    (reads : List.Forall₂ (Reads Emoji.IsKnown) ts us) : plainAll ts = .ok us :=
  mapM_eq_ok_iff.mpr (reads.imp fun _ _ reads => (Markup.prints_of_reads reads).plain_eq)

theorem reads_getD {codes : WideText → Prop} {ts us : List WideText}
    (reads : List.Forall₂ (Reads codes) ts us) (i : Nat) :
    Reads codes (ts.getD i []) (us.getD i []) := by
  induction reads generalizing i with
  | nil => exact .plain .nil
  | cons first _ ih =>
      cases i with
      | zero => exact first
      | succ i => exact ih i

theorem Table.plain_of_reads {t u : Table} (reads : t.Reads Emoji.IsKnown u)
    (filled : ∀ row ∈ u.rows, row.length = u.columns.length) : t.plain = .ok u := by
  have grid : List.Forall₂ (List.Forall₂ (CommandLine.Reads Emoji.IsKnown))
      (t.columns :: t.rows) (u.columns :: u.rows) := .cons reads.columns reads.rows
  have columns : (columnsOf t.columns.length (t.columns :: t.rows)).mapM plainAll =
      .ok (columnsOf u.columns.length (u.columns :: u.rows)) := by
    rw [mapM_eq_ok_iff, reads.columns.length_eq]
    refine List.forall₂_map_left_iff.mpr (List.forall₂_map_right_iff.mpr ?_)
    refine List.forall₂_same.mpr fun i _ => plainAll_of_reads ?_
    refine List.forall₂_map_left_iff.mpr (List.forall₂_map_right_iff.mpr ?_)
    exact grid.imp fun _ _ row => reads_getD row i
  have rows : columnsOf (t.rows.length + 1) (columnsOf u.columns.length (u.columns :: u.rows)) =
      u.columns :: u.rows := by
    rw [reads.rows.length_eq]
    exact columnsOf_columnsOf (List.forall_mem_cons.mpr ⟨rfl, filled⟩)
  unfold Table.plain
  rw [columns, ok_bind, (Markup.prints_of_reads reads.title).plain_eq, ok_bind, rows]
  rfl

end CommandLine

open scoped MaskedPath.Standard in
theorem Standard.keepsPlain (width : Nat) : CommandLine.Console.KeepsPlain Emoji.IsKnown width := by
  intro stream o u reads fits
  cases o with
  | text t =>
      cases u with
      | text u =>
          change (Except.mapError _ ((Markup.plain t).map _)) = _
          rw [(Markup.prints_of_reads reads).plain_eq]
          rfl
      | table u => exact reads.elim
  | table t =>
      cases u with
      | text u => exact reads.elim
      | table u =>
          change (Except.mapError _ (t.plain.map _)) = _
          rw [CommandLine.Table.plain_of_reads reads fits.2.2]
          rfl

end MaskedPath
