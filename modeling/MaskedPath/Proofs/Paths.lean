import MaskedPath.Path
import Mathlib.Data.List.Basic

namespace MaskedPath

/-! ## Joining and splitting -/

section

variable {α : Type} {isSeparator : α → Bool} {separator : α}

theorem splitWhere_of_none {piece : List α} (inside : ∀ c ∈ piece, isSeparator c = false) :
    splitWhere isSeparator piece = [piece] := by
  induction piece with
  | nil => rfl
  | cons c piece ih =>
      have rest := ih fun d member => inside d (List.mem_cons_of_mem _ member)
      simp [splitWhere, inside c List.mem_cons_self, rest]

theorem splitWhere_append {piece rest : List α} (inside : ∀ c ∈ piece, isSeparator c = false)
    (ends : isSeparator separator = true) :
    splitWhere isSeparator (piece ++ separator :: rest) = piece :: splitWhere isSeparator rest := by
  induction piece with
  | nil => simp [splitWhere, ends]
  | cons c piece ih =>
      have later := ih fun d member => inside d (List.mem_cons_of_mem _ member)
      simp [splitWhere, inside c List.mem_cons_self, later]

theorem splitWhere_joinWith {pieces : List (List α)} (some_piece : pieces ≠ [])
    (inside : ∀ piece ∈ pieces, ∀ c ∈ piece, isSeparator c = false)
    (ends : isSeparator separator = true) :
    splitWhere isSeparator (joinWith [separator] pieces) = pieces := by
  induction pieces with
  | nil => exact absurd rfl some_piece
  | cons piece pieces ih =>
      have first := inside piece List.mem_cons_self
      cases pieces with
      | nil => exact splitWhere_of_none first
      | cons next pieces =>
          have rest := ih (List.cons_ne_nil _ _) fun p member =>
            inside p (List.mem_cons_of_mem _ member)
          rw [joinWith, List.append_assoc, List.singleton_append, splitWhere_append first ends, rest]
          simp

end

/-! ## Paths -/

theorem Segment.ofText?_text (s : Segment) : Segment.ofText? s.text = some s := by
  unfold ofText?
  rw [dif_pos ⟨s.ne_nil, s.ne_dot, s.no_slash⟩]

namespace Path

theorem filterMap_segments (segments : List Segment) :
    (segments.map Segment.text).filterMap Segment.ofText? = segments := by
  induction segments with
  | nil => rfl
  | cons s segments ih => simp [Segment.ofText?_text, ih]

def body (segments : List Segment) : Text := joinWith ['/'] (segments.map Segment.text)

theorem splitWhere_body {segments : List Segment} (nonempty : segments ≠ []) :
    splitWhere (· = '/') (body segments) = segments.map Segment.text := by
  apply splitWhere_joinWith
  · simpa using nonempty
  · intro piece member c inside
    obtain ⟨s, -, rfl⟩ := List.mem_map.mp member
    have noSlash : c ≠ '/' := fun same => s.no_slash (same ▸ inside)
    simpa using noSlash
  · simp

theorem segmentsOf_body (segments : List Segment) : segmentsOf (body segments) = segments := by
  cases segments with
  | nil => rfl
  | cons s segments =>
      unfold segmentsOf
      rw [splitWhere_body (List.cons_ne_nil _ _), filterMap_segments]

theorem segmentsOf_slash (t : Text) : segmentsOf ('/' :: t) = segmentsOf t := by
  have empty : Segment.ofText? [] = none := rfl
  simp [segmentsOf, splitWhere, empty]

theorem head?_body (segments : List Segment) : (body segments).head? ≠ some '/' := by
  cases segments with
  | nil => simp [body, joinWith]
  | cons s segments =>
      obtain ⟨c, text, split⟩ := List.exists_cons_of_ne_nil s.ne_nil
      have noSlash : c ≠ '/' := by
        intro same
        apply s.no_slash
        rw [split, same]
        exact List.mem_cons_self
      cases segments <;> simp [body, joinWith, split, noSlash]

theorem takeWhile_body (segments : List Segment) : (body segments).takeWhile (· = '/') = [] := by
  have head := head?_body segments
  cases split : body segments with
  | nil => rfl
  | cons c t =>
      have noSlash : c ≠ '/' := by simpa [split] using head
      simp [noSlash]

theorem render_eq (p : Path) (named : p.anchor = .relative → p.segments ≠ []) :
    p.render = Anchor.text p.anchor ++ body p.segments := by
  obtain ⟨anchor, segments⟩ := p
  cases anchor with
  | relative =>
      cases segments with
      | nil => exact absurd rfl (named rfl)
      | cons s segments => rfl
  | root => rfl
  | doubleRoot => rfl

theorem parse_append_body (anchor : Anchor) (segments : List Segment) :
    parse (Anchor.text anchor ++ body segments) = ⟨anchor, segments⟩ := by
  unfold parse anchorOf
  cases anchor with
  | relative => simp [Anchor.text, takeWhile_body, segmentsOf_body]
  | root => simp [Anchor.text, takeWhile_body, segmentsOf_slash, segmentsOf_body]
  | doubleRoot => simp [Anchor.text, takeWhile_body, segmentsOf_slash, segmentsOf_body]

theorem parse_render (p : Path) : parse p.render = p := by
  by_cases named : p.anchor = .relative → p.segments ≠ []
  · rw [render_eq p named, parse_append_body]
  · simp only [Classical.not_imp, not_not] at named
    obtain ⟨anchor, segments⟩ := p
    obtain ⟨rfl, rfl⟩ := named
    rfl

end Path

end MaskedPath
