import MaskedPath.Registry
import Mathlib.Data.List.Infix

namespace MaskedPath

theorem isPrefix_of_isPrefix_append_cons {α : Type} {x : α} {p a b : List α} (absent : x ∉ p)
    (h : p <+: a ++ x :: b) : p <+: a := by
  rcases List.prefix_or_prefix_of_prefix h (List.prefix_append a _) with shorter | ⟨q, rfl⟩
  · exact shorter
  · have rest : q <+: x :: b := (List.prefix_append_right_inj a).mp h
    rcases q with _ | ⟨c, q⟩
    · simp
    · obtain ⟨rfl, -⟩ := List.cons_prefix_cons.mp rest
      simp at absent

/-! ## Resource forms -/

namespace ModuleName

theorem dot_not_mem_resourceForm (name : Text) : '.' ∉ resourceForm name := by
  intro member
  obtain ⟨c, -, image⟩ := List.mem_map.mp member
  by_cases dot : c = '.' <;> simp [dot] at image

theorem resourceForm_of_noDot {part : Text} (noDot : '.' ∉ part) : resourceForm part = part := by
  have stays : ∀ c ∈ part, (if c = '.' then '/' else c) = id c := fun c member =>
    if_neg fun same : c = '.' => noDot (same ▸ member)
  unfold resourceForm
  rw [List.map_congr_left stays, List.map_id]

theorem isPrefix_plain_iff {p name : Text} (noDot : '.' ∉ p) :
    p <+: plain name ↔ p <+: resourceForm name :=
  ⟨isPrefix_of_isPrefix_append_cons noDot, fun h => h.trans (List.prefix_append _ _)⟩

theorem resourceForm_isPrefix {mask name : Text} (h : mask <+: name) :
    resourceForm mask <+: resourceForm name := by
  obtain ⟨rest, rfl⟩ := h
  exact ⟨resourceForm rest, by simp [resourceForm]⟩

theorem isPrefix_of_resourceForm_isPrefix {mask name : Text} (mask_noSlash : '/' ∉ mask)
    (noSlash : '/' ∉ name) (h : resourceForm mask <+: resourceForm name) : mask <+: name := by
  induction mask generalizing name with
  | nil => exact List.nil_prefix
  | cons c mask ih =>
      rcases name with _ | ⟨d, name⟩
      · exact absurd h (by simp [resourceForm])
      · simp only [List.mem_cons, not_or] at mask_noSlash noSlash
        obtain ⟨same, rest⟩ := List.cons_prefix_cons.mp h
        have head : c = d := by
          by_cases dot : c = '.' <;> by_cases dot' : d = '.' <;> simp_all
        exact List.cons_prefix_cons.mpr ⟨head, ih mask_noSlash.2 noSlash.2 rest⟩

theorem dropWhile_plain {name : Text} (noDot : name.head? ≠ some '.')
    (noSlash : name.head? ≠ some '/') : (plain name).dropWhile (· = '/') = plain name := by
  rcases name with _ | ⟨c, name⟩
  · rfl
  · simp only [List.head?_cons, ne_eq, Option.some.injEq] at noDot noSlash
    simp [plain, resourceForm, noDot, noSlash]

end ModuleName

/-! ## Registries -/

namespace Registry

open ModuleName

variable {r : Registry}

theorem hidesName_iff {name : Text} :
    r.hidesName name = true ↔ ∃ mask ∈ r.names, mask <+: name := by
  simp [hidesName]

theorem hidesResource_iff {path : Text} :
    r.hidesResource path = true ↔ ∃ mask ∈ r.names, resourceForm mask <+: path := by
  simp [hidesResource, resources]

theorem hidesResource_plain_iff {name : Text} :
    r.hidesResource (plain name) = true ↔
      ∃ mask ∈ r.names, resourceForm mask <+: resourceForm name := by
  simp only [hidesResource_iff, isPrefix_plain_iff (dot_not_mem_resourceForm _)]

theorem hidesResource_package {name : Text} (h : r.hidesResource (plain name) = true) :
    r.hidesResource (package name) = true := by
  obtain ⟨mask, member, starts⟩ := hidesResource_plain_iff.mp h
  exact hidesResource_iff.mpr ⟨mask, member, starts.trans (List.prefix_append _ _)⟩

theorem hidesResource_of_hidesName {name : Text} (h : r.hidesName name = true) :
    ∀ resource ∈ candidates name, r.hidesResource resource = true := by
  obtain ⟨mask, member, starts⟩ := hidesName_iff.mp h
  have file : r.hidesResource (plain name) = true :=
    hidesResource_plain_iff.mpr ⟨mask, member, resourceForm_isPrefix starts⟩
  intro resource candidate
  simp only [candidates, List.mem_cons, List.not_mem_nil, or_false] at candidate
  rcases candidate with rfl | rfl
  · exact file
  · exact hidesResource_package file

theorem hidesName_of_hidesResource_plain {name : Text} (noSlash : '/' ∉ name)
    (masks_noSlash : ∀ mask ∈ r.names, '/' ∉ mask) (h : r.hidesResource (plain name) = true) :
    r.hidesName name = true := by
  obtain ⟨mask, member, starts⟩ := hidesResource_plain_iff.mp h
  exact hidesName_iff.mpr ⟨mask, member,
    isPrefix_of_resourceForm_isPrefix (masks_noSlash mask member) noSlash starts⟩

theorem hidesName_iff_hidesResource_plain {name : Text} (noSlash : '/' ∉ name)
    (masks_noSlash : ∀ mask ∈ r.names, '/' ∉ mask) :
    r.hidesName name = true ↔ r.hidesResource (plain name) = true :=
  ⟨fun h => hidesResource_of_hidesName h _ List.mem_cons_self,
    hidesName_of_hidesResource_plain noSlash masks_noSlash⟩

end Registry

end MaskedPath
