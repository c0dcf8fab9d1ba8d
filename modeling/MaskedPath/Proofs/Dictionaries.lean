import MaskedPath.Properties
import Mathlib.Data.List.Basic
import Mathlib.Data.List.Induction
import Mathlib.Data.List.Nodup

namespace MaskedPath

/-! ## Last values -/

section

variable {α β : Type} [BEq α] [LawfulBEq α]

theorem lookup_eq_some_iff_mem {entries : List (α × β)} {key : α} {value : β}
    (distinct : (entries.map Prod.fst).Nodup) :
    entries.lookup key = some value ↔ (key, value) ∈ entries := by
  induction entries with
  | nil => simp
  | cons entry entries ih =>
      obtain ⟨k, v⟩ := entry
      obtain ⟨fresh, distinct⟩ := List.nodup_cons.mp distinct
      by_cases same : key = k
      · subst same
        have absent : (key, value) ∉ entries := fun member =>
          fresh (List.mem_map.mpr ⟨_, member, rfl⟩)
        simp [absent, eq_comm]
      · have different : (key == k) = false := beq_eq_false_iff_ne.mpr same
        simp [List.lookup_cons, different, same, ih distinct]

theorem mem_of_lookup_reverse {pairs : List (α × β)} {key : α} {value : β}
    (last : pairs.reverse.lookup key = some value) : (key, value) ∈ pairs := by
  obtain ⟨front, back, split, -⟩ := List.lookup_eq_some_iff.mp last
  rw [← List.mem_reverse, split]
  exact List.mem_append_right _ List.mem_cons_self

theorem lookup_reverse_concat [DecidableEq α] (pairs : List (α × β)) (key : α) (value : β)
    (other : α) : (pairs ++ [(key, value)]).reverse.lookup other =
      if other = key then some value else pairs.reverse.lookup other := by
  rw [List.reverse_append, List.reverse_singleton, List.singleton_append, List.lookup_cons]
  by_cases same : other = key
  · simp [same]
  · have different : (other == key) = false := beq_eq_false_iff_ne.mpr same
    simp [same, different]

end

namespace Properties

/-! ## Keys and their values -/

section

variable {α β : Type} [DecidableEq α]

/-- The keys of pairs in the order of first appearance, each with its last value. -/
def dictionary (pairs : List (α × β)) : List (α × β) :=
  (pairs.map Prod.fst).eraseDups.filterMap fun key =>
    (pairs.reverse.lookup key).map fun value => (key, value)

theorem nodup_eraseDups : ∀ l : List α, l.eraseDups.Nodup
  | [] => by simp
  | a :: l => by
      rw [List.eraseDups_cons]
      refine List.nodup_cons.mpr ⟨?_, nodup_eraseDups _⟩
      simp [List.mem_eraseDups]
  termination_by l => l.length
  decreasing_by
    have shorter := List.length_filter_le (fun b => !b == a) l
    simp only [List.length_cons]
    omega

theorem eraseDups_filter (keep : α → Bool) (l : List α) :
    (l.filter keep).eraseDups = l.eraseDups.filter keep := by
  induction length : l.length using Nat.strongRecOn generalizing l with
  | ind n ih =>
      cases l with
      | nil => rfl
      | cons a l =>
          have shorter : (l.filter fun b => !b == a).length < n := by
            have := List.length_filter_le (fun b => !b == a) l
            simp only [List.length_cons] at length
            omega
          have others := ih _ shorter _ rfl
          rw [List.eraseDups_cons]
          cases kept : keep a with
          | true =>
              rw [List.filter_cons_of_pos kept, List.filter_cons_of_pos kept, List.eraseDups_cons,
                ← others, List.filter_filter, List.filter_filter]
              simp only [Bool.and_comm]
          | false =>
              have unkept : ¬ keep a = true := by simp [kept]
              rw [List.filter_cons_of_neg unkept, List.filter_cons_of_neg unkept, ← others,
                List.filter_filter]
              congr 1
              apply List.filter_congr
              intro b _
              by_cases same : b = a <;> simp [same, kept]

theorem eraseDups_of_nodup {l : List α} (distinct : l.Nodup) : l.eraseDups = l := by
  induction l with
  | nil => rfl
  | cons a l ih =>
      obtain ⟨fresh, distinct⟩ := List.nodup_cons.mp distinct
      have others : l.filter (fun b => !b == a) = l := by
        rw [List.filter_eq_self]
        intro b member
        have other : b ≠ a := fun same => fresh (same ▸ member)
        simp [other]
      rw [List.eraseDups_cons, others, ih distinct]

theorem eraseDups_append_eraseDups (as bs : List α) :
    (as.eraseDups ++ bs.eraseDups).eraseDups = (as ++ bs).eraseDups := by
  have known : (fun b => !as.eraseDups.elem b) = fun b => !as.elem b := by
    funext b
    simp [List.mem_eraseDups]
  rw [List.eraseDups_append, List.eraseDups_append, List.removeAll, List.removeAll, known,
    eraseDups_filter, eraseDups_filter, eraseDups_of_nodup (nodup_eraseDups as),
    eraseDups_of_nodup (nodup_eraseDups bs)]

variable {pairs : List (α × β)} {key : α} {value : β}

theorem exists_lookup_reverse (member : key ∈ pairs.map Prod.fst) :
    ∃ value, pairs.reverse.lookup key = some value := by
  rw [← Option.isSome_iff_exists, List.lookup_isSome_iff]
  obtain ⟨pair, inside, rfl⟩ := List.mem_map.mp member
  exact ⟨pair, List.mem_reverse.mpr inside, beq_self_eq_true _⟩

theorem keys_dictionary (pairs : List (α × β)) :
    (dictionary pairs).map Prod.fst = (pairs.map Prod.fst).eraseDups := by
  unfold dictionary
  rw [List.map_filterMap, ← List.filterMap_some (l := (pairs.map Prod.fst).eraseDups),
    List.filterMap_filterMap]
  apply List.filterMap_congr
  intro key member
  obtain ⟨value, last⟩ := exists_lookup_reverse (List.mem_eraseDups.mp member)
  simp [last]

theorem mem_keys_dictionary : key ∈ (dictionary pairs).map Prod.fst ↔ key ∈ pairs.map Prod.fst := by
  rw [keys_dictionary, List.mem_eraseDups]

theorem nodup_keys_dictionary (pairs : List (α × β)) : ((dictionary pairs).map Prod.fst).Nodup := by
  rw [keys_dictionary]
  exact nodup_eraseDups _

theorem dictionary_concat_of_mem (member : key ∈ pairs.map Prod.fst) :
    dictionary (pairs ++ [(key, value)]) =
      (dictionary pairs).map fun entry => if entry.1 = key then (key, value) else entry := by
  have nothing : [key].removeAll (pairs.map Prod.fst) = [] := by
    simpa [List.removeAll] using member
  unfold dictionary
  rw [List.map_append, List.eraseDups_append, List.map_filterMap]
  simp only [List.map_cons, List.map_nil, nothing, List.eraseDups_nil, List.append_nil,
    List.reverse_append, List.reverse_cons, List.reverse_nil, List.nil_append, List.cons_append]
  apply List.filterMap_congr
  intro other inside
  obtain ⟨last, found⟩ := exists_lookup_reverse (List.mem_eraseDups.mp inside)
  by_cases same : other = key
  · subst same
    simp [found]
  · have different : (other == key) = false := beq_eq_false_iff_ne.mpr same
    simp [List.lookup_cons, found, different, same]

theorem dictionary_concat_of_not_mem (fresh : key ∉ pairs.map Prod.fst) :
    dictionary (pairs ++ [(key, value)]) = dictionary pairs ++ [(key, value)] := by
  have everything : [key].removeAll (pairs.map Prod.fst) = [key] := by
    simpa [List.removeAll] using fresh
  unfold dictionary
  rw [List.map_append, List.eraseDups_append]
  simp only [List.map_cons, List.map_nil, everything, List.reverse_append, List.reverse_cons,
    List.reverse_nil, List.nil_append, List.cons_append, List.filterMap_append]
  congr 1
  · apply List.filterMap_congr
    intro other inside
    have different : (other == key) = false := by
      refine beq_eq_false_iff_ne.mpr fun same => fresh ?_
      exact same ▸ List.mem_eraseDups.mp inside
    simp [List.lookup_cons, different]
  · simp [List.eraseDups_cons, List.lookup_cons]

theorem mem_dictionary_iff :
    (key, value) ∈ dictionary pairs ↔ pairs.reverse.lookup key = some value := by
  unfold dictionary
  simp only [List.mem_filterMap, List.mem_eraseDups, Option.map_eq_some_iff, Prod.mk.injEq]
  constructor
  · rintro ⟨other, -, last, found, rfl, rfl⟩
    exact found
  · intro last
    exact ⟨key, List.mem_map_of_mem (mem_of_lookup_reverse last), value, last, rfl, rfl⟩

theorem mem_of_mem_dictionary {entry : α × β} (member : entry ∈ dictionary pairs) :
    entry ∈ pairs :=
  mem_of_lookup_reverse (mem_dictionary_iff.mp member)

theorem lookup_reverse_dictionary (pairs : List (α × β)) (key : α) :
    (dictionary pairs).reverse.lookup key = pairs.reverse.lookup key := by
  have distinct : ((dictionary pairs).reverse.map Prod.fst).Nodup := by
    rw [List.map_reverse]
    exact List.nodup_reverse.mpr (nodup_keys_dictionary pairs)
  apply Option.ext
  intro value
  rw [lookup_eq_some_iff_mem distinct, List.mem_reverse, mem_dictionary_iff]

theorem dictionary_append (pairs pairs' : List (α × β)) :
    dictionary (dictionary pairs ++ dictionary pairs') = dictionary (pairs ++ pairs') := by
  have keys : ((dictionary pairs ++ dictionary pairs').map Prod.fst).eraseDups =
      ((pairs ++ pairs').map Prod.fst).eraseDups := by
    rw [List.map_append, List.map_append, keys_dictionary, keys_dictionary,
      eraseDups_append_eraseDups]
  have last (key : α) : (dictionary pairs ++ dictionary pairs').reverse.lookup key =
      (pairs ++ pairs').reverse.lookup key := by
    rw [List.reverse_append, List.reverse_append, List.lookup_append, List.lookup_append,
      lookup_reverse_dictionary, lookup_reverse_dictionary]
  have unfolded (pairs : List (α × β)) : dictionary pairs =
      (pairs.map Prod.fst).eraseDups.filterMap fun key =>
        (pairs.reverse.lookup key).map fun value => (key, value) := rfl
  rw [unfolded (dictionary pairs ++ dictionary pairs'), keys, unfolded (pairs ++ pairs')]
  simp only [last]

theorem dictionary_concat_eq_singleton_iff :
    dictionary (pairs ++ [(key, value)]) = [(key, value)] ↔ ∀ pair ∈ pairs, pair.1 = key := by
  constructor
  · intro alone pair member
    have listed : pair.1 ∈ (dictionary (pairs ++ [(key, value)])).map Prod.fst :=
      mem_keys_dictionary.mpr (List.mem_map_of_mem (List.mem_append_left _ member))
    rw [alone] at listed
    exact List.mem_singleton.mp listed
  · intro same
    by_cases member : key ∈ pairs.map Prod.fst
    · have keys : (dictionary pairs).map Prod.fst = [key] := by
        have all : ∀ other ∈ (dictionary pairs).map Prod.fst, other = key := by
          intro other inside
          obtain ⟨pair, there, rfl⟩ := List.mem_map.mp (mem_keys_dictionary.mp inside)
          exact same pair there
        have distinct := nodup_keys_dictionary pairs
        have known := mem_keys_dictionary.mpr member
        rw [List.eq_replicate_of_mem all] at distinct known ⊢
        have one := List.nodup_replicate.mp distinct
        have some_key := (List.mem_replicate.mp known).1
        rw [show ((dictionary pairs).map Prod.fst).length = 1 by omega]
        rfl
      obtain ⟨entry, single, named⟩ := List.map_eq_singleton_iff.mp keys
      rw [dictionary_concat_of_mem member, single]
      simp [named]
    · cases pairs with
      | nil => exact dictionary_concat_of_not_mem member
      | cons pair pairs =>
          refine absurd ?_ member
          rw [← same pair List.mem_cons_self]
          exact List.mem_cons_self

end

theorem dictionary_map {α β α' β' : Type} [DecidableEq α] [DecidableEq α'] {f : α → α'}
    (apart : Function.Injective f) (g : β → β') (pairs : List (α × β)) :
    dictionary (pairs.map (Prod.map f g)) = (dictionary pairs).map (Prod.map f g) := by
  induction pairs using List.reverseRecOn with
  | nil => rfl
  | append_singleton pairs pair ih =>
      obtain ⟨key, value⟩ := pair
      have keys : (pairs.map (Prod.map f g)).map Prod.fst = (pairs.map Prod.fst).map f := by
        simp [Function.comp_def]
      rw [List.map_append, List.map_singleton, Prod.map_apply]
      by_cases member : key ∈ pairs.map Prod.fst
      · have known : f key ∈ (pairs.map (Prod.map f g)).map Prod.fst := by
          rw [keys]
          exact List.mem_map_of_mem member
        rw [dictionary_concat_of_mem member, dictionary_concat_of_mem known, ih, List.map_map,
          List.map_map]
        apply List.map_congr_left
        intro entry inside
        by_cases same : entry.1 = key <;> simp [same, apart.eq_iff]
      · have fresh : f key ∉ (pairs.map (Prod.map f g)).map Prod.fst := by
          rw [keys, List.mem_map_of_injective apart]
          exact member
        rw [dictionary_concat_of_not_mem member, dictionary_concat_of_not_mem fresh, ih,
          List.map_append, List.map_singleton, Prod.map_apply]

/-! ## Setting entries -/

namespace Entries

variable {key value : WideText} {entries : Entries}

theorem insert_of_mem (distinct : (entries.map Prod.fst).Nodup)
    (member : key ∈ entries.map Prod.fst) :
    entries.insert key value =
      entries.map fun entry => if entry.1 = key then (key, value) else entry := by
  induction entries with
  | nil => cases member
  | cons entry entries ih =>
      obtain ⟨k, v⟩ := entry
      obtain ⟨fresh, distinct⟩ := List.nodup_cons.mp distinct
      by_cases same : k = key
      · subst same
        have untouched : ∀ entry ∈ entries,
            (if entry.1 = k then (k, value) else entry) = entry :=
          fun entry inside => if_neg fun same => fresh (List.mem_map.mpr ⟨entry, inside, same⟩)
        rw [Entries.insert, if_pos rfl, List.map_cons, if_pos rfl, List.map_congr_left untouched,
          List.map_id'']
        exact fun entry => rfl
      · rw [Entries.insert, if_neg same, List.map_cons, if_neg same]
        have later : key ∈ entries.map Prod.fst := by
          rcases List.mem_cons.mp member with here | later
          · exact absurd here.symm same
          · exact later
        rw [ih distinct later]

theorem insert_of_not_mem (fresh : key ∉ entries.map Prod.fst) :
    entries.insert key value = entries ++ [(key, value)] := by
  induction entries with
  | nil => rfl
  | cons entry entries ih =>
      obtain ⟨k, v⟩ := entry
      simp only [List.map_cons, List.mem_cons, not_or] at fresh
      rw [Entries.insert, if_neg (Ne.symm fresh.1), ih fresh.2]
      rfl

theorem foldl_insert (pairs : List (WideText × WideText)) :
    pairs.foldl (fun entries pair => Entries.insert pair.1 pair.2 entries) [] = dictionary pairs := by
  -- Pair by pair from the front: each replaces the value of its key or comes last.
  induction pairs using List.reverseRecOn with
  | nil => rfl
  | append_singleton pairs pair ih =>
      obtain ⟨key, value⟩ := pair
      rw [List.foldl_concat, ih]
      by_cases member : key ∈ pairs.map Prod.fst
      · rw [dictionary_concat_of_mem member]
        exact insert_of_mem (nodup_keys_dictionary _) (mem_keys_dictionary.mpr member)
      · rw [dictionary_concat_of_not_mem member]
        exact insert_of_not_mem (mt mem_keys_dictionary.mp member)

end Entries

end Properties

end MaskedPath
