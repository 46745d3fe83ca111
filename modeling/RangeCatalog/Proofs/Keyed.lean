import Mathlib.Data.List.Nodup

/-! # Keyed lists

Looking keys up in lists of pairs. Where the keys differ, what is found under a key is what stands beside
it, so that the order of the pairs does not matter. Sorting items by their keys leaves items with one key
in their order.
-/

namespace RangeCatalog

section Lookup

variable {κ β γ : Type} [BEq κ]

theorem lookup_map (change : β → γ) (pairs : List (κ × β)) (key : κ) :
    (pairs.map fun pair => (pair.1, change pair.2)).lookup key = (pairs.lookup key).map change := by
  induction pairs with
  | nil => rfl
  | cons pair rest ih =>
    obtain ⟨first, value⟩ := pair
    simp only [List.map_cons, List.lookup_cons, ih]
    cases key == first <;> rfl

variable [LawfulBEq κ]

theorem mem_of_lookup {pairs : List (κ × β)} {key : κ} {value : β}
    (found : pairs.lookup key = some value) : (key, value) ∈ pairs := by
  obtain ⟨before, after, rfl, _⟩ := List.lookup_eq_some_iff.mp found
  exact List.mem_append_right _ List.mem_cons_self

theorem lookup_isSome_iff_mem {pairs : List (κ × β)} {key : κ} :
    (pairs.lookup key).isSome ↔ key ∈ pairs.map Prod.fst := by
  simp [List.lookup_isSome_iff]

/-- Among items paired with their keys, the first item with a key is found. -/
theorem lookup_map_key [DecidableEq κ] (keyOf : β → κ) (items : List β) (key : κ) :
    (items.map fun item => (keyOf item, item)).lookup key = items.find? (keyOf · = key) := by
  induction items with
  | nil => rfl
  | cons item rest ih =>
    rw [List.map_cons, List.lookup_cons, ih, List.find?_cons]
    by_cases same : keyOf item = key
    · rw [beq_iff_eq.mpr same.symm, decide_eq_true same]
    · rw [beq_false_of_ne (Ne.symm same), decide_eq_false same]

/-- What is found under a key does not depend on the pairs of another key. -/
theorem lookup_filter_ne [DecidableEq κ] (pairs : List (κ × β)) {key other : κ} (differs : other ≠ key) :
    (pairs.filter (·.1 ≠ key)).lookup other = pairs.lookup other := by
  induction pairs with
  | nil => rfl
  | cons pair rest ih =>
    obtain ⟨first, value⟩ := pair
    by_cases same : first = key
    · subst same
      rw [List.filter_cons_of_neg (by simp), ih, List.lookup_cons, beq_false_of_ne differs]
    · rw [List.filter_cons_of_pos (by simpa using same), List.lookup_cons, List.lookup_cons, ih]

theorem lookup_eq_some_iff_mem {pairs : List (κ × β)} (distinct : (pairs.map Prod.fst).Nodup)
    {key : κ} {value : β} : pairs.lookup key = some value ↔ (key, value) ∈ pairs := by
  refine ⟨mem_of_lookup, ?_⟩
  intro member
  induction pairs with
  | nil => simp at member
  | cons pair rest ih =>
    obtain ⟨first, present⟩ := pair
    rw [List.map_cons, List.nodup_cons] at distinct
    rcases List.mem_cons.mp member with same | later
    · cases same
      exact List.lookup_cons_self
    · have other : key ≠ first := by
        rintro rfl
        exact distinct.1 (List.mem_map.mpr ⟨(key, value), later, rfl⟩)
      rw [List.lookup_cons, beq_false_of_ne other]
      exact ih distinct.2 later

theorem lookup_reverse {pairs : List (κ × β)} (distinct : (pairs.map Prod.fst).Nodup) (key : κ) :
    pairs.reverse.lookup key = pairs.lookup key := by
  have reversed : (pairs.reverse.map Prod.fst).Nodup := by
    rw [List.map_reverse]
    exact List.nodup_reverse.mpr distinct
  ext value
  rw [lookup_eq_some_iff_mem reversed, lookup_eq_some_iff_mem distinct, List.mem_reverse]

end Lookup

/-! ## Sorting by key -/

section Sorting

variable {α : Type} (keyOf : α → String) (items : List α)

private theorem key_le_trans (a b c : α) (below : decide (keyOf a ≤ keyOf b) = true)
    (above : decide (keyOf b ≤ keyOf c) = true) : decide (keyOf a ≤ keyOf c) = true :=
  decide_eq_true (String.le_trans (of_decide_eq_true below) (of_decide_eq_true above))

private theorem key_le_total (a b : α) :
    (decide (keyOf a ≤ keyOf b) || decide (keyOf b ≤ keyOf a)) = true := by
  rw [Bool.or_eq_true, decide_eq_true_eq, decide_eq_true_eq]
  exact String.le_total _ _

theorem pairwise_mergeSort_key :
    (items.mergeSort fun item other => keyOf item ≤ keyOf other).Pairwise
      fun item other => keyOf item ≤ keyOf other :=
  (List.pairwise_mergeSort (key_le_trans keyOf) (key_le_total keyOf) items).imp of_decide_eq_true

/-- Items whose keys differ are in strictly increasing order when sorted. -/
theorem pairwise_lt_mergeSort_key {items : List α} (distinct : (items.map keyOf).Nodup) :
    (items.mergeSort fun item other => keyOf item ≤ keyOf other).Pairwise
      fun item other => keyOf item < keyOf other := by
  have apart := ((List.mergeSort_perm items fun item other => keyOf item ≤ keyOf other).map
    keyOf).nodup_iff.mpr distinct
  rw [List.Nodup, List.pairwise_map] at apart
  refine (apart.and (pairwise_mergeSort_key keyOf items)).imp ?_
  rintro item other ⟨differ, least⟩
  exact String.not_le.mp fun back => differ (String.le_antisymm least back)

/-- Sorting leaves the items with one key in their order. -/
theorem filter_mergeSort_key (key : String) :
    (items.mergeSort fun item other => keyOf item ≤ keyOf other).filter (keyOf · = key) =
      items.filter (keyOf · = key) := by
  have tied : (items.filter (keyOf · = key)).Pairwise
      fun item other => decide (keyOf item ≤ keyOf other) := by
    refine List.pairwise_of_forall_mem_list ?_
    intro item here other there
    have same : keyOf item = key := of_decide_eq_true (List.mem_filter.mp here).2
    have alike : keyOf other = key := of_decide_eq_true (List.mem_filter.mp there).2
    rw [same, alike]
    exact decide_eq_true (String.le_refl key)
  have kept := (List.sublist_mergeSort (key_le_trans keyOf) (key_le_total keyOf) tied
    List.filter_sublist).filter (keyOf · = key)
  simp only [List.filter_filter, Bool.and_self] at kept
  refine (kept.eq_of_length ?_).symm
  exact ((List.mergeSort_perm items _).filter _).length_eq.symm

end Sorting

end RangeCatalog
