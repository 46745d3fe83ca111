import Mathlib.Tactic.SplitIfs
import RangeCatalog.Proofs.Json.RoundTrip
import RangeCatalog.Proofs.Keyed

/-! # Fields of objects

Setting the fields of an object in the order of their names, and looking a name up in an object that was
read back. Of fields with one name the last one counts, so that an object whose names differ has the same
fields before and after.
-/

namespace RangeCatalog.Json

theorem setField_nil (name : String) (value : Json) : setField name value [] = [(name, value)] :=
  rfl

/-- A field goes before the fields with greater names. -/
theorem setField_before {name other : String} (less : name < other) (value present : Json)
    (rest : List (String × Json)) :
    setField name value ((other, present) :: rest) = (name, value) :: (other, present) :: rest := by
  have differs : name ≠ other := by
    rintro rfl
    exact String.lt_irrefl name less
  rw [setField, if_neg differs, if_pos less]

/-- A field goes after the fields with lesser names. -/
theorem setField_after {name other : String} (greater : other < name) (value present : Json)
    (rest : List (String × Json)) :
    setField name value ((other, present) :: rest) = (other, present) :: setField name value rest := by
  have differs : name ≠ other := by
    rintro rfl
    exact String.lt_irrefl name greater
  rw [setField, if_neg differs, if_neg (String.lt_asymm greater)]

/-- Setting a field changes what is found under its name, and nothing else. -/
theorem lookup_setField (name other : String) (value : Json) (fields : List (String × Json)) :
    (setField name value fields).lookup other =
      if other = name then some value else fields.lookup other := by
  induction fields with
  | nil =>
    simp only [setField, List.lookup_cons, List.lookup_nil]
    split_ifs with same
    · rw [beq_iff_eq.mpr same]
    · rw [beq_false_of_ne same]
  | cons field rest ih =>
    obtain ⟨present, old⟩ := field
    rw [setField]
    by_cases same : other = name
    · rw [if_pos same] at ih ⊢
      split_ifs with here before
      · rw [List.lookup_cons, beq_iff_eq.mpr same]
      · rw [List.lookup_cons, beq_iff_eq.mpr same]
      · rw [List.lookup_cons, ih, beq_false_of_ne (same ▸ here)]
    · rw [if_neg same] at ih ⊢
      split_ifs with here before
      · rw [List.lookup_cons, List.lookup_cons, ← here, beq_false_of_ne same]
      · rw [List.lookup_cons, beq_false_of_ne same]
      · rw [List.lookup_cons, List.lookup_cons, ih]

/-- Of fields that are set one after the other, the last one with a name is found. -/
theorem lookup_foldl_setField (fields sorted : List (String × Json)) (name : String) :
    (fields.foldl (fun sorted field => setField field.1 field.2 sorted) sorted).lookup name =
      (fields.reverse ++ sorted).lookup name := by
  induction fields generalizing sorted with
  | nil => rfl
  | cons field rest ih =>
    rw [List.foldl_cons, ih, List.reverse_cons, List.append_assoc, List.lookup_append,
      List.lookup_append, lookup_setField]
    obtain ⟨present, value⟩ := field
    simp only [List.singleton_append, List.lookup_cons]
    split_ifs with same
    · rw [beq_iff_eq.mpr same]
    · rw [beq_false_of_ne same]

/-- Of fields with one name the last one is found. -/
theorem field?_ofFields (fields : List (String × Json)) (name : String) :
    (ofFields fields).field? name = fields.reverse.lookup name := by
  have whole := lookup_foldl_setField fields [] name
  rwa [List.append_nil] at whole

/-- An object whose names differ has the same fields before and after. -/
theorem field?_canonical {fields : List (String × Json)} (distinct : (fields.map Prod.fst).Nodup)
    (name : String) :
    (canonical (object fields)).field? name = ((object fields).field? name).map canonical := by
  have names : ((fields.map fun field => (field.1, field.2.canonical)).map Prod.fst).Nodup := by
    rw [List.map_map]
    exact distinct
  rw [canonical, canonicalFields_eq_map, field?_ofFields, lookup_reverse names, lookup_map]
  rfl

/-! ## Increasing names -/

/-- Fields in increasing order of their names, each name once. -/
def Increasing (fields : List (String × Json)) : Prop :=
  fields.Pairwise fun field later => field.1 < later.1

private theorem mem_of_mem_setField {name : String} {value : Json} {field : String × Json}
    {fields : List (String × Json)} (member : field ∈ setField name value fields) :
    field = (name, value) ∨ field ∈ fields := by
  induction fields with
  | nil => exact .inl (List.mem_singleton.mp member)
  | cons first rest ih =>
    rw [setField] at member
    split_ifs at member
    · exact (List.mem_cons.mp member).imp_right (List.mem_cons_of_mem first)
    · exact List.mem_cons.mp member
    · rcases List.mem_cons.mp member with rfl | later
      · exact .inr List.mem_cons_self
      · exact (ih later).imp_right (List.mem_cons_of_mem first)

namespace Increasing

variable {fields others : List (String × Json)}

/-- Setting a field keeps the order. -/
theorem setField (increasing : Increasing fields) (name : String) (value : Json) :
    Increasing (setField name value fields) := by
  induction fields with
  | nil => exact List.pairwise_singleton _ _
  | cons first rest ih =>
    obtain ⟨before, ordered⟩ := List.pairwise_cons.mp increasing
    rw [Json.setField]
    split_ifs with same less
    · subst same
      exact List.pairwise_cons.mpr ⟨before, ordered⟩
    · refine List.pairwise_cons.mpr ⟨?_, increasing⟩
      intro field member
      rcases List.mem_cons.mp member with rfl | later
      · exact less
      · exact String.lt_trans less (before field later)
    · refine List.pairwise_cons.mpr ⟨?_, ih ordered⟩
      intro field member
      rcases mem_of_mem_setField member with rfl | later
      · have order : first.1 ≤ name := String.not_lt.mp less
        exact String.not_le.mp fun back => same (String.le_antisymm back order)
      · exact before field later

theorem foldl_setField (increasing : Increasing fields) (added : List (String × Json)) :
    Increasing (added.foldl (fun sorted field => Json.setField field.1 field.2 sorted) fields) := by
  induction added generalizing fields with
  | nil => exact increasing
  | cons field rest ih => exact ih (increasing.setField field.1 field.2)

theorem nodup (increasing : Increasing fields) : (fields.map Prod.fst).Nodup := by
  rw [List.Nodup, List.pairwise_map]
  refine increasing.imp ?_
  intro field later less same
  exact String.lt_irrefl _ (same ▸ less)

/-- Increasing fields are determined by what is found under each name. -/
theorem eq_of_lookup (increasing : Increasing fields) (otherIncreasing : Increasing others)
    (same : ∀ name, fields.lookup name = others.lookup name) : fields = others := by
  refine List.Perm.eq_of_pairwise ?_ increasing otherIncreasing ?_
  · intro field other _ _ less greater
    exact absurd greater (String.lt_asymm less)
  · refine (List.perm_ext_iff_of_nodup (increasing.nodup.of_map _) (otherIncreasing.nodup.of_map _)).mpr ?_
    rintro ⟨name, value⟩
    rw [← lookup_eq_some_iff_mem increasing.nodup, ← lookup_eq_some_iff_mem otherIncreasing.nodup, same]

end Increasing

end RangeCatalog.Json
