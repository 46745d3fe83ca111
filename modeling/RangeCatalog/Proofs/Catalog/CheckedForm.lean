import RangeCatalog.Proofs.Catalog.Agreement

/-! # Checked forms of documents

The checked form of a document, which may be any JSON, is canonical: it is its own checked form. Cutting a
set down to the checked fields keeps its key, so that nothing moves when the sets are sorted again. Each
object among the items gives one set, and sets with one key keep their order.
-/

namespace RangeCatalog

namespace Json

private theorem mem_names_ofFields {fields sorted : List (String × Json)} (whole : ofFields fields = object sorted)
    {name : String} : name ∈ sorted.map Prod.fst ↔ name ∈ fields.map Prod.fst := by
  rw [ofFields, object.injEq] at whole
  rw [← whole, ← lookup_isSome_iff_mem, lookup_foldl_setField, List.append_nil, lookup_isSome_iff_mem,
    List.map_reverse, List.mem_reverse]

/-- The fields of an object stand in increasing order of their names, each name once. -/
theorem increasing_ofFields {fields sorted : List (String × Json)}
    (whole : ofFields fields = object sorted) : Increasing sorted := by
  rw [ofFields, object.injEq] at whole
  rw [← whole]
  exact Increasing.foldl_setField List.Pairwise.nil fields

/-- Where the names differ, an object has exactly these names. -/
theorem names_ofFields_perm {fields sorted : List (String × Json)}
    (distinct : (fields.map Prod.fst).Nodup) (whole : ofFields fields = object sorted) :
    (sorted.map Prod.fst).Perm (fields.map Prod.fst) :=
  (List.perm_ext_iff_of_nodup (increasing_ofFields whole).nodup distinct).mpr
    fun _ => mem_names_ofFields whole

end Json

namespace CheckedForm

variable {form : CheckedForm} {document : Json}

/-! ## Single sets -/

/-- A checked set has exactly the checked fields. -/
theorem exists_fields_checkedSet (set : Json) :
    ∃ fields, checkedSet set = .object fields ∧ (fields.map Prod.fst).Perm Entry.fieldNames := by
  have names : (Entry.fieldNames.map fun name => (name, (set.field? name).getD .null)).map Prod.fst =
      Entry.fieldNames := rfl
  have distinct : Entry.fieldNames.Nodup := by decide
  refine ⟨_, rfl, ?_⟩
  have same := Json.names_ofFields_perm (names ▸ distinct) (rfl : checkedSet set = _)
  rwa [names] at same

private theorem isObject_checkedSet (set : Json) : (checkedSet set).isObject = true := rfl

/-- A checked set is checked already. -/
theorem checkedSet_checkedSet (set : Json) : checkedSet (checkedSet set) = checkedSet set :=
  checkedSet_eq_iff.mpr (checkedValues_checkedSet set)

/-! ## Forms as documents -/

private theorem field?_version_toJson (form : CheckedForm) :
    form.toJson.field? "catalog_version" = some form.version := by
  rw [toJson, Json.field?_ofFields]
  rfl

private theorem field?_sets_toJson (form : CheckedForm) :
    form.toJson.field? "sets" = some (.array form.sets) := by
  rw [toJson, Json.field?_ofFields]
  rfl

/-- A form whose sets are checked and in order is its own checked form. -/
theorem ofJson_toJson_of_checked (checked : ∀ set ∈ form.sets, checkedSet set = set)
    (ordered : form.sets.Pairwise fun set later => sortKey set ≤ sortKey later) :
    ofJson form.toJson = form := by
  have objects : ∀ set ∈ form.sets, set.isObject = true := by
    intro set member
    rw [← checked set member]
    exact isObject_checkedSet set
  have same : form.sets.map checkedSet = form.sets := by
    rw [List.map_congr_left checked, List.map_id']
  have stays := List.mergeSort_of_pairwise (ordered.imp fun less => decide_eq_true less)
  rw [ofJson_eq form.field?_version_toJson form.field?_sets_toJson objects, same, stays]

/-! ## Forms of documents -/

/-- The sets of a form are the sets of the document, each one cut down to the checked fields. -/
theorem sets_ofJson_perm (document : Json) : (ofJson document).sets.Perm (document.sets.map checkedSet) := by
  rw [ofJson_eq_sets]
  exact List.mergeSort_perm _ _

private theorem exists_of_mem_sets {set : Json} (member : set ∈ (ofJson document).sets) :
    ∃ original ∈ document.sets, checkedSet original = set :=
  List.mem_map.mp ((sets_ofJson_perm document).mem_iff.mp member)

private theorem pairwise_sets_ofJson (document : Json) :
    (ofJson document).sets.Pairwise fun set later => sortKey set ≤ sortKey later := by
  rw [ofJson_eq_sets]
  exact pairwise_mergeSort_key sortKey _

/-- The sets with one key stay in their order. -/
theorem filter_sets_ofJson (document : Json) (key : String) :
    (ofJson document).sets.filter (sortKey · = key) =
      (document.sets.filter (sortKey · = key)).map checkedSet := by
  rw [ofJson_eq_sets, filter_mergeSort_key, List.filter_map]
  simp only [Function.comp_def, sortKey_checkedSet]

private theorem map_checkedValues_checkedSet (sets : List Json) :
    (sets.map checkedSet).map Json.checkedValues = sets.map Json.checkedValues := by
  rw [List.map_map]
  exact List.map_congr_left fun set _ => checkedValues_checkedSet set

/-- The checked form of any document is its own checked form. -/
theorem ofJson_toJson_ofJson (document : Json) : ofJson (ofJson document).toJson = ofJson document := by
  apply ofJson_toJson_of_checked
  · intro set member
    obtain ⟨original, _, rfl⟩ := exists_of_mem_sets member
    exact checkedSet_checkedSet original
  · exact pairwise_sets_ofJson document

/-- Whatever a document is, checking its checked form again changes nothing. The sets are in non-decreasing
order of their keys, each has exactly the checked fields, those with one key are in the order of the
document, and together they are the objects among its items, each as often as it stands there and with the
values of its checked fields, where missing ones are null. -/
theorem checked_form_canonical (document : Json) :
    (ofJson (ofJson document).toJson).toJson = (ofJson document).toJson ∧
    ∃ sets, (ofJson document).toJson.field? "sets" = some (.array sets) ∧
      sets.Pairwise (fun set later => sortKey set ≤ sortKey later) ∧
      (∀ set ∈ sets, ∃ fields, set = .object fields ∧ (fields.map Prod.fst).Perm Entry.fieldNames) ∧
      (∀ key, (sets.filter (sortKey · = key)).map Json.checkedValues =
        (document.sets.filter (sortKey · = key)).map Json.checkedValues) ∧
      (sets.map Json.checkedValues).Perm (document.sets.map Json.checkedValues) := by
  refine ⟨congrArg toJson (ofJson_toJson_ofJson document), (ofJson document).sets,
    field?_sets_toJson _, pairwise_sets_ofJson document, ?_, ?_, ?_⟩
  · intro set member
    obtain ⟨original, _, rfl⟩ := exists_of_mem_sets member
    exact exists_fields_checkedSet original
  · intro key
    rw [filter_sets_ofJson, map_checkedValues_checkedSet]
  · rw [← map_checkedValues_checkedSet document.sets]
    exact (sets_ofJson_perm document).map Json.checkedValues

/-- Sets without an id, with null and with an empty id have one key and stay in their order. -/
theorem checked_form_canonical_without_ids :
    let document : Json := .object [("sets", .array [.object [("id", .integer 5)], .bool true,
      .object [("label", .string "none")], .object [("id", .null), ("label", .string "null")],
      .object [("extra", .null), ("id", .string ""), ("label", .string "empty")]])]
    ∃ sets, (ofJson document).toJson.field? "sets" = some (.array sets) ∧ sets.length = 4 ∧
      ((sets.filter (sortKey · = "")).map Json.checkedValues).map (·[1]?) =
        [some (.string "none"), some (.string "null"), some (.string "empty")] ∧
      ∃ set ∈ sets, ∃ fields, set = .object fields ∧ fields.length = 8 := by
  intro document
  obtain ⟨_, sets, listed, _, fields, kept, same⟩ := checked_form_canonical document
  have four : sets.length = 4 := by
    have sizes := same.length_eq
    rw [List.length_map, List.length_map] at sizes
    exact sizes
  obtain ⟨first, rest, rfl⟩ := List.exists_cons_of_length_pos (four ▸ Nat.succ_pos 3 : 0 < sets.length)
  obtain ⟨own, whole, names⟩ := fields first List.mem_cons_self
  have eight : own.length = 8 := by
    have sizes := names.length_eq
    rw [List.length_map] at sizes
    exact sizes
  refine ⟨_, listed, four, ?_, first, List.mem_cons_self, own, whole, eight⟩
  rw [kept ""]
  decide +kernel

end CheckedForm

end RangeCatalog
