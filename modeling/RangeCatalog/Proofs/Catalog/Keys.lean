import Mathlib.Data.List.Dedup
import Mathlib.Data.List.Sort
import RangeCatalog.Proofs.Catalog.Agreement

/-! # Sets under their keys

What the comparison of documents finds under a key: of the sets with the key, the last one. Sorting the
sets leaves those with one key in their order, so that it is the last one of the document. With this the
differences of single sets are told from the document and the entries of the catalog alone.
-/

namespace RangeCatalog

open CheckedForm (sortKey checkedSet)

/-- The last set of a document under a key. -/
def Json.setUnder? (document : Json) (key : String) : Option Json :=
  (document.sets.filter (sortKey · = key)).getLast?

/-- The keys of the sets of a document in increasing order, each one once. -/
def Json.setKeys (document : Json) : List String :=
  (document.sets.map sortKey).dedup.mergeSort fun key other => key ≤ other

/-- The entries of a catalog in increasing order of their ids. -/
def Catalog.inOrder (catalog : Catalog) : List Entry :=
  catalog.entries.mergeSort fun entry other => entry.id ≤ other.id

/-- The difference that a document has at an entry: it has no set under the id, or the set has another
value in some checked field. Missing fields are null. -/
def Entry.differenceIn? (entry : Entry) (document : Json) : Option Difference :=
  match document.setUnder? entry.id with
  | none => some (.missing entry.id)
  | some set =>
    if ∃ name ∈ fieldNames, (set.field? name).getD .null ≠ (entry.toJson.field? name).getD .null then
      some (.changed entry.id)
    else none

/-- The difference that a key of a document makes: no entry has it for its id. -/
def Catalog.differenceAt? (catalog : Catalog) (key : String) : Option Difference :=
  if key ∈ catalog.entries.map Entry.id then none else some (.unexpected key)

namespace Json

variable {document : Json}

theorem mem_of_setUnder? {key : String} {set : Json} (found : document.setUnder? key = some set) :
    set ∈ document.sets ∧ sortKey set = key := by
  obtain ⟨member, same⟩ := List.mem_filter.mp (List.mem_of_getLast? found)
  exact ⟨member, of_decide_eq_true same⟩

theorem setUnder?_eq_none_iff {key : String} :
    document.setUnder? key = none ↔ key ∉ document.sets.map sortKey := by
  simp [setUnder?]

/-- Where the keys differ, each set is the one under its key. -/
theorem setUnder?_of_mem (distinct : (document.sets.map sortKey).Nodup) {set : Json}
    (member : set ∈ document.sets) : document.setUnder? (sortKey set) = some set := by
  cases found : document.setUnder? (sortKey set) with
  | none => exact absurd (List.mem_map_of_mem member) (setUnder?_eq_none_iff.mp found)
  | some other =>
    obtain ⟨among, same⟩ := mem_of_setUnder? found
    rw [List.inj_on_of_nodup_map distinct among member same]

theorem mem_setKeys {key : String} : key ∈ document.setKeys ↔ key ∈ document.sets.map sortKey := by
  rw [setKeys, List.mem_mergeSort, List.mem_dedup]

theorem pairwise_setKeys (document : Json) : document.setKeys.Pairwise (· < ·) := by
  refine pairwise_lt_mergeSort_key id ?_
  rw [List.map_id]
  exact List.nodup_dedup _

end Json

namespace CheckedForm

variable {form : CheckedForm}

/-! ## Sets by their keys -/

private theorem byKey_eq_foldl (form : CheckedForm) :
    form.byKey = (form.sets.map fun set => (sortKey set, set)).foldl
      (fun sorted field => Json.setField field.1 field.2 sorted) [] := by
  rw [byKey, List.foldl_map]

theorem increasing_byKey (form : CheckedForm) : Json.Increasing form.byKey := by
  rw [byKey_eq_foldl]
  exact Json.Increasing.foldl_setField List.Pairwise.nil _

/-- Of sets with one key the last one counts. -/
theorem lookup_byKey (form : CheckedForm) (key : String) :
    form.byKey.lookup key = (form.sets.filter (sortKey · = key)).getLast? := by
  rw [byKey_eq_foldl, Json.lookup_foldl_setField, List.append_nil, ← List.map_reverse, lookup_map_key,
    List.getLast?_filter]

/-- A form whose sets are in increasing order of their keys, each key once. -/
def Increasing (form : CheckedForm) : Prop :=
  form.sets.Pairwise fun set other => sortKey set < sortKey other

/-- Sets in increasing order of their keys stay as they are. -/
theorem Increasing.byKey_eq (increasing : form.Increasing) :
    form.byKey = form.sets.map fun set => (sortKey set, set) := by
  have pairs : Json.Increasing (form.sets.map fun set => (sortKey set, set)) :=
    List.pairwise_map.mpr increasing
  refine (increasing_byKey form).eq_of_lookup pairs ?_
  intro name
  rw [byKey_eq_foldl, Json.lookup_foldl_setField, List.append_nil, lookup_reverse pairs.nodup]

private theorem mem_names_byKey {key : String} :
    key ∈ form.byKey.map Prod.fst ↔ key ∈ form.sets.map sortKey := by
  rw [← lookup_isSome_iff_mem, lookup_byKey, List.getLast?_isSome, Ne, List.filter_eq_nil_iff]
  simp

private theorem lookup_byKey_ofJson (document : Json) (key : String) :
    (ofJson document).byKey.lookup key = (document.setUnder? key).map checkedSet := by
  rw [lookup_byKey, ofJson_eq_sets, filter_mergeSort_key, List.filter_map, List.getLast?_map,
    Json.setUnder?]
  simp only [Function.comp_def, sortKey_checkedSet]

private theorem names_byKey_ofJson (document : Json) :
    (ofJson document).byKey.map Prod.fst = document.setKeys := by
  have increasing : ((ofJson document).byKey.map Prod.fst).Pairwise (· < ·) :=
    List.pairwise_map.mpr (increasing_byKey _)
  refine increasing.eq_of_mem_iff document.pairwise_setKeys ?_
  intro key
  rw [mem_names_byKey, Json.mem_setKeys, ofJson_eq_sets]
  simp [List.mem_map, List.mem_mergeSort, sortKey_checkedSet]

/-- A document whose sets have distinct keys. -/
theorem increasing_ofJson {document : Json} (distinct : (document.sets.map sortKey).Nodup) :
    (ofJson document).Increasing := by
  refine pairwise_lt_mergeSort_key sortKey ?_
  simp only [List.map_map, Function.comp_def, sortKey_checkedSet]
  exact distinct

theorem sets_toJson (catalog : Catalog) :
    catalog.toJson.sets = catalog.entries.map Entry.toJson := by
  refine List.filter_eq_self.mpr ?_
  intro item member
  obtain ⟨entry, _, rfl⟩ := List.mem_map.mp member
  rfl

variable {catalog : Catalog}

theorem increasing_ofJson_toJson (distinct : (catalog.entries.map Entry.id).Nodup) :
    (ofJson catalog.toJson).Increasing := by
  refine increasing_ofJson ?_
  rw [sets_toJson, List.map_map]
  exact distinct

private theorem byKey_ofJson_toJson (distinct : (catalog.entries.map Entry.id).Nodup) :
    (ofJson catalog.toJson).byKey =
      catalog.inOrder.map fun entry => (entry.id, checkedSet entry.toJson) := by
  have sorted : (ofJson catalog.toJson).sets =
      catalog.inOrder.map fun entry => checkedSet entry.toJson := by
    rw [ofJson_toJson, List.map_map, Catalog.inOrder, List.map_mergeSort]
    · rfl
    · intro entry _ other _
      rw [sortKey_checkedSet, sortKey_checkedSet]
      rfl
  rw [(increasing_ofJson_toJson distinct).byKey_eq, sorted, List.map_map]
  simp only [Function.comp_def, sortKey_checkedSet, sortKey_toJson]

/-! ## Differences of single sets -/

/-- A form does not differ from itself in any set. -/
theorem setDifferences_self (form : CheckedForm) : form.setDifferences form = [] := by
  have found (key : String) (set : Json) (member : (key, set) ∈ form.byKey) :
      form.byKey.lookup key = some set :=
    (lookup_eq_some_iff_mem (increasing_byKey form).nodup).mpr member
  rw [setDifferences, List.append_eq_nil_iff, List.filterMap_eq_nil_iff, List.filterMap_eq_nil_iff]
  constructor
  · rintro ⟨key, set⟩ member
    simp [found key set member]
  · rintro ⟨key, set⟩ member
    simp [found key set member]

theorem exists_field_ne_iff {set other : Json} :
    (∃ name ∈ Entry.fieldNames, (set.field? name).getD .null ≠ (other.field? name).getD .null) ↔
      checkedSet set ≠ checkedSet other := by
  rw [Ne, checkedSet_eq_iff, Json.checkedValues, Json.checkedValues, List.map_inj_left]
  simp

/-- The differences of single sets, told from the document and the entries. -/
theorem setDifferences_ofJson (document : Json)
    (distinct : (catalog.entries.map Entry.id).Nodup) :
    (ofJson document).setDifferences (ofJson catalog.toJson) =
      catalog.inOrder.filterMap (·.differenceIn? document) ++
        document.setKeys.filterMap catalog.differenceAt? := by
  have ids (key : String) :
      ((ofJson catalog.toJson).byKey.lookup key).isSome ↔ key ∈ catalog.entries.map Entry.id := by
    rw [lookup_isSome_iff_mem, mem_names_byKey, ofJson_toJson]
    simp [List.mem_mergeSort, sortKey_checkedSet, sortKey_toJson]
  rw [setDifferences]
  congr 1
  · rw [byKey_ofJson_toJson distinct, List.filterMap_map]
    refine List.filterMap_congr ?_
    intro entry _
    simp only [Function.comp_apply, lookup_byKey_ofJson, Entry.differenceIn?]
    cases document.setUnder? entry.id with
    | none => rfl
    | some set =>
      simp only [Option.map_some, exists_field_ne_iff, ne_eq, ite_not]
  · rw [← names_byKey_ofJson, List.filterMap_map]
    refine List.filterMap_congr ?_
    rintro ⟨key, set⟩ _
    simp only [Function.comp_apply, Catalog.differenceAt?, ids]

end CheckedForm

end RangeCatalog
