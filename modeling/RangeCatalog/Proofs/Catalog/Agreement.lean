import Mathlib.Data.Multiset.Defs
import RangeCatalog.Proofs.Catalog.Document

/-! # Agreement of documents with catalogs

When a stored document has no difference from a catalog. Sorting the sets of both sides hides their order
and nothing else, because the ids of the catalog differ. Sets of the document may share a key, but then
they cannot all be sets of the catalog.
-/

namespace RangeCatalog

/-- The sets of a document: the objects among the items of its list of sets. -/
def Json.sets (document : Json) : List Json :=
  (((document.field? "sets").bind items?).getD []).filter isObject

/-- The values of the checked fields of a set. Missing ones are null. -/
def Json.checkedValues (set : Json) : List Json :=
  Entry.fieldNames.map fun name => (set.field? name).getD null

/-- Whether a document has the version of a catalog, and the same sets as often as the catalog has them.
Nothing else in the document matters. -/
structure Catalog.AgreesWith (catalog : Catalog) (document : Json) : Prop where
  version : document.field? "catalog_version" = some (.string catalog.version)
  sets : (document.sets.map Json.checkedValues : Multiset (List Json)) =
    catalog.entries.map Entry.fieldValues

namespace CheckedForm

/-! ## Checked sets -/

private theorem field?_checkedSet (set : Json) {name : String} (checked : name ∈ Entry.fieldNames) :
    (checkedSet set).field? name = some ((set.field? name).getD .null) := by
  have names : (Entry.fieldNames.map fun name => (name, (set.field? name).getD .null)).map Prod.fst =
      Entry.fieldNames := rfl
  have distinct : Entry.fieldNames.Nodup := by decide
  rw [checkedSet, Json.field?_ofFields, lookup_reverse (names ▸ distinct),
    lookup_eq_some_iff_mem (names ▸ distinct)]
  exact List.mem_map_of_mem checked

/-- A checked set is given by the values of its fields. -/
theorem checkedValues_checkedSet (set : Json) : (checkedSet set).checkedValues = set.checkedValues := by
  refine List.map_congr_left ?_
  intro name checked
  rw [field?_checkedSet set checked, Option.getD_some]

private theorem checkedSet_eq (set : Json) :
    checkedSet set = .ofFields (Entry.fieldNames.zip set.checkedValues) := rfl

private theorem checkedSets_perm_iff {sets others : List Json} :
    (sets.map checkedSet).Perm (others.map checkedSet) ↔
      (sets.map Json.checkedValues).Perm (others.map Json.checkedValues) := by
  constructor
  · intro same
    have values := same.map Json.checkedValues
    simp only [List.map_map, Function.comp_def, checkedValues_checkedSet] at values
    exact values
  · intro same
    have rebuilt := same.map fun values => Json.ofFields (Entry.fieldNames.zip values)
    simp only [List.map_map, Function.comp_def, ← checkedSet_eq] at rebuilt
    exact rebuilt

private theorem checkedValues_toJson (entry : Entry) : entry.toJson.checkedValues = entry.fieldValues := rfl

/-- A missing id and null have one key, so that a checked set has the key of the set. -/
theorem sortKey_checkedSet (set : Json) : sortKey (checkedSet set) = sortKey set := by
  rw [sortKey, field?_checkedSet set (by decide), sortKey]
  cases set.field? "id" with
  | none => rfl
  | some id => cases id <;> rfl

theorem sortKey_toJson (entry : Entry) : sortKey entry.toJson = entry.id := rfl

/-- Checked sets are told apart by the values of their fields. -/
theorem checkedSet_eq_iff {set other : Json} :
    checkedSet set = checkedSet other ↔ set.checkedValues = other.checkedValues := by
  constructor
  · intro same
    rw [← checkedValues_checkedSet set, same, checkedValues_checkedSet]
  · intro same
    rw [checkedSet_eq, same, checkedSet_eq]

/-! ## Sorted sets -/

theorem ofJson_eq_sets (document : Json) :
    ofJson document = ⟨(document.field? "catalog_version").getD .null,
      (document.sets.map checkedSet).mergeSort fun a b => sortKey a ≤ sortKey b⟩ := rfl

/-- Sorting by keys hides the order and nothing else, where the keys of one side differ. -/
theorem mergeSort_eq_iff_perm {sets others : List Json} (distinct : (others.map sortKey).Nodup) :
    (sets.mergeSort fun a b => sortKey a ≤ sortKey b) =
        (others.mergeSort fun a b => sortKey a ≤ sortKey b) ↔ sets.Perm others := by
  constructor
  · intro same
    exact (List.mergeSort_perm sets _).symm.trans (same ▸ List.mergeSort_perm others _)
  · intro same
    refine List.Perm.eq_of_pairwise ?_ (pairwise_mergeSort_key sortKey sets)
      (pairwise_mergeSort_key sortKey others) ?_
    · -- Both stand among the sets whose keys differ, so that one key is one set.
      intro a b left right below above
      have leftOther : a ∈ others := same.mem_iff.mp (List.mem_mergeSort.mp left)
      exact List.inj_on_of_nodup_map distinct leftOther (List.mem_mergeSort.mp right)
        (String.le_antisymm below above)
    · exact (List.mergeSort_perm sets _).trans (same.trans (List.mergeSort_perm others _).symm)

/-! ## Differences -/

theorem differences_eq_nil_iff {stored rebuilt : CheckedForm} :
    stored.differences rebuilt = [] ↔ stored = rebuilt := by
  rw [differences]
  by_cases same : stored = rebuilt
  · simp [same]
  · simp only [if_neg same]
    split
    · simp [same]
    · rename_i found
      simp only [List.isEmpty_iff] at found
      simp [same, found]

end CheckedForm

namespace Catalog

open CheckedForm

variable {catalog : Catalog} {document : Json}

private theorem distinct_sortKeys (distinct : (catalog.entries.map Entry.id).Nodup) :
    (((catalog.entries.map Entry.toJson).map checkedSet).map sortKey).Nodup := by
  simp only [List.map_map, Function.comp_def, sortKey_checkedSet, sortKey_toJson]
  exact distinct

/-- A document does not differ from a catalog whose ids differ exactly when it agrees with it. -/
theorem differencesFrom_eq_nil_iff (distinct : (catalog.entries.map Entry.id).Nodup) :
    catalog.differencesFrom document = [] ↔ catalog.AgreesWith document := by
  have version : (document.field? "catalog_version").getD .null = .string catalog.version ↔
      document.field? "catalog_version" = some (.string catalog.version) := by
    cases document.field? "catalog_version" <;> simp
  have sets : (document.sets.map checkedSet).Perm ((catalog.entries.map Entry.toJson).map checkedSet) ↔
      (document.sets.map Json.checkedValues).Perm (catalog.entries.map Entry.fieldValues) := by
    have values : (catalog.entries.map Entry.toJson).map Json.checkedValues =
        catalog.entries.map Entry.fieldValues := by
      rw [List.map_map]
      exact List.map_congr_left fun entry _ => checkedValues_toJson entry
    rw [checkedSets_perm_iff, values]
  rw [differencesFrom, differences_eq_nil_iff, CheckedForm.ofJson_toJson, ofJson_eq_sets,
    CheckedForm.mk.injEq, mergeSort_eq_iff_perm (distinct_sortKeys distinct), version, sets]
  constructor
  · rintro ⟨version, sets⟩
    exact ⟨version, Multiset.coe_eq_coe.mpr sets⟩
  · rintro ⟨version, sets⟩
    exact ⟨version, Multiset.coe_eq_coe.mp sets⟩

/-- What is stored of a catalog agrees with each catalog that has its version and its entries, in any
order. -/
theorem agreesWith_canonical {stored : Catalog} (version : stored.version = catalog.version)
    (entries : stored.entries.Perm catalog.entries) :
    catalog.AgreesWith (Json.canonical stored.toJson) := by
  have objects : (Json.canonical stored.toJson).sets =
      stored.entries.map fun entry => Json.canonical entry.toJson := by
    rw [Json.sets, sets_canonical, Option.bind_some, Json.items?, Option.getD_some, List.filter_eq_self]
    intro item member
    obtain ⟨entry, _, rfl⟩ := List.mem_map.mp member
    rfl
  have values (entry : Entry) :
      (Json.canonical entry.toJson).checkedValues = entry.fieldValues := by
    rw [← checkedValues_checkedSet, Entry.checkedSet_canonical, checkedValues_checkedSet,
      checkedValues_toJson]
  refine ⟨?_, ?_⟩
  · rw [field?_canonical, ← version]
    rfl
  · rw [objects, List.map_map, Multiset.coe_eq_coe]
    simp only [Function.comp_def, values]
    exact entries.map Entry.fieldValues

end Catalog

end RangeCatalog
