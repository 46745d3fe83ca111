import RangeCatalog.Catalog.Baseline
import RangeCatalog.Catalog.Difference
import RangeCatalog.Proofs.Json.Fields

/-! # Stored documents

What is read of a catalog that was rendered: a document with the same fields in another order. Its
baseline has the number of ranges of each set, and its checked form is that of the catalog.
-/

namespace RangeCatalog

open Json (Faithful IsWord canonical)

/-- A list of texts is read back as it is. -/
theorem Json.canonical_texts (texts : List String) :
    canonical (.array (texts.map .string)) = .array (texts.map .string) := by
  rw [canonical, canonicalItems_eq_map, List.map_map]
  rfl

/-! ## Entries -/

namespace Entry

variable {entry : Entry}

private theorem names_distinct : ((fieldNames.zip entry.fieldValues).map Prod.fst).Nodup := by
  have names : (fieldNames.zip entry.fieldValues).map Prod.fst = fieldNames := rfl
  rw [names]
  decide

theorem canonical_of_mem_fieldValues {value : Json} (member : value ∈ entry.fieldValues) :
    canonical value = value := by
  have text (value : Option String) : canonical (.ofOption .string value) = .ofOption .string value := by
    cases value <;> rfl
  have number (value : Option Int) :
      canonical (.ofOption .integer value) = .ofOption .integer value := by
    cases value <;> rfl
  simp only [fieldValues, List.mem_cons, List.not_mem_nil, or_false] at member
  rcases member with rfl | rfl | rfl | rfl | rfl | rfl | rfl | rfl
  · rfl
  · rfl
  · rfl
  · rfl
  · exact text _
  · exact number _
  · exact Json.canonical_texts _
  · rfl

/-- An entry has the same fields before and after. -/
theorem field?_canonical (entry : Entry) (name : String) :
    (canonical entry.toJson).field? name = entry.toJson.field? name := by
  rw [toJson, Json.field?_canonical names_distinct]
  cases found : (Json.object (fieldNames.zip entry.fieldValues)).field? name with
  | none => rfl
  | some value =>
    have member := (List.of_mem_zip (mem_of_lookup found)).2
    rw [Option.map_some, canonical_of_mem_fieldValues member]

/-- An entry is read back when the second of its time stamp is a word. -/
theorem faithful (word : ∀ seconds, entry.sourceStampSeconds = some seconds → IsWord seconds)
    (room : Nat) : Faithful (room + 2) entry.toJson := by
  refine .object ?_
  rintro ⟨name, value⟩ member
  have listed := (List.of_mem_zip member).2
  simp only [fieldValues, List.mem_cons, List.not_mem_nil, or_false] at listed
  rcases listed with rfl | rfl | rfl | rfl | rfl | rfl | rfl | rfl
  · exact .string _
  · exact .string _
  · exact .string _
  · exact .string _
  · cases entry.sourceStamp with
    | none => exact .null
    | some stamp => exact .string stamp
  · cases stamp : entry.sourceStampSeconds with
    | none => exact .null
    | some seconds => exact .integer (word seconds stamp)
  · refine .array ?_
    intro item among
    obtain ⟨text, _, rfl⟩ := List.mem_map.mp among
    exact .string text
  · exact .string _

private theorem countOf?_canonical (entry : Entry) :
    Baseline.countOf? (canonical entry.toJson) = some (entry.id, entry.ranges.length) := by
  have id : entry.toJson.field? "id" = some (.string entry.id) := rfl
  have ranges : entry.toJson.field? "cidrs" = some (.array (entry.ranges.map .string)) := rfl
  simp only [Baseline.countOf?, field?_canonical, id, ranges, Option.bind_eq_bind, Option.bind_some,
    Json.text?, Json.items?, List.length_map]
  rfl

theorem checkedSet_canonical (entry : Entry) :
    CheckedForm.checkedSet (canonical entry.toJson) = CheckedForm.checkedSet entry.toJson := by
  simp only [CheckedForm.checkedSet, field?_canonical]

end Entry

/-! ## Catalogs -/

namespace Catalog

variable {catalog : Catalog}

/-- A catalog whose seconds are words. All seconds of the calendar are. -/
structure Timed (catalog : Catalog) : Prop where
  generated : IsWord catalog.generatedAtSeconds
  stamps : ∀ entry ∈ catalog.entries, ∀ seconds,
    entry.sourceStampSeconds = some seconds → IsWord seconds

private theorem Timed.faithful (timed : catalog.Timed) (room : Nat) : Faithful (room + 4) catalog.toJson := by
  refine .object ?_
  rintro ⟨name, value⟩ member
  have listed := (List.of_mem_zip member).2
  simp only [fieldValues, List.mem_cons, List.not_mem_nil, or_false] at listed
  rcases listed with rfl | rfl | rfl | rfl
  · exact .string _
  · exact .string _
  · exact .integer timed.generated
  · refine .array ?_
    intro item among
    obtain ⟨entry, here, rfl⟩ := List.mem_map.mp among
    exact Entry.faithful (timed.stamps entry here) room

/-- A rendered catalog is read back. -/
theorem Timed.ofText?_render (timed : catalog.Timed) :
    Json.ofText? catalog.render = some (canonical catalog.toJson) :=
  (timed.faithful 123).ofText?_pretty

theorem field?_canonical (catalog : Catalog) (name : String) :
    (canonical catalog.toJson).field? name = (catalog.toJson.field? name).map canonical := by
  have names : (fieldNames.zip catalog.fieldValues).map Prod.fst = fieldNames := rfl
  exact Json.field?_canonical (by rw [names]; decide) name

theorem sets_canonical (catalog : Catalog) :
    (canonical catalog.toJson).field? "sets" =
      some (.array (catalog.entries.map fun entry => canonical entry.toJson)) := by
  have sets : catalog.toJson.field? "sets" = some (.array (catalog.entries.map Entry.toJson)) := rfl
  rw [field?_canonical, sets, Option.map_some, canonical, Json.canonicalItems_eq_map, List.map_map]
  rfl

end Catalog

/-! ## Baselines -/

namespace Baseline

theorem get?_insert (baseline : Baseline) (id other : String) (count : Nat) :
    (baseline.insert id count).get? other = if other = id then some count else baseline.get? other := by
  rw [get?, insert, List.lookup_cons]
  by_cases same : other = id
  · rw [if_pos same, beq_iff_eq.mpr same]
  · rw [if_neg same, beq_false_of_ne same]
    exact lookup_filter_ne _ same

/-- Of counts with one id the last one counts. -/
theorem get?_ofCounts (counts : List (String × Nat)) (id : String) :
    (ofCounts counts).get? id = counts.reverse.lookup id := by
  have general (known : Baseline) :
      (counts.foldl (fun baseline entry => baseline.insert entry.1 entry.2) known).get? id =
        (counts.reverse.lookup id).or (known.get? id) := by
    induction counts generalizing known with
    | nil => rfl
    | cons entry rest ih =>
      obtain ⟨name, count⟩ := entry
      rw [List.foldl_cons, ih, List.reverse_cons, List.lookup_append, Option.or_assoc, get?_insert]
      by_cases same : id = name
      · simp [same]
      · simp [same, List.lookup_cons, beq_false_of_ne same]
  rw [ofCounts, general]
  exact Option.or_none

/-- The baseline of a stored catalog has the counts of its entries. -/
theorem ofJson_canonical (catalog : Catalog) :
    ofJson (canonical catalog.toJson) =
      ofCounts (catalog.entries.map fun entry => (entry.id, entry.ranges.length)) := by
  have counts : (catalog.entries.map fun entry => canonical entry.toJson).filterMap countOf? =
      catalog.entries.map fun entry => (entry.id, entry.ranges.length) := by
    have each : countOf? ∘ (fun entry => canonical entry.toJson) =
        some ∘ fun entry : Entry => (entry.id, entry.ranges.length) := by
      funext entry
      exact entry.countOf?_canonical
    rw [List.filterMap_map, each, List.filterMap_eq_map]
  rw [ofJson, catalog.sets_canonical, Option.bind_some, Json.items?, Option.getD_some, counts]

/-- Where the ids differ, the baseline has the count of each entry. -/
theorem get?_ofJson_canonical {catalog : Catalog} (distinct : (catalog.entries.map Entry.id).Nodup)
    {entry : Entry} (member : entry ∈ catalog.entries) :
    (ofJson (canonical catalog.toJson)).get? entry.id = some entry.ranges.length := by
  have keys : ((catalog.entries.map fun entry => (entry.id, entry.ranges.length)).map Prod.fst).Nodup := by
    rw [List.map_map]
    exact distinct
  rw [ofJson_canonical, get?_ofCounts, lookup_reverse keys, lookup_eq_some_iff_mem keys]
  exact List.mem_map_of_mem member

end Baseline

/-! ## Checked forms -/

namespace CheckedForm

/-- The checked form of a document whose sets are all objects. -/
theorem ofJson_eq {document version : Json} {items : List Json}
    (versioned : document.field? "catalog_version" = some version)
    (listed : document.field? "sets" = some (.array items))
    (objects : ∀ item ∈ items, item.isObject = true) :
    ofJson document =
      ⟨version, (items.map checkedSet).mergeSort fun a b => sortKey a ≤ sortKey b⟩ := by
  simp only [ofJson, versioned, listed, Option.bind_some, Json.items?, Option.getD_some,
    List.filter_eq_self.mpr objects]

theorem ofJson_toJson (catalog : Catalog) :
    ofJson catalog.toJson = ⟨.string catalog.version,
      ((catalog.entries.map Entry.toJson).map checkedSet).mergeSort
        fun a b => sortKey a ≤ sortKey b⟩ := by
  refine ofJson_eq rfl rfl ?_
  intro item member
  obtain ⟨entry, _, rfl⟩ := List.mem_map.mp member
  rfl

/-- The checked form of a stored catalog is that of the catalog. -/
theorem ofJson_canonical (catalog : Catalog) :
    ofJson (canonical catalog.toJson) = ofJson catalog.toJson := by
  have version : (canonical catalog.toJson).field? "catalog_version" =
      some (.string catalog.version) := catalog.field?_canonical _
  have objects : ∀ item ∈ catalog.entries.map fun entry => canonical entry.toJson,
      item.isObject = true := by
    intro item member
    obtain ⟨entry, _, rfl⟩ := List.mem_map.mp member
    rfl
  have sets : (catalog.entries.map fun entry => canonical entry.toJson).map checkedSet =
      (catalog.entries.map Entry.toJson).map checkedSet := by
    simp only [List.map_map, Function.comp_def, Entry.checkedSet_canonical]
  rw [ofJson_eq version catalog.sets_canonical objects, sets, ofJson_toJson]

end CheckedForm

/-- A stored catalog does not differ from one with the same version and the same entries. -/
theorem Catalog.differencesFrom_canonical {stored rebuilt : Catalog}
    (version : stored.version = rebuilt.version) (entries : stored.entries = rebuilt.entries) :
    rebuilt.differencesFrom (canonical stored.toJson) = [] := by
  have same : CheckedForm.ofJson stored.toJson = CheckedForm.ofJson rebuilt.toJson := by
    rw [CheckedForm.ofJson_toJson, CheckedForm.ofJson_toJson, version, entries]
  rw [differencesFrom, CheckedForm.ofJson_canonical, same, CheckedForm.differences, if_pos rfl]

end RangeCatalog
