import RangeCatalog.Proofs.Catalog.Keys

/-! # The order of the sets

What the report on a document says when its sets are listed in another order. Whether anything is reported
does not depend on the order. What is reported depends on it in one way: of several sets with one key the
last one is compared with the entry. So the order is hidden where sets with one key are alike, and shows
where the last one agrees with the entry in one order and not in the other.
-/

namespace RangeCatalog

open CheckedForm (sortKey checkedSet)

/-- Two documents with one version whose lists of sets have the same items in some order. -/
structure Json.Rearranged (document other : Json) : Prop where
  version : other.field? "catalog_version" = document.field? "catalog_version"
  items : ∃ items others, document.field? "sets" = some (.array items) ∧
    other.field? "sets" = some (.array others) ∧ others.Perm items

/-! ## Keys of rearranged documents -/

namespace Json

variable {document other : Json}

private theorem Rearranged.sets (rearranged : Rearranged document other) : other.sets.Perm document.sets := by
  obtain ⟨items, others, here, there, same⟩ := rearranged.items
  rw [Json.sets, Json.sets, here, there]
  exact same.filter isObject

private theorem Rearranged.setUnder?_eq_none_iff (rearranged : Rearranged document other) (key : String) :
    other.setUnder? key = none ↔ document.setUnder? key = none := by
  rw [Json.setUnder?_eq_none_iff, Json.setUnder?_eq_none_iff, (rearranged.sets.map sortKey).mem_iff]

private theorem Rearranged.setKeys (rearranged : Rearranged document other) :
    other.setKeys = document.setKeys := by
  refine other.pairwise_setKeys.eq_of_mem_iff document.pairwise_setKeys ?_
  intro key
  rw [mem_setKeys, mem_setKeys, (rearranged.sets.map sortKey).mem_iff]

end Json

/-! ## Differences that are reported -/

/-- The id of the entry that a difference is about. -/
def Difference.entryId? : Difference → Option String
  | missing id | changed id => some id
  | version _ _ | unexpected _ | layout => none

namespace CheckedForm

variable {stored rebuilt : CheckedForm}

/-- What is reported, unless the forms are one. -/
theorem mem_differences_of_mem_setDifferences {difference : Difference}
    (member : difference ∈ stored.setDifferences rebuilt) : difference ∈ stored.differences rebuilt := by
  by_cases same : stored = rebuilt
  · rw [same, setDifferences_self] at member
    exact absurd member List.not_mem_nil
  · have found := List.mem_append_right (stored.versionDifference rebuilt) member
    rw [differences, if_neg same, if_neg]
    · exact found
    · rw [List.isEmpty_iff]
      exact List.ne_nil_of_mem found

/-- What is reported of an entry is a difference of a single set. -/
theorem mem_setDifferences_of_mem_differences {difference : Difference} {id : String}
    (ofEntry : difference.entryId? = some id) (member : difference ∈ stored.differences rebuilt) :
    difference ∈ stored.setDifferences rebuilt := by
  rw [differences] at member
  split at member
  · exact absurd member List.not_mem_nil
  · dsimp only at member
    split at member
    · simp [List.mem_singleton.mp member, Difference.entryId?] at ofEntry
    · rcases List.mem_append.mp member with ofVersion | single
      · rw [versionDifference] at ofVersion
        split at ofVersion
        · exact absurd ofVersion List.not_mem_nil
        · simp [List.mem_singleton.mp ofVersion, Difference.entryId?] at ofEntry
      · exact single

/-- Sets whose keys are in order already stay in their order. -/
theorem ofJson_of_ordered {document : Json}
    (ordered : (document.sets.map checkedSet).Pairwise
      fun set other => decide (sortKey set ≤ sortKey other) = true) :
    ofJson document =
      ⟨(document.field? "catalog_version").getD .null, document.sets.map checkedSet⟩ := by
  rw [ofJson_eq_sets, List.mergeSort_of_pairwise ordered]

/-- Forms are reported alike when they have the same version and differ from the other form alike. -/
theorem differences_congr {other : CheckedForm} (version : other.version = stored.version)
    (sets : other.setDifferences rebuilt = stored.setDifferences rebuilt)
    (same : other = rebuilt ↔ stored = rebuilt) :
    other.differences rebuilt = stored.differences rebuilt := by
  have versions : other.versionDifference rebuilt = stored.versionDifference rebuilt := by
    rw [versionDifference, versionDifference, version]
  rw [differences, differences, versions, sets]
  by_cases agree : stored = rebuilt
  · rw [if_pos agree, if_pos (same.mpr agree)]
  · rw [if_neg agree, if_neg fun back => agree (same.mp back)]

end CheckedForm

namespace Entry

variable {entry : Entry} {document other : Json}

private theorem entryId?_of_differenceIn? {difference : Difference}
    (found : entry.differenceIn? document = some difference) : difference.entryId? = some entry.id := by
  rw [differenceIn?] at found
  split at found
  · rw [← Option.some.inj found, Difference.entryId?]
  · split at found
    · rw [← Option.some.inj found, Difference.entryId?]
    · cases found

/-- An entry is told from the checked fields of the set under its id. -/
theorem differenceIn?_congr (missing : other.setUnder? entry.id = none ↔ document.setUnder? entry.id = none)
    (alike : ∀ set copy, document.setUnder? entry.id = some set → other.setUnder? entry.id = some copy →
      copy.checkedValues = set.checkedValues) :
    entry.differenceIn? other = entry.differenceIn? document := by
  rw [differenceIn?, differenceIn?]
  cases here : document.setUnder? entry.id with
  | none => rw [missing.mpr here]
  | some set =>
    cases there : other.setUnder? entry.id with
    | none => cases here.symm.trans (missing.mp there)
    | some copy =>
      have checked := CheckedForm.checkedSet_eq_iff.mpr (alike set copy here there)
      simp only [CheckedForm.exists_field_ne_iff, checked]

end Entry

namespace Catalog

variable {catalog : Catalog} {document other : Json}

/-- The difference at an entry is the one of the report that is about the entry. -/
theorem differenceIn?_eq_some_iff (ids : (catalog.entries.map Entry.id).Nodup) {entry : Entry}
    (listed : entry ∈ catalog.entries) {difference : Difference} :
    entry.differenceIn? document = some difference ↔
      difference ∈ catalog.differencesFrom document ∧ difference.entryId? = some entry.id := by
  constructor
  · intro found
    refine ⟨CheckedForm.mem_differences_of_mem_setDifferences ?_, Entry.entryId?_of_differenceIn? found⟩
    rw [CheckedForm.setDifferences_ofJson document ids]
    refine List.mem_append_left _ (List.mem_filterMap.mpr ⟨entry, ?_, found⟩)
    exact List.mem_mergeSort.mpr listed
  · rintro ⟨member, ofEntry⟩
    have single := CheckedForm.mem_setDifferences_of_mem_differences ofEntry member
    rw [CheckedForm.setDifferences_ofJson document ids, List.mem_append, List.mem_filterMap,
      List.mem_filterMap] at single
    rcases single with ⟨same, among, found⟩ | ⟨key, _, found⟩
    · have id : same.id = entry.id :=
        Option.some.inj ((Entry.entryId?_of_differenceIn? found).symm.trans ofEntry)
      rwa [List.inj_on_of_nodup_map ids (List.mem_mergeSort.mp among) listed id] at found
    · rw [differenceAt?] at found
      split at found
      · cases found
      · simp [← Option.some.inj found, Difference.entryId?] at ofEntry

/-- Whether anything is reported does not depend on the order. -/
theorem rearranged_eq_nil_iff (ids : (catalog.entries.map Entry.id).Nodup)
    (rearranged : document.Rearranged other) :
    catalog.differencesFrom other = [] ↔ catalog.differencesFrom document = [] := by
  have values := rearranged.sets.map Json.checkedValues
  rw [differencesFrom_eq_nil_iff ids, differencesFrom_eq_nil_iff ids]
  constructor
  · rintro ⟨version, sets⟩
    exact ⟨rearranged.version ▸ version, (Multiset.coe_eq_coe.mpr values).symm.trans sets⟩
  · rintro ⟨version, sets⟩
    exact ⟨rearranged.version.trans version, (Multiset.coe_eq_coe.mpr values).trans sets⟩

/-- Documents of one version whose entries differ alike are reported alike. -/
theorem rearranged_congr (ids : (catalog.entries.map Entry.id).Nodup)
    (rearranged : document.Rearranged other)
    (alike : ∀ entry ∈ catalog.entries, entry.differenceIn? other = entry.differenceIn? document) :
    catalog.differencesFrom other = catalog.differencesFrom document := by
  refine CheckedForm.differences_congr ?_ ?_ ?_
  · exact congrArg (Option.getD · .null) rearranged.version
  · rw [CheckedForm.setDifferences_ofJson other ids, CheckedForm.setDifferences_ofJson document ids,
      rearranged.setKeys]
    congr 1
    exact List.filterMap_congr fun entry among => alike entry (List.mem_mergeSort.mp among)
  · rw [← CheckedForm.differences_eq_nil_iff, ← CheckedForm.differences_eq_nil_iff]
    exact rearranged_eq_nil_iff ids rearranged

/-- Another order of the sets never changes whether anything is reported. It leaves the report as it is
exactly when it leaves each entry as missing, changed or not as it was, where of several sets under the
id of the entry the last one counts; in particular when all sets with one key have the same values. -/
theorem report_of_rearranged (ids : (catalog.entries.map Entry.id).Nodup)
    (rearranged : document.Rearranged other) :
    (catalog.differencesFrom other = [] ↔ catalog.differencesFrom document = []) ∧
    (catalog.differencesFrom other = catalog.differencesFrom document ↔
      ∀ entry ∈ catalog.entries, entry.differenceIn? other = entry.differenceIn? document) ∧
    ((∀ set ∈ document.sets, ∀ copy ∈ document.sets, sortKey copy = sortKey set →
        copy.checkedValues = set.checkedValues) →
      catalog.differencesFrom other = catalog.differencesFrom document) := by
  refine ⟨rearranged_eq_nil_iff ids rearranged, ⟨?_, rearranged_congr ids rearranged⟩, ?_⟩
  · intro same entry listed
    ext difference
    rw [differenceIn?_eq_some_iff ids listed, differenceIn?_eq_some_iff ids listed, same]
  · intro copies
    refine rearranged_congr ids rearranged ?_
    intro entry _
    refine Entry.differenceIn?_congr (rearranged.setUnder?_eq_none_iff entry.id) ?_
    intro set copy here there
    obtain ⟨setMember, setKey⟩ := Json.mem_of_setUnder? here
    obtain ⟨copyMember, copyKey⟩ := Json.mem_of_setUnder? there
    exact copies set setMember copy (rearranged.sets.mem_iff.mp copyMember) (copyKey.trans setKey.symm)

theorem report_of_rearranged_copies :
    let entry : Entry := ⟨"a", "", "", "", none, none, [], "1"⟩
    let catalog : Catalog := ⟨"v", "", 0, [entry]⟩
    let document (sets : List Json) : Json :=
      .object [("catalog_version", .string "v"), ("sets", .array sets)]
    let copy : Json := .object [("id", .string "a")]
    ((catalog.entries.map Entry.id).Nodup ∧
        (document [entry.toJson, copy]).Rearranged (document [copy, entry.toJson])) ∧
      catalog.differencesFrom (document [copy, entry.toJson]) ≠
        catalog.differencesFrom (document [entry.toJson, copy]) := by
  intro entry catalog document copy
  have ids : (catalog.entries.map Entry.id).Nodup := List.nodup_singleton "a"
  have rearranged : (document [entry.toJson, copy]).Rearranged (document [copy, entry.toJson]) :=
    ⟨rfl, [entry.toJson, copy], [copy, entry.toJson], rfl, rfl, List.Perm.swap _ _ _⟩
  refine ⟨⟨ids, rearranged⟩, ?_⟩
  intro same
  have alike := (report_of_rearranged ids rearranged).2.1.mp same entry List.mem_cons_self
  exact absurd alike (by decide +kernel)

/-- A set that is no longer as the entry is reported when it comes last, and else only the layout. -/
theorem order_of_copies_shows :
    let entry : Entry := ⟨"a", "", "", "", none, none, [], "1"⟩
    let catalog : Catalog := ⟨"v", "", 0, [entry]⟩
    let document (sets : List Json) : Json :=
      .object [("catalog_version", .string "v"), ("sets", .array sets)]
    let copy : Json := .object [("id", .string "a")]
    (catalog.entries.map Entry.id).Nodup ∧
      (document [entry.toJson, copy]).Rearranged (document [copy, entry.toJson]) ∧
      catalog.differencesFrom (document [entry.toJson, copy]) = [.changed "a"] ∧
      catalog.differencesFrom (document [copy, entry.toJson]) = [.layout] := by
  intro entry catalog document copy
  refine ⟨List.nodup_singleton "a",
    ⟨rfl, [entry.toJson, copy], [copy, entry.toJson], rfl, rfl, List.Perm.swap _ _ _⟩, ?_⟩
  have alone : CheckedForm.ofJson catalog.toJson = ⟨.string "v", [checkedSet entry.toJson]⟩ :=
    CheckedForm.ofJson_of_ordered (by decide +kernel)
  have first : CheckedForm.ofJson (document [entry.toJson, copy]) =
      ⟨.string "v", [checkedSet entry.toJson, checkedSet copy]⟩ :=
    CheckedForm.ofJson_of_ordered (by decide +kernel)
  have last : CheckedForm.ofJson (document [copy, entry.toJson]) =
      ⟨.string "v", [checkedSet copy, checkedSet entry.toJson]⟩ :=
    CheckedForm.ofJson_of_ordered (by decide +kernel)
  rw [differencesFrom, differencesFrom, alone, first, last]
  decide +kernel

end Catalog

end RangeCatalog
