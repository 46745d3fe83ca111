import RangeCatalog.Proofs.Catalog.Keys

/-! # The report on distinct keys

What is reported of a document whose sets have distinct keys. The comparison decides on the sorted lists
and reports from the maps by key; where the keys are distinct these hold the same sets, so that lists that
differ always have a single set that does, and the layout is never reported.
-/

namespace RangeCatalog

namespace CheckedForm

variable {stored rebuilt : CheckedForm}

/-- A form with distinct keys is given by its version and what is found under each key. -/
theorem Increasing.eq_of_lookup (storedIncreasing : stored.Increasing)
    (rebuiltIncreasing : rebuilt.Increasing) (version : stored.version = rebuilt.version)
    (same : ∀ key, stored.byKey.lookup key = rebuilt.byKey.lookup key) : stored = rebuilt := by
  have maps := (increasing_byKey stored).eq_of_lookup (increasing_byKey rebuilt) same
  rw [storedIncreasing.byKey_eq, rebuiltIncreasing.byKey_eq] at maps
  have sets := congrArg (List.map Prod.snd) maps
  simp only [List.map_map, Function.comp_def, List.map_id'] at sets
  show CheckedForm.mk stored.version stored.sets = ⟨rebuilt.version, rebuilt.sets⟩
  rw [version, sets]

/-- Where no set differs, the same is found under each key. -/
theorem lookup_eq_of_setDifferences (none : stored.setDifferences rebuilt = []) (key : String) :
    stored.byKey.lookup key = rebuilt.byKey.lookup key := by
  rw [setDifferences, List.append_eq_nil_iff, List.filterMap_eq_nil_iff, List.filterMap_eq_nil_iff]
    at none
  obtain ⟨ofRebuilt, ofStored⟩ := none
  cases present : rebuilt.byKey.lookup key with
  | some set =>
    have same := ofRebuilt (key, set) (mem_of_lookup present)
    cases before : stored.byKey.lookup key with
    | none => simp [before] at same
    | some other => simpa [before] using same
  | none =>
    cases before : stored.byKey.lookup key with
    | none => rfl
    | some other =>
      have same := ofStored (key, other) (mem_of_lookup before)
      simp [present] at same

/-- Forms with distinct keys differ in their versions and in single sets, and in nothing else. -/
theorem Increasing.differences_eq (storedIncreasing : stored.Increasing)
    (rebuiltIncreasing : rebuilt.Increasing) :
    stored.differences rebuilt = stored.versionDifference rebuilt ++ stored.setDifferences rebuilt := by
  by_cases same : stored = rebuilt
  · subst same
    rw [differences, if_pos rfl, setDifferences_self, versionDifference, if_pos rfl, List.append_nil]
  · rw [differences, if_neg same]
    refine if_neg ?_
    intro nothing
    obtain ⟨version, sets⟩ := List.append_eq_nil_iff.mp (List.isEmpty_iff.mp nothing)
    refine same (storedIncreasing.eq_of_lookup rebuiltIncreasing ?_ (lookup_eq_of_setDifferences sets))
    by_contra differ
    simp [versionDifference, differ] at version

/-- The layout is no difference of the versions or of a single set. -/
theorem layout_not_mem (stored rebuilt : CheckedForm) :
    .layout ∉ stored.versionDifference rebuilt ++ stored.setDifferences rebuilt := by
  simp only [List.mem_append, versionDifference, setDifferences, List.mem_filterMap, not_or, not_exists,
    not_and]
  refine ⟨?_, ?_, ?_⟩
  · split <;> simp
  · rintro ⟨key, set⟩ _
    dsimp only
    split
    · simp
    · split <;> simp
  · rintro ⟨key, set⟩ _
    dsimp only
    split <;> simp

end CheckedForm

namespace Catalog

open CheckedForm

variable {catalog : Catalog} {document : Json}

/-- Where the sets of a document have distinct keys, each set is the one under its key, and reported is, in
this order: the version when it differs, the entries that the document lacks or has otherwise in increasing
order of ids, and the keys that it has in addition in increasing order; nothing else, and never the
layout. -/
theorem report_of_distinct_keys (keys : (document.sets.map sortKey).Nodup)
    (ids : (catalog.entries.map Entry.id).Nodup) :
    (∀ set ∈ document.sets, document.setUnder? (sortKey set) = some set) ∧
    catalog.differencesFrom document =
      (if (document.field? "catalog_version").getD .null = .string catalog.version then []
        else [.version ((document.field? "catalog_version").getD .null).compact
          (Json.string catalog.version).compact]) ++
      ((catalog.entries.mergeSort fun entry other => entry.id ≤ other.id).filterMap
          (·.differenceIn? document) ++
        ((document.sets.map sortKey).mergeSort fun key other => key ≤ other).filterMap
          catalog.differenceAt?) ∧
    .layout ∉ catalog.differencesFrom document := by
  have report : catalog.differencesFrom document =
      (ofJson document).versionDifference (ofJson catalog.toJson) ++
        (ofJson document).setDifferences (ofJson catalog.toJson) :=
    (increasing_ofJson keys).differences_eq (increasing_ofJson_toJson ids)
  refine ⟨fun _ => Json.setUnder?_of_mem keys, ?_, report ▸ layout_not_mem _ _⟩
  rw [report, setDifferences_ofJson document ids, Json.setKeys, keys.dedup]
  rfl

theorem report_of_mixed_keys :
    let document : Json := .object [("catalog_version", .null), ("sets", .array
      [.object [("id", .integer 5)], .bool true, .object [("id", .string "c")], .object []])]
    let catalog : Catalog := ⟨"2025-01-01", "", 0,
      [⟨"c", "", "", "", none, none, [], ""⟩, ⟨"b", "", "", "", none, none, [], ""⟩]⟩
    ((document.sets.map sortKey).Nodup ∧ (catalog.entries.map Entry.id).Nodup) ∧
      catalog.differencesFrom document = [.version "null" "\"2025-01-01\"", .missing "b", .changed "c",
        .unexpected "", .unexpected "5"] := by
  intro document catalog
  have keys : (document.sets.map sortKey).Nodup := by decide +kernel
  have ids : (catalog.entries.map Entry.id).Nodup := by decide +kernel
  refine ⟨⟨keys, ids⟩, ?_⟩
  have entries : (catalog.entries.mergeSort fun entry other => entry.id ≤ other.id) =
      [⟨"b", "", "", "", none, none, [], ""⟩, ⟨"c", "", "", "", none, none, [], ""⟩] := by
    simp [catalog, List.mergeSort]
  have others : ((document.sets.map sortKey).mergeSort fun key other => key ≤ other) = ["", "5", "c"] := by
    have unsorted : document.sets.map sortKey = ["5", "c", ""] := by decide +kernel
    simp [unsorted, List.mergeSort]
  rw [(report_of_distinct_keys keys ids).2.1, entries, others]
  decide +kernel

end Catalog

end RangeCatalog
