import RangeCatalog.Proofs.Catalog.Agreement
import RangeCatalog.Proofs.Catalog.Refresh
import RangeCatalog.Proofs.Storage.Memory

/-! # Checking a catalog

The verdict of a check is exact: there are no differences if and only if the catalog can be built, the
document can be read, and the two agree. A check does nothing to a storage but to look at the path.
-/

namespace RangeCatalog.Catalog

open Storage

variable {σ : Type} [Storage σ] {path : Path} {state : σ}

/-- A check finds no differences exactly when its catalog is built and a document is found that agrees
with it. -/
theorem verify_eq_nil_iff {fetch : Fetcher} {now : Instant} {allowLarge : Bool} :
    (verify fetch path now allowLarge state).1.result = .ok [] ↔
      ∃ rebuilt text document,
        (Build.run Source.builtIn fetch ⟨(Baseline.load path state).1, now, allowLarge⟩).result =
          .ok rebuilt ∧
        Finds (Baseline.load path state).2 path text ∧ Json.ofText? text = some document ∧
        rebuilt.AgreesWith document := by
  simp only [verify_eq_ok_iff, rebuild_apply, Json.load_eq_ok_iff]
  constructor
  · rintro ⟨rebuilt, document, built, ⟨text, found, denoted⟩, same⟩
    have distinct := Build.distinct_of_run built
    exact ⟨rebuilt, text, document, built, found, denoted, (differencesFrom_eq_nil_iff distinct).mp same⟩
  · rintro ⟨rebuilt, text, document, built, found, denoted, agrees⟩
    have distinct := Build.distinct_of_run built
    exact ⟨rebuilt, document, built, ⟨text, found, denoted⟩,
      (differencesFrom_eq_nil_iff distinct).mpr agrees⟩

/-- Whatever the storage and the documents are, a check finds no differences exactly when the catalog can
be built against the baseline at the path, and after that a text is found there which denotes a document
with the version of the catalog and with its sets, in any order. Whatever comes of the check, no file was
touched, and no call was made but to look at the path. -/
theorem verify_exact [Files σ] [SoundStorage σ] (fetch : Fetcher) (path : Path) (now : Instant)
    (allowLarge : Bool) (state : Recorded σ) :
    ((verify fetch path now allowLarge state).1.result = .ok [] ↔
      ∃ rebuilt text document,
        (Build.run Source.builtIn fetch ⟨(Baseline.load path state).1, now, allowLarge⟩).result =
          .ok rebuilt ∧
        Finds (Baseline.load path state).2 path text ∧ Json.ofText? text = some document ∧
        rebuilt.AgreesWith document) ∧
    Untouched state (verify fetch path now allowLarge state).2 ∧
    Recorded.Called (StorageCall.LooksAt path) state (verify fetch path now allowLarge state).2 := by
  refine ⟨verify_eq_nil_iff, ?_, ?_⟩
  · exact kept_verify (kept_untouched path) fetch now allowLarge state
  · exact kept_verify (kept_called path) fetch now allowLarge state

/-- A catalog as it might have been stored at another time, with its entries in another order. -/
def shuffled (catalog : Catalog) : Catalog :=
  { catalog with generatedAt := "", generatedAtSeconds := 0, entries := catalog.entries.reverse }

private theorem distinct_shuffled {catalog : Catalog} (distinct : (catalog.entries.map Entry.id).Nodup) :
    (catalog.shuffled.entries.map Entry.id).Nodup := by
  rw [shuffled, List.map_reverse]
  exact List.nodup_reverse.mpr distinct

private theorem timed_shuffled {catalog : Catalog} (timed : catalog.Timed) : catalog.shuffled.Timed := by
  have start : Json.IsWord 0 := ⟨by decide, by decide⟩
  refine ⟨start, ?_⟩
  intro entry member
  exact timed.stamps entry (List.mem_reverse.mp member)

/-- A memory in which a catalog is stored in that way. -/
def shuffledMemory (catalog : Catalog) : Recorded Memory :=
  ⟨{ files := [(⟨"catalog.json"⟩, catalog.shuffled.render.toUTF8.toList)] }, []⟩

private theorem finds_shuffled (catalog : Catalog) :
    Finds (shuffledMemory catalog) ⟨"catalog.json"⟩ catalog.shuffled.render := by
  have present : (shuffledMemory catalog).store.content? ⟨"catalog.json"⟩ =
      some catalog.shuffled.render.toUTF8.toList := by
    simp [shuffledMemory, Memory.content?, Path.same]
  refine ⟨?_, ?_⟩
  · exact LawfulStorage.holds_of_content (shuffledMemory catalog).store _ _ present
  · have octets := Memory.read_of_content rfl present
    have bound : (readText ⟨"catalog.json"⟩
        (holds ⟨"catalog.json"⟩ (shuffledMemory catalog)).2).1 =
          (read ⟨"catalog.json"⟩ (shuffledMemory catalog).store).1.bind decodeText := rfl
    rw [bound, octets, Except.bind, decodeText_toUTF8]

/-- A check finds no difference from a catalog that was stored in another order, at another time. -/
theorem verify_exact_shuffled :
    ∃ catalog, (Build.run Source.builtIn (fun _ => .ok samplePayload)
        ⟨.empty, Instant.ofSeconds 1748766600, true⟩).result = .ok catalog ∧
      (verify (fun _ => .ok samplePayload) ⟨"catalog.json"⟩ (Instant.ofSeconds 1748770000) false
        (shuffledMemory catalog)).1.result = .ok [] := by
  obtain ⟨catalog, built⟩ := exists_run_sample .empty (Instant.ofSeconds 1748766600)
  have found := finds_shuffled catalog
  have document := (timed_shuffled (Build.timed_of_run built ⟨by decide, by decide⟩)).ofText?_render
  have later := Baseline.kept_load (Memory.kept_finds ⟨"catalog.json"⟩ catalog.shuffled.render)
    (shuffledMemory catalog) found
  have day : (Instant.ofSeconds 1748770000).dateText = (Instant.ofSeconds 1748766600).dateText :=
    Instant.dateText_of_day (by decide)
  have version : catalog.shuffled.version = (Instant.ofSeconds 1748770000).dateText := by
    rw [day, shuffled, ← Build.catalog_of_run built]
    rfl
  have rebuilt : (Build.run Source.builtIn (fun _ => .ok samplePayload)
      ⟨(Baseline.load ⟨"catalog.json"⟩ (shuffledMemory catalog)).1, Instant.ofSeconds 1748770000,
        false⟩).result = .ok (Build.catalog (Instant.ofSeconds 1748770000) catalog.entries) := by
    refine Build.run_again built day ?_
    intro entry member
    rw [Baseline.load_of_finds found, document, Option.map_some, Option.getD_some]
    refine Baseline.get?_ofJson_canonical ?_ (List.mem_reverse.mpr member)
    exact distinct_shuffled (Build.distinct_of_run built)
  have agrees : (Build.catalog (Instant.ofSeconds 1748770000) catalog.entries).AgreesWith
      (Json.canonical catalog.shuffled.toJson) :=
    agreesWith_canonical version (List.reverse_perm catalog.entries)
  obtain ⟨verdict, _⟩ := verify_exact (fun _ => .ok samplePayload) ⟨"catalog.json"⟩
    (Instant.ofSeconds 1748770000) false (shuffledMemory catalog)
  exact ⟨catalog, built, verdict.mpr ⟨_, _, _, rebuilt, later, document, agrees⟩⟩

end RangeCatalog.Catalog
