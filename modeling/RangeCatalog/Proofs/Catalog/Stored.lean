import RangeCatalog.Proofs.Catalog.Document
import RangeCatalog.Proofs.Catalog.Looking

/-! # Catalogs in storages

What the steps on a stored catalog come to in a lawful storage: what is loaded from a path where a text is
found, and what is found at a path after a catalog was written there.
-/

namespace RangeCatalog

open Storage

variable {σ : Type} [Storage σ] {path : Path} {state : σ} {text : String}

/-! ## Commands -/

namespace Catalog

variable {fetch : Fetcher} {now : Instant} {allowLarge : Bool} {catalog : Catalog}

/-- Building against the catalog at a path is a build whose baseline was loaded there. -/
theorem rebuild_apply (fetch : Fetcher) (path : Path) (now : Instant) (allowLarge : Bool) (state : σ) :
    rebuild fetch path now allowLarge state =
      (Build.run Source.builtIn fetch ⟨(Baseline.load path state).1, now, allowLarge⟩,
        (Baseline.load path state).2) := rfl

theorem rebuild_fst (fetch : Fetcher) (path : Path) (now : Instant) (allowLarge : Bool) (state : σ) :
    (rebuild fetch path now allowLarge state).1 =
      Build.run Source.builtIn fetch ⟨(Baseline.load path state).1, now, allowLarge⟩ := by
  rw [rebuild_apply]

/-- A refresh whose build fails does nothing else. -/
theorem refresh_of_unbuilt {error : CatalogError}
    (failed : (rebuild fetch path now allowLarge state).1.result = .error error) :
    (refresh fetch path now allowLarge state).1.result = .error (.update error) ∧
      (refresh fetch path now allowLarge state).2 = (rebuild fetch path now allowLarge state).2 := by
  rw [refresh, bind_apply]
  -- The build stays a variable: its registry is closed, and comparing terms would evaluate it.
  generalize rebuild fetch path now allowLarge state = rebuilt at failed ⊢
  simp only [failed]
  exact ⟨rfl, rfl⟩

/-- A refresh whose build succeeds writes the catalog. -/
theorem refresh_of_built
    (built : (rebuild fetch path now allowLarge state).1.result = .ok catalog) :
    (refresh fetch path now allowLarge state).1.result =
        ((catalog.write path (rebuild fetch path now allowLarge state).2).1.map fun _ => catalog) ∧
      (refresh fetch path now allowLarge state).2 =
        (catalog.write path (rebuild fetch path now allowLarge state).2).2 := by
  rw [refresh, bind_apply]
  generalize rebuild fetch path now allowLarge state = rebuilt at built ⊢
  simp only [built]
  exact ⟨rfl, rfl⟩

/-- A refresh succeeds when its build does and its catalog is written. -/
theorem refresh_eq_ok_iff :
    (refresh fetch path now allowLarge state).1.result = .ok catalog ↔
      (rebuild fetch path now allowLarge state).1.result = .ok catalog ∧
      (catalog.write path (rebuild fetch path now allowLarge state).2).1 = .ok () := by
  cases built : (rebuild fetch path now allowLarge state).1.result with
  | error error => simp only [(refresh_of_unbuilt built).1, reduceCtorEq, false_and]
  | ok made =>
    rw [(refresh_of_built built).1, map_eq_ok_iff]
    constructor
    · rintro ⟨⟨⟩, written, rfl⟩
      exact ⟨rfl, written⟩
    · rintro ⟨⟨⟩, written⟩
      exact ⟨(), written, rfl⟩

/-- A refresh that succeeds leaves what writing its catalog leaves. -/
theorem refresh_snd (refreshed : (refresh fetch path now allowLarge state).1.result = .ok catalog) :
    (refresh fetch path now allowLarge state).2 =
      (catalog.write path (rebuild fetch path now allowLarge state).2).2 :=
  (refresh_of_built (refresh_eq_ok_iff.mp refreshed).1).2

/-- A check that can build the catalog and read the document reports their differences. -/
theorem verify_of_built
    (built : (rebuild fetch path now allowLarge state).1.result = .ok catalog) {stored : Json}
    (loaded : (Json.load path (rebuild fetch path now allowLarge state).2).1 = .ok stored) :
    (verify fetch path now allowLarge state).1.result = .ok (catalog.differencesFrom stored) :=
  verify_eq_ok_iff.mpr ⟨catalog, stored, built, loaded, rfl⟩

/-- A write that succeeds ends with replacing the file, once the directory of the path was there. -/
theorem replaced_of_write (written : (catalog.write path state).1 = .ok ()) :
    (replace path catalog.render.toUTF8.toList (path.prepareDirectory state).2).1 = .ok () ∧
      (catalog.write path state).2 =
        (replace path catalog.render.toUTF8.toList (path.prepareDirectory state).2).2 := by
  rw [write, bind_apply] at written ⊢
  cases prepared : (path.prepareDirectory state).1 with
  | error failure =>
    rw [prepared] at written
    contradiction
  | ok done =>
    rw [prepared] at written
    exact ⟨mapError_eq_ok_iff.mp written, rfl⟩

end Catalog

variable [Contents σ] [LawfulStorage σ]

/-! ## Loading -/

theorem kept_alike (path : Path) : KeptByLooking path (Alike (σ := σ)) :=
  ⟨.refl, .trans, (LawfulStorage.alike_holds · path), (LawfulStorage.alike_read · path)⟩

private theorem finds_of_shows (found : Shows state path text) : Finds state path text :=
  ⟨found.held, ((LawfulStorage.alike_holds state path).shows found).readText⟩

theorem readable_of_shows (found : Shows state path text) : Readable state path :=
  ⟨found.held, _, ((LawfulStorage.alike_holds state path).shows found).read⟩

theorem Baseline.load_of_shows (found : Shows state path text) :
    (load path state).1 = ((Json.ofText? text).map ofJson).getD empty :=
  load_of_finds (finds_of_shows found)

theorem Json.load_of_shows (found : Shows state path text) {document : Json}
    (denoted : ofText? text = some document) : (load path state).1 = .ok document :=
  load_eq_ok_iff.mpr ⟨text, finds_of_shows found, denoted⟩

theorem Catalog.alike_rebuild (fetch : Fetcher) (path : Path) (now : Instant) (allowLarge : Bool)
    (state : σ) : Alike state (rebuild fetch path now allowLarge state).2 :=
  kept_rebuild (kept_alike path) fetch now allowLarge state

/-! ## Writing -/

private theorem Path.prepareDirectory_of_accepts (accepts : Accepts state path) :
    (path.prepareDirectory state).1 = .ok () ∧ Alike state (path.prepareDirectory state).2 := by
  rw [prepareDirectory]
  cases above : path.directory? with
  | none => exact ⟨rfl, .refl state⟩
  | some directory =>
    simp only [bind_apply, accepts.directory directory above, if_true]
    exact ⟨rfl, LawfulStorage.alike_holds state directory⟩

namespace Catalog

variable {catalog : Catalog}

/-- A catalog that was written is found at its path, and can be replaced there. -/
theorem content_of_write (written : (catalog.write path state).1 = .ok ()) :
    content? (catalog.write path state).2 path = some catalog.render.toUTF8.toList ∧
      Accepts (catalog.write path state).2 path := by
  obtain ⟨replaced, after⟩ := replaced_of_write written
  rw [after]
  exact ⟨LawfulStorage.content_replace _ _ _ replaced, LawfulStorage.accepts_replace _ _ _ replaced⟩

theorem write_of_accepts (accepts : Accepts state path) (catalog : Catalog) :
    (catalog.write path state).1 = .ok () := by
  obtain ⟨prepared, alike⟩ := Path.prepareDirectory_of_accepts accepts
  rw [write, bind_apply, prepared]
  simp only [bind_apply]
  exact mapError_eq_ok_iff.mpr ((alike.accepts accepts).replace _)

end Catalog

end RangeCatalog
