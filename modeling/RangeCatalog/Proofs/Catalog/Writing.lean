import RangeCatalog.Proofs.Catalog.Looking
import RangeCatalog.Proofs.Catalog.Stored

/-! # Writing a catalog

What writing and refreshing a catalog does to files, wherever it fails. All that can go wrong goes wrong
before the one replacement, or is the failure of this replacement itself, so that either no file is
touched or the file at the path holds the whole catalog.
-/

namespace RangeCatalog

open Storage

/-- Whether a call replaces a file. -/
def StorageCall.IsReplacement (call : StorageCall) : Prop :=
  ∃ path, call = .replace path

/-- Whether one file was replaced between two states, by the last of all calls. -/
def Recorded.ReplacedLast {σ : Type} (path : Path) (before after : Recorded σ) : Prop :=
  ∃ middle : Recorded σ, Called (¬·.IsReplacement) before middle ∧
    after.calls = middle.calls ++ [.replace path]

theorem StorageCall.LooksAt.not_isReplacement {path : Path} {call : StorageCall}
    (looks : call.LooksAt path) : ¬call.IsReplacement := by
  rintro ⟨other, rfl⟩
  rcases looks with same | same <;> contradiction

theorem Recorded.ReplacedLast.after_called {σ : Type} {path : Path} {before middle after : Recorded σ}
    (called : Called (¬·.IsReplacement) before middle) (replaced : ReplacedLast path middle after) :
    ReplacedLast path before after := by
  obtain ⟨last, calledLater, recorded⟩ := replaced
  exact ⟨last, called.trans calledLater, recorded⟩

theorem Recorded.ReplacedLast.then_calls {σ : Type} {path : Path} {before middle after : Recorded σ}
    (replaced : ReplacedLast path before middle) (same : after.calls = middle.calls) :
    ReplacedLast path before after := by
  obtain ⟨last, called, recorded⟩ := replaced
  exact ⟨last, called, same.trans recorded⟩

/-- What is kept by asking for the directory of a path and by making it is kept by preparing it. -/
theorem Path.kept_prepareDirectory {σ : Type} [Storage σ] {path : Path} {related : σ → σ → Prop}
    (refl : ∀ state, related state state)
    (trans : ∀ {before middle after}, related before middle → related middle after → related before after)
    (holds : ∀ directory state, related state (holds directory state).2)
    (makes : ∀ directory state, related state (createDirectories directory state).2) (state : σ) :
    related state (path.prepareDirectory state).2 := by
  rw [prepareDirectory]
  cases path.directory? with
  | none => exact refl state
  | some directory =>
    simp only [bind_apply]
    split
    · exact holds directory state
    · exact trans (holds directory state) (makes directory _)

namespace Catalog

/-! ## Calls -/

variable {σ : Type} [Storage σ] {path : Path}

/-- The replacement is the last call of a write that succeeds. -/
theorem replacedLast_write (catalog : Catalog) (path : Path) (state : Recorded σ)
    (written : (catalog.write path state).1 = .ok ()) :
    Recorded.ReplacedLast path state (catalog.write path state).2 := by
  have prepared : Recorded.Called (¬·.IsReplacement) state (path.prepareDirectory state).2 := by
    refine Path.kept_prepareDirectory .refl .trans ?_ ?_ state
    · exact fun directory state => .single rfl (by rintro ⟨other, same⟩; contradiction)
    · exact fun directory state => .single rfl (by rintro ⟨other, same⟩; contradiction)
  rw [(replaced_of_write written).2]
  exact ⟨(path.prepareDirectory state).2, prepared, rfl⟩

/-- Where a path names no directory, nothing is prepared. -/
theorem write_of_bare (bare : path.directory? = none) (catalog : Catalog) (state : σ) :
    (catalog.write path state).1 =
      (replace path catalog.render.toUTF8.toList state).1.mapError (.write path) := by
  rw [write, Path.prepareDirectory, bare]
  rfl

/-- A write fails at the directory of the path or at the file. -/
theorem failure_of_write {catalog : Catalog} {state : σ} {failure : Failure}
    (failed : (catalog.write path state).1 = .error failure) :
    (∃ directory error, failure = .directory directory error) ∨ ∃ error, failure = .write path error := by
  rw [write, bind_apply] at failed
  cases prepared : (path.prepareDirectory state).1 with
  | error failure =>
    rw [prepared] at failed
    cases failed
    rw [Path.prepareDirectory] at prepared
    cases above : path.directory? with
    | none =>
      rw [above] at prepared
      contradiction
    | some directory =>
      simp only [above, bind_apply] at prepared
      split at prepared
      · contradiction
      · obtain ⟨error, _, rfl⟩ := mapError_eq_error_iff.mp prepared
        exact .inl ⟨directory, error, rfl⟩
  | ok done =>
    simp only [prepared, bind_apply] at failed
    obtain ⟨error, _, rfl⟩ := mapError_eq_error_iff.mp failed
    exact .inr ⟨error, rfl⟩

/-- A refresh whose build fails has only looked at the path. -/
theorem called_refresh {fetch : Fetcher} {now : Instant} {allowLarge : Bool} {state : Recorded σ}
    {error : CatalogError}
    (failed : (refresh fetch path now allowLarge state).1.result = .error (.update error)) :
    Recorded.Called (StorageCall.LooksAt path) state (refresh fetch path now allowLarge state).2 := by
  have looked := kept_rebuild (kept_called path) fetch now allowLarge state
  cases built : (rebuild fetch path now allowLarge state).1.result with
  | error error =>
    rw [(refresh_of_unbuilt built).2]
    exact looked
  | ok catalog =>
    -- A write that fails reports a directory or the file, and never a build.
    rw [(refresh_of_built built).1, map_eq_error_iff] at failed
    rcases failure_of_write failed with ⟨_, _, same⟩ | ⟨_, same⟩ <;> contradiction

/-- A refresh that succeeds replaces the file by its last call. -/
theorem replacedLast_refresh {fetch : Fetcher} {now : Instant} {allowLarge : Bool}
    {state : Recorded σ} {catalog : Catalog}
    (refreshed : (refresh fetch path now allowLarge state).1.result = .ok catalog) :
    Recorded.ReplacedLast path state (refresh fetch path now allowLarge state).2 := by
  have looked := kept_rebuild (kept_called path) fetch now allowLarge state
  obtain ⟨built, written⟩ := refresh_eq_ok_iff.mp refreshed
  rw [(refresh_of_built built).2]
  exact (replacedLast_write catalog path _ written).after_called
    (looked.imp fun _ looks => looks.not_isReplacement)

/-! ## Files -/

variable [Files σ] [SoundStorage σ]

private theorem untouched_prepareDirectory (path : Path) (state : σ) :
    Untouched state (path.prepareDirectory state).2 :=
  Path.kept_prepareDirectory .refl .trans (fun directory state => SoundStorage.untouched_holds state directory)
    (fun directory state => SoundStorage.untouched_createDirectories state directory) state

/-- A catalog is written as a whole or not at all. -/
theorem write_cases (catalog : Catalog) (path : Path) (state : σ) :
    ((catalog.write path state).1 = .ok () ∧
      ∃ file, file? (catalog.write path state).2 path = some file ∧
        Given file catalog.render.toUTF8.toList state (catalog.write path state).2) ∨
    ∃ failure, (catalog.write path state).1 = .error failure ∧
      Untouched state (catalog.write path state).2 := by
  have prepared := untouched_prepareDirectory path state
  rw [write, bind_apply]
  generalize path.prepareDirectory state = made at prepared ⊢
  obtain ⟨result, middle⟩ := made
  cases result with
  | error failure => exact .inr ⟨failure, rfl, prepared⟩
  | ok done =>
    simp only [bind_apply]
    cases replaced : (replace path catalog.render.toUTF8.toList middle).1 with
    | error error =>
      have same := SoundStorage.untouched_replace _ _ _ _ replaced
      exact .inr ⟨.write path error, rfl, prepared.trans same⟩
    | ok done =>
      obtain ⟨file, leads, given⟩ := SoundStorage.given_replace _ _ _ replaced
      exact .inl ⟨rfl, file, given.leads path file leads, given.after_untouched prepared⟩

/-- A refresh fails and touches no file, or it succeeds and the file at the path holds its catalog. -/
theorem refresh_cases (fetch : Fetcher) (path : Path) (now : Instant) (allowLarge : Bool) (state : σ) :
    (∃ catalog, (refresh fetch path now allowLarge state).1.result = .ok catalog ∧
      ∃ file, file? (refresh fetch path now allowLarge state).2 path = some file ∧
        Given file catalog.render.toUTF8.toList state
          (refresh fetch path now allowLarge state).2) ∨
    ∃ failure, (refresh fetch path now allowLarge state).1.result = .error failure ∧
      Untouched state (refresh fetch path now allowLarge state).2 := by
  have looked := kept_rebuild (kept_untouched path) fetch now allowLarge state
  cases built : (rebuild fetch path now allowLarge state).1.result with
  | error error =>
    obtain ⟨result, after⟩ := refresh_of_unbuilt built
    rw [after]
    exact .inr ⟨_, result, looked⟩
  | ok catalog =>
    obtain ⟨result, after⟩ := refresh_of_built built
    rw [result, after]
    rcases write_cases catalog path (rebuild fetch path now allowLarge state).2 with
      ⟨written, file, leads, given⟩ | ⟨failure, failed, same⟩
    · rw [written]
      exact .inl ⟨catalog, rfl, file, leads, given.after_untouched looked⟩
    · rw [failed]
      exact .inr ⟨failure, rfl, looked.trans same⟩

end Catalog

end RangeCatalog
