import RangeCatalog.Catalog.Stored
import RangeCatalog.Proofs.Outcome
import RangeCatalog.Proofs.Storage.Recorded
import RangeCatalog.Settings.Stored

/-! # Looking at stored documents

Loading settings, a baseline or a document, and checking a catalog, does nothing to a storage but to look
at a path. What comes of it depends on whether a text is found there, whatever the storage may be.
-/

namespace RangeCatalog

open Storage

variable {σ : Type} [Storage σ] {path : Path} {state : σ} {text : String}

/-! ## Results -/

theorem Baseline.load_of_finds (found : Finds state path text) :
    (load path state).1 = ((Json.ofText? text).map ofJson).getD empty := by
  rw [load, bind_apply, if_pos found.held, bind_apply, found.read]
  rfl

theorem Baseline.load_of_nothing (nothing : ∀ text, ¬Finds state path text) :
    (load path state).1 = empty := by
  rw [load, bind_apply]
  cases held : (holds path state).1 with
  | false => rfl
  | true =>
    simp only [if_true, bind_apply]
    cases read : (readText path (holds path state).2).1 with
    | error error => rfl
    | ok text => exact absurd ⟨held, read⟩ (nothing text)

theorem Json.load_eq_ok_iff {document : Json} :
    (load path state).1 = .ok document ↔
      ∃ text, Finds state path text ∧ ofText? text = some document := by
  rw [load, bind_apply]
  cases held : (holds path state).1 with
  | false =>
    simp only [Bool.false_eq_true, if_false]
    constructor
    · intro failed
      contradiction
    · rintro ⟨text, found, _⟩
      exact absurd (held.symm.trans found.held) (by decide)
  | true =>
    simp only [if_true, bind_apply]
    constructor
    · intro loaded
      cases read : (readText path (holds path state).2).1 with
      | error error =>
        rw [read] at loaded
        contradiction
      | ok text =>
        refine ⟨text, ⟨held, read⟩, ?_⟩
        simp only [read] at loaded
        cases denoted : ofText? text with
        | none =>
          rw [denoted] at loaded
          contradiction
        | some found =>
          simp only [denoted] at loaded
          exact congrArg some (Except.ok.inj loaded)
    · rintro ⟨text, found, denoted⟩
      simp only [found.read, denoted]
      rfl

/-- A check succeeds when its build does and the document at the path can be read. -/
theorem Catalog.verify_eq_ok_iff {fetch : Fetcher} {now : Instant} {allowLarge : Bool}
    {differences : List Difference} :
    (verify fetch path now allowLarge state).1.result = .ok differences ↔
      ∃ rebuilt document, (rebuild fetch path now allowLarge state).1.result = .ok rebuilt ∧
        (Json.load path (rebuild fetch path now allowLarge state).2).1 = .ok document ∧
        rebuilt.differencesFrom document = differences := by
  rw [verify, bind_apply]
  -- The build stays a variable: its registry is closed, and comparing terms would evaluate it.
  generalize rebuild fetch path now allowLarge state = build
  cases build.1.result with
  | error error =>
    constructor
    · intro failed
      contradiction
    · rintro ⟨_, _, failed, _⟩
      contradiction
  | ok rebuilt =>
    simp only [bind_apply]
    constructor
    · intro verified
      obtain ⟨document, loaded, same⟩ := map_eq_ok_iff.mp verified
      exact ⟨rebuilt, document, rfl, loaded, same⟩
    · rintro ⟨_, document, ⟨⟩, loaded, same⟩
      exact map_eq_ok_iff.mpr ⟨document, loaded, same⟩

/-! ## States -/

variable {related : σ → σ → Prop}

/-- A baseline is read if the path is held, and nothing else is done. -/
theorem Baseline.load_snd (path : Path) (state : σ) :
    (load path state).2 =
      if (holds path state).1 then (read path (holds path state).2).2 else (holds path state).2 := by
  rw [load, bind_apply]
  split
  · rw [bind_apply]
    cases (readText path (holds path state).2).1 <;> rfl
  · rfl

theorem Baseline.kept_load (kept : KeptByLooking path related) (state : σ) :
    related state (load path state).2 := by
  rw [load_snd]
  split
  · exact kept.trans (kept.holds state) (kept.read _)
  · exact kept.holds state

private theorem Json.kept_load (kept : KeptByLooking path related) (state : σ) :
    related state (load path state).2 := by
  refine kept.after_holds ?_ state
  intro held state
  cases held with
  | false => exact kept.refl state
  | true =>
    refine kept.after_readText ?_ state
    intro read state
    cases read with
    | error error => exact kept.refl state
    | ok text => cases denoted : ofText? text <;> simp only [denoted] <;> exact kept.refl state

theorem Settings.kept_load (kept : KeptByLooking path related) (state : σ) :
    related state (load path state).2 := by
  refine kept.after_holds ?_ state
  intro held state
  cases held with
  | false => exact kept.refl state
  | true =>
    refine kept.after_readText ?_ state
    intro read state
    cases read <;> exact kept.refl state

namespace Catalog

theorem kept_rebuild (kept : KeptByLooking path related) (fetch : Fetcher) (now : Instant)
    (allowLarge : Bool) (state : σ) : related state (rebuild fetch path now allowLarge state).2 :=
  Baseline.kept_load kept state

theorem kept_verify (kept : KeptByLooking path related) (fetch : Fetcher) (now : Instant)
    (allowLarge : Bool) (state : σ) : related state (verify fetch path now allowLarge state).2 := by
  have built := kept_rebuild kept fetch now allowLarge state
  rw [verify, bind_apply]
  generalize rebuild fetch path now allowLarge state = build at built ⊢
  cases build.1.result with
  | error error => exact built
  | ok rebuilt => exact kept.trans built (Json.kept_load kept build.2)

end Catalog

end RangeCatalog
