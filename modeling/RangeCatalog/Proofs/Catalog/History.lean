import RangeCatalog.Proofs.Catalog.Refresh
import RangeCatalog.Proofs.Catalog.Writing

/-! # Histories of a stored catalog

The growth guard looks at one step: the catalog that is there, and the one that shall take its place. Here
the guard is followed through any number of steps on one path. What carries its bound is that the file at
the path always holds the catalog that was written last, whatever fails, and that this catalog gives back
its own counts, none of which is zero. The guard therefore never lacks a count to compare with.
-/

namespace RangeCatalog

open Storage

namespace Catalog

/-! ## Catalogs -/

variable {catalog : Catalog}

/-- The number of ranges of a set. -/
def count? (catalog : Catalog) (id : String) : Option Nat :=
  (catalog.entries.map fun entry => (entry.id, entry.ranges.length)).lookup id

/-- What a catalog of the built-in sources is known to be: it can be stored, its sets are those of the
sources, and none of them is empty. -/
structure Sound (catalog : Catalog) : Prop where
  timed : catalog.Timed
  ids : catalog.entries.map Entry.id = Source.builtIn.map Source.setId
  nonempty : ∀ entry ∈ catalog.entries, 1 ≤ entry.ranges.length

/-- Whether a catalog may follow another one. It has the same sets, none of them was empty, and none gained
more ranges than the guard admits. -/
structure MayFollow (before after : Catalog) : Prop where
  ids : after.entries.map Entry.id = before.entries.map Entry.id
  bounded : ∀ id last next, before.count? id = some last → after.count? id = some next →
    1 ≤ last ∧ next ≤ min (4 * last + 64) (last + 2048)

private theorem count?_eq_some {id : String} {count : Nat} (counted : catalog.count? id = some count) :
    ∃ entry ∈ catalog.entries, entry.id = id ∧ entry.ranges.length = count := by
  obtain ⟨entry, member, same⟩ := List.mem_map.mp (mem_of_lookup counted)
  cases same
  exact ⟨entry, member, rfl, rfl⟩

namespace Sound

private theorem keys (sound : catalog.Sound) :
    ((catalog.entries.map fun entry => (entry.id, entry.ranges.length)).map Prod.fst).Nodup := by
  have ids : (catalog.entries.map fun entry => (entry.id, entry.ranges.length)).map Prod.fst =
      Source.builtIn.map Source.setId := by
    rw [List.map_map, ← sound.ids]
    rfl
  rw [ids]
  exact Registry.check_distinct Registry.check_builtIn

/-- No set is empty. -/
theorem count?_pos (sound : catalog.Sound) {id : String} {count : Nat}
    (counted : catalog.count? id = some count) : 1 ≤ count := by
  obtain ⟨entry, member, _, rfl⟩ := count?_eq_some counted
  exact sound.nonempty entry member

/-- Every source has its count. -/
theorem exists_count? (sound : catalog.Sound) {source : Source} (member : source ∈ Source.builtIn) :
    ∃ count, catalog.count? source.setId = some count := by
  have listed : source.setId ∈ catalog.entries.map Entry.id := by
    rw [sound.ids]
    exact List.mem_map_of_mem member
  obtain ⟨entry, present, same⟩ := List.mem_map.mp listed
  refine ⟨entry.ranges.length, (lookup_eq_some_iff_mem sound.keys).mpr ?_⟩
  exact List.mem_map.mpr ⟨entry, present, by rw [same]⟩

/-- The document gives the counts back. -/
theorem get?_ofJson (sound : catalog.Sound) (id : String) :
    (Baseline.ofJson (Json.canonical catalog.toJson)).get? id = catalog.count? id := by
  rw [Baseline.ofJson_canonical, Baseline.get?_ofCounts, lookup_reverse sound.keys, count?]

end Sound

/-! ## Builds -/

variable {fetch : Fetcher} {context : BuildContext}

private theorem sound_of_run (built : (Build.run Source.builtIn fetch context).result = .ok catalog)
    (word : Json.IsWord context.now.seconds) : catalog.Sound := by
  refine ⟨Build.timed_of_run built word, Build.ids_of_run built, ?_⟩
  intro entry member
  obtain ⟨source, _, trusted⟩ := exists_of_mem_right (Build.trusted_of_run built) member
  exact trusted.some

/-- A catalog that is built against the counts of another one may follow it. -/
theorem Sound.mayFollow {last : Catalog} (sound : last.Sound)
    (counted : ∀ id, context.baseline.get? id = last.count? id) (strict : context.allowLarge = false)
    (built : (Build.run Source.builtIn fetch context).result = .ok catalog) : last.MayFollow catalog := by
  refine ⟨?_, ?_⟩
  · rw [Build.ids_of_run built, sound.ids]
  · intro id before after known counts
    have positive := sound.count?_pos known
    obtain ⟨entry, member, rfl, rfl⟩ := count?_eq_some counts
    obtain ⟨source, _, trusted⟩ := exists_of_mem_right (Build.trusted_of_run built) member
    rw [← counted, trusted.id] at known
    exact ⟨positive, trusted.growth strict before known positive⟩

/-! ## Steps -/

section Histories

variable {σ : Type} [Storage σ] [Files σ] {path : Path}

/-- Whether a catalog is what the file at a path holds. -/
def StoredAt (catalog : Catalog) (path : Path) (state : σ) : Prop :=
  octetsAt? state path = some catalog.render.toUTF8.toList

/-- One step between two states, with the catalog that it wrote to a path, if it wrote one. -/
inductive Step (path : Path) : σ → Option Catalog → σ → Prop
  /-- The catalog is refreshed without accepting growth, which may fail, but not by a failure to find and
  read the file at the path. The clock counts seconds in 64 bits. -/
  | refreshed (fetch : Fetcher) (now : Instant) {state : σ} (word : Json.IsWord now.seconds)
      (readable : Readable state path) :
      Step path state (refresh fetch path now false state).1.result.toOption
        (refresh fetch path now false state).2
  /-- The catalog is checked, which may fail. -/
  | verified (fetch : Fetcher) (now : Instant) (allowLarge : Bool) {state : σ} :
      Step path state none (verify fetch path now allowLarge state).2
  /-- Something else happens that does not change the file at the path. -/
  | elsewhere {before after : σ}
      (same : ∀ octets, octetsAt? before path = some octets → octetsAt? after path = some octets) :
      Step path before none after

/-- Any number of steps, with the catalogs that they wrote, in order. -/
inductive History (path : Path) : σ → List Catalog → σ → Prop
  | nil (state : σ) : History path state [] state
  | cons {before middle after : σ} {written : Option Catalog} {later : List Catalog} :
      Step path before written middle → History path middle later after →
      History path before (written.toList ++ later) after

variable [SoundStorage σ]

/-- What a refresh that succeeds leaves at its path. -/
theorem storedAt_of_refresh {now : Instant} {allowLarge : Bool} {state : σ}
    (refreshed : (refresh fetch path now allowLarge state).1.result = .ok catalog) :
    catalog.StoredAt path (refresh fetch path now allowLarge state).2 := by
  rcases refresh_cases fetch path now allowLarge state with
    ⟨made, same, file, leads, given⟩ | ⟨failure, failed, _⟩
  · cases same.symm.trans refreshed
    exact Option.bind_eq_some_iff.mpr ⟨file, leads, given.octets⟩
  · have both := failed.symm.trans refreshed
    contradiction

/-- The baseline of the next build has the counts of the catalog that is stored. -/
theorem Sound.get?_load (sound : catalog.Sound) {state : σ} (stored : catalog.StoredAt path state)
    (readable : Readable state path) (id : String) :
    (Baseline.load path state).1.get? id = catalog.count? id := by
  rw [Baseline.load_of_finds (readable.finds stored), sound.timed.ofText?_render, Option.map_some,
    Option.getD_some, sound.get?_ofJson]

/-- A step writes a catalog that may follow the one that is stored, and stores it, or it writes none and
keeps the one that is stored. -/
theorem Step.stored {last : Catalog} {before after : σ} {written : Option Catalog}
    (step : Step path before written after) (sound : last.Sound) (stored : last.StoredAt path before) :
    (written = none ∧ last.StoredAt path after) ∨
    ∃ next, written = some next ∧ next.Sound ∧ last.MayFollow next ∧ next.StoredAt path after := by
  cases step with
  | refreshed fetch now word readable =>
    rcases refresh_cases fetch path now false before with ⟨next, made, _⟩ | ⟨failure, failed, same⟩
    · obtain ⟨built, _⟩ := refresh_eq_ok_iff.mp made
      rw [rebuild_fst] at built
      have counted := sound.get?_load stored readable
      exact .inr ⟨next, by rw [made]; rfl, sound_of_run built word, sound.mayFollow counted rfl built,
        storedAt_of_refresh made⟩
    · exact .inl ⟨by rw [failed]; rfl, same.octetsAt stored⟩
  | verified fetch now allowLarge =>
    have same := kept_verify (kept_untouched path) fetch now allowLarge before
    exact .inl ⟨rfl, same.octetsAt stored⟩
  | elsewhere same => exact .inl ⟨rfl, same _ stored⟩

/-- Through a history, each catalog that is written may follow the one before, and the last one is stored. -/
theorem History.stored {last : Catalog} {before after : σ} {written : List Catalog}
    (history : History path before written after) (sound : last.Sound)
    (stored : last.StoredAt path before) :
    (last :: written).IsChain MayFollow ∧ (∀ catalog ∈ last :: written, catalog.Sound) ∧
      ∃ final, (last :: written).getLast? = some final ∧ final.StoredAt path after := by
  induction history generalizing last with
  | nil state => exact ⟨.singleton last, by simpa using sound, last, rfl, stored⟩
  | cons step _ ih =>
    rcases step.stored sound stored with ⟨rfl, kept⟩ | ⟨next, rfl, soundNext, follows, kept⟩
    · exact ih sound kept
    · obtain ⟨chain, sounds, final, isLast, storedLast⟩ := ih soundNext kept
      refine ⟨.cons_cons follows chain, ?_, final, ?_, storedLast⟩
      · exact List.forall_mem_cons.mpr ⟨sound, sounds⟩
      · exact isLast

/-- After a refresh that succeeded, whether or not it accepted growth, let any steps follow. Each catalog
that is written may follow the one before. At any time, what is stored is the catalog that was written
last, and while it can be read, the next build compares with its counts, of which every source has one and
none is zero. -/
theorem growth_bounded (fetch : Fetcher) (path : Path) (now : Instant) (allowLarge : Bool) (state : σ)
    (first : Catalog) (word : Json.IsWord now.seconds)
    (refreshed : (refresh fetch path now allowLarge state).1.result = .ok first)
    (written : List Catalog) (later : σ)
    (history : History path (refresh fetch path now allowLarge state).2 written later) :
    (first :: written).IsChain MayFollow ∧
    ∃ last, (first :: written).getLast? = some last ∧ last.StoredAt path later ∧
      (Readable later path →
        (∀ id, (Baseline.load path later).1.get? id = last.count? id) ∧
        ∀ source ∈ Source.builtIn, ∃ count, 1 ≤ count ∧
          (Baseline.load path later).1.get? source.setId = some count) := by
  obtain ⟨built, _⟩ := refresh_eq_ok_iff.mp refreshed
  rw [rebuild_fst] at built
  obtain ⟨chain, sounds, last, isLast, stored⟩ :=
    history.stored (sound_of_run built word) (storedAt_of_refresh refreshed)
  have sound := sounds last (List.mem_of_getLast? isLast)
  refine ⟨chain, last, isLast, stored, ?_⟩
  intro readable
  have counted := sound.get?_load stored readable
  refine ⟨counted, ?_⟩
  intro source member
  obtain ⟨count, known⟩ := sound.exists_count? member
  exact ⟨count, sound.count?_pos known, (counted source.setId).trans known⟩

end Histories

/-- The tree that was refreshed is refreshed again later on the same day, without accepting growth, and is
checked. -/
theorem growth_bounded_sample :
    ∃ first again, (refresh (fun _ => .ok samplePayload) ⟨"catalog.json"⟩
        (Instant.ofSeconds 1748766600) true ({} : Tree)).1.result = .ok first ∧
      (refresh (fun _ => .ok samplePayload) ⟨"catalog.json"⟩ (Instant.ofSeconds 1748770000) false
        sampleTree).1.result = .ok again ∧
      [first, again].IsChain MayFollow := by
  obtain ⟨first, refreshed⟩ := exists_refresh_sample
  obtain ⟨content, accepts⟩ := content_of_refresh refreshed
  have found : Shows sampleTree ⟨"catalog.json"⟩ first.render :=
    ⟨LawfulStorage.holds_of_content _ _ _ content, Tree.read_of_content content⟩
  obtain ⟨built, _⟩ := refresh_eq_ok_iff.mp refreshed
  rw [rebuild_fst] at built
  have word : Json.IsWord 1748766600 := ⟨by decide, by decide⟩
  have wordAgain : Json.IsWord 1748770000 := ⟨by decide, by decide⟩
  have again : (refresh (fun _ => .ok samplePayload) ⟨"catalog.json"⟩ (Instant.ofSeconds 1748770000)
      false sampleTree).1.result = .ok (Build.catalog (Instant.ofSeconds 1748770000) first.entries) := by
    have alike := alike_rebuild (fun _ => .ok samplePayload) ⟨"catalog.json"⟩
      (Instant.ofSeconds 1748770000) false sampleTree
    exact refresh_eq_ok_iff.mpr ⟨rebuild_of_shows built word found (by decide) false,
      write_of_accepts (alike.accepts accepts) _⟩
  have step := Step.refreshed (fun _ => .ok samplePayload) (Instant.ofSeconds 1748770000) wordAgain
    (readable_of_shows found)
  rw [again] at step
  have history := History.cons step (.cons
    (.verified (fun _ => .ok samplePayload) (Instant.ofSeconds 1748770000) false) (.nil _))
  obtain ⟨chain, _⟩ := growth_bounded _ _ _ _ _ _ word refreshed _ _ history
  exact ⟨first, _, refreshed, again, chain⟩

end Catalog

end RangeCatalog
