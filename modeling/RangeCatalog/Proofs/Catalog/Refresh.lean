import RangeCatalog.Proofs.Calendar.Stamp
import RangeCatalog.Proofs.Catalog.Build
import RangeCatalog.Proofs.Catalog.Stored
import RangeCatalog.Proofs.Storage.Tree

/-! # Refreshing a catalog

What a refresh leaves is a fixed point. The document that is read back has the counts of the catalog that
was built, no set grows against its own count, and so the same catalog is built again on the same day.
-/

namespace RangeCatalog

open Storage

/-! ## Seconds of a catalog -/

/-- The second of the time stamp of an entry is a word. -/
theorem Entry.isWord_of_ofPayload {source : Source} {payload : Payload} {baseline : Baseline}
    {date : String} {allowLarge : Bool} {entry : Entry}
    (made : ofPayload source payload baseline date allowLarge = .ok entry) {seconds : Int}
    (stamped : entry.sourceStampSeconds = some seconds) : Json.IsWord seconds := by
  obtain ⟨extraction, ranges, extracted, _, _, rfl⟩ := ofPayload_eq_ok_iff.mp made
  obtain ⟨instant, found, rfl⟩ := Option.map_eq_some_iff.mp stamped
  obtain ⟨_, _, stamp⟩ := Extraction.ofPayload_eq_ok_iff.mp extracted
  rw [stamp] at found
  have bounds : -10000000000000 ≤ instant.seconds ∧ instant.seconds ≤ 10000000000000 := by
    cases layout : source.layout with
    | prefixObjects =>
      rw [layout] at found
      obtain ⟨text, _, read⟩ := Option.bind_eq_some_iff.mp found
      exact Stamp.ofText?_bounds read
    | textArray key =>
      rw [layout] at found
      contradiction
  rw [Json.IsWord]
  omega

/-- All seconds of a catalog are words when that of its build is one. -/
theorem Build.timed_of_run {sources : List Source} {fetch : Fetcher} {context : BuildContext}
    {made : Catalog} (built : (run sources fetch context).result = .ok made)
    (word : Json.IsWord context.now.seconds) : made.Timed := by
  obtain ⟨_, listed, yields, rfl⟩ := run_eq_ok_iff.mp built
  refine ⟨word, ?_⟩
  intro entry member seconds stamped
  obtain ⟨source, _, yielded⟩ := exists_of_mem_right yields member
  obtain ⟨payload, _, fromPayload⟩ := ofSource_eq_ok_iff.mp yielded
  exact Entry.isWord_of_ofPayload fromPayload stamped

theorem Instant.dateText_of_day {first second : Instant}
    (day : first.seconds / daySeconds = second.seconds / daySeconds) :
    first.dateText = second.dateText := by
  simp only [dateText, date, day]

/-! ## Refreshing again -/

namespace Catalog

variable {σ : Type} [Storage σ] [Contents σ] [LawfulStorage σ] {path : Path}

/-- What a refresh that succeeds leaves at its path. -/
theorem content_of_refresh {fetch : Fetcher} {now : Instant} {allowLarge : Bool} {state : σ}
    {catalog : Catalog}
    (refreshed : (refresh fetch path now allowLarge state).1.result = .ok catalog) :
    content? (refresh fetch path now allowLarge state).2 path = some catalog.render.toUTF8.toList ∧
      Accepts (refresh fetch path now allowLarge state).2 path := by
  rw [refresh_snd refreshed]
  exact content_of_write (refresh_eq_ok_iff.mp refreshed).2

/-- Where a catalog is found, it is built again on its day. -/
theorem rebuild_of_shows {fetch : Fetcher} {context : BuildContext} {catalog : Catalog}
    (built : (Build.run Source.builtIn fetch context).result = .ok catalog)
    (word : Json.IsWord context.now.seconds) {later : σ} (found : Shows later path catalog.render)
    {moment : Instant}
    (day : moment.seconds / Instant.daySeconds = context.now.seconds / Instant.daySeconds)
    (allowLarge : Bool) :
    (rebuild fetch path moment allowLarge later).1.result =
      .ok (Build.catalog moment catalog.entries) := by
  have document := (Build.timed_of_run built word).ofText?_render
  rw [rebuild_fst]
  -- Each set is compared with its own count, so that the guard has nothing to refuse.
  refine Build.run_again built (Instant.dateText_of_day day) ?_
  intro entry member
  rw [Baseline.load_of_shows found, document, Option.map_some, Option.getD_some]
  exact Baseline.get?_ofJson_canonical (Build.distinct_of_run built) member

/-- After a refresh that succeeded, for as long as the file is kept and the documents are the same, a check
on the same day finds no difference, and a refresh at the same time succeeds and leaves the file as it is.
Neither needs growth to be accepted, even if the first refresh did. The clock counts seconds in 64 bits. -/
theorem refresh_fixed (fetch : Fetcher) (path : Path) (now : Instant) (allowLarge : Bool) (state : σ)
    (catalog : Catalog) (word : Json.IsWord now.seconds)
    (refreshed : (refresh fetch path now allowLarge state).1.result = .ok catalog) (later : σ)
    (kept : Kept path (refresh fetch path now allowLarge state).2 later) (allowAgain : Bool) :
    (∀ moment : Instant, moment.seconds / Instant.daySeconds = now.seconds / Instant.daySeconds →
      (verify fetch path moment allowAgain later).1.result = .ok []) ∧
    (refresh fetch path now allowAgain later).1.result = .ok catalog ∧
    content? (refresh fetch path now allowAgain later).2 path = content? later path := by
  obtain ⟨built, _⟩ := refresh_eq_ok_iff.mp refreshed
  obtain ⟨content, accepts⟩ := content_of_refresh refreshed
  rw [rebuild_fst] at built
  have found := kept.shows content
  have again : (refresh fetch path now allowAgain later).1.result = .ok catalog := by
    have rebuilt := rebuild_of_shows built word found rfl allowAgain
    rw [Build.catalog_of_run built] at rebuilt
    have alike := alike_rebuild fetch path now allowAgain later
    exact refresh_eq_ok_iff.mpr
      ⟨rebuilt, write_of_accepts (alike.accepts (kept.accepts accepts)) catalog⟩
  refine ⟨?_, again, ?_⟩
  · intro moment day
    have rebuilt := rebuild_of_shows built word found day allowAgain
    have alike := alike_rebuild fetch path moment allowAgain later
    have document := (Build.timed_of_run built word).ofText?_render
    have version : catalog.version = moment.dateText := by
      rw [Instant.dateText_of_day day, ← Build.catalog_of_run built]
      rfl
    have same : (Build.catalog moment catalog.entries).differencesFrom catalog.toJson.canonical = [] :=
      differencesFrom_canonical version rfl
    rw [verify_of_built rebuilt (Json.load_of_shows (alike.shows found) document), same]
  · rw [(content_of_refresh again).1, kept.content, content]

/-- A document that suits every layout and lists two blocks. -/
def samplePayload : Payload :=
  ⟨[("prefixes", .array (RangeSet.respelled.map fun text => .object [("ipv4Prefix", .string text)])),
    ("copilot", .array (RangeSet.respelled.map .string))]⟩

/-- A document with the same fields, in whatever order, lists them too. -/
theorem declares_sample {payload : Payload}
    (prefixes : payload.field? "prefixes" = samplePayload.field? "prefixes")
    (copilot : payload.field? "copilot" = samplePayload.field? "copilot") {source : Source}
    (member : source ∈ Source.builtIn) :
    source.layout.Keyed ∧ payload.Declares source.layout RangeSet.respelled := by
  simp only [Source.builtIn, List.mem_cons, List.not_mem_nil, or_false] at member
  have objects : payload.Declares .prefixObjects RangeSet.respelled := by
    refine ⟨_, prefixes, ?_⟩
    rw [List.forall₂_map_left_iff, List.forall₂_same]
    exact fun text _ => ⟨_, rfl, .inl ⟨rfl, rfl⟩⟩
  have texts : payload.Declares (.textArray "copilot") RangeSet.respelled := by
    refine ⟨_, copilot, ?_⟩
    rw [List.forall₂_map_left_iff, List.forall₂_same]
    exact fun text _ => rfl
  rcases member with rfl | rfl | rfl | rfl
  · exact ⟨by rintro key ⟨⟩, objects⟩
  · exact ⟨by rintro key ⟨⟩, objects⟩
  · exact ⟨by rintro key ⟨⟩, objects⟩
  · exact ⟨Entry.keyed_copilot, texts⟩

/-- Such a document gives a catalog whatever the baseline is, when growth is accepted. -/
theorem exists_run_of_sample (payload : Payload)
    (prefixes : payload.field? "prefixes" = samplePayload.field? "prefixes")
    (copilot : payload.field? "copilot" = samplePayload.field? "copilot") {fetch : Fetcher}
    (fetched : ∀ source ∈ Source.builtIn, fetch source.url = .ok payload) (baseline : Baseline)
    (now : Instant) :
    ∃ catalog, (Build.run Source.builtIn fetch ⟨baseline, now, true⟩).result = .ok catalog := by
  refine Build.exists_run Registry.check_builtIn ?_
  intro source member
  obtain ⟨keyed, declared⟩ := declares_sample prefixes copilot member
  obtain ⟨entry, made⟩ := Entry.exists_ofPayload_iff.mpr
    ⟨keyed, _, _, declared, RangeSet.denote_respelled, Entry.admissible_respelled⟩
  exact ⟨entry, Build.ofSource_eq_ok_iff.mpr ⟨_, fetched source member, made⟩⟩

theorem exists_run_sample (baseline : Baseline) (now : Instant) :
    ∃ catalog, (Build.run Source.builtIn (fun _ => .ok samplePayload)
      ⟨baseline, now, true⟩).result = .ok catalog :=
  exists_run_of_sample samplePayload rfl rfl (fun _ _ => rfl) baseline now

omit [Contents σ] [LawfulStorage σ] in
/-- A refresh with that document comes down to writing its catalog. -/
theorem refresh_sample (path : Path) (now : Instant) (state : σ) :
    ∃ catalog : Catalog, (refresh (fun _ => .ok samplePayload) path now true state).1.result =
      (catalog.write path (Baseline.load path state).2).1.map fun _ => catalog := by
  obtain ⟨catalog, built⟩ := exists_run_sample (Baseline.load path state).1 now
  have rebuilt : (rebuild (fun _ => .ok samplePayload) path now true state).1.result = .ok catalog := by
    rw [rebuild_fst]
    exact built
  have result := (refresh_of_built rebuilt).1
  rw [rebuild_apply] at result
  exact ⟨catalog, result⟩

/-- The tree that a refresh of an empty one leaves, with all growth accepted. -/
def sampleTree : Tree :=
  (refresh (fun _ => .ok samplePayload) ⟨"catalog.json"⟩ (Instant.ofSeconds 1748766600) true
    ({} : Tree)).2

theorem exists_refresh_sample :
    ∃ catalog, (refresh (fun _ => .ok samplePayload) ⟨"catalog.json"⟩
      (Instant.ofSeconds 1748766600) true ({} : Tree)).1.result = .ok catalog := by
  have target : ({} : Tree).target ⟨"catalog.json"⟩ = .ok ["catalog.json"] := by decide +kernel
  have alike := Baseline.kept_load (kept_alike ⟨"catalog.json"⟩) ({} : Tree)
  obtain ⟨catalog, result⟩ := refresh_sample ⟨"catalog.json"⟩ (Instant.ofSeconds 1748766600) ({} : Tree)
  rw [write_of_accepts (alike.accepts (Tree.accepts_of_target target))] at result
  exact ⟨catalog, result⟩

/-- The tree that was refreshed is checked later on the same day, and refreshed again, without accepting
growth. -/
theorem refresh_fixed_sample :
    ∃ catalog, (refresh (fun _ => .ok samplePayload) ⟨"catalog.json"⟩
        (Instant.ofSeconds 1748766600) true ({} : Tree)).1.result = .ok catalog ∧
      Json.IsWord 1748766600 ∧ Kept ⟨"catalog.json"⟩ sampleTree sampleTree ∧
      (verify (fun _ => .ok samplePayload) ⟨"catalog.json"⟩ (Instant.ofSeconds 1748770000) false
        sampleTree).1.result = .ok [] ∧
      (refresh (fun _ => .ok samplePayload) ⟨"catalog.json"⟩ (Instant.ofSeconds 1748766600) false
        sampleTree).1.result = .ok catalog := by
  obtain ⟨catalog, refreshed⟩ := exists_refresh_sample
  have word : Json.IsWord 1748766600 := ⟨by decide, by decide⟩
  have content : content? sampleTree ⟨"catalog.json"⟩ = some catalog.render.toUTF8.toList :=
    (content_of_refresh refreshed).1
  have kept : Kept ⟨"catalog.json"⟩ sampleTree sampleTree :=
    ⟨rfl, ⟨_, Tree.read_of_content content⟩, id⟩
  obtain ⟨unchanged, again, _⟩ := refresh_fixed _ _ _ _ _ _ word refreshed _ kept false
  exact ⟨catalog, refreshed, word, kept, unchanged _ (by decide), again⟩

end Catalog

end RangeCatalog
