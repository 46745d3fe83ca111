import RangeCatalog.Proofs.Catalog.FirstFailure
import RangeCatalog.Proofs.Label

/-! # Independence of sources and clock

What a build does not depend on. The entry of a source is made of its own document, of the count of its own
set and of the date, whatever the other sources return. The date stands in labels and nowhere else in an
entry, and nothing is refused for it. Two builds at different times therefore fetch the same URLs and fail
alike, or their catalogs are the same up to the dates.
-/

namespace RangeCatalog

namespace Entry

variable {source : Source} {payload : Payload} {baseline : Baseline} {allowLarge : Bool}

/-! ## One source -/

/-- The entry under the label of another date. -/
def onDate (date : String) (entry : Entry) : Entry :=
  { entry with version := Label.ofContent date entry.ranges entry.sourceStamp }

/-- Of the baseline, an entry depends on the count of its own set. -/
theorem ofPayload_of_count {other : Baseline}
    (count : baseline.get? source.setId = other.get? source.setId) (date : String) :
    ofPayload source payload baseline date allowLarge = ofPayload source payload other date allowLarge := by
  simp only [ofPayload, count]

/-- On another date, a payload yields the same entry under the label of that date, or the same error. -/
theorem ofPayload_onDate (date other : String) :
    ofPayload source payload baseline other allowLarge =
      (ofPayload source payload baseline date allowLarge).map (onDate other) := by
  cases outcome : ofPayload source payload baseline date allowLarge with
  | error error => exact ofPayload_eq_error_iff.mpr (ofPayload_eq_error_iff.mp outcome)
  | ok entry =>
    obtain ⟨extraction, ranges, extracted, read, admitted, rfl⟩ := ofPayload_eq_ok_iff.mp outcome
    exact ofPayload_eq_ok_iff.mpr ⟨extraction, ranges, extracted, read, admitted, rfl⟩

private theorem ofSource_congr {fetch otherFetch : Fetcher} {context other : BuildContext}
    (document : fetch source.url = otherFetch source.url)
    (count : context.baseline.get? source.setId = other.baseline.get? source.setId)
    (date : context.now.dateText = other.now.dateText) (option : context.allowLarge = other.allowLarge) :
    ofSource fetch context source = ofSource otherFetch other source := by
  simp only [ofSource, document, ofPayload_of_count count, date, option]

private theorem ofSource_onDate (fetch : Fetcher) (context : BuildContext) (later : Instant) :
    ofSource fetch { context with now := later } source =
      (ofSource fetch context source).map (onDate later.dateText) := by
  simp only [ofSource]
  cases fetch source.url with
  | error error => rfl
  | ok payload => exact ofPayload_onDate context.now.dateText later.dateText

/-- Whether two entries differ in the dates before the digits of their labels, and in nothing else. -/
structure SameButDate (date otherDate : String) (entry other : Entry) : Prop where
  fields : { other with version := entry.version } = entry
  digits : ∃ digits : String, digits.length = 16 ∧ entry.version = date ++ "-" ++ digits ∧
    other.version = otherDate ++ "-" ++ digits

private theorem sameButDate_onDate {context : BuildContext} {date : String} {entry : Entry}
    (trusted : Trusted date context source entry) (other : String) :
    SameButDate date other entry (entry.onDate other) := by
  refine ⟨rfl, Label.fingerprint (Label.content entry.ranges entry.sourceStamp), ?_, trusted.version, rfl⟩
  rw [← String.length_toList, Label.length_fingerprint, Label.digits]

end Entry

namespace Build

variable {sources : List Source} {fetch : Fetcher} {context : BuildContext}

/-! ## All sources -/

/-- At another time the same URLs are fetched, for the same entries under other labels. -/
theorem entries_onDate (later : Instant) :
    entries fetch { context with now := later } sources =
      ((entries fetch context sources).1,
        (entries fetch context sources).2.map (List.map (Entry.onDate later.dateText))) := by
  induction sources with
  | nil => rfl
  | cons source rest ih =>
    simp only [entries, Entry.ofSource_onDate fetch context later]
    cases Entry.ofSource fetch context source with
    | error error => rfl
    | ok entry =>
      simp only [Except.map, ih]
      cases (entries fetch context rest).2 <;> rfl

private theorem run_onDate (later : Instant) :
    run sources fetch { context with now := later } =
      ⟨(run sources fetch context).fetched, (run sources fetch context).result.map fun made =>
        catalog later (made.entries.map (Entry.onDate later.dateText))⟩ := by
  cases checked : Registry.check sources with
  | error error =>
    rw [run_of_refused checked, run_of_refused checked]
    rfl
  | ok done =>
    rw [run_of_accepted checked, run_of_accepted checked, entries_onDate]
    cases (entries fetch context sources).2 <;> rfl

/-- What stands at a place of a catalog is the entry of the source at that place. -/
theorem getElem?_entries_of_run {made : Catalog} (built : (run sources fetch context).result = .ok made)
    {index : Nat} {source : Source} (here : sources[index]? = some source) :
    ∃ entry, made.entries[index]? = some entry ∧ Entry.ofSource fetch context source = .ok entry := by
  obtain ⟨_, listed, yields, rfl⟩ := run_eq_ok_iff.mp built
  exact exists_getElem?_right yields here

/-- Sources do not interfere: builds that succeed have the same entry for a source if they agree on its document,
on the count of its set and on the date, whatever else differs. Nor does the clock: builds that differ in their
time fetch the same URLs, and they fail with the same error, or they succeed with catalogs whose entries differ in
the dates before the digits of their labels only. -/
theorem sources_and_clock_apart (sources : List Source) (allowLarge : Bool) :
    (∀ (fetch otherFetch : Fetcher) (baseline otherBaseline : Baseline) (now later : Instant)
      (first second : Catalog) (index : Nat) (source : Source),
      (run sources fetch ⟨baseline, now, allowLarge⟩).result = .ok first →
      (run sources otherFetch ⟨otherBaseline, later, allowLarge⟩).result = .ok second →
      sources[index]? = some source → fetch source.url = otherFetch source.url →
      baseline.get? source.setId = otherBaseline.get? source.setId → now.date = later.date →
      ∃ entry, first.entries[index]? = some entry ∧ second.entries[index]? = some entry) ∧
    (∀ (fetch : Fetcher) (baseline : Baseline) (now later : Instant),
      (run sources fetch ⟨baseline, later, allowLarge⟩).fetched =
        (run sources fetch ⟨baseline, now, allowLarge⟩).fetched ∧
      ((∃ error, (run sources fetch ⟨baseline, now, allowLarge⟩).result = .error error ∧
          (run sources fetch ⟨baseline, later, allowLarge⟩).result = .error error) ∨
        ∃ first second, (run sources fetch ⟨baseline, now, allowLarge⟩).result = .ok first ∧
          (run sources fetch ⟨baseline, later, allowLarge⟩).result = .ok second ∧
          List.Forall₂ (Entry.SameButDate first.version second.version) first.entries second.entries)) := by
  constructor
  · intro fetch otherFetch baseline otherBaseline now later first second index source built builtOther here
      document count date
    have dates : now.dateText = later.dateText := by simp only [Instant.dateText, date]
    obtain ⟨entry, listed, yielded⟩ := getElem?_entries_of_run built here
    obtain ⟨other, listedOther, yieldedOther⟩ := getElem?_entries_of_run builtOther here
    have same : Entry.ofSource fetch ⟨baseline, now, allowLarge⟩ source =
        Entry.ofSource otherFetch ⟨otherBaseline, later, allowLarge⟩ source :=
      Entry.ofSource_congr document count dates rfl
    obtain rfl : entry = other := Except.ok.inj (yielded.symm.trans (same.trans yieldedOther))
    exact ⟨entry, listed, listedOther⟩
  · intro fetch baseline now later
    have again := @run_onDate sources fetch ⟨baseline, now, allowLarge⟩ later
    rw [again]
    refine ⟨rfl, ?_⟩
    cases outcome : (run sources fetch ⟨baseline, now, allowLarge⟩).result with
    | error error => exact .inl ⟨error, rfl, rfl⟩
    | ok made =>
      have relabelled : List.Forall₂ (Entry.SameButDate made.version later.dateText) made.entries
          (made.entries.map (Entry.onDate later.dateText)) := by
        rw [List.forall₂_map_right_iff, List.forall₂_same]
        intro entry member
        obtain ⟨source, _, trusted⟩ := exists_of_mem_right (trusted_of_run outcome) member
        exact Entry.sameButDate_onDate trusted later.dateText
      exact .inr ⟨made, _, rfl, rfl, relabelled⟩

/-- Two sources of one layout. -/
def twoSources : List Source :=
  [Entry.copilot, listing "github_hooks" "https://api.github.com/hooks"]

/-- The texts of one block. -/
def narrowTexts : List String :=
  (RangeSet.respelledBlocks.take 1).map Block.text

/-- Servers of which the second one has a document of its own. -/
def differingDocuments : Fetcher := fun url =>
  if url = "https://api.github.com/hooks" then .ok ⟨[("copilot", .array (narrowTexts.map .string))]⟩
  else .ok Entry.respelledPayload

/-- The counts of a catalog with both sets. -/
def bothCounts : Baseline :=
  ⟨[("github_hooks", 7), ("github_copilot", 1)]⟩

/-- A document of few texts yields an entry of a source that lists texts. -/
theorem exists_ofSource_of_few {source : Source} (layout : source.layout = Entry.copilot.layout)
    {texts : List String} (document : fetch source.url = .ok ⟨[("copilot", .array (texts.map .string))]⟩)
    {blocks : List Block} (denote : RangeSet.Denote texts blocks) (some : 1 ≤ blocks.toFinset.card)
    (few : blocks.toFinset.card ≤ Growth.slack) :
    ∃ entry, Entry.ofSource fetch context source = .ok entry := by
  have declared := Entry.declares_texts texts
  have keyed := Entry.keyed_copilot
  rw [← layout] at declared keyed
  obtain ⟨entry, made⟩ := Entry.exists_ofPayload_iff.mpr
    ⟨keyed, _, _, declared, denote, Entry.admissible_of_few some few⟩
  exact ⟨entry, ofSource_eq_ok_iff.mpr ⟨_, document, made⟩⟩

/-- Two builds on one day, of which the second one gets another document from the second source and knows the
count of its set: the entry of the first source is the same. A build two days later has it under another label. -/
theorem sources_and_clock_apart_hooks :
    Instant.date (.ofSeconds 1748766600) = Instant.date (.ofSeconds 1748770200) ∧
    ∃ first second later,
      (run twoSources (fun _ => .ok Entry.respelledPayload)
        ⟨Entry.oneBlock, .ofSeconds 1748766600, false⟩).result = .ok first ∧
      (run twoSources differingDocuments ⟨bothCounts, .ofSeconds 1748770200, false⟩).result = .ok second ∧
      (∃ entry, first.entries[0]? = some entry ∧ second.entries[0]? = some entry) ∧
      (run twoSources differingDocuments ⟨bothCounts, .ofSeconds 1748943000, false⟩).result = .ok later ∧
      List.Forall₂ (Entry.SameButDate second.version later.version) second.entries later.entries := by
  have accepted : Registry.check twoSources = .ok () := by decide +kernel
  have date : Instant.date (.ofSeconds 1748766600) = Instant.date (.ofSeconds 1748770200) := by decide
  have alike : ∀ source ∈ twoSources, ∃ entry, Entry.ofSource (fun _ => .ok Entry.respelledPayload)
      ⟨Entry.oneBlock, .ofSeconds 1748766600, false⟩ source = .ok entry :=
    List.forall_mem_cons.mpr ⟨exists_ofSource_of_few rfl rfl RangeSet.denote_respelled (by decide) (by decide),
      List.forall_mem_singleton.mpr
        (exists_ofSource_of_few rfl rfl RangeSet.denote_respelled (by decide) (by decide))⟩
  have differing : ∀ source ∈ twoSources, ∃ entry, Entry.ofSource differingDocuments
      ⟨bothCounts, .ofSeconds 1748770200, false⟩ source = .ok entry :=
    List.forall_mem_cons.mpr ⟨exists_ofSource_of_few rfl rfl RangeSet.denote_respelled (by decide) (by decide),
      List.forall_mem_singleton.mpr
        (exists_ofSource_of_few rfl rfl (RangeSet.denote_texts _) (by decide) (by decide))⟩
  obtain ⟨first, built⟩ := exists_run accepted alike
  obtain ⟨second, builtSecond⟩ := exists_run accepted differing
  obtain ⟨apart, clock⟩ := sources_and_clock_apart twoSources false
  obtain ⟨_, ⟨error, failed, _⟩ | ⟨_, later, same, builtLater, relabelled⟩⟩ := clock differingDocuments bothCounts
    (.ofSeconds 1748770200) (.ofSeconds 1748943000)
  · rw [builtSecond] at failed
    contradiction
  obtain rfl := Except.ok.inj (builtSecond.symm.trans same)
  exact ⟨date, first, second, later, built, builtSecond,
    apart _ _ _ _ _ _ first second 0 Entry.copilot built builtSecond rfl rfl rfl date, builtLater, relabelled⟩

end Build

end RangeCatalog
