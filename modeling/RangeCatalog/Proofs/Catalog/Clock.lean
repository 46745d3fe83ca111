import RangeCatalog.Proofs.Calendar.Marks
import RangeCatalog.Proofs.Calendar.Rendering
import RangeCatalog.Proofs.Catalog.Independence

/-! # The clock of a build

A catalog tells the second of its build as a number and in three texts: the time of the build, the date that is
the version of the catalog, and the date before the digits of each label. All of them are of one second, in every
year, and the version tells the day.
-/

namespace RangeCatalog

/-- Whether all that a catalog tells about its time is of one second. -/
structure Catalog.Dated (seconds : Int) (catalog : Catalog) : Prop where
  number : catalog.generatedAtSeconds = seconds
  text : Renders catalog.generatedAt seconds
  /-- The version is what stands before the first `T`. -/
  date : 'T' ∉ catalog.version.toList ∧ ∃ time, catalog.generatedAt = catalog.version ++ "T" ++ time
  labels : ∀ entry ∈ catalog.entries, ∃ digits : String, digits.length = 16 ∧
    (∀ c ∈ digits.toList, c ∈ "0123456789abcdef".toList) ∧ entry.version = catalog.version ++ "-" ++ digits

namespace Build

variable {sources : List Source} {fetch : Fetcher} {context : BuildContext} {made : Catalog}

theorem version_of_run (built : (run sources fetch context).result = .ok made) :
    made.version = context.now.dateText := by
  rw [← catalog_of_run built, catalog]

/-- The label of an entry is the version of the catalog and sixteen hexadecimal digits. -/
theorem label_of_run (built : (run sources fetch context).result = .ok made) {entry : Entry}
    (member : entry ∈ made.entries) :
    ∃ digits : String, digits.length = 16 ∧ (∀ c ∈ digits.toList, c ∈ "0123456789abcdef".toList) ∧
      entry.version = made.version ++ "-" ++ digits := by
  obtain ⟨source, _, trusted⟩ := exists_of_mem_right (trusted_of_run built) member
  refine ⟨Label.fingerprint (Label.content entry.ranges entry.sourceStamp), ?_, ?_, trusted.version⟩
  · rw [← String.length_toList, Label.length_fingerprint, Label.digits]
  · exact fun _ => Label.mem_fingerprint

theorem dated_of_run (built : (run sources fetch context).result = .ok made)
    (proper : context.now.leap = false) : made.Dated context.now.seconds := by
  have whole := catalog_of_run built
  have text : made.generatedAt = context.now.text := by rw [← whole, catalog]
  refine ⟨?_, ?_, ⟨?_, ?_⟩, fun _ => label_of_run built⟩
  · rw [← whole, catalog]
  · rw [text]
    exact Instant.renders_text proper
  · rw [version_of_run built]
    exact Stamp.isMark_tee.not_mem_dateText _
  · refine ⟨context.now.timeText ++ "Z", ?_⟩
    rw [text, version_of_run built, Instant.text, String.append_assoc, String.append_assoc]

/-- What a catalog tells about its time is of the second of its build, whatever the second, the sources and their
documents are: the number, the text that renders it, and the date before the `T` of the text, which is the version
of the catalog and begins the labels of the entries. Catalogs have one version exactly when they were built on one
day; the division rounds down, so that days begin at midnight before 1970 too. -/
theorem dated_by_clock :
    (∀ (sources : List Source) (fetch : Fetcher) (baseline : Baseline) (allowLarge : Bool) (now : Int)
      (made : Catalog), (run sources fetch ⟨baseline, .ofSeconds now, allowLarge⟩).result = .ok made →
      made.Dated now) ∧
    ∀ (sources others : List Source) (fetch otherFetch : Fetcher) (baseline otherBaseline : Baseline)
      (allowLarge otherAllow : Bool) (now later : Int) (first second : Catalog),
      (run sources fetch ⟨baseline, .ofSeconds now, allowLarge⟩).result = .ok first →
      (run others otherFetch ⟨otherBaseline, .ofSeconds later, otherAllow⟩).result = .ok second →
      (first.version = second.version ↔ now.fdiv 86400 = later.fdiv 86400) := by
  refine ⟨?_, ?_⟩
  · intro sources fetch baseline allowLarge now made built
    exact dated_of_run built rfl
  · intro sources others fetch otherFetch baseline otherBaseline allowLarge otherAllow now later first second
      built builtLater
    have floor (seconds : Int) : seconds.fdiv 86400 = seconds / 86400 :=
      Int.fdiv_eq_ediv_of_nonneg seconds (by decide)
    rw [version_of_run built, version_of_run builtLater, Instant.dateText_eq_iff, floor, floor]
    rfl

/-- The last second before 1970 and a day of the year 10000. The first one is of another day than the second that
follows it, and of the same day as the midnight before it. -/
theorem dated_by_clock_around_zero :
    ∃ last first midnight far,
      (run [Entry.copilot] (fun _ => .ok Entry.respelledPayload)
        ⟨Entry.oneBlock, .ofSeconds (-1), false⟩).result = .ok last ∧
      (run twoSources differingDocuments ⟨bothCounts, .ofSeconds 0, false⟩).result = .ok first ∧
      (run twoSources differingDocuments ⟨bothCounts, .ofSeconds (-86400), true⟩).result = .ok midnight ∧
      (run twoSources differingDocuments ⟨bothCounts, .ofSeconds 253402300859, false⟩).result = .ok far ∧
      last.Dated (-1) ∧ far.Dated 253402300859 ∧ last.version ≠ first.version ∧
      last.version = midnight.version := by
  have accepted : Registry.check [Entry.copilot] = .ok () := by decide +kernel
  have acceptedBoth : Registry.check twoSources = .ok () := by decide +kernel
  have one (context : BuildContext) : ∀ source ∈ [Entry.copilot], ∃ entry,
      Entry.ofSource (fun _ => .ok Entry.respelledPayload) context source = .ok entry :=
    List.forall_mem_singleton.mpr
      (exists_ofSource_of_few rfl rfl RangeSet.denote_respelled (by decide) (by decide))
  have both (context : BuildContext) : ∀ source ∈ twoSources, ∃ entry,
      Entry.ofSource differingDocuments context source = .ok entry :=
    List.forall_mem_cons.mpr ⟨exists_ofSource_of_few rfl rfl RangeSet.denote_respelled (by decide) (by decide),
      List.forall_mem_singleton.mpr
        (exists_ofSource_of_few rfl rfl (RangeSet.denote_texts _) (by decide) (by decide))⟩
  obtain ⟨last, built⟩ := exists_run accepted (one ⟨Entry.oneBlock, .ofSeconds (-1), false⟩)
  obtain ⟨first, builtFirst⟩ := exists_run acceptedBoth (both ⟨bothCounts, .ofSeconds 0, false⟩)
  obtain ⟨midnight, builtMidnight⟩ := exists_run acceptedBoth (both ⟨bothCounts, .ofSeconds (-86400), true⟩)
  obtain ⟨far, builtFar⟩ := exists_run acceptedBoth (both ⟨bothCounts, .ofSeconds 253402300859, false⟩)
  obtain ⟨dated, day⟩ := dated_by_clock
  refine ⟨last, first, midnight, far, built, builtFirst, builtMidnight, builtFar, dated _ _ _ _ _ _ built,
    dated _ _ _ _ _ _ builtFar, ?_, ?_⟩
  · rw [ne_eq, day _ _ _ _ _ _ _ _ _ _ _ _ built builtFirst]
    decide
  · rw [day _ _ _ _ _ _ _ _ _ _ _ _ built builtMidnight]
    decide

end Build

end RangeCatalog
