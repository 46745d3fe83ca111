import RangeCatalog.Proofs.Catalog.Build

/-! # First failures

Where a build ends. A registry that breaks its rules is refused before anything is fetched. After that the
sources are fetched in their order up to the first that fails, whose error is the result, or all of them when
none fails. The run is taken apart at that source; every source before it adds its own URL and nothing else.
-/

namespace RangeCatalog.Build

variable {sources : List Source} {fetch : Fetcher} {context : BuildContext} {source : Source}
  {error : CatalogError}

/-- How a source fails: its document does not arrive, or no entry can be made of it. -/
inductive Fails (fetch : Fetcher) (context : BuildContext) (source : Source) : CatalogError → Prop where
  | transport {error : FetchError} (refused : fetch source.url = .error error) :
      Fails fetch context source (.transport source.setId error)
  | payload {payload : Payload} {error : CatalogError} (arrived : fetch source.url = .ok payload)
      (refused : Entry.ofPayload source payload context.baseline context.now.dateText
        context.allowLarge = .error error) :
      Fails fetch context source error

/-! ## One source -/

theorem ofSource_eq_error_iff :
    Entry.ofSource fetch context source = .error error ↔ Fails fetch context source error := by
  rw [Entry.ofSource]
  constructor
  · intro failed
    cases arrived : fetch source.url with
    | error cause =>
      rw [arrived] at failed
      cases failed
      exact .transport arrived
    | ok payload =>
      rw [arrived] at failed
      exact .payload arrived failed
  · intro fails
    cases fails with
    | transport refused =>
      rw [refused]
      rfl
    | payload arrived refused =>
      rw [arrived]
      exact refused

/-- A source that does not fail yields an entry. -/
theorem exists_ofSource (fine : ∀ error, ¬Fails fetch context source error) :
    ∃ entry, Entry.ofSource fetch context source = .ok entry := by
  cases outcome : Entry.ofSource fetch context source with
  | error error => exact absurd (ofSource_eq_error_iff.mp outcome) (fine error)
  | ok entry => exact ⟨entry, rfl⟩

/-! ## All sources -/

/-- The first source that fails is the last one that is fetched. -/
theorem entries_of_first {index : Nat} (here : sources[index]? = some source)
    (before : ∀ earlier ∈ sources.take index, ∀ error, ¬Fails fetch context earlier error)
    (fails : Fails fetch context source error) :
    entries fetch context sources =
      ((sources.take (index + 1)).map Source.url, .error error) := by
  induction sources generalizing index with
  | nil => simp at here
  | cons first rest ih =>
    cases index with
    | zero =>
      obtain rfl : first = source := Option.some.inj here
      rw [entries, ofSource_eq_error_iff.mpr fails]
      rfl
    | succ index =>
      have fine := before first (by simp)
      obtain ⟨entry, yielded⟩ := exists_ofSource fine
      have others : ∀ earlier ∈ rest.take index, ∀ error, ¬Fails fetch context earlier error := by
        intro earlier member
        exact before earlier (List.mem_cons_of_mem _ member)
      have tail := ih here others
      rw [entries, yielded]
      simp only [tail, List.take_succ_cons, List.map_cons, Except.map]

/-- Where no source fails, all of them are fetched. -/
theorem entries_of_fine (fine : ∀ source ∈ sources, ∀ error, ¬Fails fetch context source error) :
    ∃ made, entries fetch context sources = (sources.map Source.url, .ok made) := by
  induction sources with
  | nil => exact ⟨[], rfl⟩
  | cons first rest ih =>
    obtain ⟨entry, yielded⟩ := exists_ofSource (fine first List.mem_cons_self)
    obtain ⟨made, tail⟩ := ih fun source member => fine source (List.mem_cons_of_mem _ member)
    refine ⟨entry :: made, ?_⟩
    rw [entries, yielded]
    simp only [tail, List.map_cons, Except.map]

/-- Of the sources some of which fail there is a first that does. -/
theorem exists_first (failing : ¬∀ source ∈ sources, ∀ error, ¬Fails fetch context source error) :
    ∃ index source error, sources[index]? = some source ∧
      (∀ earlier ∈ sources.take index, ∀ error, ¬Fails fetch context earlier error) ∧
      Fails fetch context source error := by
  induction sources with
  | nil => simp at failing
  | cons first rest ih =>
    by_cases fine : ∀ error, ¬Fails fetch context first error
    · have later : ¬∀ source ∈ rest, ∀ error, ¬Fails fetch context source error := by
        intro others
        exact failing (List.forall_mem_cons.mpr ⟨fine, others⟩)
      obtain ⟨index, source, error, here, before, fails⟩ := ih later
      exact ⟨index + 1, source, error, here, List.forall_mem_cons.mpr ⟨fine, before⟩, fails⟩
    · obtain ⟨error, fails⟩ := not_forall_not.mp fine
      exact ⟨0, first, error, rfl, by simp, fails⟩

/-- The entries fail with the error of the first source that fails. -/
theorem entries_eq_error_iff :
    (entries fetch context sources).2 = .error error ↔
      ∃ index source, sources[index]? = some source ∧
        (∀ earlier ∈ sources.take index, ∀ error, ¬Fails fetch context earlier error) ∧
        Fails fetch context source error := by
  constructor
  · intro failed
    have failing : ¬∀ source ∈ sources, ∀ error, ¬Fails fetch context source error := by
      intro fine
      obtain ⟨made, listed⟩ := entries_of_fine fine
      rw [listed] at failed
      contradiction
    obtain ⟨index, source, cause, here, before, fails⟩ := exists_first failing
    rw [entries_of_first here before fails] at failed
    obtain rfl : cause = error := Except.error.inj failed
    exact ⟨index, source, here, before, fails⟩
  · rintro ⟨index, source, here, before, fails⟩
    rw [entries_of_first here before fails]

/-! ## Builds -/

theorem run_of_refused {error : RegistryError} (refused : Registry.check sources = .error error) :
    run sources fetch context = ⟨[], .error (.registry error)⟩ := by
  rw [run, refused]

theorem run_of_accepted (accepted : Registry.check sources = .ok ()) :
    run sources fetch context = ⟨(entries fetch context sources).1,
      (entries fetch context sources).2.map (catalog context.now)⟩ := by
  rw [run, accepted]

theorem run_of_first (accepted : Registry.check sources = .ok ()) {index : Nat}
    (here : sources[index]? = some source)
    (before : ∀ earlier ∈ sources.take index, ∀ error, ¬Fails fetch context earlier error)
    (fails : Fails fetch context source error) :
    run sources fetch context = ⟨(sources.take (index + 1)).map Source.url, .error error⟩ := by
  rw [run_of_accepted accepted, entries_of_first here before fails]
  rfl

theorem run_of_fine (accepted : Registry.check sources = .ok ())
    (fine : ∀ source ∈ sources, ∀ error, ¬Fails fetch context source error) :
    ∃ made, run sources fetch context = ⟨sources.map Source.url, .ok made⟩ := by
  obtain ⟨made, listed⟩ := entries_of_fine fine
  refine ⟨catalog context.now made, ?_⟩
  rw [run_of_accepted accepted, listed]
  rfl

/-- A build fails with the error of its registry, or of the first source that fails. -/
theorem run_eq_error_iff :
    (run sources fetch context).result = .error error ↔
      (∃ cause, Registry.check sources = .error cause ∧ error = .registry cause) ∨
      Registry.check sources = .ok () ∧ ∃ index source, sources[index]? = some source ∧
        (∀ earlier ∈ sources.take index, ∀ error, ¬Fails fetch context earlier error) ∧
        Fails fetch context source error := by
  rw [← entries_eq_error_iff]
  cases checked : Registry.check sources with
  | error cause => simp [run_of_refused checked, eq_comm]
  | ok done => simp [run_of_accepted checked, map_eq_error_iff]

/-- A build whose registry is refused fetches nothing. Any other build fetches the sources in their order,
each once, up to the first that fails, and ends with the error of that source; when none fails it fetches all
of them and succeeds. -/
theorem stops_at_first_failure (sources : List Source) (fetch : Fetcher) (context : BuildContext) :
    (∀ error, Registry.check sources = .error error →
      run sources fetch context = ⟨[], .error (.registry error)⟩) ∧
    (Registry.check sources = .ok () →
      (∀ index source error, sources[index]? = some source →
        (∀ earlier ∈ sources.take index, ∀ error, ¬Fails fetch context earlier error) →
        Fails fetch context source error →
          run sources fetch context = ⟨(sources.take (index + 1)).map Source.url, .error error⟩) ∧
      ((∀ source ∈ sources, ∀ error, ¬Fails fetch context source error) →
        ∃ made, run sources fetch context = ⟨sources.map Source.url, .ok made⟩)) := by
  refine ⟨fun error => run_of_refused, fun accepted => ⟨?_, ?_⟩⟩
  · intro index source error here before fails
    exact run_of_first accepted here before fails
  · intro fine
    exact run_of_fine accepted fine

/-- A source whose document lists texts under the same name as another one. -/
def listing (setId url : String) : Source :=
  { Entry.copilot with setId, url }

/-- Three sources. -/
def threeSources : List Source :=
  [Entry.copilot, listing "github_hooks" "https://api.github.com/hooks",
    listing "github_pages" "https://api.github.com/pages"]

/-- Servers that have the document of the first of them only. -/
def oneDocument : Fetcher := fun url =>
  if url = "https://api.github.com/meta" then .ok Entry.respelledPayload else .error (.httpStatus url 503)

/-- A build against a catalog in which the first source had one block. -/
def strictContext : BuildContext :=
  ⟨Entry.oneBlock, Instant.ofSeconds 1748766600, false⟩

theorem fine_copilot : ∀ error, ¬Fails oneDocument strictContext Entry.copilot error := by
  intro error fails
  obtain ⟨entry, made⟩ := Entry.exists_ofPayload_iff.mpr
    ⟨Entry.keyed_copilot, _, _, Entry.declares_respelled, RangeSet.denote_respelled,
      Entry.admissible_respelled⟩
  have yielded : Entry.ofSource oneDocument strictContext Entry.copilot = .ok entry :=
    ofSource_eq_ok_iff.mpr ⟨_, rfl, made⟩
  rw [ofSource_eq_error_iff.mpr fails] at yielded
  contradiction

/-- Of the three sources the second one fails, and the third one is not fetched. The first one alone does not
fail, and listed twice it is refused. -/
theorem stops_at_first_failure_second :
    Registry.check threeSources = .ok () ∧
    (∀ earlier ∈ threeSources.take 1, ∀ error, ¬Fails oneDocument strictContext earlier error) ∧
    run threeSources oneDocument strictContext =
      ⟨["https://api.github.com/meta", "https://api.github.com/hooks"],
        .error (.transport "github_hooks" (.httpStatus "https://api.github.com/hooks" 503))⟩ ∧
    (∃ made, run [Entry.copilot] oneDocument strictContext =
      ⟨["https://api.github.com/meta"], .ok made⟩) ∧
    run [Entry.copilot, Entry.copilot] oneDocument strictContext =
      ⟨[], .error (.registry (.duplicateId "github_copilot"))⟩ := by
  have accepted : Registry.check threeSources = .ok () := by decide +kernel
  have alone : Registry.check [Entry.copilot] = .ok () := by decide +kernel
  have repeated : Registry.check [Entry.copilot, Entry.copilot] =
      .error (.duplicateId "github_copilot") := by decide +kernel
  have fine : ∀ source ∈ [Entry.copilot], ∀ error, ¬Fails oneDocument strictContext source error := by
    intro source member
    obtain rfl : source = Entry.copilot := List.mem_singleton.mp member
    exact fine_copilot
  obtain ⟨_, stops⟩ := stops_at_first_failure threeSources oneDocument strictContext
  obtain ⟨_, succeeds⟩ := stops_at_first_failure [Entry.copilot] oneDocument strictContext
  obtain ⟨refuses, _⟩ := stops_at_first_failure [Entry.copilot, Entry.copilot] oneDocument strictContext
  refine ⟨accepted, fine, ?_, ?_, refuses _ repeated⟩
  · exact (stops accepted).1 1 _ _ rfl fine (.transport rfl)
  · exact (succeeds alone).2 fine

end RangeCatalog.Build
