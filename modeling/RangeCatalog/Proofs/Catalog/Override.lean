import RangeCatalog.Proofs.Catalog.FirstFailure

/-! # Accepting large growth

What changes when growth beyond the bounds is accepted. Only the growth guard looks at that option and at
the baseline, and it can only refuse: whatever else ends a build ends it with the option as well, at the same
source, and what is built without the option is built with it. Past a source that grew too much, the build
with the option goes on.
-/

namespace RangeCatalog.Build

variable {sources : List Source} {fetch : Fetcher} {context : BuildContext} {source : Source}
  {error : CatalogError}

/-! ## One source -/

/-- A source fails for its growth, where that is not accepted, or for what is wrong in any context. -/
theorem Fails.growth_or_always (fails : Fails fetch context source error) :
    (∃ violation, error = .growth violation ∧ violation.setId = source.setId ∧
      context.allowLarge = false) ∨
    (∀ violation, error ≠ .growth violation) ∧ ∀ other, Fails fetch other source error := by
  cases fails with
  | transport refused => exact .inr ⟨fun _ => by simp, fun _ => .transport refused⟩
  | payload arrived refused =>
    cases Entry.ofPayload_eq_error_iff.mp refused with
    | shape misshapen =>
      exact .inr ⟨fun _ => by simp, fun _ =>
        .payload arrived (Entry.ofPayload_eq_error_iff.mpr (.shape misshapen))⟩
    | ranges extracted unread =>
      exact .inr ⟨fun _ => by simp, fun _ =>
        .payload arrived (Entry.ofPayload_eq_error_iff.mpr (.ranges extracted unread))⟩
    | @growth _ ranges violation extracted read grown =>
      refine .inl ⟨violation, rfl, Growth.setId_of_check grown, ?_⟩
      cases option : context.allowLarge with
      | false => rfl
      | true =>
        rw [option, Growth.check_of_allowed] at grown
        contradiction

private theorem Fails.unique {cause : CatalogError} (fails : Fails fetch context source error)
    (also : Fails fetch context source cause) : error = cause := by
  have same := ofSource_eq_error_iff.mpr fails
  rw [ofSource_eq_error_iff.mpr also] at same
  exact (Except.error.inj same).symm

/-- With the option, a source fails for what is wrong in any context, and that is not its growth. -/
theorem Fails.always (fails : Fails fetch context source error) (option : context.allowLarge = true) :
    (∀ violation, error ≠ .growth violation) ∧ ∀ other, Fails fetch other source error := by
  rcases fails.growth_or_always with ⟨_, _, _, strict⟩ | always
  · rw [option] at strict
    contradiction
  · exact always

private theorem Fails.setId_eq {violation : Growth.Violation}
    (fails : Fails fetch context source (.growth violation)) : violation.setId = source.setId := by
  rcases fails.growth_or_always with ⟨other, same, setId, _⟩ | ⟨otherwise, _⟩
  · obtain rfl : violation = other := CatalogError.growth.inj same
    exact setId
  · exact absurd rfl (otherwise violation)

/-- A source that only grew too much does not fail with the option. -/
theorem Fails.fine_of_growth {violation : Growth.Violation}
    (fails : Fails fetch context source (.growth violation)) {other : BuildContext}
    (option : other.allowLarge = true) (error : CatalogError) : ¬Fails fetch other source error := by
  intro still
  obtain ⟨otherwise, always⟩ := still.always option
  exact otherwise violation ((always context).unique fails)

/-- With the option, a source yields the same entry that it yields without. -/
theorem ofSource_of_allowed {entry : Entry} (yielded : Entry.ofSource fetch context source = .ok entry)
    {other : BuildContext} (day : other.now = context.now) (option : other.allowLarge = true) :
    Entry.ofSource fetch other source = .ok entry := by
  obtain ⟨payload, arrived, made⟩ := ofSource_eq_ok_iff.mp yielded
  obtain ⟨extraction, ranges, extracted, read, _, rfl⟩ := Entry.ofPayload_eq_ok_iff.mp made
  refine ofSource_eq_ok_iff.mpr ⟨payload, arrived, ?_⟩
  rw [day, option]
  exact Entry.ofPayload_eq_ok_iff.mpr
    ⟨extraction, ranges, extracted, read, Growth.check_of_allowed _ _ _, rfl⟩

/-! ## Builds -/

/-- A build depends on its context through the time and through what each source yields. -/
theorem run_congr {other : BuildContext} (time : context.now = other.now)
    (same : ∀ source ∈ sources, Entry.ofSource fetch context source = Entry.ofSource fetch other source) :
    run sources fetch context = run sources fetch other := by
  have listed : entries fetch context sources = entries fetch other sources := by
    induction sources with
    | nil => rfl
    | cons first rest ih =>
      obtain ⟨here, later⟩ := List.forall_mem_cons.mp same
      rw [entries, entries, here, ih later]
  simp only [run, listed, time]

/-- With the option, the baseline makes no difference. -/
theorem run_of_allowed (sources : List Source) (fetch : Fetcher) (baseline other : Baseline)
    (now : Instant) :
    run sources fetch ⟨other, now, true⟩ = run sources fetch ⟨baseline, now, true⟩ := by
  refine run_congr rfl ?_
  intro source _
  cases outcome : Entry.ofSource fetch ⟨baseline, now, true⟩ source with
  | error error =>
    exact ofSource_eq_error_iff.mpr (((ofSource_eq_error_iff.mp outcome).always rfl).2 _)
  | ok entry => exact ofSource_of_allowed outcome rfl rfl

variable {baseline : Baseline} {now : Instant}

/-- What is built without the option is built with it. -/
theorem run_of_ok {made : Catalog} (built : (run sources fetch ⟨baseline, now, false⟩).result = .ok made) :
    run sources fetch ⟨baseline, now, true⟩ = run sources fetch ⟨baseline, now, false⟩ := by
  obtain ⟨_, listed, yields, _⟩ := run_eq_ok_iff.mp built
  refine run_congr rfl ?_
  intro source member
  obtain ⟨entry, _, yielded⟩ := exists_of_mem_right yields.flip member
  have allowed : Entry.ofSource fetch ⟨baseline, now, true⟩ source = .ok entry :=
    ofSource_of_allowed yielded rfl rfl
  exact allowed.trans yielded.symm

/-- What a source is refused for besides its growth ends the build with the option as well. -/
theorem run_of_error (failed : (run sources fetch ⟨baseline, now, false⟩).result = .error error)
    (otherwise : ∀ violation, error ≠ .growth violation) :
    run sources fetch ⟨baseline, now, true⟩ = run sources fetch ⟨baseline, now, false⟩ := by
  rcases run_eq_error_iff.mp failed with ⟨cause, refused, _⟩ | ⟨accepted, index, source, here, before, fails⟩
  · rw [run_of_refused refused, run_of_refused refused]
  · have still : Fails fetch ⟨baseline, now, true⟩ source error := by
      rcases fails.growth_or_always with ⟨violation, growth, _⟩ | ⟨_, always⟩
      · exact absurd growth (otherwise violation)
      · exact always _
    have fine : ∀ earlier ∈ sources.take index, ∀ error,
        ¬Fails fetch ⟨baseline, now, true⟩ earlier error := by
      intro earlier member error failing
      exact before earlier member error ((failing.always rfl).2 _)
    rw [run_of_first accepted here fine still, run_of_first accepted here before fails]

private theorem growth_not_allowed (violation : Growth.Violation) :
    (run sources fetch ⟨baseline, now, true⟩).result ≠ .error (.growth violation) := by
  intro failed
  rcases run_eq_error_iff.mp failed with ⟨cause, _, other⟩ | ⟨_, _, source, _, _, fails⟩
  · contradiction
  · exact (fails.always rfl).1 violation rfl

/-- A build that ends with a violation ends at the source that grew too much, and goes on past it with the
option. -/
theorem run_of_growth {violation : Growth.Violation}
    (failed : (run sources fetch ⟨baseline, now, false⟩).result = .error (.growth violation)) :
    ∃ index source, sources[index]? = some source ∧
      Fails fetch ⟨baseline, now, false⟩ source (.growth violation) ∧
      (run sources fetch ⟨baseline, now, false⟩).fetched =
        (sources.take (index + 1)).map Source.url ∧
      ((∃ made, run sources fetch ⟨baseline, now, true⟩ = ⟨sources.map Source.url, .ok made⟩) ∨
        ∃ later other error, index < later ∧ sources[later]? = some other ∧
          Fails fetch ⟨baseline, now, true⟩ other error ∧
          run sources fetch ⟨baseline, now, true⟩ =
            ⟨(sources.take (later + 1)).map Source.url, .error error⟩) := by
  rcases run_eq_error_iff.mp failed with ⟨cause, _, other⟩ | ⟨accepted, index, source, here, before, fails⟩
  · contradiction
  refine ⟨index, source, here, fails, ?_, ?_⟩
  · rw [run_of_first accepted here before fails]
  by_cases fine : ∀ source ∈ sources, ∀ error, ¬Fails fetch ⟨baseline, now, true⟩ source error
  · exact .inl (run_of_fine accepted fine)
  · obtain ⟨later, other, error, there, earlier, failing⟩ := exists_first fine
    refine .inr ⟨later, other, error, ?_, there, failing, run_of_first accepted there earlier failing⟩
    -- Up to the violation no source fails with the option.
    by_contra notLater
    rcases Nat.lt_or_eq_of_le (Nat.le_of_not_lt notLater) with sooner | rfl
    · have member : other ∈ sources.take index :=
        List.mem_iff_getElem?.mpr ⟨later, by rw [List.getElem?_take_of_lt sooner, there]⟩
      exact before other member error ((failing.always rfl).2 _)
    · obtain rfl : source = other := Option.some.inj (here.symm.trans there)
      exact fails.fine_of_growth rfl error failing

/-- Accepting large growth only takes the growth guard away. A build that succeeds without the option succeeds
with it in the same way, and one that fails for another reason fails in the same way. Where a build ends with a
violation, the one with the option fetches at least as much, and succeeds or fails at a later source. With the
option there is no violation, and the baseline makes no difference. -/
theorem override_relaxes_growth_only (sources : List Source) (fetch : Fetcher) (baseline : Baseline)
    (now : Instant) :
    (∀ made, (run sources fetch ⟨baseline, now, false⟩).result = .ok made →
      run sources fetch ⟨baseline, now, true⟩ = run sources fetch ⟨baseline, now, false⟩) ∧
    (∀ error, (run sources fetch ⟨baseline, now, false⟩).result = .error error →
      (∀ violation, error ≠ .growth violation) →
      run sources fetch ⟨baseline, now, true⟩ = run sources fetch ⟨baseline, now, false⟩) ∧
    (∀ violation, (run sources fetch ⟨baseline, now, false⟩).result = .error (.growth violation) →
      ∃ index source, sources[index]? = some source ∧
        Fails fetch ⟨baseline, now, false⟩ source (.growth violation) ∧
        violation.setId = source.setId ∧
        (run sources fetch ⟨baseline, now, false⟩).fetched =
          (sources.take (index + 1)).map Source.url ∧
        (run sources fetch ⟨baseline, now, false⟩).fetched <+:
          (run sources fetch ⟨baseline, now, true⟩).fetched ∧
        ((∃ made, (run sources fetch ⟨baseline, now, true⟩).result = .ok made) ∨
          ∃ later other error, index < later ∧ sources[later]? = some other ∧
            Fails fetch ⟨baseline, now, true⟩ other error ∧
            run sources fetch ⟨baseline, now, true⟩ =
              ⟨(sources.take (later + 1)).map Source.url, .error error⟩)) ∧
    (∀ violation, (run sources fetch ⟨baseline, now, true⟩).result ≠ .error (.growth violation)) ∧
    (∀ other, run sources fetch ⟨other, now, true⟩ = run sources fetch ⟨baseline, now, true⟩) := by
  refine ⟨fun _ => run_of_ok, fun _ => run_of_error, ?_, growth_not_allowed, ?_⟩
  · intro violation failed
    obtain ⟨index, source, here, fails, fetched, goesOn⟩ := run_of_growth failed
    refine ⟨index, source, here, fails, fails.setId_eq, fetched, ?_, ?_⟩
    · rw [fetched]
      rcases goesOn with ⟨made, built⟩ | ⟨later, _, _, after, _, _, ended⟩
      · rw [built]
        exact (List.take_prefix _ _).map _
      · rw [ended]
        exact (List.take_prefix_take_left (by omega)).map _
    · rcases goesOn with ⟨made, built⟩ | failsLater
      · exact .inl ⟨made, by rw [built]⟩
      · exact .inr failsLater
  · exact fun other => run_of_allowed sources fetch baseline other now

/-! ## A set that grew too much -/

/-- The block of all addresses with a given first octet. -/
def wideBlock (octet : Fin 256) : Block where
  family := .v4
  network := octet.val * 16777216
  length := 8
  network_lt := by
    have size : Nat.pow 2 Family.v4.width = 256 * 16777216 := by decide
    rw [size]
    exact Nat.mul_lt_mul_of_pos_right octet.isLt (by decide)
  length_le := by decide
  length_ge := by decide
  aligned := Nat.mul_mod_left octet.val 16777216

/-- Two blocks more than a set that had one may have. -/
def wideBlocks : List Block :=
  (List.range 70).map fun octet => wideBlock (Fin.ofNat 256 octet)

/-- A document that lists them. -/
def widePayload : Payload :=
  ⟨[("copilot", .array ((wideBlocks.map Block.text).map .string))]⟩

/-- Servers that have this document under every URL. -/
def wideDocuments : Fetcher := fun _ => .ok widePayload

private theorem exists_extracted_wide : ∃ ranges,
    Extraction.ofPayload widePayload Entry.copilot = .ok ⟨wideBlocks.map Block.text, none⟩ ∧
    RangeSet.ofTexts (wideBlocks.map Block.text) = .ok ranges ∧ ranges.size = 70 := by
  have counted : wideBlocks.toFinset.card = 70 := by decide +kernel
  obtain ⟨ranges, made⟩ := RangeSet.exists_ofBlocks_iff.mpr
    (show 1 ≤ wideBlocks.toFinset.card ∧ wideBlocks.toFinset.card ≤ maxBlocks by rw [counted]; decide)
  refine ⟨ranges, ?_, ?_, ?_⟩
  · exact Extraction.ofPayload_eq_ok_iff.mpr ⟨Entry.keyed_copilot, Entry.declares_texts _, rfl⟩
  · rw [RangeSet.ofTexts_of_denote (RangeSet.denote_texts wideBlocks), made]
  · rw [RangeSet.size, RangeSet.ofBlocks_eq_ok_iff.mp made, RangeSet.length_sorted, counted]

/-- The set is refused without the option. -/
theorem fails_wide : Fails wideDocuments strictContext Entry.copilot
    (.growth ⟨"github_copilot", 1, 70⟩) := by
  obtain ⟨ranges, extracted, read, size⟩ := exists_extracted_wide
  refine .payload rfl (Entry.ofPayload_eq_error_iff.mpr (.growth extracted read ?_))
  rw [size]
  rfl

/-- A build like the strict one, with the option. -/
def lenientContext : BuildContext :=
  ⟨strictContext.baseline, strictContext.now, true⟩

/-- A set that grew too much ends the build, and with the option the build succeeds. Another build succeeds
either way, and one of three sources fails either way at the second. -/
theorem override_relaxes_growth_only_wide :
    (run [Entry.copilot] wideDocuments strictContext).result =
      .error (.growth ⟨"github_copilot", 1, 70⟩) ∧
    (∃ made, (run [Entry.copilot] wideDocuments lenientContext).result =
      .ok made) ∧
    (∃ made, (run [Entry.copilot] oneDocument strictContext).result = .ok made) ∧
    run [Entry.copilot] oneDocument lenientContext =
      run [Entry.copilot] oneDocument strictContext ∧
    (run threeSources oneDocument lenientContext).result =
      .error (.transport "github_hooks" (.httpStatus "https://api.github.com/hooks" 503)) := by
  have alone : Registry.check [Entry.copilot] = .ok () := by decide +kernel
  have accepted : Registry.check threeSources = .ok () := by decide +kernel
  have before : ∀ earlier ∈ [Entry.copilot].take 0, ∀ error,
      ¬Fails wideDocuments strictContext earlier error := by simp
  have grown := run_of_first alone rfl before fails_wide
  have fine : ∀ source ∈ [Entry.copilot], ∀ error, ¬Fails oneDocument strictContext source error :=
    List.forall_mem_singleton.mpr fine_copilot
  have lost : Fails oneDocument strictContext (listing "github_hooks" "https://api.github.com/hooks")
      (.transport "github_hooks" (.httpStatus "https://api.github.com/hooks" 503)) := .transport rfl
  have second : threeSources[1]? = some (listing "github_hooks" "https://api.github.com/hooks") := rfl
  have stopped := run_of_first accepted second fine lost
  obtain ⟨made, built⟩ := run_of_fine alone fine
  obtain ⟨_, _, goesOn, _⟩ := override_relaxes_growth_only [Entry.copilot] wideDocuments Entry.oneBlock
    strictContext.now
  obtain ⟨same, _⟩ := override_relaxes_growth_only [Entry.copilot] oneDocument Entry.oneBlock
    strictContext.now
  obtain ⟨_, sameError, _⟩ := override_relaxes_growth_only threeSources oneDocument Entry.oneBlock
    strictContext.now
  have otherwise := sameError _ (congrArg Build.result stopped) (by simp)
  refine ⟨congrArg Build.result grown, ?_, ⟨made, congrArg Build.result built⟩,
    same made (congrArg Build.result built), congrArg Build.result (otherwise.trans stopped)⟩
  obtain ⟨index, _, _, _, _, _, _, succeeds | ⟨later, _, _, after, there, _⟩⟩ :=
    goesOn _ (congrArg Build.result grown)
  · exact succeeds
  · -- There is no source after the first.
    obtain ⟨inside, _⟩ := List.getElem?_eq_some_iff.mp there
    rw [List.length_singleton] at inside
    omega

end RangeCatalog.Build
