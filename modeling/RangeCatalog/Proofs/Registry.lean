import RangeCatalog.Proofs.Catalog.FirstFailure
import RangeCatalog.Proofs.Fetch.Body
import RangeCatalog.Proofs.Fetch.Redirects
import RangeCatalog.Proofs.Text.Blank

/-! # Rules of the registry

The check of a registry is exact: it accepts the lists whose sources keep the rules, and otherwise names the
first source that breaks one. Two of the rules are checked again where they are used, when a URL is fetched
and when an array is extracted. Both checks agree with those of the registry, so that in a build they never
fail.
-/

namespace RangeCatalog

namespace Registry

/-- What the rules ask of a source alone. -/
structure Sound (source : Source) : Prop where
  named : trim source.setId ≠ ""
  allowed : ∃ url, Url.ofAllowedText source.url = .ok url
  keyed : source.layout.Keyed

/-- What the rules ask of a list of sources. -/
structure Keeps (sources : List Source) : Prop where
  sound : ∀ source ∈ sources, Sound source
  distinct : (sources.map Source.setId).Nodup

/-- Which rule a source breaks first after some others, and what is reported then. -/
inductive Breaks (earlier : List Source) (source : Source) : RegistryError → Prop where
  | blankId (blank : trim source.setId = "") : Breaks earlier source (.blankId source.url)
  | duplicateId (named : trim source.setId ≠ "") (known : source.setId ∈ earlier.map Source.setId) :
      Breaks earlier source (.duplicateId source.setId)
  | refusedUrl {error : FetchError} (named : trim source.setId ≠ "")
      (fresh : source.setId ∉ earlier.map Source.setId)
      (refused : Url.ofAllowedText source.url = .error error) :
      Breaks earlier source (.refusedUrl source.setId error)
  | missingKey (named : trim source.setId ≠ "") (fresh : source.setId ∉ earlier.map Source.setId)
      (allowed : ∃ url, Url.ofAllowedText source.url = .ok url) (keyless : ¬source.layout.Keyed) :
      Breaks earlier source (.missingKey source.setId)

/-! ## One source -/

variable {seen : List String} {earlier before sources : List Source} {source : Source} {error : RegistryError}

private theorem keyless_iff {layout : Layout} :
    (layout.key?.map isBlankText).getD false = true ↔ ¬layout.Keyed := by
  cases layout with
  | prefixObjects => simp [Layout.key?, Layout.Keyed]
  | textArray key => simp [Layout.key?, Layout.Keyed]

/-- A source keeps the rules or breaks one of them first. -/
theorem sound_or_breaks (earlier : List Source) (source : Source) :
    Sound source ∧ source.setId ∉ earlier.map Source.setId ∨ ∃ error, Breaks earlier source error := by
  by_cases blank : trim source.setId = ""
  · exact .inr ⟨_, .blankId blank⟩
  by_cases known : source.setId ∈ earlier.map Source.setId
  · exact .inr ⟨_, .duplicateId blank known⟩
  cases allowed : Url.ofAllowedText source.url with
  | error error => exact .inr ⟨_, .refusedUrl blank known allowed⟩
  | ok url =>
    by_cases keyed : source.layout.Keyed
    · exact .inl ⟨⟨blank, ⟨url, allowed⟩, keyed⟩, known⟩
    · exact .inr ⟨_, .missingKey blank known ⟨url, allowed⟩ keyed⟩

private theorem checkSource_of_sound (sound : Sound source) (fresh : source.setId ∉ seen) :
    checkSource seen source = .ok () := by
  obtain ⟨url, allowed⟩ := sound.allowed
  have named := mt isBlankText_iff.mp sound.named
  have keyed := mt keyless_iff.mp (not_not_intro sound.keyed)
  simp only [checkSource, if_neg named, if_neg fresh, allowed, if_neg keyed]

/-- The ids of some sources as the check remembers them, the last first. -/
def remembered (earlier : List Source) : List String :=
  (earlier.map Source.setId).reverse

private theorem mem_remembered {id : String} : id ∈ remembered earlier ↔ id ∈ earlier.map Source.setId :=
  List.mem_reverse

private theorem remembered_concat (earlier : List Source) (source : Source) :
    remembered (earlier ++ [source]) = source.setId :: remembered earlier := by
  simp [remembered]

private theorem checkSource_of_breaks (breaks : Breaks earlier source error) :
    checkSource (remembered earlier) source = .error error := by
  simp only [checkSource, mem_remembered]
  cases breaks with
  | blankId blank => rw [if_pos (isBlankText_iff.mpr blank)]
  | duplicateId named known =>
    rw [if_neg (mt isBlankText_iff.mp named), if_pos known]
  | refusedUrl named fresh refused =>
    rw [if_neg (mt isBlankText_iff.mp named), if_neg fresh, refused]
  | missingKey named fresh allowed keyless =>
    obtain ⟨url, allowed⟩ := allowed
    simp only [if_neg (mt isBlankText_iff.mp named), if_neg fresh, allowed,
      if_pos (keyless_iff.mpr keyless)]

/-! ## All sources -/

private theorem keeps_nil : Keeps [] :=
  ⟨by simp, List.nodup_nil⟩

private theorem keeps_concat_iff : Keeps (earlier ++ [source]) ↔
    Keeps earlier ∧ Sound source ∧ source.setId ∉ earlier.map Source.setId := by
  constructor
  · rintro ⟨sound, distinct⟩
    rw [List.map_append, List.nodup_append'] at distinct
    refine ⟨⟨fun other member => sound other (List.mem_append_left _ member), distinct.1⟩, ?_, ?_⟩
    · exact sound source (List.mem_append_right _ (List.mem_singleton_self source))
    · exact fun known => distinct.2.2 known (List.mem_singleton_self source.setId)
  · rintro ⟨⟨sound, distinct⟩, here, fresh⟩
    refine ⟨?_, ?_⟩
    · rw [List.forall_mem_append, List.forall_mem_singleton]
      exact ⟨sound, here⟩
    · rw [List.map_append, List.map_singleton, ← List.concat_eq_append]
      exact distinct.concat fresh

/-- A list keeps the rules, or it has a first source that breaks one. -/
theorem keeps_or_first (keeps : Keeps earlier) (sources : List Source) :
    Keeps (earlier ++ sources) ∨ ∃ before source after error, sources = before ++ source :: after ∧
      Keeps (earlier ++ before) ∧ Breaks (earlier ++ before) source error := by
  induction sources generalizing earlier with
  | nil => exact .inl (by rwa [List.append_nil])
  | cons source rest ih =>
    rcases sound_or_breaks earlier source with ⟨sound, fresh⟩ | ⟨error, breaks⟩
    · have further := ih (keeps_concat_iff.mpr ⟨keeps, sound, fresh⟩)
      simp only [List.append_assoc, List.singleton_append] at further
      rcases further with all | ⟨before, first, after, error, rfl, kept, breaks⟩
      · exact .inl all
      · exact .inr ⟨source :: before, first, after, error, rfl, kept, breaks⟩
    · refine .inr ⟨[], source, rest, error, rfl, ?_, ?_⟩ <;> rwa [List.append_nil]

private theorem Keeps.left {after : List Source} (keeps : Keeps (before ++ after)) : Keeps before := by
  refine ⟨fun source member => keeps.sound source (List.mem_append_left _ member), ?_⟩
  have distinct := keeps.distinct
  rw [List.map_append] at distinct
  exact distinct.of_append_left

/-- Sources that keep the rules are passed over, and their ids are remembered. -/
theorem checkFrom_append (keeps : Keeps (earlier ++ before)) (rest : List Source) :
    checkFrom (remembered earlier) (before ++ rest) =
      checkFrom (remembered (earlier ++ before)) rest := by
  induction before generalizing earlier with
  | nil => rw [List.append_nil, List.nil_append]
  | cons source before ih =>
    rw [← List.singleton_append, ← List.append_assoc] at keeps
    obtain ⟨_, sound, fresh⟩ := keeps_concat_iff.mp keeps.left
    have passed := checkSource_of_sound sound (mt mem_remembered.mp fresh)
    have others := ih keeps
    rw [remembered_concat, List.append_assoc, List.singleton_append] at others
    rw [← others, List.cons_append, checkFrom, passed]
    rfl

private theorem check_of_keeps (keeps : Keeps sources) : check sources = .ok () := by
  have passed := checkFrom_append (show Keeps ([] ++ sources) from keeps) []
  rwa [List.append_nil] at passed

private theorem check_of_breaks {after : List Source} (keeps : Keeps before)
    (breaks : Breaks before source error) : check (before ++ source :: after) = .error error := by
  have reached := checkFrom_append (show Keeps ([] ++ before) from keeps) (source :: after)
  rw [List.nil_append, checkFrom, checkSource_of_breaks breaks] at reached
  exact reached

/-- The whole list keeps the rules and is accepted, or its first source that breaks one decides the error. -/
theorem check_cases (sources : List Source) :
    Keeps sources ∧ check sources = .ok () ∨
    ∃ before source after error, sources = before ++ source :: after ∧ Keeps before ∧
      Breaks before source error ∧ check sources = .error error := by
  have either := keeps_or_first keeps_nil sources
  simp only [List.nil_append] at either
  rcases either with keeps | ⟨before, source, after, error, rfl, keeps, breaks⟩
  · exact .inl ⟨keeps, check_of_keeps keeps⟩
  · exact .inr ⟨before, source, after, error, rfl, keeps, breaks, check_of_breaks keeps breaks⟩

theorem check_eq_ok_iff : check sources = .ok () ↔ Keeps sources := by
  refine ⟨?_, check_of_keeps⟩
  intro accepted
  rcases check_cases sources with ⟨keeps, _⟩ | ⟨_, _, _, error, _, _, _, refused⟩
  · exact keeps
  · rw [accepted] at refused
    cases refused

theorem check_eq_error_iff : check sources = .error error ↔
    ∃ before source after, sources = before ++ source :: after ∧ Keeps before ∧
      Breaks before source error := by
  constructor
  · intro refused
    rcases check_cases sources with ⟨_, accepted⟩ | ⟨before, source, after, cause, whole, keeps, breaks, same⟩
    · rw [refused] at accepted
      contradiction
    · rw [refused] at same
      obtain rfl : error = cause := Except.error.inj same
      exact ⟨before, source, after, whole, keeps, breaks⟩
  · rintro ⟨before, source, after, rfl, keeps, breaks⟩
    exact check_of_breaks keeps breaks

end Registry

/-! ## Checks that are made again -/

/-- Whether an error says that a URL may not be contacted. -/
def FetchError.RefusesUrl : FetchError → Prop
  | invalidUrl _ _ | disallowedScheme _ | disallowedHost _ => True
  | _ => False

/-- Whether an error reports what the rules of the registry rule out. -/
def CatalogError.RuledOut : CatalogError → Prop
  | shape (.missingKey _) => True
  | transport _ error => error.RefusesUrl
  | _ => False

variable {network : Network} {url : Url} {text : String} {max : Nat} {error : FetchError}

private theorem Url.refusesUrl_of_ofAllowedText (refused : Url.ofAllowedText text = .error error) :
    error.RefusesUrl := by
  rw [Url.ofAllowedText] at refused
  cases read : Url.ofText text with
  | error cause =>
    rw [read] at refused
    obtain rfl := Except.error.inj refused
    trivial
  | ok url =>
    simp only [read, bind_eq_error_iff, pure, Except.pure, reduceCtorEq, and_false, exists_const,
      or_false, Url.allowance] at refused
    split_ifs at refused <;> obtain rfl := Except.error.inj refused <;> trivial

private theorem Response.payload_not_refusesUrl {response : Response}
    (failed : response.payload text max = .error error) : ¬error.RefusesUrl := by
  rcases Response.payload_eq_error failed with
    ⟨_, rfl⟩ | ⟨_, rfl⟩ | rfl | rfl | rfl <;> exact id

/-- A fetch refuses exactly the URLs that the check of the registry refuses, with the same error. -/
theorem Client.fetch_refusesUrl_iff :
    (Client.fetch network max text).result = .error error ∧ error.RefusesUrl ↔
      Url.ofAllowedText text = .error error := by
  rw [Client.fetch]
  cases allowed : Url.ofAllowedText text with
  | error cause =>
    simp only [Except.error.injEq, and_iff_left_iff_imp]
    rintro rfl
    exact Url.refusesUrl_of_ofAllowedText allowed
  | ok url =>
    simp only [reduceCtorEq, iff_false, not_and]
    intro failed
    cases outcome : (chase network [] url).outcome with
    | answered response =>
      rw [outcome] at failed
      exact Response.payload_not_refusesUrl failed
    | unanswered =>
      rw [outcome] at failed
      obtain rfl := Except.error.inj failed
      exact id
    | tooManyRedirects =>
      rw [outcome] at failed
      obtain rfl := Except.error.inj failed
      exact id

namespace Build

variable {fetch : Fetcher} {context : BuildContext} {source : Source}

/-- A source that keeps the rules does not fail for what they rule out. -/
theorem not_ruledOut_of_fails (sound : Registry.Sound source)
    (fetched : fetch source.url = (Client.fetch network max source.url).result) {error : CatalogError}
    (fails : Fails fetch context source error) : ¬error.RuledOut := by
  cases fails with
  | transport refused =>
    intro refusesUrl
    obtain ⟨url, allowed⟩ := sound.allowed
    rw [fetched] at refused
    rw [Client.fetch_refusesUrl_iff.mp ⟨refused, refusesUrl⟩] at allowed
    contradiction
  | payload arrived refused =>
    cases Entry.ofPayload_eq_error_iff.mp refused with
    | @shape shape misshapen =>
      cases shape with
      | missingKey setId =>
        exact absurd sound.keyed (Extraction.ofPayload_eq_missingKey_iff.mp misshapen).1
      | _ => exact id
    | ranges => exact id
    | growth => exact id

/-- What the clients of a build yield over servers that may answer each URL of the registry differently. -/
def fetcher (networks : String → Network) (max : Nat) : Fetcher := fun url =>
  (Client.fetch (networks url) max url).result

end Build

/-- A registry is accepted exactly when every source keeps the rules and no id is repeated; otherwise the error
is about the first source that breaks a rule. Whatever the servers answer, no source of an accepted registry
fails for a missing key or for a URL that may not be contacted, and no build does. -/
theorem Registry.check_exact :
    (∀ sources, check sources = .ok () ↔
      (∀ source ∈ sources, trim source.setId ≠ "") ∧ (sources.map Source.setId).Nodup ∧
      (∀ source ∈ sources, ∃ url, Url.ofAllowedText source.url = .ok url) ∧
      ∀ source ∈ sources, source.layout.Keyed) ∧
    (∀ sources error, check sources = .error error ↔
      ∃ before source after, sources = before ++ source :: after ∧ check before = .ok () ∧
        Breaks before source error) ∧
    (∀ sources (context : BuildContext), check sources = .ok () → ∀ source ∈ sources,
      ∀ (network : Network) (max : Nat) (error : CatalogError),
        Entry.ofSource (fun url => (Client.fetch network max url).result) context source = .error error →
          ¬error.RuledOut) ∧
    (∀ sources (networks : String → Network) (max : Nat) (context : BuildContext) (error : CatalogError),
      (Build.run sources (Build.fetcher networks max) context).result = .error error →
        (∀ setId, error ≠ .shape (.missingKey setId)) ∧
        ∀ setId cause, error = .transport setId cause → ¬cause.RefusesUrl) := by
  refine ⟨?_, ?_, ?_, ?_⟩
  · intro sources
    rw [check_eq_ok_iff]
    constructor
    · rintro ⟨sound, distinct⟩
      exact ⟨fun source member => (sound source member).named, distinct,
        fun source member => (sound source member).allowed,
        fun source member => (sound source member).keyed⟩
    · rintro ⟨named, distinct, allowed, keyed⟩
      exact ⟨fun source member => ⟨named source member, allowed source member, keyed source member⟩,
        distinct⟩
  · intro sources error
    simp only [check_eq_error_iff, check_eq_ok_iff]
  · intro sources context accepted source member network max error failed
    have sound := (check_eq_ok_iff.mp accepted).sound source member
    exact Build.not_ruledOut_of_fails sound rfl (Build.ofSource_eq_error_iff.mp failed)
  · intro sources networks max context error failed
    have dead : ¬error.RuledOut := by
      rcases Build.run_eq_error_iff.mp failed with ⟨cause, _, rfl⟩ | ⟨accepted, index, source, here, _, fails⟩
      · exact id
      · have sound := (check_eq_ok_iff.mp accepted).sound source (List.mem_of_getElem? here)
        exact Build.not_ruledOut_of_fails sound rfl fails
    refine ⟨?_, ?_⟩
    · rintro setId rfl
      exact dead trivial
    · rintro setId cause rfl
      exact dead

/-- A source whose URL is not secure. -/
def insecure : Source :=
  { Entry.copilot with setId := "github_plain", url := "http://api.github.com/meta" }

/-- Of a registry whose second source has a URL that is not secure, the second is reported, although the third
one repeats an id. Without these two the registry is accepted, and where nothing answers, its source and its
build fail for another reason than the rules. -/
theorem Registry.check_exact_insecure :
    check [Entry.copilot, insecure, Entry.copilot] =
      .error (.refusedUrl "github_plain" (.disallowedScheme "http://api.github.com/meta")) ∧
    check [Entry.copilot] = .ok () ∧
    (Build.run [Entry.copilot] (Build.fetcher (fun _ _ => none) 100) Build.strictContext).result =
      .error (.transport "github_copilot" (.network "https://api.github.com/meta" "<network>")) ∧
    ¬(CatalogError.transport "github_copilot"
      (.network "https://api.github.com/meta" "<network>")).RuledOut ∧
    ¬(FetchError.network "https://api.github.com/meta" "<network>").RefusesUrl := by
  have accepted : check [Entry.copilot] = .ok () := by decide +kernel
  have refused : Url.ofAllowedText insecure.url =
      .error (.disallowedScheme "http://api.github.com/meta") := by decide +kernel
  have unanswered : (Client.fetch (fun _ => none) 100 Entry.copilot.url).result =
      .error (.network "https://api.github.com/meta" "<network>") := by decide +kernel
  have yielded : Entry.ofSource (fun url => (Client.fetch (fun _ => none) 100 url).result)
      Build.strictContext Entry.copilot =
      .error (.transport "github_copilot" (.network "https://api.github.com/meta" "<network>")) :=
    Build.ofSource_eq_error_iff.mpr (.transport unanswered)
  have failed : (Build.run [Entry.copilot] (Build.fetcher (fun _ _ => none) 100)
      Build.strictContext).result =
      .error (.transport "github_copilot" (.network "https://api.github.com/meta" "<network>")) :=
    Build.run_eq_error_iff.mpr
      (.inr ⟨accepted, 0, Entry.copilot, rfl, by simp, .transport unanswered⟩)
  obtain ⟨_, refuses, sources, builds⟩ := check_exact
  refine ⟨?_, accepted, failed, ?_, (builds _ _ _ _ _ failed).2 _ _ rfl⟩
  · exact (refuses _ _).mpr ⟨[Entry.copilot], insecure, [Entry.copilot], rfl, accepted,
      .refusedUrl (by decide) (by decide) refused⟩
  · exact sources _ Build.strictContext accepted Entry.copilot (List.mem_singleton_self _) _ _ _ yielded

end RangeCatalog
