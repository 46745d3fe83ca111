import RangeCatalog.Proofs.Catalog.Entry

/-! # Content

An entry is addressed by the content of its payload: the set of blocks that the texts denote, and the time
stamp. How the texts are spelled, in which order and how often they are listed makes no difference, neither
for the entry nor for the error of a payload that is refused.
-/

namespace RangeCatalog

open RangeSet (Denote respelled respelledBlocks denote_respelled denote_texts)

/-- Whether two extractions list texts of the same set of blocks, and have the same time stamp or none. -/
structure Extraction.SameContent (first second : Extraction) : Prop where
  blocks : ∃ blocks others, Denote first.rangeTexts blocks ∧ Denote second.rangeTexts others ∧
    blocks.toFinset = others.toFinset
  stampText : first.stamp.map Instant.text = second.stamp.map Instant.text
  stampSeconds : first.stamp.map Instant.seconds = second.stamp.map Instant.seconds

/-- Texts of the same set of blocks make up the same set, or are refused for the same reason. -/
theorem Extraction.SameContent.ofTexts_eq {first second : Extraction} (same : first.SameContent second) :
    RangeSet.ofTexts first.rangeTexts = RangeSet.ofTexts second.rangeTexts := by
  obtain ⟨blocks, others, denote, denoteOthers, sets⟩ := same.blocks
  rw [RangeSet.ofTexts_of_denote denote, RangeSet.ofTexts_of_denote denoteOthers]
  apply RangeSet.ofBlocks_congr
  intro block
  rw [← List.mem_toFinset, sets, List.mem_toFinset]

namespace Entry

/-- Of a time stamp, an entry holds the text and the seconds. -/
theorem ofRanges_congr {first second : Option Instant}
    (text : first.map Instant.text = second.map Instant.text)
    (seconds : first.map Instant.seconds = second.map Instant.seconds) (source : Source)
    (ranges : RangeSet) (date : String) :
    ofRanges source ranges first date = ofRanges source ranges second date := by
  simp only [ofRanges, text, seconds]

/-- Beyond the outcome of its extraction, a build does not depend on a payload. -/
theorem ofPayload_congr {source : Source} {payload other : Payload}
    (same : Extraction.ofPayload payload source = Extraction.ofPayload other source)
    (baseline : Baseline) (date : String) (allowLarge : Bool) :
    ofPayload source payload baseline date allowLarge =
      ofPayload source other baseline date allowLarge := by
  simp only [ofPayload, same]

private theorem ofPayload_of_sameContent {source : Source} {payload other : Payload} {first second : Extraction}
    (extracted : Extraction.ofPayload payload source = .ok first)
    (extractedOther : Extraction.ofPayload other source = .ok second) (same : first.SameContent second)
    (baseline : Baseline) (date : String) (allowLarge : Bool) :
    ofPayload source payload baseline date allowLarge =
      ofPayload source other baseline date allowLarge := by
  have entries (ranges : RangeSet) := ofRanges_congr same.stampText same.stampSeconds source ranges date
  simp only [ofPayload, extracted, extractedOther, same.ofTexts_eq, entries, Except.mapError, bind,
    Except.bind]

/-- Payloads of the same content yield the same entry or the same error, and so do payloads that agree in the
fields that their layout reads, whatever these hold. -/
theorem content_addressed (source : Source) (payload other : Payload) (baseline : Baseline)
    (date : String) (allowLarge : Bool) :
    (∀ first second, Extraction.ofPayload payload source = .ok first →
      Extraction.ofPayload other source = .ok second → first.SameContent second →
        ofPayload source payload baseline date allowLarge =
          ofPayload source other baseline date allowLarge) ∧
    (payload.Agrees source.layout other →
      ofPayload source payload baseline date allowLarge =
        ofPayload source other baseline date allowLarge) := by
  constructor
  · intro first second extracted extractedOther same
    exact ofPayload_of_sameContent extracted extractedOther same baseline date allowLarge
  · intro agrees
    exact ofPayload_congr (Extraction.ofPayload_congr agrees) baseline date allowLarge

/-- A source that lists objects. -/
def gptBot : Source :=
  { setId := "openai_gptbot"
    label := "OpenAI GPTBot"
    provider := "openai"
    url := "https://openai.com/gptbot.json"
    layout := .prefixObjects }

/-- A document of three texts for two blocks. -/
def loosePayload : Payload :=
  ⟨[("creationTime", .string "2025-05-31T00:00:00Z"),
    ("prefixes", .array
      [.object [("ipv6Prefix", .string "2001:0DB8::/48")],
        .object [("ipv4Prefix", .string " 192.0.2.0/24\n")],
        .object [("ipv6Prefix", .string "2001:db8:0:0::/48")]])]⟩

/-- A document of the canonical texts in their order, with the time stamp at another offset and with fields that
are not read. -/
def tidyPayload : Payload :=
  ⟨[("comment", .null),
    ("creationTime", .string "2025-05-31T02:00:00+02:00"),
    ("prefixes", .array
      [.object [("ipv4Prefix", .string "192.0.2.0/24"), ("region", .string "eu")],
        .object [("ipv6Prefix", .string "2001:db8::/48")]])]⟩

/-- The two documents yield the same entry, and the second one does without its comment. -/
theorem content_addressed_respelled :
    Extraction.ofPayload loosePayload gptBot = .ok ⟨respelled, some ⟨1748649600, false⟩⟩ ∧
    Extraction.ofPayload tidyPayload gptBot =
      .ok ⟨["192.0.2.0/24", "2001:db8::/48"], some ⟨1748649600, false⟩⟩ ∧
    Extraction.SameContent ⟨respelled, some ⟨1748649600, false⟩⟩
      ⟨["192.0.2.0/24", "2001:db8::/48"], some ⟨1748649600, false⟩⟩ ∧
    ofPayload gptBot loosePayload ⟨[]⟩ "2025-06-01" false =
      ofPayload gptBot tidyPayload ⟨[]⟩ "2025-06-01" false ∧
    tidyPayload.Agrees gptBot.layout ⟨tidyPayload.fields.tail⟩ ∧
    ofPayload gptBot tidyPayload ⟨[]⟩ "2025-06-01" false =
      ofPayload gptBot ⟨tidyPayload.fields.tail⟩ ⟨[]⟩ "2025-06-01" false := by
  have loose : Extraction.ofPayload loosePayload gptBot =
      .ok ⟨respelled, some ⟨1748649600, false⟩⟩ := by decide +kernel
  have tidy : Extraction.ofPayload tidyPayload gptBot =
      .ok ⟨["192.0.2.0/24", "2001:db8::/48"], some ⟨1748649600, false⟩⟩ := by decide +kernel
  have same : Extraction.SameContent ⟨respelled, some ⟨1748649600, false⟩⟩
      ⟨["192.0.2.0/24", "2001:db8::/48"], some ⟨1748649600, false⟩⟩ := by
    have canonical : respelledBlocks.tail.map Block.text = ["192.0.2.0/24", "2001:db8::/48"] := by
      decide +kernel
    refine ⟨⟨_, _, denote_respelled, canonical ▸ denote_texts respelledBlocks.tail, ?_⟩, rfl, rfl⟩
    decide
  have agrees : tidyPayload.Agrees gptBot.layout ⟨tidyPayload.fields.tail⟩ := by
    refine ⟨.some ?_, rfl⟩
    rw [List.forall₂_same]
    exact fun item _ => ⟨rfl, rfl, rfl⟩
  obtain ⟨sameResult, _⟩ := content_addressed gptBot loosePayload tidyPayload ⟨[]⟩ "2025-06-01" false
  obtain ⟨_, sameAlike⟩ := content_addressed gptBot tidyPayload ⟨tidyPayload.fields.tail⟩ ⟨[]⟩
    "2025-06-01" false
  exact ⟨loose, tidy, same, sameResult _ _ loose tidy same, agrees, sameAlike agrees⟩

end Entry

end RangeCatalog
