import RangeCatalog.Proofs.Calendar.Instant
import RangeCatalog.Proofs.Catalog.Content
import RangeCatalog.Proofs.Text.Numeral
import RangeCatalog.Proofs.Text.Octets

/-! # What a label tells

The digested text joins the ranges and the time stamp by newlines, without lengths or marks. It still
determines both, because no text of a range and no time stamp holds a newline, a set has at least one
range, and no time stamp is empty. A label keeps the digits of the first octets of the digest, so that two
entries under one label differ only where these octets collide.
-/

namespace RangeCatalog

open RangeSet (respelled respelledBlocks denote_respelled denote_texts)

namespace Label

/-! ## The digested text -/

/-- Ranges and a time stamp that their lines determine. -/
structure Legible (ranges : List String) (stamp : Option String) : Prop where
  present : ranges ≠ []
  rangeLine : ∀ range ∈ ranges, '\n' ∉ range.toList
  stampLine : ∀ text ∈ stamp, text ≠ "" ∧ '\n' ∉ text.toList

private theorem legible_texts (ranges : RangeSet) (stamp : Option Instant) :
    Legible ranges.texts (stamp.map Instant.text) := by
  have blank : isBlank '\n' = true := by decide
  have single {text : String} (plain : Plain text.toList) : '\n' ∉ text.toList := by
    intro member
    rw [plain _ member] at blank
    contradiction
  refine ⟨?_, ?_, ?_⟩
  · intro empty
    exact ranges.nonempty (List.map_eq_nil_iff.mp empty)
  · intro range member
    obtain ⟨block, _, rfl⟩ := List.mem_map.mp member
    exact single block.plain_text
  · intro text member
    obtain ⟨instant, _, rfl⟩ := Option.mem_map.mp member
    exact ⟨instant.text_ne_empty, single instant.plain_text⟩

/-- The ranges and the time stamp are the lines of the digested text, a missing time stamp an empty one. -/
theorem splitOn_content {ranges : List String} {stamp : Option String} (legible : Legible ranges stamp) :
    List.splitOn '\n' (content ranges stamp).toList = (ranges ++ [stamp.getD ""]).map String.toList := by
  have joined : content ranges stamp = "\n".intercalate (ranges ++ [stamp.getD ""]) := by
    rw [content, String.intercalate_append_of_ne_nil legible.present (by simp),
      String.intercalate_singleton]
  rw [joined, String.toList_intercalate]
  refine List.splitOn_intercalate '\n' ?_ (by simp)
  intro line member
  obtain ⟨text, among, rfl⟩ := List.mem_map.mp member
  rcases List.mem_append.mp among with range | last
  · exact legible.rangeLine text range
  · obtain rfl := List.mem_singleton.mp last
    cases stamp with
    | none => simp
    | some text => exact (legible.stampLine text rfl).2

/-- The digested text tells the ranges and the time stamp. -/
theorem content_inj {ranges others : List String} {stamp other : Option String}
    (legible : Legible ranges stamp) (legibleOther : Legible others other)
    (same : content ranges stamp = content others other) : ranges = others ∧ stamp = other := by
  have injective : Function.Injective String.toList := fun _ _ => String.toList_injective
  have lines := splitOn_content legible
  rw [same, splitOn_content legibleOther] at lines
  obtain ⟨first, last⟩ := List.append_inj' (List.map_injective_iff.mpr injective lines) rfl
  refine ⟨first.symm, ?_⟩
  have stamps : other.getD "" = stamp.getD "" := List.singleton_inj.mp last
  cases stamp with
  | none =>
    cases other with
    | none => rfl
    | some text => exact absurd stamps (legibleOther.stampLine text rfl).1
  | some text =>
    cases other with
    | none => exact absurd stamps.symm (legible.stampLine text rfl).1
    | some text' => exact congrArg some stamps.symm

/-! ## The digits of the digest -/

private theorem length_bigEndian (count number : Nat) : (Sha256.bigEndian count number).length = count := by
  rw [Sha256.bigEndian, List.length_map, List.length_range]

theorem length_digest (message : List UInt8) : (Sha256.digest message).length = 32 := by
  simp only [Sha256.digest, Sha256.State.toList, List.flatMap_cons, List.flatMap_nil, List.length_append,
    length_bigEndian, List.length_nil]

/-- Whole octets stand in an even number of digits. -/
theorem take_flatMap_hexOctet (octets : List UInt8) (count : Nat) :
    (octets.flatMap hexOctet).take (2 * count) = (octets.take count).flatMap hexOctet := by
  induction octets generalizing count with
  | nil => simp
  | cons octet rest ih =>
    cases count with
    | zero => rfl
    | succ count =>
      rw [List.take_succ_cons, List.flatMap_cons, List.flatMap_cons, ← ih count]
      rfl

private theorem toList_fingerprint (text : String) :
    (fingerprint text).toList = ((Sha256.digest text.toUTF8.toList).take 8).flatMap hexOctet := by
  rw [fingerprint, String.toList_ofList]
  exact take_flatMap_hexOctet (Sha256.digest text.toUTF8.toList) 8

theorem length_fingerprint (text : String) : (fingerprint text).toList.length = digits := by
  have octets : ((Sha256.digest text.toUTF8.toList).take 8).length = 8 := by
    rw [List.length_take, length_digest]
    rfl
  have pairs : ∀ octet ∈ (Sha256.digest text.toUTF8.toList).take 8, (hexOctet octet).length = 2 :=
    fun _ _ => rfl
  rw [toList_fingerprint, List.length_flatMap, List.map_congr_left pairs, List.map_const', octets]
  rfl

/-- The digits are hexadecimal ones, in small letters. -/
theorem mem_fingerprint {text : String} {c : Char} (member : c ∈ (fingerprint text).toList) :
    c ∈ "0123456789abcdef".toList := by
  rw [toList_fingerprint] at member
  obtain ⟨_, _, member⟩ := List.mem_flatMap.mp member
  exact mem_hexOctet member

/-- The digits of a label are those of the first 64 bits of the digest. -/
theorem fingerprint_eq_iff {text other : String} :
    fingerprint text = fingerprint other ↔
      (Sha256.digest text.toUTF8.toList).take 8 = (Sha256.digest other.toUTF8.toList).take 8 := by
  rw [← String.toList_inj, toList_fingerprint, toList_fingerprint]
  constructor
  · intro same
    have read := octetsOfHex?_hexOctet ((Sha256.digest text.toUTF8.toList).take 8)
    rw [same, octetsOfHex?_hexOctet] at read
    exact (Option.some.inj read).symm
  · intro same
    rw [same]

/-- Labels are equal when their dates and their digits are, wherever the date ends. -/
theorem ofContent_eq_iff {date otherDate : String} {ranges others : List String}
    {stamp other : Option String} :
    ofContent date ranges stamp = ofContent otherDate others other ↔
      date = otherDate ∧ fingerprint (content ranges stamp) = fingerprint (content others other) := by
  constructor
  · intro same
    have chars := congrArg String.toList same
    simp only [ofContent, String.toList_append] at chars
    obtain ⟨before, digits⟩ := List.append_inj' chars
      ((length_fingerprint _).trans (length_fingerprint _).symm)
    exact ⟨String.toList_injective (List.append_cancel_right before), String.toList_injective digits⟩
  · rintro ⟨rfl, digits⟩
    rw [ofContent, ofContent, digits]

/-! ## Entries under one label -/

/-- The octets that are digested for some ranges and a time stamp. -/
def message (ranges : List String) (stamp : Option String) : List UInt8 :=
  (content ranges stamp).toUTF8.toList

/-- Different messages whose digests begin with the same 64 bits. -/
def Collide (first second : List UInt8) : Prop :=
  first ≠ second ∧ (Sha256.digest first).take 8 = (Sha256.digest second).take 8

private theorem message_inj {ranges others : RangeSet} {stamp other : Option Instant}
    (same : message ranges.texts (stamp.map Instant.text) =
      message others.texts (other.map Instant.text)) :
    ranges.texts = others.texts ∧ stamp.map Instant.text = other.map Instant.text :=
  content_inj (legible_texts ranges stamp) (legible_texts others other) (toUTF8_toList_inj same)

private theorem digest_of_ofContent {date otherDate : String} {ranges others : List String}
    {stamp other : Option String}
    (same : ofContent date ranges stamp = ofContent otherDate others other) :
    date = otherDate ∧ (Sha256.digest (message ranges stamp)).take 8 =
      (Sha256.digest (message others other)).take 8 := by
  obtain ⟨dates, digits⟩ := ofContent_eq_iff.mp same
  exact ⟨dates, fingerprint_eq_iff.mp digits⟩

/-- What is digested tells the ranges and the time stamp of a set, and a label tells its date and the first 64
bits of the digest. Entries under one label are of one date, and they list the same ranges with the same time
stamp unless two different messages collide in these bits. -/
theorem separates_contents :
    (∀ (ranges others : RangeSet) (stamp other : Option Instant),
      message ranges.texts (stamp.map Instant.text) = message others.texts (other.map Instant.text) →
      ranges.texts = others.texts ∧ stamp.map Instant.text = other.map Instant.text) ∧
    (∀ (date otherDate : String) (ranges others : List String) (stamp other : Option String),
      ofContent date ranges stamp = ofContent otherDate others other →
      date = otherDate ∧ (Sha256.digest (message ranges stamp)).take 8 =
        (Sha256.digest (message others other)).take 8) ∧
    (∀ (source otherSource : Source) (payload otherPayload : Payload) (baseline otherBaseline : Baseline)
      (date otherDate : String) (allowLarge otherAllow : Bool) (entry other : Entry),
      Entry.ofPayload source payload baseline date allowLarge = .ok entry →
      Entry.ofPayload otherSource otherPayload otherBaseline otherDate otherAllow = .ok other →
      entry.version = other.version →
      date = otherDate ∧
        (entry.ranges = other.ranges ∧ entry.sourceStamp = other.sourceStamp ∨
          Collide (message entry.ranges entry.sourceStamp) (message other.ranges other.sourceStamp))) := by
  refine ⟨fun _ _ _ _ => message_inj, fun _ _ _ _ _ _ => digest_of_ofContent, ?_⟩
  intro source otherSource payload otherPayload baseline otherBaseline date otherDate allowLarge otherAllow
    entry other made madeOther same
  obtain ⟨extraction, ranges, _, _, _, rfl⟩ := Entry.ofPayload_eq_ok_iff.mp made
  obtain ⟨extractionOther, others, _, _, _, rfl⟩ := Entry.ofPayload_eq_ok_iff.mp madeOther
  obtain ⟨dates, bits⟩ := digest_of_ofContent same
  refine ⟨dates, ?_⟩
  by_cases messages : message ranges.texts (extraction.stamp.map Instant.text) =
      message others.texts (extractionOther.stamp.map Instant.text)
  · exact .inl (message_inj messages)
  · exact .inr ⟨messages, bits⟩

/-- A source of another set, whose documents are laid out like those of the first. -/
def searchBot : Source :=
  { Entry.gptBot with
    setId := "openai_searchbot"
    url := "https://openai.com/searchbot.json" }

/-- The time stamp of both documents. -/
def publishedAt : Instant :=
  ⟨1748649600, false⟩

/-- Documents of two sources that list one content in different ways: the entries are under one label. -/
theorem separates_contents_two_sources :
    ∃ entry other,
      Entry.ofPayload Entry.gptBot Entry.loosePayload ⟨[]⟩ "2025-06-01" false = .ok entry ∧
      Entry.ofPayload searchBot Entry.tidyPayload ⟨[]⟩ "2025-06-01" false = .ok other ∧
      entry.id ≠ other.id ∧ entry.version = other.version ∧
      (entry.ranges = other.ranges ∧ entry.sourceStamp = other.sourceStamp) ∧
      (Sha256.digest (message entry.ranges entry.sourceStamp)).take 8 =
        (Sha256.digest (message other.ranges other.sourceStamp)).take 8 ∧
      (entry.ranges = other.ranges ∧ entry.sourceStamp = other.sourceStamp ∨
        Collide (message entry.ranges entry.sourceStamp) (message other.ranges other.sourceStamp)) := by
  have loose : Extraction.ofPayload Entry.loosePayload Entry.gptBot =
      .ok ⟨respelled, some publishedAt⟩ := by decide +kernel
  have tidy : Extraction.ofPayload Entry.tidyPayload searchBot =
      .ok ⟨respelledBlocks.tail.map Block.text, some publishedAt⟩ := by decide +kernel
  obtain ⟨ranges, made⟩ := RangeSet.exists_ofBlocks_iff.mpr
    (show 1 ≤ respelledBlocks.toFinset.card ∧ respelledBlocks.toFinset.card ≤ maxBlocks by decide)
  have read : RangeSet.ofTexts respelled = .ok ranges := by
    rw [RangeSet.ofTexts_of_denote denote_respelled, made]
  have readTidy : RangeSet.ofTexts (respelledBlocks.tail.map Block.text) = .ok ranges := by
    have sets : respelledBlocks.tail.toFinset = respelledBlocks.toFinset := by decide
    rw [RangeSet.ofTexts_of_denote (denote_texts respelledBlocks.tail), ← made]
    refine RangeSet.ofBlocks_congr ?_
    intro block
    rw [← List.mem_toFinset, sets, List.mem_toFinset]
  have first : Entry.ofPayload Entry.gptBot Entry.loosePayload ⟨[]⟩ "2025-06-01" false =
      .ok (Entry.ofRanges Entry.gptBot ranges (some publishedAt) "2025-06-01") :=
    Entry.ofPayload_eq_ok_iff.mpr ⟨_, ranges, loose, read, rfl, rfl⟩
  have second : Entry.ofPayload searchBot Entry.tidyPayload ⟨[]⟩ "2025-06-01" false =
      .ok (Entry.ofRanges searchBot ranges (some publishedAt) "2025-06-01") :=
    Entry.ofPayload_eq_ok_iff.mpr ⟨_, ranges, tidy, readTidy, rfl, rfl⟩
  have different : Entry.gptBot.setId ≠ searchBot.setId := by decide
  obtain ⟨told, labelled, separated⟩ := separates_contents
  have content := told ranges ranges (some publishedAt) (some publishedAt) rfl
  have bits := labelled "2025-06-01" "2025-06-01" ranges.texts ranges.texts (some publishedAt.text)
    (some publishedAt.text) rfl
  have either := separated _ _ _ _ _ _ _ _ _ _ _ _ first second rfl
  exact ⟨_, _, first, second, different, rfl, content, bits.2, either.2⟩

end Label

end RangeCatalog
