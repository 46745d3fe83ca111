import RangeCatalog.Catalog.Build
import RangeCatalog.Proofs.Extraction
import RangeCatalog.Proofs.Growth
import RangeCatalog.Proofs.Network.RangeSet

/-! # Entries

What it takes for a payload to yield an entry, and what the entry then holds. The four stages of a build
compose to one condition on the payload: it declares texts, the texts denote blocks, and the number of
different blocks keeps within the ceiling and the growth guard.
-/

namespace RangeCatalog.Entry

open RangeSet (Denote respelled respelledBlocks denote_respelled)

variable {source : Source} {payload : Payload} {baseline : Baseline} {date : String}
  {allowLarge : Bool}

/-- An entry is made in four stages, each of which must succeed. -/
theorem ofPayload_eq_ok_iff {entry : Entry} :
    ofPayload source payload baseline date allowLarge = .ok entry ↔
      ∃ extraction ranges, Extraction.ofPayload payload source = .ok extraction ∧
        RangeSet.ofTexts extraction.rangeTexts = .ok ranges ∧
        Growth.check source.setId (baseline.get? source.setId) ranges.size allowLarge = .ok () ∧
        ofRanges source ranges extraction.stamp date = entry := by
  simp only [ofPayload, bind_eq_ok_iff, mapError_eq_ok_iff, pure, Except.pure, Except.ok.injEq]
  constructor
  · rintro ⟨extraction, extracted, ranges, read, ⟨⟩, admitted, made⟩
    exact ⟨extraction, ranges, extracted, read, admitted, made⟩
  · rintro ⟨extraction, ranges, extracted, read, admitted, made⟩
    exact ⟨extraction, extracted, ranges, read, (), admitted, made⟩

/-- How a payload yields no entry: one of three stages refuses what the stages before it made. -/
inductive Refuses (source : Source) (payload : Payload) (baseline : Baseline) (allowLarge : Bool) :
    CatalogError → Prop where
  | shape {error : ShapeError} (refused : Extraction.ofPayload payload source = .error error) :
      Refuses source payload baseline allowLarge (.shape error)
  | ranges {extraction : Extraction} {error : RangeError}
      (extracted : Extraction.ofPayload payload source = .ok extraction)
      (refused : RangeSet.ofTexts extraction.rangeTexts = .error error) :
      Refuses source payload baseline allowLarge (.ranges source.setId error)
  | growth {extraction : Extraction} {ranges : RangeSet} {violation : Growth.Violation}
      (extracted : Extraction.ofPayload payload source = .ok extraction)
      (read : RangeSet.ofTexts extraction.rangeTexts = .ok ranges)
      (refused : Growth.check source.setId (baseline.get? source.setId) ranges.size allowLarge =
        .error violation) :
      Refuses source payload baseline allowLarge (.growth violation)

theorem ofPayload_eq_error_iff {error : CatalogError} :
    ofPayload source payload baseline date allowLarge = .error error ↔
      Refuses source payload baseline allowLarge error := by
  simp only [ofPayload, bind_eq_error_iff, mapError_eq_error_iff, mapError_eq_ok_iff, pure, Except.pure,
    reduceCtorEq, and_false, exists_const, or_false]
  constructor
  · rintro (⟨_, refused, rfl⟩ | ⟨_, extracted, ⟨_, refused, rfl⟩ | ⟨_, read, _, refused, rfl⟩⟩)
    · exact .shape refused
    · exact .ranges extracted refused
    · exact .growth extracted read refused
  · intro refuses
    cases refuses with
    | shape refused => exact .inl ⟨_, refused, rfl⟩
    | ranges extracted refused => exact .inr ⟨_, extracted, .inl ⟨_, refused, rfl⟩⟩
    | growth extracted read refused => exact .inr ⟨_, extracted, .inr ⟨_, read, _, refused, rfl⟩⟩

/-- The number of ranges of a set fits a word, so that the growth guard is exact for it. -/
theorem check_size_iff {ranges : RangeSet} :
    Growth.check source.setId (baseline.get? source.setId) ranges.size allowLarge = .ok () ↔
      Growth.Admits (baseline.get? source.setId) ranges.size allowLarge :=
  Growth.check_eq_ok_iff (Nat.le_trans ranges.bounded (by decide))

/-- What the number of different ranges must keep: the floor, the ceiling and the growth guard. -/
def Admissible (source : Source) (baseline : Baseline) (allowLarge : Bool) (blocks : List Block) :
    Prop :=
  1 ≤ blocks.toFinset.card ∧ blocks.toFinset.card ≤ 4096 ∧
    Growth.Admits (baseline.get? source.setId) blocks.toFinset.card allowLarge

theorem length_ranges_ofRanges (source : Source) (ranges : RangeSet) (stamp : Option Instant)
    (date : String) : (ofRanges source ranges stamp date).ranges.length = ranges.size := by
  simp only [ofRanges, RangeSet.texts, List.length_map, RangeSet.size]

/-- An entry is made of its payload again against its own count, whatever made it admissible first. -/
theorem ofPayload_again {entry : Entry}
    (made : ofPayload source payload baseline date allowLarge = .ok entry) {known : Baseline}
    (counted : known.get? entry.id = some entry.ranges.length) (allowAgain : Bool) :
    ofPayload source payload known date allowAgain = .ok entry := by
  obtain ⟨extraction, ranges, extracted, read, _, rfl⟩ := ofPayload_eq_ok_iff.mp made
  rw [length_ranges_ofRanges] at counted
  refine ofPayload_eq_ok_iff.mpr ⟨extraction, ranges, extracted, read, ?_, rfl⟩
  have same : known.get? source.setId = some ranges.size := counted
  rw [same]
  exact Growth.check_of_le allowAgain (Nat.le_refl _)

/-- The acceptance condition of a payload is exact. -/
theorem exists_ofPayload_iff :
    (∃ entry, ofPayload source payload baseline date allowLarge = .ok entry) ↔
      source.layout.Keyed ∧ ∃ texts blocks, payload.Declares source.layout texts ∧
        Denote texts blocks ∧ Admissible source baseline allowLarge blocks := by
  simp only [ofPayload_eq_ok_iff, Extraction.ofPayload_eq_ok_iff, RangeSet.ofTexts_eq_ok_iff,
    check_size_iff]
  constructor
  · rintro ⟨_, ⟨texts, stamp⟩, ranges, ⟨keyed, declared, _⟩, ⟨blocks, denote, same⟩, admitted, _⟩
    have made : RangeSet.ofBlocks blocks = .ok ranges := RangeSet.ofBlocks_eq_ok_iff.mpr same
    obtain ⟨least, greatest⟩ := RangeSet.exists_ofBlocks_iff.mp ⟨ranges, made⟩
    rw [RangeSet.size, same, RangeSet.length_sorted] at admitted
    exact ⟨keyed, texts, blocks, declared, denote, least, greatest, admitted⟩
  · rintro ⟨keyed, texts, blocks, declared, denote, least, greatest, admitted⟩
    obtain ⟨ranges, made⟩ := RangeSet.exists_ofBlocks_iff.mpr ⟨least, greatest⟩
    have same := RangeSet.ofBlocks_eq_ok_iff.mp made
    refine ⟨_, ⟨texts, source.layout.stamp? payload⟩, ranges, ⟨keyed, declared, rfl⟩,
      ⟨blocks, denote, same⟩, ?_, rfl⟩
    rw [RangeSet.size, same, RangeSet.length_sorted]
    exact admitted

/-- The texts of an entry denote the blocks that the texts of the payload denote, all of them and no
others. -/
theorem denoted_iff {entry : Entry}
    (made : ofPayload source payload baseline date allowLarge = .ok entry) {texts : List String}
    (declared : payload.Declares source.layout texts) (block : Block) :
    (∃ text ∈ entry.ranges, Block.ofText text = .ok block) ↔
      ∃ text ∈ texts, Block.ofText text = .ok block := by
  obtain ⟨extraction, ranges, extracted, read, _, rfl⟩ := ofPayload_eq_ok_iff.mp made
  have same : extraction = ⟨texts, source.layout.stamp? payload⟩ := by
    obtain ⟨keyed, _⟩ := Extraction.ofPayload_eq_ok_iff.mp extracted
    have declaredOne : Extraction.ofPayload payload source =
        .ok ⟨texts, source.layout.stamp? payload⟩ :=
      Extraction.ofPayload_eq_ok_iff.mpr ⟨keyed, declared, rfl⟩
    exact Except.ok.inj (extracted.symm.trans declaredOne)
  subst same
  obtain ⟨blocks, denote, sorted⟩ := RangeSet.ofTexts_eq_ok_iff.mp read
  have listed := (RangeSet.denote_texts ranges.blocks).mem_iff block
  rw [sorted, RangeSet.mem_sorted, ← sorted] at listed
  exact listed.symm.trans (denote.mem_iff block)

/-- A payload yields an entry exactly when it declares texts that denote an admissible number of
different blocks, and the entry then denotes exactly these blocks. -/
theorem accepts_exactly_and_keeps_all (source : Source) (payload : Payload) (baseline : Baseline)
    (date : String) (allowLarge : Bool) (keyed : source.layout.Keyed) :
    ((∃ entry, ofPayload source payload baseline date allowLarge = .ok entry) ↔
      ∃ texts blocks, payload.Declares source.layout texts ∧ Denote texts blocks ∧
        Admissible source baseline allowLarge blocks) ∧
    ∀ entry texts, ofPayload source payload baseline date allowLarge = .ok entry →
      payload.Declares source.layout texts →
      ∀ block, (∃ text ∈ entry.ranges, Block.ofText text = .ok block) ↔
        ∃ text ∈ texts, Block.ofText text = .ok block := by
  refine ⟨?_, ?_⟩
  · rw [exists_ofPayload_iff]
    exact and_iff_right keyed
  · intro entry texts made declared
    exact denoted_iff made declared

/-- A source that lists texts. -/
def copilot : Source :=
  { setId := "github_copilot"
    label := "GitHub Copilot"
    provider := "github"
    url := "https://api.github.com/meta"
    layout := .textArray "copilot" }

/-- A document that lists one block in two spellings, and another with blanks around it. -/
def respelledPayload : Payload :=
  ⟨[("copilot", .array (respelled.map .string))]⟩

theorem keyed_copilot : copilot.layout.Keyed := by
  rintro key ⟨⟩
  decide

/-- A document declares the texts that it lists under the name of the layout. -/
theorem declares_texts (texts : List String) :
    Payload.Declares ⟨[("copilot", .array (texts.map .string))]⟩ copilot.layout texts := by
  refine ⟨texts.map .string, rfl, ?_⟩
  rw [List.forall₂_map_left_iff, List.forall₂_same]
  exact fun text _ => rfl

theorem declares_respelled : respelledPayload.Declares copilot.layout respelled :=
  declares_texts respelled

/-- The counts of a catalog in which the source had one block. -/
def oneBlock : Baseline :=
  ⟨[("github_copilot", 1)]⟩

/-- Few blocks are admissible after any count. -/
theorem admissible_of_few {blocks : List Block} (some : 1 ≤ blocks.toFinset.card)
    (few : blocks.toFinset.card ≤ Growth.slack) : Admissible source baseline allowLarge blocks :=
  ⟨some, Nat.le_trans few (by decide), Growth.admits_of_le_slack few⟩

theorem admissible_respelled : Admissible source baseline allowLarge respelledBlocks :=
  admissible_of_few (by decide) (by decide)

/-- The document is accepted, although it lists more than the last one, and its entry denotes the two blocks. -/
theorem accepts_respelled :
    copilot.layout.Keyed ∧ respelledPayload.Declares copilot.layout respelled ∧
    (∃ entry, ofPayload copilot respelledPayload oneBlock "2025-06-01" false = .ok entry) ∧
    ∀ entry, ofPayload copilot respelledPayload oneBlock "2025-06-01" false = .ok entry →
      ∀ block, (∃ text ∈ entry.ranges, Block.ofText text = .ok block) ↔ block ∈ respelledBlocks := by
  obtain ⟨accepts, keeps⟩ := accepts_exactly_and_keeps_all copilot respelledPayload oneBlock
    "2025-06-01" false keyed_copilot
  refine ⟨keyed_copilot, declares_respelled, ?_, ?_⟩
  · exact accepts.mpr ⟨_, _, declares_respelled, denote_respelled, admissible_respelled⟩
  · intro entry made block
    rw [keeps entry respelled made declares_respelled block, denote_respelled.mem_iff]

end RangeCatalog.Entry
