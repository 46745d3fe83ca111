import RangeCatalog.Proofs.Network.RangeSet

/-! # What becomes of a list of texts

A list of texts is decided in a fixed order of rules: the first text that is refused, no text at all, too many
different blocks, and otherwise the canonical list of the blocks. Any ordered arrangement of the blocks gives
that list, since the order tells any two different blocks apart, so it does not matter how they are sorted.
-/

namespace RangeCatalog.RangeSet

/-- The list of the given blocks in which each stands once and before those that it precedes. -/
structure Canonical (blocks : List Block) (listed : List Block) : Prop where
  once : listed.Nodup
  members : listed.toFinset = blocks.toFinset
  increasing : listed.Pairwise Block.Precedes

theorem increasing_iff {blocks : List Block} :
    (blocks.Pairwise fun a b => Block.order a b = .lt) ↔ blocks.Pairwise Block.Precedes := by
  simp only [Block.order_eq_lt_iff]

/-- There is one such list. -/
theorem canonical_iff {blocks listed : List Block} : Canonical blocks listed ↔ listed = sorted blocks := by
  constructor
  · rintro ⟨_, members, increasing⟩
    refine (sorted_eq_of_mem_iff (increasing_iff.mpr increasing) ?_).symm
    intro block
    rw [← List.mem_toFinset, ← members, List.mem_toFinset]
  · rintro rfl
    refine ⟨nodup_of_increasing (pairwise_sorted blocks), ?_, increasing_iff.mp (pairwise_sorted blocks)⟩
    ext block
    simp

/-- Repetitions may be removed from any ordered arrangement of the blocks. -/
theorem dropRepeats_of_ordered {blocks arranged : List Block} (perm : arranged.Perm blocks)
    (ordered : arranged.Pairwise fun a b => Block.before a b = true) :
    dropRepeats arranged = sorted blocks := by
  refine (sorted_eq_of_mem_iff (pairwise_dropRepeats arranged ordered) ?_).symm
  intro block
  rw [mem_dropRepeats, perm.mem_iff]

/-! ## Refusals -/

private theorem ofTexts_of_refused {texts : List String} {index : Nat} {text : String} {error : RangeError}
    (here : texts[index]? = some text)
    (before : ∀ earlier ∈ texts.take index, ∃ block, Block.ofText earlier = .ok block)
    (refused : Block.ofText text = .error error) : ofTexts texts = .error error := by
  rw [ofTexts, mapM_of_first_error here before refused]
  rfl

private theorem ofTexts_nil : ofTexts [] = .error .noRanges := by
  have none : sorted [] = [] := sorted_of_increasing .nil
  rw [ofTexts_of_denote .nil, ofBlocks, dif_pos none]

private theorem ofTexts_of_many {texts : List String} {blocks : List Block} (denote : Denote texts blocks)
    (many : maxBlocks < blocks.toFinset.card) :
    ofTexts texts = .error (.tooMany blocks.toFinset.card) := by
  rw [← length_sorted] at many ⊢
  have some : sorted blocks ≠ [] := List.length_pos_iff.mp (Nat.zero_lt_of_lt many)
  simp only [ofTexts_of_denote denote, ofBlocks, dif_neg some, dif_neg (Nat.not_le_of_lt many)]

private theorem exists_ofTexts_of_few {texts : List String} {blocks : List Block} (some : texts ≠ [])
    (denote : Denote texts blocks) (few : blocks.toFinset.card ≤ maxBlocks) :
    ∃ ranges, ofTexts texts = .ok ranges ∧ ranges.blocks = sorted blocks := by
  have present : 1 ≤ blocks.toFinset.card := by
    cases denote with
    | nil => contradiction
    | cons => simp [Finset.one_le_card]
  obtain ⟨ranges, made⟩ := exists_ofBlocks_iff.mpr ⟨present, few⟩
  exact ⟨ranges, (ofTexts_of_denote denote).trans made, ofBlocks_eq_ok_iff.mp made⟩

/-! ## The rules together -/

/-- The first refused text decides the error, whatever follows it. Of texts that all denote blocks, none at all
and more than 4096 different blocks are refused, and otherwise the result is the one list that holds each of the
blocks once, in increasing order. Accepted texts count by the set of their blocks only, so that repetitions make
no difference, and neither does the way in which the blocks are sorted. -/
theorem ofTexts_exact (texts : List String) :
    (∀ index text error, texts[index]? = some text →
      (∀ earlier ∈ texts.take index, ∃ block, Block.ofText earlier = .ok block) →
      Block.ofText text = .error error → ofTexts texts = .error error) ∧
    (texts = [] → ofTexts texts = .error .noRanges) ∧
    (∀ blocks, texts ≠ [] → Denote texts blocks →
      (4096 < blocks.toFinset.card → ofTexts texts = .error (.tooMany blocks.toFinset.card)) ∧
      (blocks.toFinset.card ≤ 4096 → ∃ ranges, ofTexts texts = .ok ranges ∧
        ∀ listed, Canonical blocks listed ↔ listed = ranges.blocks)) ∧
    (∀ count, (RangeError.tooMany count).message = "produced " ++ decimal count ++ " CIDRs (max 4096)") ∧
    (∀ others blocks otherBlocks, Denote texts blocks → Denote others otherBlocks →
      blocks.toFinset = otherBlocks.toFinset → ofTexts texts = ofTexts others) ∧
    (∀ blocks arranged : List Block, arranged.Perm blocks →
      (arranged.Pairwise fun a b => Block.before a b = true) → dropRepeats arranged = sorted blocks) := by
  refine ⟨?_, ?_, ?_, ?_, ?_, fun _ _ => dropRepeats_of_ordered⟩
  · intro index text error here before refused
    exact ofTexts_of_refused here before refused
  · rintro rfl
    exact ofTexts_nil
  · intro blocks some denote
    refine ⟨ofTexts_of_many denote, ?_⟩
    intro few
    obtain ⟨ranges, made, same⟩ := exists_ofTexts_of_few some denote few
    refine ⟨ranges, made, ?_⟩
    intro listed
    rw [canonical_iff, same]
  · intro count
    have ceiling : decimal maxBlocks = "4096" := by decide
    simp only [RangeError.message, ceiling, String.append_assoc]
    rfl
  · intro others blocks otherBlocks denote denoteOthers same
    rw [ofTexts_of_denote denote, ofTexts_of_denote denoteOthers]
    apply ofBlocks_congr
    intro block
    rw [← List.mem_toFinset, same, List.mem_toFinset]

/-- One of 4097 different blocks. -/
def numbered (number : Fin 4097) : Block where
  family := .v4
  network := number.val * 128
  length := 25
  network_lt := by
    have size : Nat.pow 2 Family.v4.width = 33554432 * 128 := by decide
    have inside := number.isLt
    rw [size]
    omega
  length_le := by decide
  length_ge := by decide
  aligned := Nat.mul_mod_left number.val 128

/-- All of them, each twice. -/
def manyBlocks : List Block :=
  (List.finRange 4097 ++ List.finRange 4097).map numbered

private theorem card_manyBlocks : manyBlocks.toFinset.card = 4097 := by
  have injective : Function.Injective numbered := by
    intro a b same
    have networks : a.val * 128 = b.val * 128 := congrArg Block.network same
    exact Fin.ext (by omega)
  have once : manyBlocks.toFinset = ((List.finRange 4097).map numbered).toFinset := by
    simp only [manyBlocks, List.map_append, List.toFinset_append, Finset.union_self]
  rw [once, List.toFinset_card_of_nodup ((List.nodup_finRange 4097).map injective), List.length_map,
    List.length_finRange]

/-- Of texts with host bits and without meaning, the first one decides; no texts and 4097 different blocks are
refused, however often they are repeated; and texts of which two spell one block have the list of two blocks,
also in another spelling. -/
theorem ofTexts_exact_respelled :
    ofTexts (respelled ++ ["10.0.0.5/24", "10.0.0.0/33"]) = .error (.hostBitsSet "10.0.0.5/24") ∧
    ofTexts [] = .error .noRanges ∧
    ofTexts (manyBlocks.map Block.text) = .error (.tooMany 4097) ∧
    (∃ ranges, ofTexts respelled = .ok ranges ∧
      ∀ listed, Canonical respelledBlocks listed ↔ listed = ranges.blocks) ∧
    ofTexts respelled = ofTexts ["192.0.2.0/24", "2001:db8::/48"] ∧
    dropRepeats respelledBlocks.tail = sorted respelledBlocks.tail := by
  have read : ∀ earlier ∈ respelled, ∃ block, Block.ofText earlier = .ok block := by
    intro earlier member
    obtain ⟨block, _, denoted⟩ := exists_of_mem_right denote_respelled.flip member
    exact ⟨block, denoted⟩
  have hostBits : Block.ofText "10.0.0.5/24" = .error (.hostBitsSet "10.0.0.5/24") := by decide +kernel
  have canonical : respelledBlocks.tail.map Block.text = ["192.0.2.0/24", "2001:db8::/48"] := by
    decide +kernel
  have tidy : Denote ["192.0.2.0/24", "2001:db8::/48"] respelledBlocks.tail :=
    canonical ▸ denote_texts respelledBlocks.tail
  have many : 4096 < manyBlocks.toFinset.card := by
    rw [card_manyBlocks]
    decide
  have some : manyBlocks.map Block.text ≠ [] := by
    intro none
    rw [List.map_eq_nil_iff.mp none] at many
    contradiction
  obtain ⟨refuses, _⟩ := ofTexts_exact (respelled ++ ["10.0.0.5/24", "10.0.0.0/33"])
  obtain ⟨_, nothing, _⟩ := ofTexts_exact []
  obtain ⟨_, _, counts, _⟩ := ofTexts_exact (manyBlocks.map Block.text)
  obtain ⟨_, _, lists, _, depends, sorts⟩ := ofTexts_exact respelled
  refine ⟨refuses 3 _ _ rfl read hostBits, nothing rfl, ?_, ?_, ?_, ?_⟩
  · rw [(counts manyBlocks some (denote_texts manyBlocks)).1 many, card_manyBlocks]
  · exact (lists respelledBlocks (by decide) denote_respelled).2 (by decide)
  · exact depends _ _ _ denote_respelled tidy (by decide)
  · exact sorts _ _ (List.Perm.refl _) (by decide)

end RangeCatalog.RangeSet
