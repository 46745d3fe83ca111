import Mathlib.Data.Finset.Card
import Mathlib.Data.List.Forall2
import RangeCatalog.Network.RangeSet
import RangeCatalog.Proofs.Network.BlockText
import RangeCatalog.Proofs.Outcome

/-! # Canonical sets

The set of some blocks holds each of them once, in the canonical order, and a list that is canonical
already stays as it is. With the texts of blocks read back as blocks, the texts of a set denote the set
itself.
-/

namespace RangeCatalog.RangeSet

/-! ## Sorting -/

private theorem dropRepeats_of_increasing {blocks : List Block}
    (increasing : blocks.Pairwise fun a b => Block.order a b = .lt) : dropRepeats blocks = blocks := by
  fun_induction dropRepeats blocks with
  | case1 => rfl
  | case2 => rfl
  | case3 a rest ih =>
    have less := (List.pairwise_cons.mp increasing).1 a List.mem_cons_self
    rw [Block.order_eq_iff.mpr rfl] at less
    contradiction
  | case4 a b rest differs ih => rw [ih (List.pairwise_cons.mp increasing).2]

/-- A canonical list is the result of sorting it. -/
theorem sorted_of_increasing {blocks : List Block}
    (increasing : blocks.Pairwise fun a b => Block.order a b = .lt) : sorted blocks = blocks := by
  have ordered : blocks.Pairwise fun a b => Block.before a b = true :=
    increasing.imp fun less => by rw [Block.before, less]; rfl
  rw [sorted, List.mergeSort_of_pairwise ordered, dropRepeats_of_increasing increasing]

theorem nodup_of_increasing {blocks : List Block}
    (increasing : blocks.Pairwise fun a b => Block.order a b = .lt) : blocks.Nodup := by
  refine increasing.imp ?_
  rintro a b less rfl
  rw [Block.order_eq_iff.mpr rfl] at less
  contradiction

/-- Canonical lists of the same blocks are equal. -/
theorem eq_of_increasing {blocks others : List Block}
    (first : blocks.Pairwise fun a b => Block.order a b = .lt)
    (second : others.Pairwise fun a b => Block.order a b = .lt)
    (same : ∀ block, block ∈ blocks ↔ block ∈ others) : blocks = others := by
  have perm : blocks.Perm others :=
    (List.perm_ext_iff_of_nodup (nodup_of_increasing first) (nodup_of_increasing second)).mpr same
  refine List.Perm.eq_of_pairwise ?_ first second perm
  intro a b _ _ less greater
  rw [@Std.OrientedCmp.eq_swap _ Block.order, less] at greater
  contradiction

/-- A canonical list of the given blocks is the result of sorting them. -/
theorem sorted_eq_of_mem_iff {blocks canonical : List Block}
    (increasing : canonical.Pairwise fun a b => Block.order a b = .lt)
    (same : ∀ block, block ∈ blocks ↔ block ∈ canonical) : sorted blocks = canonical :=
  eq_of_increasing (pairwise_sorted blocks) increasing fun block =>
    (mem_sorted block blocks).trans (same block)

theorem length_sorted (blocks : List Block) : (sorted blocks).length = blocks.toFinset.card := by
  have same : (sorted blocks).toFinset = blocks.toFinset := by
    ext block
    simp
  rw [← same, List.toFinset_card_of_nodup (nodup_of_increasing (pairwise_sorted blocks))]

/-! ## Acceptance -/

/-- The set of some blocks is the one that holds exactly these, sorted. -/
theorem ofBlocks_eq_ok_iff {blocks : List Block} {ranges : RangeSet} :
    ofBlocks blocks = .ok ranges ↔ ranges.blocks = sorted blocks := by
  constructor
  · intro made
    simp only [ofBlocks] at made
    split_ifs at made
    rw [← Except.ok.inj made]
  · intro same
    rcases ranges with ⟨listed, increasing, nonempty, bounded⟩
    simp only at same
    subst same
    simp only [ofBlocks, dif_neg nonempty, dif_pos bounded]

/-- Some blocks make up a set when there are between one and `maxBlocks` different ones. -/
theorem exists_ofBlocks_iff {blocks : List Block} :
    (∃ ranges, ofBlocks blocks = .ok ranges) ↔
      1 ≤ blocks.toFinset.card ∧ blocks.toFinset.card ≤ maxBlocks := by
  rw [← length_sorted]
  constructor
  · rintro ⟨ranges, made⟩
    rw [← ofBlocks_eq_ok_iff.mp made]
    exact ⟨List.length_pos_iff.mpr ranges.nonempty, ranges.bounded⟩
  · rintro ⟨some, bounded⟩
    exact ⟨⟨sorted blocks, pairwise_sorted blocks, List.length_pos_iff.mp some, bounded⟩,
      ofBlocks_eq_ok_iff.mpr rfl⟩

/-- Lists of the same blocks make up the same set, or are refused for the same reason. -/
theorem ofBlocks_congr {blocks others : List Block} (same : ∀ block, block ∈ blocks ↔ block ∈ others) :
    ofBlocks blocks = ofBlocks others := by
  have sorting : sorted blocks = sorted others := by
    apply sorted_eq_of_mem_iff (pairwise_sorted others)
    intro block
    rw [same, mem_sorted]
  simp only [ofBlocks, sorting]

/-! ## Texts -/

/-- Texts denote blocks, one each. -/
abbrev Denote (texts : List String) (blocks : List Block) : Prop :=
  List.Forall₂ (fun text block => Block.ofText text = .ok block) texts blocks

theorem Denote.mem_iff {texts : List String} {blocks : List Block} (denote : Denote texts blocks)
    (block : Block) : block ∈ blocks ↔ ∃ text ∈ texts, Block.ofText text = .ok block := by
  induction denote with
  | nil => simp
  | @cons text first texts blocks read _ ih =>
    simp only [List.mem_cons, ih, exists_eq_or_imp, read, Except.ok.injEq]
    rw [@eq_comm _ block first]

theorem denote_texts (blocks : List Block) : Denote (blocks.map Block.text) blocks := by
  rw [Denote, List.forall₂_map_left_iff, List.forall₂_same]
  exact fun block _ => Block.ofText_text block

/-- A list of texts is accepted when each text denotes a block and the blocks make up a set. -/
theorem ofTexts_eq_ok_iff {texts : List String} {ranges : RangeSet} :
    ofTexts texts = .ok ranges ↔ ∃ blocks, Denote texts blocks ∧ ranges.blocks = sorted blocks := by
  simp only [ofTexts, bind_eq_ok_iff, mapM_eq_ok_iff, ofBlocks_eq_ok_iff]

theorem ofTexts_of_denote {texts : List String} {blocks : List Block} (denote : Denote texts blocks) :
    ofTexts texts = ofBlocks blocks := by
  rw [ofTexts, mapM_eq_ok_iff.mpr denote]
  rfl

/-- The texts of a set denote the set. -/
theorem ofTexts_texts (ranges : RangeSet) : ofTexts ranges.texts = .ok ranges :=
  ofTexts_eq_ok_iff.mpr ⟨ranges.blocks, denote_texts ranges.blocks,
    (sorted_of_increasing ranges.increasing).symm⟩

/-- Canonical texts are a fixed point: a list that is accepted has a canonical list, which is accepted
as itself; the text of an accepted block is read as that block; and no two of them share a text. -/
theorem canonical_texts_fixed :
    (∀ (texts : List String) (ranges : RangeSet), ofTexts texts = .ok ranges →
      ofTexts ranges.texts = .ok ranges) ∧
    (∀ (value : String) (block : Block), Block.ofText value = .ok block →
      Block.ofText block.text = .ok block) ∧
    (∀ (value other : String) (a b : Block), Block.ofText value = .ok a → Block.ofText other = .ok b →
      a.text = b.text → a = b) := by
  refine ⟨?_, ?_, ?_⟩
  · intro _ ranges _
    exact ofTexts_texts ranges
  · intro _ block _
    exact Block.ofText_text block
  · intro _ _ a b _ _ same
    exact Block.text_injective same

/-- Texts of which two spell one block, and one has blanks around it. -/
def respelled : List String :=
  ["2001:0DB8::/48", " 192.0.2.0/24\n", "2001:db8:0:0::/48"]

/-- The blocks that they denote. -/
def respelledBlocks : List Block :=
  [⟨.v6, 0x20010db8000000000000000000000000, 48, by decide, by decide, by decide, by decide⟩,
    ⟨.v4, 0xc0000200, 24, by decide, by decide, by decide, by decide⟩,
    ⟨.v6, 0x20010db8000000000000000000000000, 48, by decide, by decide, by decide, by decide⟩]

theorem denote_respelled : Denote respelled respelledBlocks := by
  have reads (text : String) (block : Block) (same : (Block.ofText text).toOption = some block) :
      Block.ofText text = .ok block := toOption_eq_some_iff.mp same
  refine .cons (reads _ _ ?_) (.cons (reads _ _ ?_) (.cons (reads _ _ ?_) .nil)) <;>
    decide +kernel

/-- Their set has two texts, and these texts denote it again. -/
theorem canonical_texts_fixed_respelled :
    ∃ ranges, ofTexts respelled = .ok ranges ∧
      ranges.texts = ["192.0.2.0/24", "2001:db8::/48"] ∧ ofTexts ranges.texts = .ok ranges := by
  have sorting : sorted respelledBlocks = respelledBlocks.tail := by
    refine sorted_eq_of_mem_iff (by decide) ?_
    intro block
    simp only [respelledBlocks, List.tail_cons, List.mem_cons, List.not_mem_nil, or_false]
    exact or_iff_right_of_imp Or.inr
  obtain ⟨ranges, made⟩ := exists_ofBlocks_iff.mpr
    (show 1 ≤ respelledBlocks.toFinset.card ∧ respelledBlocks.toFinset.card ≤ maxBlocks by decide)
  have same := ofBlocks_eq_ok_iff.mp made
  have read : ofTexts respelled = .ok ranges :=
    ofTexts_eq_ok_iff.mpr ⟨respelledBlocks, denote_respelled, same⟩
  refine ⟨ranges, read, ?_, canonical_texts_fixed.1 respelled ranges read⟩
  rw [texts, same, sorting]
  decide +kernel

end RangeCatalog.RangeSet
