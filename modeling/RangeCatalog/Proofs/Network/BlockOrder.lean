import Mathlib.Data.Nat.Bitwise
import RangeCatalog.Proofs.Network.RangeSet

/-! # The order of blocks

Blocks are compared by version, network and prefix length, where the network is what the mask of the prefix
leaves of the address; but they are equal when the addresses themselves are. The two agree on blocks because no
block has host bits, so the order is a strict total order. A block is less than every other block that lies in
it: that one does not start before it, and has the longer prefix. Hence a canonical list shows a block before
all blocks inside it.
-/

namespace RangeCatalog

/-! ## Masks -/

/-- The number in which the bits of the prefix are set, and no others. -/
def Family.mask (family : Family) (length : Nat) : Nat :=
  2 ^ family.width - 2 ^ (family.width - length)

/-- Of a number that fits, a mask leaves the multiple of its step that is not above it. -/
theorem and_mask {width low value : Nat} (fits : low ≤ width) (bound : value < 2 ^ width) :
    value &&& (2 ^ width - 2 ^ low) = value / 2 ^ low * 2 ^ low := by
  have split : 2 ^ width - 2 ^ low = (2 ^ (width - low) - 1) * 2 ^ low := by
    rw [Nat.sub_mul, Nat.one_mul, ← Nat.pow_add, Nat.sub_add_cancel fits]
  apply Nat.eq_of_testBit_eq
  intro bit
  rw [split, Nat.testBit_and, Nat.testBit_mul_two_pow, Nat.testBit_mul_two_pow, Nat.testBit_div_two_pow,
    Nat.testBit_two_pow_sub_one]
  by_cases kept : low ≤ bit
  · rw [decide_eq_true kept, Bool.true_and, Bool.true_and, Nat.sub_add_cancel kept]
    by_cases inside : bit < width
    · rw [decide_eq_true (by omega), Bool.and_true]
    · have clear : value.testBit bit = false :=
        Nat.testBit_lt_two_pow (bound.trans_le (Nat.pow_le_pow_right (by decide) (by omega)))
      rw [clear, Bool.false_and]
  · rw [decide_eq_false kept, Bool.false_and, Bool.and_false, Bool.false_and]

namespace PrefixedAddress

/-- What the mask leaves of the address. -/
def network (range : PrefixedAddress) : Nat :=
  range.address.value &&& range.address.family.mask range.length

/-- The comparison by version, network and prefix length. It does not look at host bits. -/
def order : PrefixedAddress → PrefixedAddress → Ordering :=
  compareLex (compareOn (·.address.family.version)) (compareLex (compareOn network) (compareOn length))

private theorem network_eq_iff (range : PrefixedAddress) :
    range.network = range.address.value ↔ range.hostBits = 0 := by
  have masked : range.network = range.address.value / range.size * range.size :=
    and_mask (Nat.sub_le _ _) range.address.value_lt
  have parts := Nat.div_add_mod' range.address.value range.size
  rw [masked, hostBits]
  omega

end PrefixedAddress

namespace Block

variable {a b inner outer : Block}

/-! ## What blocks are compared by -/

private theorem network_toPrefixed (block : Block) : block.toPrefixed.network = block.network :=
  (PrefixedAddress.network_eq_iff block.toPrefixed).mpr block.aligned

private theorem order_toPrefixed (a b : Block) : a.toPrefixed.order b.toPrefixed = order a b := by
  simp only [PrefixedAddress.order, order, compareLex, compareOn, network_toPrefixed]
  rfl

theorem toPrefixed_injective (same : a.toPrefixed = b.toPrefixed) : a = b := by
  have read := ofPrefixed_toPrefixed "" a
  rw [same, ofPrefixed_toPrefixed] at read
  exact (Except.ok.inj read).symm

/-- Blocks are ordered as the addresses that were read, and are equal when these are. -/
theorem exists_read_order {value other : String} (read : ofText value = .ok a)
    (readOther : ofText other = .ok b) :
    ∃ range otherRange, PrefixedAddress.ofText? (trim value) = some range ∧
      PrefixedAddress.ofText? (trim other) = some otherRange ∧
      order a b = range.order otherRange ∧ (order a b = .eq ↔ range = otherRange) := by
  refine ⟨a.toPrefixed, b.toPrefixed, ofText_eq_ok_iff.mp read, ofText_eq_ok_iff.mp readOther,
    (order_toPrefixed a b).symm, ?_⟩
  rw [order_eq_iff]
  exact ⟨congrArg toPrefixed, toPrefixed_injective⟩

/-- The order does not tell `10.0.0.5/24` and `10.0.0.6/24` apart, which are no blocks. -/
example : PrefixedAddress.order ⟨⟨.v4, 0x0a000005, by decide⟩, 24, by decide⟩
    ⟨⟨.v4, 0x0a000006, by decide⟩, 24, by decide⟩ = .eq := by
  decide

private theorem before_total (a b : Block) : before a b = true ∨ before b a = true := by
  rw [before, before, @Std.OrientedCmp.eq_swap _ order _ b a]
  cases order a b <;> decide

private theorem order_of_versions (four : a.version = 4) (six : b.version = 6) : order a b = .lt := by
  rw [order_eq_lt_iff, Precedes, four, six]
  exact .inl (by decide)

/-! ## Addresses of a block -/

theorem size_pos (block : Block) : 0 < block.size :=
  Nat.two_pow_pos _

private theorem size_dvd_network (block : Block) : block.size ∣ block.network :=
  Nat.dvd_of_mod_eq_zero block.aligned

/-- An address belongs to a block when the mask leaves the network of it. -/
theorem contains_iff_mask (block : Block) (address : Address) :
    block.contains address ↔
      address.family = block.family ∧ address.value &&& block.family.mask block.length = block.network := by
  refine and_congr_right fun family => ?_
  have masked : address.value &&& block.family.mask block.length = address.value / block.size * block.size :=
    and_mask (Nat.sub_le _ _) (family ▸ address.value_lt)
  obtain ⟨index, network⟩ := block.size_dvd_network
  have positive := block.size_pos
  rw [masked, network, Nat.mul_comm block.size index, Nat.mul_right_cancel_iff positive,
    Nat.div_eq_iff positive]
  omega

/-- Between two multiples of a number there is room for it. -/
theorem add_le_of_dvd {step low high : Nat} (dvdLow : step ∣ low) (dvdHigh : step ∣ high) (less : low < high) :
    low + step ≤ high := by
  have room : step ≤ high - low := Nat.le_of_dvd (by omega) (Nat.dvd_sub dvdHigh dvdLow)
  omega

private theorem add_size_le (block : Block) : block.network + block.size ≤ 2 ^ block.family.width :=
  add_le_of_dvd block.size_dvd_network (Nat.pow_dvd_pow 2 (Nat.sub_le _ _)) block.network_lt

private theorem contains_firstAddress (block : Block) : block.contains block.firstAddress :=
  ⟨rfl, Nat.le_refl _, Nat.lt_add_of_pos_right block.size_pos⟩

private theorem value_lastAddress (block : Block) :
    block.lastAddress.value = block.network + (block.size - 1) := by
  have fits := block.add_size_le
  have positive := block.size_pos
  exact Nat.mod_eq_of_lt (show _ < 2 ^ block.family.width by omega)

private theorem contains_lastAddress (block : Block) : block.contains block.lastAddress := by
  have positive := block.size_pos
  refine ⟨rfl, ?_, ?_⟩ <;> rw [value_lastAddress] <;> omega

/-! ## Blocks in blocks -/

/-- Whether a block is a different one whose addresses all belong to another block. -/
structure NestedIn (inner outer : Block) : Prop where
  differs : inner ≠ outer
  within : ∀ address, inner.contains address → outer.contains address

/-- A longer prefix is a smaller block, and the size of the greater block is a multiple of it. -/
theorem size_dvd_size (family : inner.family = outer.family) (shorter : outer.length ≤ inner.length) :
    inner.size ∣ outer.size := by
  rw [size, size, family]
  exact Nat.pow_dvd_pow 2 (by omega)

private theorem length_le_of_size_le (family : inner.family = outer.family) (smaller : inner.size ≤ outer.size) :
    outer.length ≤ inner.length := by
  rw [size, size, family] at smaller
  have exponents := (Nat.pow_le_pow_iff_right (by decide)).mp smaller
  have long := outer.length_le
  omega

/-- A block lies in another one when its first address does and its prefix is longer. -/
theorem nestedIn_iff :
    inner.NestedIn outer ↔ outer.contains inner.firstAddress ∧ outer.length < inner.length := by
  constructor
  · rintro ⟨differs, within⟩
    obtain ⟨family, least, below⟩ := within _ inner.contains_firstAddress
    obtain ⟨_, _, last⟩ := within _ inner.contains_lastAddress
    rw [value_lastAddress] at last
    change outer.network ≤ inner.network at least
    have positive := inner.size_pos
    have shorter : outer.length ≤ inner.length := length_le_of_size_le family (by omega)
    refine ⟨⟨family, least, below⟩, Nat.lt_of_le_of_ne shorter ?_⟩
    intro same
    have sizes : inner.size = outer.size := by
      rw [size, size, show inner.family = outer.family from family, same]
    exact differs (eq_of_fields family (by omega) same.symm)
  · rintro ⟨⟨family, least, below⟩, shorter⟩
    -- Both blocks end at multiples of the smaller size, so the one that starts inside ends inside.
    have divides := size_dvd_size family shorter.le
    have room : inner.network + inner.size ≤ outer.network + outer.size := by
      refine add_le_of_dvd inner.size_dvd_network ?_ below
      exact Nat.dvd_add (divides.trans outer.size_dvd_network) divides
    refine ⟨?_, ?_⟩
    · rintro rfl
      exact Nat.lt_irrefl _ shorter
    · rintro address ⟨same, atLeast, inside⟩
      change outer.network ≤ inner.network at least
      exact ⟨same.trans family, by omega, by omega⟩

/-- A block is less than the blocks in it. -/
theorem order_of_nestedIn (nested : inner.NestedIn outer) : order outer inner = .lt := by
  obtain ⟨⟨family, least, _⟩, shorter⟩ := nestedIn_iff.mp nested
  have versions : outer.version = inner.version := congrArg Family.version family.symm
  rw [order_eq_lt_iff]
  refine .inr ⟨versions, ?_⟩
  rcases Nat.lt_or_eq_of_le least with before | together
  · exact .inl before
  · exact .inr ⟨together, shorter⟩

/-- In a canonical list the lesser block stands first. -/
theorem index_lt_of_order {blocks : List Block} (increasing : blocks.Pairwise fun a b => order a b = .lt)
    {i j : Nat} (first : blocks[i]? = some a) (second : blocks[j]? = some b) (less : order a b = .lt) : i < j := by
  obtain ⟨insideI, rfl⟩ := List.getElem?_eq_some_iff.mp first
  obtain ⟨insideJ, rfl⟩ := List.getElem?_eq_some_iff.mp second
  rcases Nat.lt_trichotomy i j with before | rfl | after
  · exact before
  · rw [order_eq_iff.mpr rfl] at less
    contradiction
  · have greater := List.pairwise_iff_getElem.mp increasing j i insideJ insideI after
    rw [@Std.OrientedCmp.eq_swap _ order, greater] at less
    contradiction

/-! ## The order -/

/-- The canonical order is a strict total order on the blocks, which are what texts are accepted as. It tells any
two of them apart, and it is the order of the addresses that were read. Blocks of version 4 precede those of
version 6, and a block precedes all other blocks whose addresses belong to it, in the order and so in each
canonical list. The addresses of a block are those of which the mask of its prefix leaves its network. -/
theorem order_respects_equality_and_nesting :
    (∀ block : Block, ∃ value, ofText value = .ok block) ∧
    (∀ a b : Block, before a b = true ∨ before b a = true) ∧
    (∀ a b : Block, before a b = true → before b a = true → a = b) ∧
    (∀ a b c : Block, before a b = true → before b c = true → before a c = true) ∧
    (∀ a b c : Block, order a b = .lt → order b c = .lt → order a c = .lt) ∧
    (∀ a b : Block, order b a = (order a b).swap ∧ (order a b = .eq ↔ a = b)) ∧
    (∀ (value other : String) (a b : Block), ofText value = .ok a → ofText other = .ok b →
      ∃ range otherRange, PrefixedAddress.ofText? (trim value) = some range ∧
        PrefixedAddress.ofText? (trim other) = some otherRange ∧
        order a b = range.order otherRange ∧ (order a b = .eq ↔ range = otherRange)) ∧
    (∀ a b : Block, a.version = 4 → b.version = 6 → order a b = .lt) ∧
    (∀ (block : Block) (address : Address), block.contains address ↔
      address.family = block.family ∧ address.value &&& block.family.mask block.length = block.network) ∧
    (∀ inner outer : Block, inner.NestedIn outer → order outer inner = .lt) ∧
    (∀ (texts : List String) (ranges : RangeSet) (i j : Nat) (inner outer : Block),
      RangeSet.ofTexts texts = .ok ranges → ranges.blocks[i]? = some outer → ranges.blocks[j]? = some inner →
      inner.NestedIn outer → i < j) := by
  refine ⟨?_, before_total, ?_, ?_, ?_, ?_, ?_, ?_, contains_iff_mask, ?_, ?_⟩
  · intro block
    exact ⟨block.text, ofText_text block⟩
  · intro a b notAfter notBefore
    exact order_eq_iff.mp (Std.OrientedCmp.isLE_antisymm notAfter notBefore)
  · intro a b c
    exact Std.TransCmp.isLE_trans
  · intro a b c
    exact Std.TransCmp.lt_trans
  · intro a b
    exact ⟨Std.OrientedCmp.eq_swap, order_eq_iff⟩
  · intro value other a b
    exact exists_read_order
  · intro a b
    exact order_of_versions
  · intro inner outer
    exact order_of_nestedIn
  · intro texts ranges i j inner outer _ first second nested
    exact index_lt_of_order ranges.increasing first second (order_of_nestedIn nested)

/-- The block `203.0.113.0/26`. -/
def sampleNet : Block :=
  ⟨.v4, 0xcb007100, 26, by decide, by decide, by decide, by decide⟩

/-- The block `203.0.113.0/27`, which starts where `203.0.113.0/26` does. -/
def lowerHalf : Block :=
  ⟨.v4, 0xcb007100, 27, by decide, by decide, by decide, by decide⟩

/-- The block `2001:db8:10::/44`. -/
def sampleNetSix : Block :=
  ⟨.v6, 0x20010db8001000000000000000000000, 44, by decide, by decide, by decide, by decide⟩

private theorem nestedIn_lowerHalf : lowerHalf.NestedIn sampleNet :=
  nestedIn_iff.mpr (by decide)

/-- Texts of the three blocks, not in order. -/
def sampleTexts : List String :=
  ["2001:db8:10::/44", "203.0.113.0/27", " 203.0.113.0/26"]

private theorem ofText_sampleTexts :
    ofText "2001:db8:10::/44" = .ok sampleNetSix ∧ ofText "203.0.113.0/27" = .ok lowerHalf ∧
      ofText " 203.0.113.0/26" = .ok sampleNet := by
  refine ⟨toOption_eq_some_iff.mp ?_, toOption_eq_some_iff.mp ?_, toOption_eq_some_iff.mp ?_⟩ <;>
    decide +kernel

private theorem exists_ofTexts_sampleTexts :
    ∃ ranges, RangeSet.ofTexts sampleTexts = .ok ranges ∧ ranges.blocks = [sampleNet, lowerHalf, sampleNetSix] := by
  have increasing : [sampleNet, lowerHalf, sampleNetSix].Pairwise fun a b => order a b = .lt := by decide
  have sorting : RangeSet.sorted [sampleNetSix, lowerHalf, sampleNet] = [sampleNet, lowerHalf, sampleNetSix] := by
    refine RangeSet.sorted_eq_of_mem_iff increasing fun block => ?_
    rw [← List.mem_reverse]
    rfl
  obtain ⟨six, half, whole⟩ := ofText_sampleTexts
  refine ⟨⟨_, increasing, by decide, by decide⟩, ?_, rfl⟩
  exact RangeSet.ofTexts_eq_ok_iff.mpr ⟨_, .cons six (.cons half (.cons whole .nil)), sorting.symm⟩

/-- A block and its lower half, which have one network, before a block of version 6; and the list of them. -/
theorem order_respects_equality_and_nesting_halves :
    (∃ block, ofText " 203.0.113.0/26" = .ok block ∧ before block sampleNet = true ∧
      before sampleNet block = true ∧ block = sampleNet) ∧
    (before sampleNet lowerHalf = true ∧ before lowerHalf sampleNetSix = true ∧
      before sampleNet sampleNetSix = true) ∧
    (order sampleNet lowerHalf = .lt ∧ order lowerHalf sampleNetSix = .lt ∧
      order sampleNet sampleNetSix = .lt) ∧
    (∃ range otherRange, PrefixedAddress.ofText? (trim " 203.0.113.0/26") = some range ∧
      PrefixedAddress.ofText? (trim "203.0.113.0/27") = some otherRange ∧
      order sampleNet lowerHalf = range.order otherRange ∧
      (order sampleNet lowerHalf = .eq ↔ range = otherRange)) ∧
    (lowerHalf.NestedIn sampleNet ∧ ∃ ranges, RangeSet.ofTexts sampleTexts = .ok ranges ∧
      ranges.blocks[0]? = some sampleNet ∧ ranges.blocks[1]? = some lowerHalf ∧ 0 < 1) := by
  obtain ⟨_, _, equal, chain, strictChain, _, reads, versions, _, nests, lists⟩ :=
    order_respects_equality_and_nesting
  obtain ⟨_, readHalf, read⟩ := ofText_sampleTexts
  have first : order sampleNet lowerHalf = .lt := nests lowerHalf sampleNet nestedIn_lowerHalf
  have second : order lowerHalf sampleNetSix = .lt := versions lowerHalf sampleNetSix rfl rfl
  obtain ⟨ranges, made, same⟩ := exists_ofTexts_sampleTexts
  have atFirst : ranges.blocks[0]? = some sampleNet := by rw [same]; rfl
  have atSecond : ranges.blocks[1]? = some lowerHalf := by rw [same]; rfl
  refine ⟨⟨sampleNet, read, by decide, by decide, equal _ _ (by decide) (by decide)⟩,
    ⟨by decide, by decide, chain sampleNet lowerHalf sampleNetSix (by decide) (by decide)⟩,
    ⟨first, second, strictChain _ _ _ first second⟩, reads _ _ _ _ read readHalf,
    nestedIn_lowerHalf, ranges, made, atFirst, atSecond, ?_⟩
  exact lists sampleTexts ranges 0 1 lowerHalf sampleNet made atFirst atSecond nestedIn_lowerHalf

end Block

end RangeCatalog
