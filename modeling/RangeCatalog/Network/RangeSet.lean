import RangeCatalog.Network.Block

/-! # Sets of ranges

The canonical list of a set: every accepted block once, in the canonical order. A list is refused at
its first refused text, when it holds no block, and when it holds too many. Repeated texts never count
toward the ceiling, because repetitions are removed before the blocks are counted.
-/

namespace RangeCatalog

def maxBlocks : Nat := 4096

/-- Blocks in strictly increasing order, at least one and at most `maxBlocks`. -/
structure RangeSet where
  blocks : List Block
  increasing : blocks.Pairwise fun a b => Block.order a b = .lt
  nonempty : blocks ≠ []
  bounded : blocks.length ≤ maxBlocks
deriving DecidableEq

namespace RangeSet

/-- Removes each block that is followed by itself. -/
def dropRepeats : List Block → List Block
  | [] => []
  | [a] => [a]
  | a :: b :: rest => if a = b then dropRepeats (b :: rest) else a :: dropRepeats (b :: rest)

@[simp]
theorem mem_dropRepeats (block : Block) (blocks : List Block) :
    block ∈ dropRepeats blocks ↔ block ∈ blocks := by
  fun_induction dropRepeats blocks with
  | case1 => rfl
  | case2 => rfl
  | case3 a rest ih => simp [ih]
  | case4 a b rest _ ih => simp [ih]

/-- The blocks in canonical order, each of them once. -/
def sorted (blocks : List Block) : List Block :=
  dropRepeats (blocks.mergeSort Block.before)

@[simp]
theorem mem_sorted (block : Block) (blocks : List Block) :
    block ∈ sorted blocks ↔ block ∈ blocks := by
  simp [sorted, List.mem_mergeSort]

theorem pairwise_dropRepeats (blocks : List Block)
    (ordered : blocks.Pairwise fun a b => Block.before a b = true) :
    (dropRepeats blocks).Pairwise fun a b => Block.order a b = .lt := by
  fun_induction dropRepeats blocks with
  | case1 => exact List.Pairwise.nil
  | case2 => exact List.pairwise_singleton _ _
  | case3 a rest ih => exact ih (List.pairwise_cons.mp ordered).2
  | case4 a b rest differs ih =>
    obtain ⟨least, tail⟩ := List.pairwise_cons.mp ordered
    refine List.pairwise_cons.mpr ⟨fun other member => ?_, ih tail⟩
    rw [mem_dropRepeats] at member
    have notGreater : (Block.order a other).isLE = true := least other member
    have notEqual : Block.order a other ≠ .eq := by
      intro same
      have equal : a = other := Block.order_eq_iff.mp same
      subst equal
      rcases List.mem_cons.mp member with same | later
      · exact differs same
      · exact differs <| Block.order_eq_iff.mp <| Std.OrientedCmp.isLE_antisymm
          (least b List.mem_cons_self) ((List.pairwise_cons.mp tail).1 a later)
    cases outcome : Block.order a other <;> simp_all

theorem pairwise_sorted (blocks : List Block) :
    (sorted blocks).Pairwise fun a b => Block.order a b = .lt := by
  refine pairwise_dropRepeats _ (List.pairwise_mergeSort ?_ ?_ blocks)
  · exact fun _ _ _ => Std.TransCmp.isLE_trans
  · intro a b
    rw [Bool.or_eq_true]
    unfold Block.before
    cases outcome : Block.order a b with
    | lt => exact .inl rfl
    | eq => exact .inl rfl
    | gt => exact .inr (by rw [@Std.OrientedCmp.eq_swap _ Block.order, outcome]; rfl)

/-- The set of some blocks, unless there are none or too many different ones. -/
def ofBlocks (blocks : List Block) : Except RangeError RangeSet :=
  if empty : sorted blocks = [] then .error .noRanges
  else if bounded : (sorted blocks).length ≤ maxBlocks then
    .ok ⟨sorted blocks, pairwise_sorted blocks, empty, bounded⟩
  else .error (.tooMany (sorted blocks).length)

/-- The set that range texts denote. The first refused text decides the error. -/
def ofTexts (texts : List String) : Except RangeError RangeSet := do
  ofBlocks (← texts.mapM Block.ofText)

def size (ranges : RangeSet) : Nat :=
  ranges.blocks.length

/-- The canonical texts in canonical order. -/
def texts (ranges : RangeSet) : List String :=
  ranges.blocks.map Block.text

end RangeSet

namespace RangeError

def message : RangeError → String
  | empty => "CIDR entry is empty"
  | invalid text => "Invalid CIDR '" ++ text ++ "'"
  | hostBitsSet text => "CIDR '" ++ text ++ "' has host bits set"
  | tooBroad text family =>
    "CIDR '" ++ text ++ "' too broad (min /" ++ decimal family.minPrefix ++ " for IPv" ++
      decimal family.version ++ ")"
  | noRanges => "produced an empty CIDR list"
  | tooMany count =>
    "produced " ++ decimal count ++ " CIDRs (max " ++ decimal maxBlocks ++ ")"

end RangeError

end RangeCatalog
