import RangeCatalog.Growth

/-! # The rule of the growth guard

For counts that fit a 64-bit word the guard decides by exact integers: saturation never changes a
verdict. A machine that has nothing but such words comes to the same verdict in its steps, and it never
takes a number from a smaller one.
-/

namespace RangeCatalog.Growth

/-- Whether a set may have `count` ranges after it had `baseline`. -/
def Admits (baseline : Option Nat) (count : Nat) (allowLarge : Bool) : Prop :=
  allowLarge = true ∨ ∀ last, baseline = some last →
    last = 0 ∨ count ≤ min (4 * last + 64) (last + 2048)

/-- A set of few ranges may follow any other. -/
theorem admits_of_le_slack {baseline : Option Nat} {count : Nat} {allowLarge : Bool} (few : count ≤ slack) :
    Admits baseline count allowLarge := by
  refine .inr fun last _ => .inr ?_
  rw [slack] at few
  omega

/-- A word is below the saturated bound exactly when it is below the bound itself. -/
theorem le_ratioBound_iff {baseline count : Nat} (word : count ≤ maxCount) :
    count ≤ ratioBound baseline ↔ count ≤ 4 * baseline + 64 := by
  simp only [ratioBound, saturate, factor, slack]
  omega

theorem withinBounds_iff {baseline count : Nat} (word : count ≤ maxCount) :
    withinBounds baseline count = true ↔ count ≤ min (4 * baseline + 64) (baseline + 2048) := by
  simp only [withinBounds, Bool.and_eq_true, decide_eq_true_eq, le_ratioBound_iff word,
    Nat.le_min]
  rw [maxGain]
  omega

theorem check_eq_ok_iff {setId : String} {baseline : Option Nat} {count : Nat} {allowLarge : Bool}
    (word : count ≤ maxCount) :
    check setId baseline count allowLarge = .ok () ↔ Admits baseline count allowLarge := by
  cases baseline with
  | none => simp [check, Admits]
  | some last =>
    have bounds := @withinBounds_iff last count word
    have accepted : (last = 0 ∨ count ≤ last ∨ withinBounds last count = true ∨ allowLarge = true) ↔
        Admits (some last) count allowLarge := by
      simp only [Admits, bounds, Option.some.injEq, forall_eq']
      cases allowLarge with
      | true => simp
      | false =>
        simp only [Bool.false_eq_true, false_or, or_false, Nat.le_min]
        omega
    rw [← accepted, check]
    split <;> simp_all

/-- A set that does not grow is always admitted. -/
theorem check_of_le {setId : String} {last count : Nat} (allowLarge : Bool) (shrinks : count ≤ last) :
    check setId (some last) count allowLarge = .ok () := by
  rw [check, if_pos (.inr (.inl shrinks))]

/-- Where large growth is accepted, nothing is compared. -/
theorem check_of_allowed (setId : String) (baseline : Option Nat) (count : Nat) :
    check setId baseline count true = .ok () := by
  cases baseline with
  | none => rfl
  | some last => rw [check, if_pos (.inr (.inr (.inr rfl)))]

/-- What is refused names the set and both counts, and the set has grown from some ranges to more. -/
theorem check_eq_error {setId : String} {baseline : Option Nat} {count : Nat} {allowLarge : Bool}
    {violation : Violation} (refused : check setId baseline count allowLarge = .error violation) :
    ∃ last, baseline = some last ∧ violation = ⟨setId, last, count⟩ ∧ 1 ≤ last ∧ last < count := by
  cases baseline with
  | none => contradiction
  | some last =>
    rw [check] at refused
    split at refused
    · contradiction
    · rename_i beyond
      simp only [not_or] at beyond
      refine ⟨last, rfl, (Except.error.inj refused).symm, ?_, ?_⟩
      · exact Nat.pos_of_ne_zero beyond.1
      · exact Nat.lt_of_not_le beyond.2.1

theorem setId_of_check {setId : String} {baseline : Option Nat} {count : Nat} {allowLarge : Bool}
    {violation : Violation} (refused : check setId baseline count allowLarge = .error violation) :
    violation.setId = setId := by
  obtain ⟨_, _, rfl, _⟩ := check_eq_error refused
  rfl

/-- A set of fewer ranges is admitted where a larger one is. -/
theorem Admits.of_le {baseline : Option Nat} {count fewer : Nat} {allowLarge : Bool}
    (admits : Admits baseline count allowLarge) (less : fewer ≤ count) : Admits baseline fewer allowLarge := by
  refine admits.imp_right fun bounds last known => ?_
  exact (bounds last known).imp_right (Nat.le_trans less)

/-! ## Words -/

/-- A number as a word. What does not fit becomes the greatest word. -/
def saturatedWord (number : Nat) : UInt64 :=
  UInt64.ofNat (saturate number)

/-- The difference of two words. A difference below zero has no value. -/
def difference? (first second : UInt64) : Option UInt64 :=
  if second ≤ first then some (first - second) else none

/-- The guard in the steps of a machine with words of 64 bits. It has no outcome where a difference has no
value. -/
def checkWords? (setId : String) (baseline : Option UInt64) (count : UInt64) (allowLarge : Bool) :
    Option (Except Violation Unit) :=
  match baseline with
  | none => some (.ok ())
  | some last =>
    if last = 0 ∨ count ≤ last then some (.ok ())
    else do
      let product := saturatedWord (last.toNat * factor)
      let bound := saturatedWord (product.toNat + slack)
      let gain ← difference? count last
      return if count ≤ bound ∧ gain ≤ UInt64.ofNat maxGain ∨ allowLarge = true then .ok ()
        else .error ⟨setId, last.toNat, count.toNat⟩

private theorem word_le_maxCount (word : UInt64) : word.toNat ≤ maxCount :=
  Nat.le_of_lt_succ word.toNat_lt

private theorem toNat_eq_zero_iff (word : UInt64) : word.toNat = 0 ↔ word = 0 :=
  @UInt64.toNat_inj word 0

private theorem toNat_saturatedWord (number : Nat) : (saturatedWord number).toNat = saturate number := by
  have fits : saturate number < 2 ^ 64 := Nat.lt_succ_of_le (Nat.min_le_right number maxCount)
  rw [saturatedWord, UInt64.toNat_ofNat_of_lt' fits]

private theorem difference?_of_le {first second : UInt64} (order : second ≤ first) :
    difference? first second = some (first - second) :=
  if_pos order

/-- The machine has an outcome for all words, the outcome of the guard. -/
theorem checkWords?_eq (setId : String) (baseline : Option UInt64) (count : UInt64) (allowLarge : Bool) :
    checkWords? setId baseline count allowLarge =
      some (check setId (baseline.map UInt64.toNat) count.toNat allowLarge) := by
  cases baseline with
  | none => rfl
  | some last =>
    have zero : last = 0 ↔ last.toNat = 0 := (toNat_eq_zero_iff last).symm
    have shrinks : count ≤ last ↔ count.toNat ≤ last.toNat := UInt64.le_iff_toNat_le
    rw [checkWords?, Option.map_some, check]
    by_cases early : last = 0 ∨ count ≤ last
    · have passed : last.toNat = 0 ∨ count.toNat ≤ last.toNat := early.imp zero.mp shrinks.mp
      rw [if_pos early, if_pos (or_assoc.mp (.inl passed))]
    · obtain ⟨some, grown⟩ := not_or.mp early
      have order : last ≤ count := UInt64.le_of_lt (UInt64.not_le.mp grown)
      have bound : (saturatedWord ((saturatedWord (last.toNat * factor)).toNat + slack)).toNat =
          ratioBound last.toNat := by
        rw [toNat_saturatedWord, toNat_saturatedWord, ratioBound]
      have gain : (count - last).toNat = count.toNat - last.toNat := UInt64.toNat_sub_of_le _ _ order
      have most : (UInt64.ofNat maxGain).toNat = maxGain := rfl
      have within : (count ≤ saturatedWord ((saturatedWord (last.toNat * factor)).toNat + slack) ∧
          count - last ≤ UInt64.ofNat maxGain) ↔ withinBounds last.toNat count.toNat = true := by
        rw [UInt64.le_iff_toNat_le, UInt64.le_iff_toNat_le, bound, gain, most, withinBounds,
          Bool.and_eq_true, decide_eq_true_eq, decide_eq_true_eq]
      rw [zero] at some
      rw [shrinks] at grown
      rw [if_neg early, difference?_of_le order, Option.bind_eq_bind, Option.bind_some]
      simp only [within, some, grown, false_or]
      rfl

/-- For all counts of 64 bits: without permission the guard accepts exactly the sets that have no last size or
the last size zero, or that keep both bounds in unbounded integers. Neither sum nor product would change a
verdict if it did not stop at the greatest word, and no step of the guard takes a number from a smaller one.
A smaller set is accepted where a larger one is, and what is refused names both counts of a set that has grown.
With permission everything is accepted. -/
theorem exact_on_words (setId : String) (baseline : Option UInt64) (count : UInt64) :
    (check setId (baseline.map UInt64.toNat) count.toNat false = .ok () ↔
      baseline = none ∨ ∃ last, baseline = some last ∧
        (last = 0 ∨ count.toNat ≤ min (4 * last.toNat + 64) (last.toNat + 2048))) ∧
    (∀ last, baseline = some last →
      (count.toNat ≤ ratioBound last.toNat ↔ count.toNat ≤ last.toNat * factor + slack)) ∧
    (∀ allowLarge, checkWords? setId baseline count allowLarge =
      some (check setId (baseline.map UInt64.toNat) count.toNat allowLarge)) ∧
    (∀ fewer ≤ count, check setId (baseline.map UInt64.toNat) count.toNat false = .ok () →
      check setId (baseline.map UInt64.toNat) fewer.toNat false = .ok ()) ∧
    (∀ allowLarge violation,
      check setId (baseline.map UInt64.toNat) count.toNat allowLarge = .error violation →
      ∃ last, baseline = some last ∧ violation = ⟨setId, last.toNat, count.toNat⟩ ∧ 1 ≤ last.toNat ∧
        last.toNat < count.toNat) ∧
    check setId (baseline.map UInt64.toNat) count.toNat true = .ok () := by
  have word := word_le_maxCount count
  refine ⟨?_, ?_, ?_, ?_, ?_, check_of_allowed _ _ _⟩
  · rw [check_eq_ok_iff word]
    cases baseline with
    | none => simp [Admits]
    | some last =>
      simp only [Admits, Bool.false_eq_true, false_or, Option.map_some, Option.some.injEq, forall_eq',
        reduceCtorEq, exists_eq_left', toNat_eq_zero_iff]
  · intro last _
    rw [le_ratioBound_iff word, Nat.mul_comm]
    rfl
  · exact checkWords?_eq setId baseline count
  · intro fewer less accepted
    rw [check_eq_ok_iff word] at accepted
    have order : fewer.toNat ≤ count.toNat := UInt64.le_iff_toNat_le.mp less
    exact (check_eq_ok_iff (word_le_maxCount fewer)).mpr (accepted.of_le order)
  · intro allowLarge violation refused
    obtain ⟨number, known, rest⟩ := check_eq_error refused
    obtain ⟨last, found, rfl⟩ := Option.map_eq_some_iff.mp known
    exact ⟨last, found, rest⟩

/-- A last size whose multiple is beyond the greatest word: the set may gain 2048 ranges and no more. -/
theorem exact_on_words_beyond_product :
    check "set" (some 0x4000000000000000) 0x4000000000000800 false = .ok () ∧
    check "set" (some 0x4000000000000000) 0x4000000000000001 false = .ok () ∧
    check "set" (some 0x4000000000000000) 0x4000000000000801 false =
      .error ⟨"set", 0x4000000000000000, 0x4000000000000801⟩ ∧
    checkWords? "set" (some 0x4000000000000000) 0x4000000000000801 false =
      some (.error ⟨"set", 0x4000000000000000, 0x4000000000000801⟩) ∧
    check "set" (some 0x4000000000000000) 0x4000000000000801 true = .ok () := by
  obtain ⟨rule, _, _, smaller, _, _⟩ := exact_on_words "set" (some 0x4000000000000000) 0x4000000000000800
  obtain ⟨_, _, machine, _, _, permitted⟩ := exact_on_words "set" (some 0x4000000000000000) 0x4000000000000801
  have accepted := rule.mpr (.inr ⟨_, rfl, .inr (by decide)⟩)
  have refused : check "set" (some 0x4000000000000000) 0x4000000000000801 false =
      .error ⟨"set", 0x4000000000000000, 0x4000000000000801⟩ := rfl
  have steps := machine false
  exact ⟨accepted, smaller 0x4000000000000001 (by decide) accepted, refused, steps.trans (congrArg some refused),
    permitted⟩

end RangeCatalog.Growth
