import Mathlib.Data.Nat.Bitwise
import RangeCatalog.Proofs.Network.BlockText

/-! # Strict reading

What is read from an address and a prefix length is decided by the bits of the address. A length that is
greater than the width is no length, a bit that is set below the prefix is refused before the breadth of the
block is looked at, and nothing is masked. Blanks around the text change nothing, and errors show the text
without them.
-/

namespace RangeCatalog

/-- A number is a multiple of a power of two when none of its lower bits is set. -/
theorem mod_pow_two_eq_zero_iff (value count : Nat) :
    value % Nat.pow 2 count = 0 ↔ ∀ bit < count, value.testBit bit = false := by
  have low (bit : Nat) : (value % Nat.pow 2 count).testBit bit = (decide (bit < count) && value.testBit bit) :=
    Nat.testBit_mod_two_pow value count bit
  constructor
  · intro zero bit inside
    have none := low bit
    rw [zero, Nat.zero_testBit, decide_eq_true inside, Bool.true_and] at none
    exact none.symm
  · intro none
    apply Nat.zero_of_testBit_eq_false
    intro bit
    rw [low]
    by_cases inside : bit < count
    · rw [none bit inside, Bool.and_false]
    · rw [decide_eq_false inside, Bool.false_and]

namespace Block

/-! ## Address and prefix length -/

/-- A prefix length that fits leaves the decision to the bits of the address. Any other number is refused. -/
theorem ofText_rangeText (address : Address) (length : Nat) :
    ofText (address.rangeText length) =
      if fits : length ≤ address.family.width then
        ofPrefixed (address.rangeText length) ⟨address, length, fits⟩
      else .error (.invalid (address.rangeText length)) := by
  have trimmed := (address.plain_rangeText length).trim
  have read := PrefixedAddress.ofText?_rangeText address length
  simp only [ofText, trimmed, address.isEmpty_rangeText length, Bool.false_eq_true, if_false, read]
  split_ifs <;> rfl

private theorem hostBits_eq_zero_iff (range : PrefixedAddress) :
    range.hostBits = 0 ↔
      ∀ bit < range.address.family.width - range.length, range.address.value.testBit bit = false :=
  mod_pow_two_eq_zero_iff _ _

variable {text : String} {range : PrefixedAddress}

private theorem ofPrefixed_of_hostBits {bit : Nat} (low : bit < range.address.family.width - range.length)
    (isSet : range.address.value.testBit bit = true) :
    ofPrefixed text range = .error (.hostBitsSet text) := by
  have crooked : ¬range.hostBits = 0 := by
    intro aligned
    rw [(hostBits_eq_zero_iff range).mp aligned bit low] at isSet
    contradiction
  rw [ofPrefixed, dif_neg crooked]

private theorem ofPrefixed_of_broad
    (aligned : ∀ bit < range.address.family.width - range.length, range.address.value.testBit bit = false)
    (broad : range.length < range.address.family.minPrefix) :
    ofPrefixed text range = .error (.tooBroad text range.address.family) := by
  rw [ofPrefixed, dif_pos ((hostBits_eq_zero_iff range).mpr aligned), dif_neg (Nat.not_le_of_lt broad)]

private theorem exists_ofPrefixed
    (aligned : ∀ bit < range.address.family.width - range.length, range.address.value.testBit bit = false)
    (narrow : range.address.family.minPrefix ≤ range.length) :
    ∃ block, ofPrefixed text range = .ok block ∧ block.toPrefixed = range := by
  rw [ofPrefixed, dif_pos ((hostBits_eq_zero_iff range).mpr aligned), dif_pos narrow]
  exact ⟨_, rfl, rfl⟩

/-! ## Errors -/

/-- An error shows the text without the blanks around it. -/
inductive Shows (text : String) : RangeError → Prop where
  | empty (blank : trim text = "") : Shows text .empty
  | invalid : Shows text (.invalid (trim text))
  | hostBitsSet : Shows text (.hostBitsSet (trim text))
  | tooBroad (family : Family) : Shows text (.tooBroad (trim text) family)

private theorem shows_of_ofText {error : RangeError} (refused : ofText text = .error error) :
    Shows text error := by
  simp only [ofText, ofPrefixed] at refused
  split_ifs at refused with blank
  · obtain rfl := Except.error.inj refused
    exact .empty (String.isEmpty_iff.mp blank)
  · split at refused
    · obtain rfl := Except.error.inj refused
      exact .invalid
    · split_ifs at refused
      · obtain rfl := Except.error.inj refused
        exact .tooBroad _
      · obtain rfl := Except.error.inj refused
        exact .hostBitsSet

private theorem ofText_eq_empty_iff : ofText text = .error .empty ↔ isBlankText text = true := by
  rw [isBlankText_iff]
  constructor
  · intro refused
    cases shows_of_ofText refused with
    | empty blank => exact blank
  · intro blank
    rw [ofText, blank]
    rfl

/-! ## The whole decision -/

/-- What is decided of an address and a number behind it, in a family of the given version, width and least
prefix length. -/
structure DecidedByBits (version width least : Nat) (address : Address) (length : Nat) : Prop where
  invalid : width < length →
    ofText (address.rangeText length) = .error (.invalid (address.rangeText length))
  hostBitsSet : length ≤ width → (∃ bit < width - length, address.value.testBit bit = true) →
    ofText (address.rangeText length) = .error (.hostBitsSet (address.rangeText length))
  tooBroad : length ≤ width → (∀ bit < width - length, address.value.testBit bit = false) →
    length < least →
      ofText (address.rangeText length) = .error (.tooBroad (address.rangeText length) address.family)
  accepted : length ≤ width → (∀ bit < width - length, address.value.testBit bit = false) →
    least ≤ length → ∃ block, ofText (address.rangeText length) = .ok block ∧
      block.firstAddress = address ∧ block.length = length ∧ block.version = version

private theorem decidedByBits (address : Address) (length : Nat) :
    DecidedByBits address.family.version address.family.width address.family.minPrefix address length where
  invalid long := by
    rw [ofText_rangeText, dif_neg (Nat.not_le_of_lt long)]
  hostBitsSet fits := by
    rintro ⟨bit, low, isSet⟩
    rw [ofText_rangeText, dif_pos fits]
    exact ofPrefixed_of_hostBits low isSet
  tooBroad fits aligned broad := by
    rw [ofText_rangeText, dif_pos fits]
    exact ofPrefixed_of_broad aligned broad
  accepted fits aligned narrow := by
    rw [ofText_rangeText, dif_pos fits]
    obtain ⟨block, made, same⟩ : ∃ block, ofPrefixed (address.rangeText length) ⟨address, length, fits⟩ =
        .ok block ∧ block.toPrefixed = ⟨address, length, fits⟩ := exists_ofPrefixed aligned narrow
    obtain rfl : block.firstAddress = address := congrArg PrefixedAddress.address same
    exact ⟨block, made, rfl, congrArg PrefixedAddress.length same, rfl⟩

/-- The canonical text of an address, a slash and a number are decided by the bits of the address: 32 of them
and prefixes of 8 or more for version 4, 128 and 24 for version 6. Blanks at the ends of any text change
nothing, errors show the text without them, and a text of blanks alone is empty. -/
theorem strict_by_bits :
    (∀ (address : Address) (length : Nat), address.family = .v4 → DecidedByBits 4 32 8 address length) ∧
    (∀ (address : Address) (length : Nat), address.family = .v6 → DecidedByBits 6 128 24 address length) ∧
    (∀ before text after : String, isBlankText before = true → isBlankText after = true →
      ofText (before ++ text ++ after) = ofText text) ∧
    (∀ (text : String) (error : RangeError), ofText text = .error error → Shows text error) ∧
    (∀ text : String, isBlankText text = true → ofText text = .error .empty) := by
  refine ⟨?_, ?_, ?_, fun _ _ => shows_of_ofText, fun _ => ofText_eq_empty_iff.mpr⟩
  · intro address length family
    have decided := decidedByBits address length
    rw [family] at decided
    exact decided
  · intro address length family
    have decided := decidedByBits address length
    rw [family] at decided
    exact decided
  · intro before text after blankBefore blankAfter
    simp only [ofText, trim_pad blankBefore blankAfter]

/-- The address `10.0.0.0`, in which bits 25 and 27 are set. -/
def tenNet : Address :=
  ⟨.v4, 0x0a000000, by decide⟩

/-- The address `2001:d00::`, of which the lowest bit that is set is bit 104. -/
def teredoNet : Address :=
  ⟨.v6, 0x20010d00000000000000000000000000, by decide⟩

/-- Both families at the bounds: a length that is too great, a bit below the prefix, a prefix that is too broad
and one that is just accepted; and the same with blanks around the text. -/
theorem strict_by_bits_at_bounds :
    ofText "10.0.0.0/33" = .error (.invalid "10.0.0.0/33") ∧
    ofText "10.0.0.0/6" = .error (.hostBitsSet "10.0.0.0/6") ∧
    ofText "10.0.0.0/7" = .error (.tooBroad "10.0.0.0/7" .v4) ∧
    (∃ block, ofText "10.0.0.0/8" = .ok block ∧ block.firstAddress = tenNet ∧ block.length = 8 ∧
      block.version = 4) ∧
    ofText "2001:d00::/129" = .error (.invalid "2001:d00::/129") ∧
    ofText "2001:d00::/23" = .error (.hostBitsSet "2001:d00::/23") ∧
    (∃ block, ofText "2001:d00::/24" = .ok block ∧ block.firstAddress = teredoNet ∧ block.length = 24 ∧
      block.version = 6) ∧
    ofText "\u00a0\t10.0.0.0/6\u3000\n" = .error (.hostBitsSet "10.0.0.0/6") ∧
    Shows "\u00a0\t10.0.0.0/6\u3000\n" (.hostBitsSet "10.0.0.0/6") ∧
    ofText "\u2003 \u0085" = .error .empty := by
  obtain ⟨four, six, pads, shows, blank⟩ := strict_by_bits
  have ten (length : Nat) := four tenNet length rfl
  have teredo (length : Nat) := six teredoNet length rfl
  have crooked : ofText "10.0.0.0/6" = .error (.hostBitsSet "10.0.0.0/6") :=
    (ten 6).hostBitsSet (by decide) ⟨25, by decide, by decide⟩
  have padded : ofText "\u00a0\t10.0.0.0/6\u3000\n" = .error (.hostBitsSet "10.0.0.0/6") :=
    (pads "\u00a0\t" "10.0.0.0/6" "\u3000\n" (by decide) (by decide)).trans crooked
  refine ⟨(ten 33).invalid (by decide), crooked, (ten 7).tooBroad (by decide) (by decide) (by decide),
    (ten 8).accepted (by decide) (by decide) (by decide), (teredo 129).invalid (by decide),
    (teredo 23).hostBitsSet (by decide) ⟨104, by decide, by decide⟩,
    (teredo 24).accepted (by decide) (by decide) (by decide), padded, shows _ _ padded,
    blank _ (by decide)⟩

end Block

end RangeCatalog
