import RangeCatalog.Network.Block
import RangeCatalog.Proofs.Network.AddressText
import RangeCatalog.Proofs.Text.Blank

/-! # Reading blocks back

The canonical text of a block is read as the block, so that the text determines it. The canonical
order is spelled out as a comparison of version, network and prefix length.
-/

namespace RangeCatalog

/-! ## Texts without blanks -/

private theorem AddressGrammar.Spells.plain {grammar : AddressGrammar} {text : List Char} {address : Address}
    (spelled : grammar.Spells text address) : Plain text := by
  intro c member
  by_contra blank
  have noDigit : digitValue? 16 c = none := by
    rw [Option.eq_none_iff_forall_ne_some]
    intro digit value
    exact blank (isBlank_of_digitValue? value)
  refine spelled.not_mem noDigit ?_ ?_ member
  · rintro rfl
    exact blank (by decide)
  · rintro rfl
    exact blank (by decide)

theorem Address.plain_text (address : Address) : Plain address.text.toList :=
  (AddressGrammar.prefixed.spells_text (by decide) address).plain

/-- The canonical text of an address, a slash and a number, which may be too great for a prefix length. -/
def Address.rangeText (address : Address) (length : Nat) : String :=
  address.text ++ "/" ++ decimal length

namespace Address

private theorem toList_rangeText (address : Address) (length : Nat) :
    (address.rangeText length).toList = address.text.toList ++ '/' :: Nat.toDigits 10 length := by
  simp [rangeText, decimal]

theorem plain_rangeText (address : Address) (length : Nat) : Plain (address.rangeText length).toList := by
  rw [toList_rangeText, plain_append, plain_cons]
  exact ⟨address.plain_text, by decide, plain_toDigits (by decide) length⟩

theorem isEmpty_rangeText (address : Address) (length : Nat) :
    (address.rangeText length).isEmpty = false := by
  rw [Bool.eq_false_iff, ne_eq, String.isEmpty_iff, ← String.toList_inj]
  simp [toList_rangeText]

end Address

/-! ## Reading -/

/-- Where each family reads its own values and all values of a text are of one family, the order in which the
families are tried does not matter. -/
theorem Family.findSome?_eq_some_iff {α : Type} {read : Family → Option α} {familyOf : α → Family}
    {Written : α → Prop}
    (own : ∀ {family value}, read family = some value ↔ familyOf value = family ∧ Written value)
    (single : ∀ {first second}, Written first → Written second → familyOf first = familyOf second) {value : α} :
    [Family.v4, Family.v6].findSome? read = some value ↔ Written value := by
  constructor
  · intro found
    obtain ⟨_, _, here⟩ := List.exists_of_findSome?_eq_some found
    exact (own.mp here).2
  · intro written
    have here : read (familyOf value) = some value := own.mpr ⟨rfl, written⟩
    cases family : familyOf value with
    | v4 =>
      rw [family] at here
      rw [List.findSome?_cons, here]
    | v6 =>
      have none : read .v4 = none := by
        rw [Option.eq_none_iff_forall_ne_some]
        intro other found
        obtain ⟨familyOther, writtenOther⟩ := own.mp found
        rw [single writtenOther written, family] at familyOther
        contradiction
      rw [family] at here
      rw [List.findSome?_cons, none, List.findSome?_cons, here]

/-- An address that is a whole text. -/
def AddressGrammar.readWhole (grammar : AddressGrammar) (chars : List Char) (family : Family) :
    Option Address :=
  match grammar.readAddress family chars with
  | some (address, []) => some address
  | _ => none

theorem AddressGrammar.readWhole_eq_some_iff {grammar : AddressGrammar} (narrow : grammar.gap ≤ 1)
    {chars : List Char} {family : Family} {address : Address} :
    grammar.readWhole chars family = some address ↔ address.family = family ∧ grammar.Spells chars address := by
  constructor
  · intro read
    rw [readWhole] at read
    split at read
    · rename_i found
      obtain rfl := Option.some.inj read
      obtain ⟨text, rfl, family, spelled⟩ := exists_spells_of_readAddress narrow found
      rw [List.append_nil]
      exact ⟨family, spelled⟩
    · contradiction
  · rintro ⟨rfl, spelled⟩
    have found := readAddress_of_spells spelled endsGroups_nil
    rw [List.append_nil] at found
    simp only [readWhole, found]

/-- What is read as an address that stands alone are the texts of its grammar, and nothing else. -/
theorem Address.ofText?_eq_some_iff {text : String} {address : Address} :
    ofText? text = some address ↔ AddressGrammar.bare.Spells text.toList address :=
  Family.findSome?_eq_some_iff (AddressGrammar.readWhole_eq_some_iff (by decide))
    AddressGrammar.Spells.family_eq

namespace PrefixedAddress

/-- The texts of an address with its prefix length. -/
def Spelled (range : PrefixedAddress) (chars : List Char) : Prop :=
  ∃ text numeral, chars = text ++ '/' :: numeral ∧ AddressGrammar.prefixed.Spells text range.address ∧
    AddressGrammar.Numeral 10 (lengthDigits range.address.family) (range.address.family.width + 1) numeral
      range.length

variable {range : PrefixedAddress}

/-- The only slash of such a text is the one before the prefix length. -/
theorem spelled_append_iff {text numeral : List Char} :
    range.Spelled (text ++ '/' :: numeral) ↔
      AddressGrammar.prefixed.Spells text range.address ∧
        AddressGrammar.Numeral 10 (lengthDigits range.address.family) (range.address.family.width + 1) numeral
          range.length := by
  constructor
  · rintro ⟨before, after, same, spelled, isNumeral⟩
    have slashBefore : '/' ∉ before := spelled.not_mem (by decide) (by decide) (by decide)
    have slashAfter : '/' ∉ after := isNumeral.not_mem (by decide)
    obtain ⟨rfl, _, rfl⟩ := (List.append_cons_inj_of_notMem slashBefore slashAfter).mp same.symm
    exact ⟨spelled, isNumeral⟩
  · rintro ⟨spelled, isNumeral⟩
    exact ⟨text, numeral, rfl, spelled, isNumeral⟩

/-- What is read in a family are the texts of its addresses with their prefix lengths, and nothing else. -/
theorem readFamily_eq_some_iff {family : Family} {chars : List Char} :
    readFamily family chars = some range ↔ range.address.family = family ∧ range.Spelled chars := by
  constructor
  · intro read
    simp only [readFamily, Option.bind_eq_bind, Option.bind_eq_some_iff] at read
    obtain ⟨⟨address, after⟩, found, read⟩ := read
    obtain ⟨text, rfl, rfl, spelled⟩ := AddressGrammar.exists_spells_of_readAddress (by decide) found
    simp only at read
    split at read
    · obtain ⟨⟨length, tail⟩, foundLength, read⟩ := Option.bind_eq_some_iff.mp read
      obtain ⟨numeral, rfl, isNumeral, _⟩ := AddressGrammar.readNumber_eq_some_iff.mp foundLength
      split_ifs at read with kept
      obtain rfl := Option.some.inj read
      obtain rfl : tail = [] := kept.2
      exact ⟨rfl, text, numeral, by rw [List.append_nil], spelled, isNumeral⟩
    · contradiction
  · rintro ⟨rfl, text, numeral, rfl, spelled, isNumeral⟩
    have found := AddressGrammar.readAddress_of_spells spelled (AddressGrammar.endsGroups_slash numeral)
    simp only [readFamily, found, isNumeral.readNumber, Option.bind_eq_bind, Option.bind_some]
    exact dif_pos ⟨range.length_le, trivial⟩

/-- A text with a slash is read as an address with its prefix length when it is one of its texts. -/
theorem ofText?_eq_some_iff_of_slash {text : String} (slash : '/' ∈ text.toList) :
    ofText? text = some range ↔ range.Spelled text.toList := by
  rw [ofText?, if_pos slash]
  refine Family.findSome?_eq_some_iff readFamily_eq_some_iff ?_
  rintro first second ⟨text, numeral, same, spelled, _⟩ other
  rw [same, spelled_append_iff] at other
  exact spelled.family_eq other.1

private theorem length_digits_le {family : Family} {length : Nat} (fits : length ≤ family.width) :
    (Nat.toDigits 10 length).length ≤ lengthDigits family := by
  have room (family : Family) : 0 < lengthDigits family ∧ family.width < 10 ^ lengthDigits family := by
    cases family <;> decide
  exact (Nat.length_toDigits_le_iff (by decide) (room family).1).mpr
    (Nat.lt_of_le_of_lt fits (room family).2)

theorem numeral_length {family : Family} {length : Nat} (fits : length ≤ family.width) :
    AddressGrammar.Numeral 10 (lengthDigits family) (family.width + 1) (Nat.toDigits 10 length) length :=
  AddressGrammar.numeral_toDigits (by decide) (by decide) (Nat.lt_succ_of_le fits) (length_digits_le fits)

/-- The canonical text of an address and a number behind it are read as written, and a number that is greater
than the width is no prefix length. -/
theorem ofText?_rangeText (address : Address) (length : Nat) :
    ofText? (address.rangeText length) =
      if fits : length ≤ address.family.width then some ⟨address, length, fits⟩ else none := by
  have slash : '/' ∈ (address.rangeText length).toList := by simp [Address.toList_rangeText]
  have canonical := AddressGrammar.prefixed.spells_text (by decide) address
  split_ifs with fits
  · rw [ofText?_eq_some_iff_of_slash slash, Address.toList_rangeText, spelled_append_iff]
    exact ⟨canonical, numeral_length fits⟩
  · rw [Option.eq_none_iff_forall_ne_some]
    intro range read
    rw [ofText?_eq_some_iff_of_slash slash, Address.toList_rangeText, spelled_append_iff] at read
    obtain ⟨spelled, isNumeral⟩ := read
    rw [spelled.family_eq canonical] at isNumeral
    have refused : AddressGrammar.readNumber 10 (lengthDigits address.family) (address.family.width + 1)
        (Nat.toDigits 10 length) = none :=
      AddressGrammar.readNumber_toDigits_of_le (by decide) (by decide) (Nat.lt_of_not_le fits)
    rw [isNumeral.readNumber] at refused
    contradiction

end PrefixedAddress

namespace Block

theorem plain_text (block : Block) : Plain block.text.toList :=
  block.firstAddress.plain_rangeText block.length

/-- A block as an address with a prefix length. -/
def toPrefixed (block : Block) : PrefixedAddress :=
  ⟨block.firstAddress, block.length, block.length_le⟩

theorem ofText?_text (block : Block) : PrefixedAddress.ofText? block.text = some block.toPrefixed :=
  (PrefixedAddress.ofText?_rangeText block.firstAddress block.length).trans (dif_pos block.length_le)

theorem ofPrefixed_toPrefixed (text : String) (block : Block) :
    ofPrefixed text block.toPrefixed = .ok block := by
  have aligned : block.toPrefixed.hostBits = 0 := block.aligned
  have long : block.toPrefixed.address.family.minPrefix ≤ block.toPrefixed.length := block.length_ge
  rw [ofPrefixed, dif_pos aligned, dif_pos long]
  rfl

/-- A text is accepted as the block that is read from it without the blanks at its ends. -/
theorem ofText_eq_ok_iff {text : String} {block : Block} :
    ofText text = .ok block ↔ PrefixedAddress.ofText? (trim text) = some block.toPrefixed := by
  constructor
  · intro accepted
    simp only [ofText] at accepted
    split_ifs at accepted
    split at accepted
    · cases accepted
    · rename_i range read
      rw [ofPrefixed] at accepted
      split_ifs at accepted
      obtain rfl := Except.ok.inj accepted
      exact read
  · intro read
    have present : (trim text).isEmpty = false := by
      rw [Bool.eq_false_iff, ne_eq, String.isEmpty_iff]
      intro blank
      have nothing : PrefixedAddress.ofText? "" = none := by decide
      rw [blank, nothing] at read
      contradiction
    simp only [ofText, present, Bool.false_eq_true, if_false, read]
    exact ofPrefixed_toPrefixed _ block

/-- The canonical text of a block is read as the block. -/
theorem ofText_text (block : Block) : ofText block.text = .ok block := by
  rw [ofText_eq_ok_iff, block.plain_text.trim, ofText?_text]

theorem text_injective {a b : Block} (same : a.text = b.text) : a = b := by
  have read : (.ok a : Except RangeError Block) = .ok b := by rw [← ofText_text a, same, ofText_text]
  exact Except.ok.inj read

/-! ## Order -/

/-- The version decides, then the network, then the prefix length. -/
def Precedes (a b : Block) : Prop :=
  a.version < b.version ∨ a.version = b.version ∧
    (a.network < b.network ∨ a.network = b.network ∧ a.length < b.length)

theorem order_eq_lt_iff {a b : Block} : order a b = .lt ↔ a.Precedes b := by
  simp only [order, compareLex, compareOn, Ordering.then_eq_lt, Nat.compare_eq_lt, Nat.compare_eq_eq,
    Precedes]

end Block

end RangeCatalog
