import RangeCatalog.Proofs.Network.BlockText

/-! # Addresses that stand alone

An address that stands alone is the block of one address. It is read by one grammar, and the same address
before a prefix length by another, and the two do not have the same texts: before a prefix length octets may
have leading zeros, and `::` may stand for no group at all. These are the only differences, and a text that both
grammars have is a text of the same address in both.
-/

namespace RangeCatalog

namespace AddressGrammar

variable {grammar : AddressGrammar} {text : List Char}

/-! ## Octets and groups of a text -/

/-- What stands between points where a piece between colons has points. -/
def octetTexts (text : List Char) : List (List Char) :=
  ((text.splitOn ':').filter fun piece => '.' ∈ piece).flatMap fun piece => piece.splitOn '.'

/-- No octet has leading zeros. -/
def Unpadded (text : List Char) : Prop :=
  ∀ octet ∈ octetTexts text, ¬Padded octet

instance (text : List Char) : Decidable (Unpadded text) :=
  inferInstanceAs (Decidable (∀ octet ∈ octetTexts text, _))

/-- The number of groups that are written: a piece between colons that is not empty is a group, and one with
points is two. -/
def groupCount (text : List Char) : Nat :=
  (text.splitOn ':').countP (fun piece => !piece.isEmpty) + (text.splitOn ':').countP (fun piece => '.' ∈ piece)

/-- Where there is a gap, a group at least is missing. -/
def OpenGap (text : List Char) : Prop :=
  [':', ':'] <:+: text → groupCount text < 8

instance (text : List Char) : Decidable (OpenGap text) :=
  inferInstanceAs (Decidable (_ → _))

private theorem unpadded_nil : Unpadded [] := by
  decide

private theorem unpadded_append {head tail : List Char} :
    Unpadded (head ++ ':' :: tail) ↔ Unpadded head ∧ Unpadded tail := by
  simp only [Unpadded, octetTexts, List.splitOn_append_cons_self, List.filter_append, List.flatMap_append,
    List.mem_append, or_imp, forall_and]

private theorem unpadded_gap {head tail : List Char} :
    Unpadded (head ++ ':' :: ':' :: tail) ↔ Unpadded head ∧ Unpadded tail := by
  rw [unpadded_append, ← List.nil_append (':' :: tail), unpadded_append, and_iff_right unpadded_nil]

private theorem groupCount_append (head tail : List Char) :
    groupCount (head ++ ':' :: tail) = groupCount head + groupCount tail := by
  simp only [groupCount, List.splitOn_append_cons_self, List.countP_append]
  omega

private theorem groupCount_gap (head tail : List Char) :
    groupCount (head ++ ':' :: ':' :: tail) = groupCount head + groupCount tail := by
  have nothing : groupCount [] = 0 := by decide
  rw [groupCount_append, ← List.nil_append (':' :: tail), groupCount_append, nothing, Nat.zero_add]

private theorem openGap_gap {head tail : List Char} :
    OpenGap (head ++ ':' :: ':' :: tail) ↔ groupCount head + groupCount tail < 8 := by
  have gap : [':', ':'] <:+: head ++ ':' :: ':' :: tail := ⟨head, tail, by simp⟩
  rw [OpenGap, groupCount_gap, forall_prop_of_true gap]

private theorem octetTexts_of_not_mem (noColon : ':' ∉ text) :
    octetTexts text = if '.' ∈ text then text.splitOn '.' else [] := by
  rw [octetTexts, List.splitOn_eq_singleton noColon]
  split_ifs with point
  · simp [point]
  · simp [point]

private theorem groupCount_of_not_mem (noColon : ':' ∉ text) (some : text ≠ []) :
    groupCount text = if '.' ∈ text then 2 else 1 := by
  rw [groupCount, List.splitOn_eq_singleton noColon]
  split_ifs with point
  · simp [some, point]
  · simp [some, point]

/-- In a text with a first colon, two colons in a row start with that one or stand behind it. -/
theorem gap_append_iff {head tail : List Char} (noColon : ':' ∉ head) :
    [':', ':'] <:+: head ++ ':' :: tail ↔ tail.head? = some ':' ∨ [':', ':'] <:+: tail := by
  induction head with
  | nil =>
    rw [List.nil_append, List.infix_cons_iff, List.cons_prefix_cons, List.cons_prefix_iff]
    simp [List.head?_eq_some_iff]
  | cons c head ih =>
    rw [List.mem_cons, not_or] at noColon
    rw [List.cons_append, List.infix_cons_iff, ih noColon.2, List.cons_prefix_cons]
    simp [noColon.1]

private theorem not_gap_of_not_mem (noColon : ':' ∉ text) : ¬[':', ':'] <:+: text :=
  fun gap => noColon (gap.subset List.mem_cons_self)

private theorem openGap_of_not_mem (noColon : ':' ∉ text) : OpenGap text :=
  fun gap => absurd gap (not_gap_of_not_mem noColon)

/-! ## Numerals and octets -/

private theorem Numeral.unpadded {radix most bound number : Nat} (numeral : Numeral radix most bound text number) :
    Unpadded text := by
  have noPoint : '.' ∉ text := numeral.not_mem (by simp [digitValue?])
  rw [Unpadded, octetTexts_of_not_mem (numeral.not_mem (by simp [digitValue?])), if_neg noPoint]
  exact List.forall_mem_nil _

private theorem Numeral.groupCount {radix most bound number : Nat}
    (numeral : Numeral radix most bound text number) : groupCount text = 1 := by
  have noPoint : '.' ∉ text := numeral.not_mem (by simp [digitValue?])
  rw [groupCount_of_not_mem (numeral.not_mem (by simp [digitValue?])) numeral.present, if_neg noPoint]

private theorem octet_bare_iff {number : Nat} :
    Octet bare text number ↔ ¬Padded text ∧ Octet prefixed text number := by
  constructor
  · rintro ⟨numeral, unpadded⟩
    exact ⟨fun padded => Bool.false_ne_true (unpadded padded), numeral, fun _ => rfl⟩
  · rintro ⟨unpadded, numeral, _⟩
    exact ⟨numeral, fun padded => absurd padded unpadded⟩

/-! ## Dotted addresses -/

private theorem Dotted.not_mem_colon {number : Nat} (spelled : Dotted grammar text number) : ':' ∉ text :=
  spelled.not_mem (by decide) (by decide)

private theorem Dotted.mem_point {number : Nat} (spelled : Dotted grammar text number) : '.' ∈ text := by
  obtain ⟨octets, numbers, four, rfl, _⟩ := spelled
  obtain ⟨first, others, rfl⟩ := List.exists_cons_of_ne_nil (List.ne_nil_of_length_eq_add_one four)
  rw [List.intercalate_cons_of_ne_nil (List.ne_nil_of_length_eq_add_one (Nat.succ.inj four))]
  simp

private theorem octetTexts_intercalate {octets : List (List Char)} {numbers : List Nat} (four : octets.length = 4)
    (spelled : List.Forall₂ (Octet grammar) octets numbers) :
    octetTexts (['.'].intercalate octets) = octets := by
  have dotted : Dotted grammar (['.'].intercalate octets) _ := ⟨octets, numbers, four, rfl, spelled, rfl⟩
  have noPoint : ∀ octet ∈ octets, '.' ∉ octet := by
    intro octet member
    obtain ⟨_, _, isOctet⟩ := exists_of_mem_right spelled.flip member
    exact isOctet.not_mem (by decide)
  rw [octetTexts_of_not_mem dotted.not_mem_colon, if_pos dotted.mem_point,
    List.splitOn_intercalate '.' noPoint (List.ne_nil_of_length_eq_add_one four)]

private theorem dotted_bare_iff {number : Nat} :
    Dotted bare text number ↔ Dotted prefixed text number ∧ Unpadded text := by
  have octets_bare_iff {octets : List (List Char)} {numbers : List Nat} :
      List.Forall₂ (Octet bare) octets numbers ↔
        (∀ octet ∈ octets, ¬Padded octet) ∧ List.Forall₂ (Octet prefixed) octets numbers := by
    rw [← List.forall₂_and_left]
    simp only [← octet_bare_iff]
  constructor
  · rintro ⟨octets, numbers, four, rfl, spelled, total⟩
    rw [Unpadded, octetTexts_intercalate four spelled]
    obtain ⟨unpadded, spelled⟩ := octets_bare_iff.mp spelled
    exact ⟨⟨octets, numbers, four, rfl, spelled, total⟩, unpadded⟩
  · rintro ⟨⟨octets, numbers, four, rfl, spelled, total⟩, unpadded⟩
    rw [Unpadded, octetTexts_intercalate four spelled] at unpadded
    exact ⟨octets, numbers, four, rfl, octets_bare_iff.mpr ⟨unpadded, spelled⟩, total⟩

private theorem Dotted.groupCount {number : Nat} (spelled : Dotted grammar text number) : groupCount text = 2 := by
  have some : text ≠ [] := List.ne_nil_of_mem spelled.mem_point
  rw [groupCount_of_not_mem spelled.not_mem_colon some, if_pos spelled.mem_point]

/-! ## Runs of groups -/

variable {values : List Nat} {dotted : Bool}

private theorem run_bare_iff : Run bare text values dotted ↔ Run prefixed text values dotted ∧ Unpadded text := by
  constructor
  · intro run
    induction run with
    | dotted spelled =>
      obtain ⟨spelled, unpadded⟩ := dotted_bare_iff.mp spelled
      exact ⟨.dotted spelled, unpadded⟩
    | last numeral => exact ⟨.last numeral, numeral.unpadded⟩
    | more numeral _ ih => exact ⟨.more numeral ih.1, unpadded_append.mpr ⟨numeral.unpadded, ih.2⟩⟩
  · rintro ⟨run, unpadded⟩
    induction run with
    | dotted spelled => exact .dotted (dotted_bare_iff.mpr ⟨spelled, unpadded⟩)
    | last numeral => exact .last numeral
    | more numeral _ ih => exact .more numeral (ih (unpadded_append.mp unpadded).2)

private theorem part_bare_iff :
    Part bare text values dotted ↔ Part prefixed text values dotted ∧ Unpadded text := by
  rw [Part, Part, run_bare_iff, or_and_right]
  refine or_congr_left ⟨?_, And.left⟩
  rintro ⟨rfl, rfl, rfl⟩
  exact ⟨⟨rfl, rfl, rfl⟩, unpadded_nil⟩

private theorem Run.groupCount (run : Run grammar text values dotted) : groupCount text = values.length := by
  induction run with
  | dotted spelled => exact spelled.groupCount
  | last numeral => exact numeral.groupCount
  | more numeral _ ih => rw [groupCount_append, numeral.groupCount, ih, List.length_cons, Nat.add_comm]

private theorem Part.groupCount (part : Part grammar text values dotted) : groupCount text = values.length := by
  rcases part with ⟨rfl, rfl, _⟩ | run
  · decide
  · exact run.groupCount

/-- No run starts with a colon or has two of them in a row. -/
theorem Run.not_gap (run : Run grammar text values dotted) :
    text.head? ≠ some ':' ∧ ¬[':', ':'] <:+: text := by
  have apart {text : List Char} (noColon : ':' ∉ text) : text.head? ≠ some ':' ∧ ¬[':', ':'] <:+: text :=
    ⟨fun first => noColon (List.mem_of_head? first), not_gap_of_not_mem noColon⟩
  induction run with
  | dotted spelled => exact apart spelled.not_mem_colon
  | last numeral => exact apart (numeral.not_mem (by decide))
  | more numeral _ ih =>
    -- Groups are not empty, so that what stands behind the first colon starts with no colon either.
    have noColon : ':' ∉ _ := numeral.not_mem (by decide)
    rw [List.head?_append_of_ne_nil _ numeral.present, gap_append_iff noColon, not_or]
    exact ⟨(apart noColon).1, ih⟩

/-! ## Whole addresses -/

private theorem grouped_bare_iff {number : Nat} :
    Grouped bare text number ↔ Grouped prefixed text number ∧ Unpadded text ∧ OpenGap text := by
  constructor
  · rintro (⟨run, eight⟩ | ⟨before, behind, missing, room⟩)
    · obtain ⟨run, unpadded⟩ := run_bare_iff.mp run
      exact ⟨.whole run eight, unpadded, fun gap => absurd gap run.not_gap.2⟩
    · obtain ⟨before, unpaddedBefore⟩ := part_bare_iff.mp before
      obtain ⟨behind, unpaddedBehind⟩ := part_bare_iff.mp behind
      -- The room of this grammar is the one of the other and a group more.
      have fewer := Nat.lt_of_succ_le room
      have unpadded := unpadded_gap.mpr ⟨unpaddedBefore, unpaddedBehind⟩
      refine ⟨.gap before behind missing (Nat.le_of_lt fewer), unpadded, ?_⟩
      rwa [openGap_gap, before.groupCount, behind.groupCount]
  · rintro ⟨⟨run, eight⟩ | ⟨before, behind, missing, room⟩, unpadded, fewer⟩
    · exact .whole (run_bare_iff.mpr ⟨run, unpadded⟩) eight
    · rw [openGap_gap, before.groupCount, behind.groupCount] at fewer
      obtain ⟨unpaddedBefore, unpaddedBehind⟩ := unpadded_gap.mp unpadded
      exact .gap (part_bare_iff.mpr ⟨before, unpaddedBefore⟩) (part_bare_iff.mpr ⟨behind, unpaddedBehind⟩)
        missing (Nat.succ_le_of_lt fewer)

/-- The grammar of an address that stands alone has the texts of the other grammar, except for those with padded
octets and those with a gap where no group is missing. -/
theorem spells_bare_iff {address : Address} :
    bare.Spells text address ↔ prefixed.Spells text address ∧ Unpadded text ∧ OpenGap text := by
  have denotes_iff {number : Nat} : Denotes bare address.family text number ↔
      Denotes prefixed address.family text number ∧ Unpadded text ∧ OpenGap text := by
    cases address.family with
    | v4 =>
      refine dotted_bare_iff.trans ⟨?_, fun ⟨spelled, unpadded, _⟩ => ⟨spelled, unpadded⟩⟩
      rintro ⟨spelled, unpadded⟩
      exact ⟨spelled, unpadded, openGap_of_not_mem spelled.not_mem_colon⟩
    | v6 => exact grouped_bare_iff
  simp only [Spells, denotes_iff, and_right_comm, exists_and_right]

/-- A text of a version 4 address has no gap. -/
theorem Spells.openGap_of_v4 {address : Address} (spelled : grammar.Spells text address)
    (family : address.family = .v4) : OpenGap text := by
  obtain ⟨number, denoted, _⟩ := spelled
  rw [family] at denoted
  exact openGap_of_not_mem (Dotted.not_mem_colon denoted)

end AddressGrammar

namespace Block

/-- The width of a family written as a prefix length. -/
def widthSuffix (family : Family) : String :=
  "/" ++ decimal family.width

private theorem toList_widthSuffix (family : Family) :
    (widthSuffix family).toList = '/' :: Nat.toDigits 10 family.width := by
  simp [widthSuffix, decimal]

private theorem plain_widthSuffix (family : Family) : Plain (widthSuffix family).toList := by
  rw [toList_widthSuffix, plain_cons]
  exact ⟨by decide, plain_toDigits (by decide) _⟩

variable {text : String} {block : Block}

private theorem ofText_eq_ok_iff_of_no_slash (noSlash : '/' ∉ text.toList) :
    ofText text = .ok block ↔
      block.length = block.family.width ∧ AddressGrammar.bare.Spells (trim text).toList block.firstAddress := by
  have noSlash : '/' ∉ (trim text).toList := fun member => noSlash (mem_of_mem_trim member)
  rw [ofText_eq_ok_iff, PrefixedAddress.ofText?, if_neg noSlash, Option.map_eq_some_iff]
  constructor
  · rintro ⟨address, read, same⟩
    obtain ⟨rfl, width⟩ := PrefixedAddress.mk.inj same
    exact ⟨width.symm, Address.ofText?_eq_some_iff.mp read⟩
  · rintro ⟨width, spelled⟩
    exact ⟨block.firstAddress, Address.ofText?_eq_some_iff.mpr spelled, by simp only [toPrefixed, width]; rfl⟩

private theorem ofText_width_eq_ok_iff :
    ofText (trim text ++ widthSuffix block.family) = .ok block ↔
      block.length = block.family.width ∧
        AddressGrammar.prefixed.Spells (trim text).toList block.firstAddress := by
  have characters : (trim text ++ widthSuffix block.family).toList =
      (trim text).toList ++ '/' :: Nat.toDigits 10 block.family.width := by
    rw [String.toList_append, toList_widthSuffix]
  have slash : '/' ∈ (trim text ++ widthSuffix block.family).toList := by simp [characters]
  have some : (widthSuffix block.family).toList ≠ [] := by simp [toList_widthSuffix]
  have numeral : AddressGrammar.Numeral 10 _ _ (Nat.toDigits 10 block.family.width) block.family.width :=
    PrefixedAddress.numeral_length (Nat.le_refl block.family.width)
  rw [ofText_eq_ok_iff, trim_trim_append (plain_widthSuffix block.family) some,
    PrefixedAddress.ofText?_eq_some_iff_of_slash slash, characters, PrefixedAddress.spelled_append_iff,
    and_comm]
  refine and_congr_left' ⟨fun isNumeral => isNumeral.number_eq numeral, fun width => ?_⟩
  have width : block.toPrefixed.length = block.family.width := width
  rw [width]
  exact numeral

/-- A text without a slash is accepted as a block exactly when it is accepted as that block with the width of the
family as its prefix length, no octet has leading zeros and, in version 6, no gap stands for nothing. -/
theorem alone_as_host_network :
    ∀ text : String, '/' ∉ text.toList → ∀ block : Block,
      (block.version = 4 →
        (ofText text = .ok block ↔
          ofText (trim text ++ "/32") = .ok block ∧ AddressGrammar.Unpadded (trim text).toList)) ∧
      (block.version = 6 →
        (ofText text = .ok block ↔
          ofText (trim text ++ "/128") = .ok block ∧ AddressGrammar.Unpadded (trim text).toList ∧
            AddressGrammar.OpenGap (trim text).toList)) := by
  intro text noSlash block
  have suffixed := @ofText_width_eq_ok_iff text block
  rw [ofText_eq_ok_iff_of_no_slash noSlash, AddressGrammar.spells_bare_iff]
  constructor
  · intro version
    have family : block.family = .v4 := Family.version_injective version
    have suffix : widthSuffix block.family = "/32" := by rw [family]; decide
    rw [suffix] at suffixed
    rw [suffixed, and_assoc]
    refine and_congr_right' (and_congr_right fun spelled => ?_)
    exact and_iff_left (spelled.openGap_of_v4 family)
  · intro version
    have family : block.family = .v6 := Family.version_injective version
    have suffix : widthSuffix block.family = "/128" := by rw [family]; decide
    rw [suffix] at suffixed
    rw [suffixed, and_assoc]

/-- The block of the address `10.0.0.1`. -/
def tenOne : Block where
  family := .v4
  network := 0x0a000001
  length := 32
  network_lt := by decide
  length_le := by decide
  length_ge := by decide
  aligned := by decide

/-- The block of an address with no zero among its groups. -/
def eightGroups : Block where
  family := .v6
  network := 0x00010002000300040005000600070008
  length := 128
  network_lt := by decide
  length_le := by decide
  length_ge := by decide
  aligned := by decide

/-- An address of each version that both paths accept, with octets of one zero, and one with a gap between eight
groups that is no block where it stands alone. -/
theorem alone_as_host_network_of_zeros :
    ofText "\t10.0.0.1\n" = .ok tenOne ∧ ofText "1:2:3:4:5:6:0.7.0.8" = .ok eightGroups ∧
    ¬ofText "1:2:3:4::5:6:7:8" = .ok eightGroups := by
  have ten := (alone_as_host_network "\t10.0.0.1\n" (by decide) tenOne).1 rfl
  have mixed := (alone_as_host_network "1:2:3:4:5:6:0.7.0.8" (by decide) eightGroups).2 rfl
  have idle := (alone_as_host_network "1:2:3:4::5:6:7:8" (by decide) eightGroups).2 rfl
  have nothing : ¬AddressGrammar.OpenGap (trim "1:2:3:4::5:6:7:8").toList := by decide +kernel
  exact ⟨ten.mpr ⟨by decide +kernel, by decide +kernel⟩,
    mixed.mpr ⟨by decide +kernel, by decide +kernel, by decide +kernel⟩, fun read => nothing (idle.mp read).2.2⟩

/-- With the prefix length, octets with leading zeros and a gap between eight groups are accepted, and the same
addresses are refused where they stand alone. -/
theorem padded_octet_and_idle_gap_refused :
    (ofText "010.0.0.1/32" = .ok tenOne ∧ tenOne.version = 4 ∧
      ofText "010.0.0.1" = .error (.invalid "010.0.0.1")) ∧
    (ofText "1:2:3:4::5:6:7:8/128" = .ok eightGroups ∧ eightGroups.version = 6 ∧
      ofText "1:2:3:4::5:6:7:8" = .error (.invalid "1:2:3:4::5:6:7:8")) := by
  have ten : ofText "010.0.0.1/32" = .ok tenOne := by decide +kernel
  have groups : ofText "1:2:3:4::5:6:7:8/128" = .ok eightGroups := by decide +kernel
  exact ⟨⟨ten, rfl, by decide +kernel⟩, groups, rfl, by decide +kernel⟩

end Block

end RangeCatalog
