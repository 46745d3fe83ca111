import RangeCatalog.Proofs.Network.AddressGrammar

/-! # Canonical texts of addresses

The canonical text of an address is a text of the address in both grammars, so that it is read as the address.
In version 6 all that is used of the longest run of zeros is that the groups in it are zeros, since the gap may
stand for any number of groups.
-/

namespace RangeCatalog

namespace AddressGrammar

variable {grammar : AddressGrammar}

/-! ## Numerals -/

private theorem digitText_toDigits {radix : Nat} (base : 1 < radix) (known : radix ≤ 16) (number : Nat) :
    DigitText radix (Nat.toDigits radix number) (digitsOf radix number) := by
  rw [toDigits_eq_map_digitsOf base, DigitText, List.forall₂_map_left_iff, List.forall₂_same]
  exact fun digit member => digitValue?_digitChar known (lt_of_mem_digitsOf base member)

theorem numeral_toDigits {radix most bound number : Nat} (base : 1 < radix) (known : radix ≤ 16)
    (inside : number < bound) (short : (Nat.toDigits radix number).length ≤ most) :
    Numeral radix most bound (Nat.toDigits radix number) number where
  digits := ⟨_, digitText_toDigits base known number, numberOfDigits_digitsOf radix number⟩
  present := Nat.toDigits_ne_nil
  short := short
  inside := inside

/-- A numeral of a number that is out of bounds is refused, be it for its digits or for its number. -/
theorem readNumber_toDigits_of_le {radix most bound number : Nat} (base : 1 < radix)
    (known : radix ≤ 16) (outside : bound ≤ number) :
    readNumber radix most bound (Nat.toDigits radix number) = none := by
  have span := spanDigits_toDigits base known number (endsDigits_nil radix)
  rw [List.append_nil] at span
  simp only [readNumber, span, numberOfDigits_digitsOf, outside, or_true, if_true]

/-- An octet is written without leading zeros. -/
theorem octet_toDigits {number : Nat} (small : number < 256) :
    Octet grammar (Nat.toDigits 10 number) number where
  toNumeral := numeral_toDigits (by decide) (by decide) small
    ((Nat.length_toDigits_le_iff (by decide) (by decide)).mpr (Nat.lt_trans small (by decide)))
  padded := by
    rintro ⟨long, leading⟩
    rw [toDigits_eq_map_digitsOf (by decide), List.head?_map, List.head?_eq_some_head (digitsOf_ne_nil _ _),
      Option.map_some, Option.some.injEq, Nat.digitChar_eq_zero] at leading
    have zero : number = 0 := by
      apply eq_zero_of_head?_digitsOf (show 1 < 10 by decide)
      rw [List.head?_eq_some_head (digitsOf_ne_nil _ _), leading]
    subst zero
    contradiction

private theorem group_toDigits {group : Nat} (small : group < 65536) :
    Numeral 16 4 65536 (Nat.toDigits 16 group) group :=
  numeral_toDigits (by decide) (by decide) small
    ((Nat.length_toDigits_le_iff (by decide) (by decide)).mpr (Nat.lt_of_lt_of_le small (by decide)))

/-! ## Dotted texts -/

/-- Four octets denote the last 32 bits of the number that they are taken from. -/
theorem dotted_dottedText (value : Nat) :
    Dotted grammar (Address.dottedText value).toList (value % 0x100000000) := by
  have spelled (part : Nat) : Octet grammar (Nat.toDigits 10 (part % 256)) (part % 256) :=
    octet_toDigits (Nat.mod_lt _ (by decide))
  refine ⟨_, _, rfl, ?_, .cons (spelled (value / 0x1000000)) (.cons (spelled (value / 0x10000))
    (.cons (spelled (value / 0x100)) (.cons (spelled value) .nil))), ?_⟩
  · simp [Address.dottedText, decimal, List.intercalate_cons_cons]
  · simp only [numberOfDigits, List.foldl_cons, List.foldl_nil]
    omega

/-! ## Texts of groups -/

private theorem run_groupsText {groups : List Nat} (some : groups ≠ []) (small : ∀ group ∈ groups, group < 65536) :
    Run grammar (Address.groupsText groups).toList groups false := by
  rw [Address.groupsText, String.toList_intercalate]
  induction groups with
  | nil => contradiction
  | cons group groups ih =>
    have numeral := group_toDigits (small group List.mem_cons_self)
    by_cases single : groups = []
    · subst single
      simpa [hexadecimal] using Run.last numeral
    · have others := ih single fun other member => small other (List.mem_cons_of_mem _ member)
      simpa [hexadecimal, List.intercalate_cons_of_ne_nil, single] using Run.more numeral others

private theorem part_groupsText {groups : List Nat} (small : ∀ group ∈ groups, group < 65536) :
    Part grammar (Address.groupsText groups).toList groups false := by
  by_cases none : groups = []
  · subst none
    exact .inl ⟨by simp [Address.groupsText], rfl, rfl⟩
  · exact .inr (run_groupsText none small)

end AddressGrammar

namespace Address

/-! ## Groups of a number -/

private theorem length_groups (value : Nat) : (groups value).length = 8 := by
  simp [groups]

private theorem lt_of_mem_groups {value group : Nat} (member : group ∈ groups value) : group < 65536 := by
  obtain ⟨index, _, rfl⟩ := List.mem_map.mp member
  exact Nat.mod_lt _ (by decide)

private theorem numberOfGroups_groups {value : Nat} (bound : value < Nat.pow 2 128) :
    AddressGrammar.numberOfGroups (groups value) = value := by
  have places := numberOfDigits_places 0x10000 value 8
  rw [Nat.mod_eq_of_lt bound] at places
  exact places

/-- Zeros at the given place of a list. -/
def ZeroRun (values : List Nat) (run : Nat × Nat) : Prop :=
  ∀ index, run.1 ≤ index → index < run.1 + run.2 → values[index]? = some 0

private theorem zeroRun_empty (values : List Nat) (start : Nat) : ZeroRun values (start, 0) := by
  intro index first last
  simp only at first last
  omega

private theorem ZeroRun.extend {values : List Nat} {start length : Nat} (zeros : ZeroRun values (start, length))
    (next : values[start + length]? = some 0) : ZeroRun values (start, length + 1) := by
  intro index first last
  by_cases here : index = start + length
  · rw [here, next]
  · exact zeros index first (by simp only at last ⊢; omega)

/-- The scan keeps a run of zeros that ends where it stands, and the best run so far. -/
private theorem zeroRun_scan {values : List Nat} (rest : List Nat) (index start length : Nat)
    (best : Nat × Nat) (remaining : values.drop index = rest)
    (current : ZeroRun values (start, length)) (adjacent : length ≠ 0 → start + length = index)
    (found : ZeroRun values best) :
    ZeroRun values (longestZeroRun.scan index start length best rest) := by
  induction rest generalizing index start length best with
  | nil => exact found
  | cons value rest ih =>
    have here : values[index]? = some value := by
      rw [← List.head?_drop, remaining, List.head?_cons]
    have later : values.drop (index + 1) = rest := by
      rw [← List.drop_drop, remaining, List.drop_one, List.tail_cons]
    rw [longestZeroRun.scan]
    by_cases zero : value = 0
    · rw [zero] at here
      have longer : ZeroRun values (if length = 0 then index else start, length + 1) := by
        split_ifs with fresh
        · subst fresh
          exact (zeroRun_empty values index).extend here
        · exact current.extend (by rw [adjacent fresh, here])
      have place : (if length = 0 then index else start) + (length + 1) = index + 1 := by
        split_ifs with fresh
        · omega
        · have := adjacent fresh
          omega
      rw [if_pos zero]
      apply ih (index + 1) _ _ _ later longer (fun _ => place)
      by_cases better : best.2 < length + 1
      · rw [if_pos better]
        exact longer
      · rw [if_neg better]
        exact found
    · rw [if_neg zero]
      exact ih (index + 1) 0 0 best later (zeroRun_empty values 0) (absurd rfl) found

/-- Where the longest run of zeros is said to be, there are zeros. -/
theorem zeroRun_longestZeroRun (values : List Nat) : ZeroRun values (longestZeroRun values) :=
  zeroRun_scan values 0 0 0 (0, 0) List.drop_zero (zeroRun_empty values 0) (absurd rfl)
    (zeroRun_empty values 0)

private theorem ZeroRun.le_length {values : List Nat} {run : Nat × Nat} (zeros : ZeroRun values run)
    (long : 0 < run.2) : run.1 + run.2 ≤ values.length := by
  have last := zeros (run.1 + run.2 - 1) (by omega) (by omega)
  obtain ⟨bound, _⟩ := List.getElem?_eq_some_iff.mp last
  omega

/-- A list with a run of zeros is what stands before it, the zeros, and what stands after it. -/
theorem ZeroRun.eq_append {values : List Nat} {run : Nat × Nat} (zeros : ZeroRun values run)
    (long : 0 < run.2) :
    values.take run.1 ++ List.replicate run.2 0 ++ values.drop (run.1 + run.2) = values := by
  have room := zeros.le_length long
  apply List.ext_getElem?
  intro index
  rcases Nat.lt_or_ge index run.1 with before | from_start
  · rw [List.append_assoc, List.getElem?_append_left (by simp; omega), List.getElem?_take,
      if_pos before]
  · rcases Nat.lt_or_ge index (run.1 + run.2) with inside | after
    · rw [List.append_assoc, List.getElem?_append_right (by simp; omega),
        List.getElem?_append_left (by simp; omega), List.getElem?_replicate, if_pos (by simp; omega),
        zeros index from_start inside]
    · rw [List.getElem?_append_right (by simp; omega), List.getElem?_drop]
      congr 1
      simp
      omega

end Address

/-! ## Version 6 texts -/

namespace AddressGrammar

variable {grammar : AddressGrammar}

private theorem grouped_mapped {value : Nat} (mapped : value / 0x100000000 = 0xffff)
    (narrow : grammar.gap ≤ 1) :
    Grouped grammar (Address.groupedText value).toList value := by
  have text : (Address.groupedText value).toList =
      [] ++ ':' :: ':' :: (Nat.toDigits 16 0xffff ++ ':' :: (Address.dottedText value).toList) := by
    have group : Nat.toDigits 16 0xffff = ['f', 'f', 'f', 'f'] := by decide
    simp [Address.groupedText, mapped, group]
  have run : Run grammar (Nat.toDigits 16 0xffff ++ ':' :: (Address.dottedText value).toList)
      [0xffff, value % 0x100000000 / 65536, value % 0x100000000 % 65536] true :=
    .more (group_toDigits (by decide)) (.dotted (dotted_dottedText value))
  have number : numberOfGroups ([] ++ List.replicate 5 0 ++
      [0xffff, value % 0x100000000 / 65536, value % 0x100000000 % 65536]) = value := by
    simp only [numberOfGroups, numberOfDigits, List.replicate, List.nil_append, List.cons_append,
      List.foldl_cons, List.foldl_nil]
    omega
  generalize value % 0x100000000 / 65536 = high, value % 0x100000000 % 65536 = low at run number
  have spelled := Grouped.gap (.inl ⟨rfl, rfl, rfl⟩) (.inr run) (by decide) (by simp; omega)
  have missing : 8 - ([] : List Nat).length - [0xffff, high, low].length = 5 := rfl
  rwa [missing, number, ← text] at spelled

private theorem grouped_plain {value : Nat} (bound : value < Nat.pow 2 128)
    (plain : value / 0x100000000 ≠ 0xffff) (narrow : grammar.gap ≤ 1) :
    Grouped grammar (Address.groupedText value).toList value := by
  have small (group : Nat) (member : group ∈ Address.groups value) : group < 65536 :=
    Address.lt_of_mem_groups member
  have total := Address.length_groups value
  have zeros := Address.zeroRun_longestZeroRun (Address.groups value)
  simp only [Address.groupedText, if_neg plain]
  generalize Address.longestZeroRun (Address.groups value) = run at zeros ⊢
  split_ifs with long
  · have inside := zeros.le_length (by omega)
    have same := zeros.eq_append (by omega)
    have headLength : ((Address.groups value).take run.1).length = run.1 := by
      rw [List.length_take]
      omega
    have tailLength : ((Address.groups value).drop (run.1 + run.2)).length = 8 - (run.1 + run.2) := by
      rw [List.length_drop, total]
    have before : Part grammar _ ((Address.groups value).take run.1) false :=
      part_groupsText fun group member => small group (List.mem_of_mem_take member)
    have behind : Part grammar _ ((Address.groups value).drop (run.1 + run.2)) false :=
      part_groupsText fun group member => small group (List.mem_of_mem_drop member)
    have spelled := Grouped.gap before behind (by omega) (by omega)
    have count : 8 - ((Address.groups value).take run.1).length -
        ((Address.groups value).drop (run.1 + run.2)).length = run.2 := by omega
    rw [count, same, Address.numberOfGroups_groups bound] at spelled
    simpa using spelled
  · have some : Address.groups value ≠ [] := List.ne_nil_of_length_eq_add_one total
    have run : Run grammar _ (Address.groups value) false := run_groupsText some small
    have spelled := Grouped.whole run total
    rwa [Address.numberOfGroups_groups bound] at spelled

/-- The canonical text of an address is one of its texts in either grammar. -/
theorem spells_text (grammar : AddressGrammar) (narrow : grammar.gap ≤ 1) (address : Address) :
    grammar.Spells address.text.toList address := by
  rcases address with ⟨_ | _, value, value_lt⟩
  · have spelled : Dotted grammar _ (value % 0x100000000) := dotted_dottedText value
    rw [Nat.mod_eq_of_lt (show value < 0x100000000 from value_lt)] at spelled
    exact ⟨value, spelled, Address.ofNat_value ⟨.v4, value, value_lt⟩⟩
  · refine ⟨value, ?_, Address.ofNat_value ⟨.v6, value, value_lt⟩⟩
    by_cases mapped : value / 0x100000000 = 0xffff
    · exact grouped_mapped mapped narrow
    · exact grouped_plain value_lt mapped narrow

end AddressGrammar

end RangeCatalog
