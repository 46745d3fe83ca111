import Mathlib.Data.List.Forall2
import Mathlib.Tactic.SplitIfs
import RangeCatalog.Proofs.Outcome
import RangeCatalog.Text.Numeral

/-! # Reading numerals back

A numeral is written with the digits of its number, and reading a numeral finds these digits again,
as long as no further digit follows. All formats with numbers in them rest on `spanDigits_toDigits` and
`numberOfDigits_digitsOf`.
-/

namespace RangeCatalog

/-- The digits of a number, the most significant first. Zero has one digit. -/
def digitsOf (radix number : Nat) : List Nat :=
  if radix ≤ 1 ∨ number < radix then [number]
  else digitsOf radix (number / radix) ++ [number % radix]
termination_by number
decreasing_by exact Nat.div_lt_self (by omega) (by omega)

@[simp]
theorem digitsOf_ne_nil (radix number : Nat) : digitsOf radix number ≠ [] := by
  rw [digitsOf]
  split <;> simp

theorem lt_of_mem_digitsOf {radix number digit : Nat} (base : 1 < radix)
    (member : digit ∈ digitsOf radix number) : digit < radix := by
  fun_induction digitsOf radix number with
  | case1 number small =>
    rw [List.mem_singleton] at member
    omega
  | case2 number large ih =>
    rw [List.mem_append, List.mem_singleton] at member
    rcases member with earlier | rfl
    · exact ih earlier
    · exact Nat.mod_lt _ (by omega)

/-- Only the numeral of zero starts with a zero. -/
theorem eq_zero_of_head?_digitsOf {radix number : Nat} (base : 1 < radix)
    (leading : (digitsOf radix number).head? = some 0) : number = 0 := by
  fun_induction digitsOf radix number with
  | case1 number small =>
    rw [List.head?_cons, Option.some.injEq] at leading
    exact leading
  | case2 number large ih =>
    rw [List.head?_append, List.head?_eq_some_head (digitsOf_ne_nil _ _), Option.some_or,
      ← List.head?_eq_some_head] at leading
    have quotient := ih leading
    rw [Nat.div_eq_zero_iff] at quotient
    omega

theorem toDigits_eq_map_digitsOf {radix : Nat} (base : 1 < radix) (number : Nat) :
    Nat.toDigits radix number = (digitsOf radix number).map Nat.digitChar := by
  fun_induction digitsOf radix number with
  | case1 number small =>
    rw [Nat.toDigits_of_lt_base (by omega), List.map_singleton]
  | case2 number large ih =>
    rw [Nat.toDigits_of_base_le base (by omega), List.map_append, List.map_singleton, ih]

/-! ## Numbers of digits -/

private theorem numberOfDigits_append_singleton (radix : Nat) (digits : List Nat) (digit : Nat) :
    numberOfDigits radix (digits ++ [digit]) = numberOfDigits radix digits * radix + digit := by
  simp only [numberOfDigits, List.foldl_append, List.foldl_cons, List.foldl_nil]

theorem numberOfDigits_digitsOf (radix number : Nat) :
    numberOfDigits radix (digitsOf radix number) = number := by
  fun_induction digitsOf radix number with
  | case1 number small =>
    simp only [numberOfDigits, List.foldl_cons, List.foldl_nil, Nat.zero_mul, Nat.zero_add]
  | case2 number large ih =>
    rw [numberOfDigits_append_singleton, ih]
    exact Nat.div_add_mod' number radix

/-- The digits in a given number of places make up the number as far as the places hold it. -/
theorem numberOfDigits_places (radix number places : Nat) :
    numberOfDigits radix ((List.range places).map fun index =>
      number / Nat.pow radix (places - 1 - index) % radix) = number % Nat.pow radix places := by
  induction places generalizing number with
  | zero => exact (Nat.mod_one number).symm
  | succ places ih =>
    have next (exponent : Nat) : Nat.pow radix (exponent + 1) = radix * Nat.pow radix exponent :=
      Nat.pow_succ'
    have upper : ((List.range places).map fun index =>
        number / Nat.pow radix (places + 1 - 1 - index) % radix) =
        (List.range places).map fun index =>
          number / radix / Nat.pow radix (places - 1 - index) % radix := by
      refine List.map_congr_left ?_
      intro index member
      have inside := List.mem_range.mp member
      have exponent : places + 1 - 1 - index = places - 1 - index + 1 := by omega
      rw [exponent, next, Nat.div_div_eq_div_mul]
    have lowest : number / Nat.pow radix (places + 1 - 1 - places) = number := by
      have none : places + 1 - 1 - places = 0 := by omega
      rw [none]
      exact Nat.div_one number
    rw [List.range_succ, List.map_append, List.map_singleton, upper,
      numberOfDigits_append_singleton, ih, lowest, next, Nat.mod_mul, Nat.add_comm, Nat.mul_comm]

/-! ## Runs of digits -/

private theorem digitValue?_eq_filter {radix : Nat} (bound : radix ≤ 16) (c : Char) :
    digitValue? radix c = (digitValue? 16 c).filter (· < radix) := by
  simp only [digitValue?, Option.filter_filter]
  congr 1
  funext digit
  rw [Bool.eq_iff_iff, Bool.and_eq_true, decide_eq_true_eq, decide_eq_true_eq]
  omega

/-- A written digit is read as itself. -/
theorem digitValue?_digitChar {radix digit : Nat} (bound : radix ≤ 16) (small : digit < radix) :
    digitValue? radix digit.digitChar = some digit := by
  have hexadecimal : ∀ digit < 16, digitValue? 16 (Nat.digitChar digit) = some digit := by decide
  rw [digitValue?_eq_filter bound, hexadecimal digit (by omega), Option.filter_some_pos]
  simpa using small

/-- A decimal digit is written in one way. -/
theorem eq_digitChar_of_digitValue? {digit : Nat} {c : Char} (value : digitValue? 10 c = some digit) :
    digit < 10 ∧ c = digit.digitChar := by
  have codes : ∀ digit < 10, (Nat.digitChar digit).toNat = digit + '0'.toNat := by decide
  rw [digitValue?, Option.filter_eq_some_iff, decide_eq_true_eq] at value
  obtain ⟨found, small⟩ := value
  refine ⟨small, ?_⟩
  split_ifs at found with decimal
  · have least : '0'.toNat ≤ c.toNat := decimal.1
    rw [← Char.toNat_inj, codes digit small, ← Option.some.inj found, Nat.sub_add_cancel least]
  · have large := Option.some.inj found
    omega
  · have large := Option.some.inj found
    omega

/-- A character that is no digit of sixteen is no digit of a smaller radix. -/
theorem digitValue?_eq_none {radix : Nat} (bound : radix ≤ 16) {c : Char}
    (other : digitValue? 16 c = none) : digitValue? radix c = none := by
  rw [digitValue?_eq_filter bound, other, Option.filter_none]

/-- A text that does not go on with a digit. -/
def EndsDigits (radix : Nat) (rest : List Char) : Prop :=
  ∀ c ∈ rest.head?, digitValue? radix c = none

@[simp]
theorem endsDigits_nil (radix : Nat) : EndsDigits radix [] := by
  intro c member
  simp at member

@[simp]
private theorem endsDigits_cons (radix : Nat) (c : Char) (rest : List Char) :
    EndsDigits radix (c :: rest) ↔ digitValue? radix c = none := by
  simp [EndsDigits]

theorem spanDigits_of_endsDigits {radix : Nat} {rest : List Char} (ends : EndsDigits radix rest) :
    spanDigits radix rest = ([], rest) := by
  cases rest with
  | nil => rfl
  | cons c rest =>
    rw [endsDigits_cons] at ends
    rw [spanDigits, ends]

/-- Written digits are found before whatever run of digits the rest starts with. -/
theorem spanDigits_map_append {radix : Nat} (bound : radix ≤ 16) {digits : List Nat}
    (small : ∀ digit ∈ digits, digit < radix) (rest : List Char) :
    spanDigits radix (digits.map Nat.digitChar ++ rest) =
      (digits ++ (spanDigits radix rest).1, (spanDigits radix rest).2) := by
  induction digits with
  | nil => rfl
  | cons digit digits ih =>
    have first := digitValue?_digitChar bound (small digit List.mem_cons_self)
    have others := ih fun other member => small other (List.mem_cons_of_mem _ member)
    simp only [List.map_cons, List.cons_append, spanDigits, first, others]

/-- A text of digits with the given values. -/
abbrev DigitText (radix : Nat) (text : List Char) (digits : List Nat) : Prop :=
  List.Forall₂ (fun c digit => digitValue? radix c = some digit) text digits

theorem DigitText.not_mem {radix : Nat} {text : List Char} {digits : List Nat}
    (spelled : DigitText radix text digits) {c : Char} (other : digitValue? radix c = none) : c ∉ text := by
  intro member
  obtain ⟨_, _, value⟩ := exists_of_mem_right spelled.flip member
  rw [other] at value
  contradiction

/-- A run of digits is a text of digits that no digit follows. -/
theorem spanDigits_eq_iff {radix : Nat} {chars rest : List Char} {digits : List Nat} :
    spanDigits radix chars = (digits, rest) ↔
      ∃ text, chars = text ++ rest ∧ DigitText radix text digits ∧ EndsDigits radix rest := by
  constructor
  · intro span
    induction chars generalizing digits with
    | nil =>
      cases span
      exact ⟨[], rfl, .nil, endsDigits_nil radix⟩
    | cons c chars ih =>
      rw [spanDigits] at span
      cases value : digitValue? radix c with
      | none =>
        rw [value] at span
        cases span
        exact ⟨[], rfl, .nil, (endsDigits_cons radix c chars).mpr value⟩
      | some digit =>
        rw [value] at span
        cases span
        obtain ⟨text, same, spelled, ends⟩ := ih rfl
        exact ⟨c :: text, congrArg (c :: ·) same, .cons value spelled, ends⟩
  · rintro ⟨text, rfl, spelled, ends⟩
    induction spelled with
    | nil => exact spanDigits_of_endsDigits ends
    | cons value _ ih => simp only [List.cons_append, spanDigits, value, ih]

/-- The digits of a numeral are found, and nothing more, where no digit follows. -/
theorem spanDigits_toDigits {radix : Nat} (base : 1 < radix) (bound : radix ≤ 16) (number : Nat)
    {rest : List Char} (ends : EndsDigits radix rest) :
    spanDigits radix (Nat.toDigits radix number ++ rest) = (digitsOf radix number, rest) := by
  rw [toDigits_eq_map_digitsOf base,
    spanDigits_map_append bound (fun _ member => lt_of_mem_digitsOf base member),
    spanDigits_of_endsDigits ends, List.append_nil]

/-! ## Numerals of a fixed width -/

/-- The digits of a number with zeros before them, as many as fill the width. -/
def paddedDigits (width number : Nat) : List Nat :=
  List.replicate (width - (digitsOf 10 number).length) 0 ++ digitsOf 10 number

theorem lt_of_mem_paddedDigits {width number digit : Nat} (member : digit ∈ paddedDigits width number) :
    digit < 10 := by
  rcases List.mem_append.mp member with zero | proper
  · rw [List.eq_of_mem_replicate zero]
    decide
  · exact lt_of_mem_digitsOf (by decide) proper

theorem toList_paddedDecimal (width number : Nat) :
    (paddedDecimal width number).toList = (paddedDigits width number).map Nat.digitChar := by
  rw [paddedDecimal, String.toList_ofList, paddedDigits, toDigits_eq_map_digitsOf (by decide), List.map_append,
    List.map_replicate, List.length_map]
  rfl

/-- A number that fits the width fills it. -/
theorem length_paddedDigits {width number : Nat} (fits : number < Nat.pow 10 width) (some : 0 < width) :
    (paddedDigits width number).length = width := by
  have short : (digitsOf 10 number).length ≤ width := by
    have digits := (Nat.length_toDigits_le_iff (by decide) some).mpr fits
    rwa [toDigits_eq_map_digitsOf (by decide), List.length_map] at digits
  rw [paddedDigits, List.length_append, List.length_replicate, Nat.sub_add_cancel short]

theorem numberOfDigits_paddedDigits (width number : Nat) :
    numberOfDigits 10 (paddedDigits width number) = number := by
  have zeros (count : Nat) (digits : List Nat) :
      numberOfDigits 10 (List.replicate count 0 ++ digits) = numberOfDigits 10 digits := by
    induction count with
    | zero => rfl
    | succ count ih => exact ih
  rw [paddedDigits, zeros, numberOfDigits_digitsOf]

/-! ## Octets -/

theorem mem_hexOctet {octet : UInt8} {c : Char} (member : c ∈ hexOctet octet) :
    c ∈ "0123456789abcdef".toList := by
  have digit : ∀ digit < 16, Nat.digitChar digit ∈ "0123456789abcdef".toList := by decide
  have small := octet.toNat_lt
  simp only [hexOctet, List.mem_cons, List.not_mem_nil, or_false] at member
  rcases member with rfl | rfl
  · exact digit _ (by omega)
  · exact digit _ (by omega)

/-- Octets are read back from their hexadecimal digits. -/
theorem octetsOfHex?_hexOctet (octets : List UInt8) :
    octetsOfHex? (octets.flatMap hexOctet) = some octets := by
  induction octets with
  | nil => rfl
  | cons octet rest ih =>
    have small : octet.toNat < 256 := octet.toNat_lt
    have high : digitValue? 16 (octet.toNat / 16).digitChar = some (octet.toNat / 16) :=
      digitValue?_digitChar (by decide) (by omega)
    have low : digitValue? 16 (octet.toNat % 16).digitChar = some (octet.toNat % 16) :=
      digitValue?_digitChar (by decide) (by omega)
    have whole : octet.toNat / 16 * 16 + octet.toNat % 16 = octet.toNat := by omega
    simp only [List.flatMap_cons, hexOctet, List.cons_append, List.nil_append, octetsOfHex?, high, low,
      ih, Option.bind_eq_bind, Option.bind_some, whole, UInt8.ofNat_toNat, Option.pure_def]

end RangeCatalog
