import Mathlib.Tactic.SplitIfs
import RangeCatalog.Json.Token
import RangeCatalog.Json.Writer
import RangeCatalog.Proofs.Text.Numeral

/-! # Reading written tokens

Every piece that a writer puts out is read as one token, whatever follows it. Only a numeral has to be
followed by something that cannot go on with it. Blanks at the start of a line leave no token.
-/

namespace RangeCatalog.Json

/-- An integer that a signed or unsigned 64-bit word holds. -/
def IsWord (value : Int) : Prop :=
  -0x8000000000000000 ≤ value ∧ value ≤ 0xffffffffffffffff

namespace Token

/-! ## Strings -/

/-- A control character written with four hexadecimal digits. -/
theorem readUnit_control {unit : Nat} (control : unit < 32) (rest : List Char) :
    readUnit ('0' :: '0' :: Nat.digitChar (unit / 16) :: Nat.digitChar (unit % 16) :: rest) =
      some (unit, rest) := by
  have zero : digitValue? 16 '0' = some 0 := by decide
  have high := digitValue?_digitChar (Nat.le_refl 16) (show unit / 16 < 16 by omega)
  have low := digitValue?_digitChar (Nat.le_refl 16) (show unit % 16 < 16 by omega)
  have number : numberOfDigits 16 [0, 0, unit / 16, unit % 16] = unit := by
    simp only [numberOfDigits, List.foldl_cons, List.foldl_nil]
    omega
  simp [readUnit, zero, high, low, number]

private theorem readUnits_control {c : Char} (control : c.toNat < 32) (rest : List Char) :
    readUnits ('0' :: '0' :: Nat.digitChar (c.toNat / 16) :: Nat.digitChar (c.toNat % 16) :: rest) =
      some (c, rest) := by
  have high : ¬(0xd800 ≤ c.toNat ∧ c.toNat ≤ 0xdbff) := by omega
  have low : ¬(0xdc00 ≤ c.toNat ∧ c.toNat ≤ 0xdfff) := by omega
  rw [readUnits, readUnit_control control]
  simp only [high, low, if_false, Char.ofNat_toNat]

private theorem readString_backslash {escape tail : List Char} {c : Char}
    (escaped : readEscape escape = some (c, tail)) :
    readString ('\\' :: escape) = (readString tail).map fun (body, after) => (c :: body, after) := by
  rw [readString, if_neg (by decide), if_pos rfl]
  split
  · rename_i none
    rw [none] at escaped
    contradiction
  · rename_i other after same
    rw [same, Option.some.injEq, Prod.mk.injEq] at escaped
    rw [escaped.1, escaped.2]

/-- A written character is read as itself. -/
theorem readString_escapeChar (c : Char) (rest : List Char) :
    readString (escapeChar c ++ rest) =
      (readString rest).map fun (body, after) => (c :: body, after) := by
  have ofToNat {code : Nat} (same : c.toNat = code) : c = Char.ofNat code := by
    rw [← same, Char.ofNat_toNat]
  rw [escapeChar]
  split_ifs with quote slash backspace feed line carriage tab control
  · exact readString_backslash (by rw [quote]; rfl)
  · exact readString_backslash (by rw [slash]; rfl)
  · exact readString_backslash (by rw [ofToNat backspace]; rfl)
  · exact readString_backslash (by rw [ofToNat feed]; rfl)
  · exact readString_backslash (by rw [line]; rfl)
  · exact readString_backslash (by rw [carriage]; rfl)
  · exact readString_backslash (by rw [tab]; rfl)
  · exact readString_backslash (readUnits_control control rest)
  · rw [List.singleton_append, readString, if_neg quote, if_neg slash, if_neg control]

private theorem readString_quoted (chars rest : List Char) :
    readString (chars.flatMap escapeChar ++ '"' :: rest) = some (chars, rest) := by
  induction chars with
  | nil =>
    rw [List.flatMap_nil, List.nil_append, readString, if_pos rfl]
  | cons c chars ih =>
    rw [List.flatMap_cons, List.append_assoc, readString_escapeChar, ih, Option.map_some]

/-! ## Integers -/

private theorem le_foldl (digits : List Nat) (number : Nat) :
    number ≤ digits.foldl (fun number digit => number * 10 + digit) number := by
  induction digits generalizing number with
  | nil => exact Nat.le_refl _
  | cons digit digits ih =>
    have later := ih (number * 10 + digit)
    rw [List.foldl_cons]
    omega

/-- No digit is left over when the whole number fits a word. -/
theorem appendDigits_of_le {digits : List Nat} {number : Nat}
    (fits : digits.foldl (fun number digit => number * 10 + digit) number ≤ Binary64.maxWord) :
    Binary64.appendDigits number digits =
      (digits.foldl (fun number digit => number * 10 + digit) number, 0) := by
  induction digits generalizing number with
  | nil => rfl
  | cons digit digits ih =>
    have next := le_foldl digits (number * 10 + digit)
    rw [List.foldl_cons] at fits
    rw [Binary64.appendDigits, if_pos (Nat.le_trans next fits), ih fits, List.foldl_cons]

/-- A text that does not go on with a digit, a fraction or an exponent. -/
def EndsNumeral (rest : List Char) : Prop :=
  ∀ c ∈ rest.head?, digitValue? 10 c = none ∧ c ≠ '.' ∧ c ≠ 'e' ∧ c ≠ 'E'

theorem endsNumeral_cons {c : Char} (rest : List Char)
    (other : digitValue? 10 c = none ∧ c ≠ '.' ∧ c ≠ 'e' ∧ c ≠ 'E') : EndsNumeral (c :: rest) := by
  intro first member
  rw [List.head?_cons, Option.mem_some_iff] at member
  exact member ▸ other

private theorem EndsNumeral.endsDigits {rest : List Char} (ends : EndsNumeral rest) : EndsDigits 10 rest :=
  fun c member => (ends c member).1

private theorem readFraction_of_endsNumeral {rest : List Char} (ends : EndsNumeral rest) :
    readFraction rest = some (none, rest) := by
  cases rest with
  | nil => rfl
  | cons c rest =>
    have other := (ends c (by simp)).2.1
    rw [readFraction]
    intro tail same
    exact other (List.cons.inj same).1

private theorem readExponent_of_endsNumeral {rest : List Char} (ends : EndsNumeral rest) :
    readExponent rest = some (none, rest) := by
  cases rest with
  | nil => rfl
  | cons c rest =>
    obtain ⟨_, _, small, capital⟩ := ends c (by simp)
    rw [readExponent, if_neg]
    rintro (same | same)
    · exact small same
    · exact capital same

/-- The integer of a sign and a magnitude, when a signed or unsigned word holds it. -/
theorem numberOf_digitsOf {negative : Bool} {magnitude : Nat} (word : magnitude ≤ Binary64.maxWord)
    (signed : negative = true → 0 < magnitude ∧ magnitude ≤ 0x8000000000000000) :
    numberOf negative (digitsOf 10 magnitude) none none =
      some (.integer (if negative then -(magnitude : Int) else magnitude)) := by
  have number := numberOfDigits_digitsOf 10 magnitude
  rw [numberOfDigits] at number
  have appended := @appendDigits_of_le (digitsOf 10 magnitude) 0 (by rw [number]; exact word)
  rw [number] at appended
  rw [numberOf, appended]
  cases negative with
  | false => simp
  | true => simp [signed rfl]

private theorem readNumeral_toDigits {negative : Bool} {magnitude : Nat} (word : magnitude ≤ Binary64.maxWord)
    (signed : negative = true → 0 < magnitude ∧ magnitude ≤ 0x8000000000000000) {rest : List Char}
    (ends : EndsNumeral rest) :
    readNumeral negative (Nat.toDigits 10 magnitude ++ rest) =
      some (scalar (.integer (if negative then -(magnitude : Int) else magnitude)), rest) := by
  have plain : ¬((digitsOf 10 magnitude).isEmpty = true ∨
      (digitsOf 10 magnitude).head? = some 0 ∧ 1 < (digitsOf 10 magnitude).length) := by
    rintro (empty | ⟨leading, long⟩)
    · exact digitsOf_ne_nil 10 magnitude (List.isEmpty_iff.mp empty)
    · rw [eq_zero_of_head?_digitsOf (by decide) leading] at long
      simp [digitsOf] at long
  rw [readNumeral, spanDigits_toDigits (by decide) (by decide) magnitude ends.endsDigits]
  simp only [if_neg plain, readFraction_of_endsNumeral ends, readExponent_of_endsNumeral ends,
    Option.bind_eq_bind, Option.bind_some, numberOf_digitsOf word signed]
  rfl

private theorem read_digit {digit : Nat} (small : digit < 10) (rest : List Char) :
    read (Nat.digitChar digit :: rest) = readNumeral false (Nat.digitChar digit :: rest) := by
  have cases : digit = 0 ∨ digit = 1 ∨ digit = 2 ∨ digit = 3 ∨ digit = 4 ∨ digit = 5 ∨ digit = 6 ∨
      digit = 7 ∨ digit = 8 ∨ digit = 9 := by omega
  rcases cases with rfl | rfl | rfl | rfl | rfl | rfl | rfl | rfl | rfl | rfl <;> rfl

theorem read_integerChars {value : Int} (word : IsWord value) {rest : List Char}
    (ends : EndsNumeral rest) :
    read (integerChars value ++ rest) = some (scalar (.integer value), rest) := by
  obtain ⟨least, greatest⟩ := word
  cases value with
  | ofNat magnitude =>
    have fits : magnitude ≤ Binary64.maxWord := by
      simp only [Binary64.maxWord, Int.ofNat_eq_natCast] at greatest ⊢
      omega
    have numeral := @readNumeral_toDigits false magnitude fits (by simp) rest ends
    rw [integerChars]
    cases digits : digitsOf 10 magnitude with
    | nil => exact absurd digits (digitsOf_ne_nil 10 magnitude)
    | cons digit digits' =>
      have small : digit < 10 :=
        lt_of_mem_digitsOf (by decide) (digits ▸ List.mem_cons_self)
      rw [toDigits_eq_map_digitsOf (by decide), digits, List.map_cons, List.cons_append] at numeral ⊢
      rw [read_digit small, numeral]
      rfl
  | negSucc magnitude =>
    have fits : magnitude + 1 ≤ Binary64.maxWord := by
      simp only [Binary64.maxWord]
      omega
    have signed : true = true → 0 < magnitude + 1 ∧ magnitude + 1 ≤ 0x8000000000000000 := by
      intro _
      omega
    exact readNumeral_toDigits fits signed ends

/-! ## Tokens in sequence -/

/-- No token starts with a blank. -/
theorem isBlank_of_read {c : Char} {rest tail : List Char} {token : Token}
    (found : read (c :: rest) = some (token, tail)) : isBlank c = false := by
  cases visible : isBlank c with
  | false => rfl
  | true =>
    simp only [isBlank, Bool.or_eq_true, decide_eq_true_eq] at visible
    have nothing : read (c :: rest) = none := by
      rcases visible with ((rfl | rfl) | rfl) | rfl <;> rfl
    rw [nothing] at found
    contradiction

theorem all?_of_read {chars tail : List Char} {token : Token}
    (found : read chars = some (token, tail)) : all? chars = (all? tail).map (token :: ·) := by
  cases chars with
  | nil => exact absurd (read_length found) (by simp)
  | cons c rest =>
    rw [all?, if_neg (by simp [isBlank_of_read found])]
    split
    · rename_i none
      rw [none] at found
      contradiction
    · rename_i other after same
      rw [same, Option.some.injEq, Prod.mk.injEq] at found
      rw [found.1, found.2]

theorem all?_blank {c : Char} (blank : isBlank c = true) (rest : List Char) :
    all? (c :: rest) = all? rest := by
  rw [all?, if_pos blank]

theorem all?_lineStart (depth : Nat) (rest : List Char) :
    all? (lineStart depth ++ rest) = all? rest := by
  rw [lineStart, List.cons_append, all?_blank (by decide)]
  induction 2 * depth with
  | zero => rfl
  | succ count ih => rw [List.replicate_succ, List.cons_append, all?_blank (by decide), ih]

theorem all?_quoted (value : String) (rest : List Char) :
    all? (quoted value ++ rest) = (all? rest).map (text value :: ·) := by
  have found : read ('"' :: (value.toList.flatMap escapeChar ++ '"' :: rest)) =
      some (text value, rest) := by
    rw [read, readString_quoted]
    simp only [Option.map_some, String.ofList_toList]
  simp only [quoted, List.cons_append, List.append_assoc, List.nil_append]
  exact all?_of_read found

end Token

end RangeCatalog.Json
