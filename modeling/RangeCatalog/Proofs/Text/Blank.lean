import Mathlib.Data.List.TakeWhile
import Mathlib.Tactic.SplitIfs
import RangeCatalog.Text.Blank
import RangeCatalog.Text.Numeral

/-! # Texts without blanks

Trimming keeps a text in which no character is blank. Numerals and the marks between them are such
texts.
-/

namespace RangeCatalog

/-- A list in which no character is blank. -/
def Plain (chars : List Char) : Prop :=
  ∀ c ∈ chars, isBlank c = false

instance (chars : List Char) : Decidable (Plain chars) :=
  inferInstanceAs (Decidable (∀ c ∈ chars, _))

@[simp]
theorem plain_nil : Plain [] := by
  intro c member
  simp at member

@[simp]
theorem plain_cons (c : Char) (chars : List Char) :
    Plain (c :: chars) ↔ isBlank c = false ∧ Plain chars := by
  simp [Plain]

@[simp]
theorem plain_append (first second : List Char) :
    Plain (first ++ second) ↔ Plain first ∧ Plain second := by
  simp only [Plain, List.mem_append, or_imp, forall_and]

theorem Plain.dropWhile {chars : List Char} (plain : Plain chars) : chars.dropWhile isBlank = chars := by
  cases chars with
  | nil => rfl
  | cons c rest => rw [List.dropWhile_cons_of_neg (by simp [plain c List.mem_cons_self])]

theorem Plain.reverse {chars : List Char} (plain : Plain chars) : Plain chars.reverse :=
  fun c member => plain c (List.mem_reverse.mp member)

/-- What starts with a text without blanks starts with no blank. -/
theorem Plain.dropWhile_append {first : List Char} (plain : Plain first) (some : first ≠ [])
    (rest : List Char) : (first ++ rest).dropWhile isBlank = first ++ rest := by
  rw [List.dropWhile_append, plain.dropWhile, if_neg (by simpa using some)]

theorem Plain.trimChars {chars : List Char} (plain : Plain chars) : trimChars chars = chars := by
  rw [RangeCatalog.trimChars, plain.dropWhile, plain.reverse.dropWhile, List.reverse_reverse]

/-- A text that has no blanks at its ends is trimmed already. -/
theorem trimChars_of_plain_ends {first last : List Char} (plainFirst : Plain first) (someFirst : first ≠ [])
    (plainLast : Plain last) (someLast : last ≠ []) (middle : List Char) :
    trimChars (first ++ (middle ++ last)) = first ++ (middle ++ last) := by
  have someReversed : last.reverse ≠ [] := by simpa using someLast
  rw [trimChars, plainFirst.dropWhile_append someFirst, ← List.append_assoc, List.reverse_append,
    plainLast.reverse.dropWhile_append someReversed, ← List.reverse_append, List.reverse_reverse]

theorem Plain.trim {text : String} (plain : Plain text.toList) : trim text = text := by
  rw [RangeCatalog.trim, plain.trimChars, String.ofList_toList]

/-- A text is blank exactly when nothing remains after trimming. -/
theorem isBlankText_iff {text : String} : isBlankText text = true ↔ RangeCatalog.trim text = "" := by
  have blank : isBlankText text = true ↔ text.toList.dropWhile isBlank = [] := by
    rw [isBlankText, List.all_eq_true, List.dropWhile_eq_nil_iff]
  rw [blank, RangeCatalog.trim, String.ofList_eq_empty_iff, RangeCatalog.trimChars,
    List.reverse_eq_nil_iff]
  constructor
  · intro nothing
    rw [nothing]
    rfl
  · intro trimmed
    have all := List.dropWhile_eq_nil_iff.mp trimmed
    by_contra something
    -- What is left after the blanks at the start begins with a character that is not blank.
    have first := List.head_dropWhile_not isBlank something
    rw [all _ (List.mem_reverse.mpr (List.head_mem something))] at first
    contradiction

/-- Blanks at the ends of a text do not count. -/
theorem trimChars_pad {before after : List Char} (blankBefore : ∀ c ∈ before, isBlank c = true)
    (blankAfter : ∀ c ∈ after, isBlank c = true) (chars : List Char) :
    trimChars (before ++ chars ++ after) = trimChars chars := by
  have drops {blanks : List Char} (blank : ∀ c ∈ blanks, isBlank c = true) : blanks.dropWhile isBlank = [] :=
    List.dropWhile_eq_nil_iff.mpr blank
  have reversed : ∀ c ∈ after.reverse, isBlank c = true :=
    fun c member => blankAfter c (List.mem_reverse.mp member)
  rw [trimChars, trimChars, List.append_assoc, List.dropWhile_append_of_pos blankBefore, List.dropWhile_append]
  split_ifs with nothing
  · rw [drops blankAfter, List.isEmpty_iff.mp nothing]
  · rw [List.reverse_append, List.dropWhile_append_of_pos reversed]

/-- Trimming removes blanks at the ends and nothing else. -/
theorem exists_trimChars_pad (chars : List Char) :
    ∃ before after, (∀ c ∈ before, isBlank c = true) ∧ (∀ c ∈ after, isBlank c = true) ∧
      chars = before ++ trimChars chars ++ after := by
  obtain ⟨left, isLeft⟩ : ∃ left, left = chars.dropWhile isBlank := ⟨_, rfl⟩
  have front : chars.takeWhile isBlank ++ left = chars := by
    rw [isLeft, List.takeWhile_append_dropWhile]
  have back : (left.reverse.dropWhile isBlank).reverse ++ (left.reverse.takeWhile isBlank).reverse = left := by
    rw [← List.reverse_append, List.takeWhile_append_dropWhile, List.reverse_reverse]
  refine ⟨chars.takeWhile isBlank, (left.reverse.takeWhile isBlank).reverse, ?_, ?_, ?_⟩
  · exact fun c member => List.mem_takeWhile_imp member
  · exact fun c member => List.mem_takeWhile_imp (List.mem_reverse.mp member)
  · rw [List.append_assoc, trimChars, ← isLeft, back, front]

theorem trim_pad {before after : String} (blankBefore : isBlankText before = true)
    (blankAfter : isBlankText after = true) (text : String) : trim (before ++ text ++ after) = trim text := by
  rw [trim, trim, String.toList_append, String.toList_append]
  exact congrArg String.ofList
    (trimChars_pad (List.all_eq_true.mp blankBefore) (List.all_eq_true.mp blankAfter) _)

private theorem dropWhile_trimChars (chars : List Char) :
    (trimChars chars).dropWhile isBlank = trimChars chars := by
  obtain ⟨blanks, split⟩ : trimChars chars <+: chars.dropWhile isBlank := by
    rw [trimChars, ← List.reverse_suffix, List.reverse_reverse]
    exact List.dropWhile_suffix _
  cases trimmed : trimChars chars with
  | nil => rfl
  | cons c rest =>
    rw [trimmed] at split
    have some : chars.dropWhile isBlank ≠ [] := by
      rw [← split]
      exact List.cons_ne_nil _ _
    have first := List.head_dropWhile_not isBlank some
    simp only [← split, List.cons_append, List.head_cons] at first
    rw [List.dropWhile_cons_of_neg (by simp [first])]

/-- What has been trimmed is trimmed no further with a text behind it that has no blanks. -/
theorem trimChars_trimChars_append {rest : List Char} (plain : Plain rest) (some : rest ≠ [])
    (chars : List Char) : trimChars (trimChars chars ++ rest) = trimChars chars ++ rest := by
  have front : (trimChars chars ++ rest).dropWhile isBlank = trimChars chars ++ rest := by
    rw [List.dropWhile_append, dropWhile_trimChars, plain.dropWhile]
    split_ifs with nothing
    · rw [List.isEmpty_iff.mp nothing, List.nil_append]
    · rfl
  have someReversed : rest.reverse ≠ [] := by simpa using some
  rw [trimChars, front, List.reverse_append, plain.reverse.dropWhile_append someReversed,
    ← List.reverse_append, List.reverse_reverse]

theorem trim_trim_append {rest : String} (plain : Plain rest.toList) (some : rest.toList ≠ []) (text : String) :
    trim (trim text ++ rest) = trim text ++ rest := by
  rw [← String.toList_inj, trim, String.toList_ofList, String.toList_append, trim,
    String.toList_ofList, trimChars_trimChars_append plain some]

theorem mem_of_mem_trim {text : String} {c : Char} (member : c ∈ (trim text).toList) :
    c ∈ text.toList := by
  rw [trim, String.toList_ofList, trimChars, List.mem_reverse] at member
  exact (List.dropWhile_suffix _).mem (List.mem_reverse.mp ((List.dropWhile_suffix _).mem member))

/-- All digits lie between `0` and `f`, where there are no blanks. -/
theorem isBlank_of_digitValue? {radix digit : Nat} {c : Char} (value : digitValue? radix c = some digit) :
    isBlank c = false := by
  have range : 0x30 ≤ c.toNat ∧ c.toNat ≤ 0x66 := by
    simp only [digitValue?, Option.filter_eq_some_iff] at value
    have found := value.1
    split_ifs at found with decimal lower upper
    · have low : '0'.toNat ≤ c.toNat := decimal.1
      have high : c.toNat ≤ '9'.toNat := decimal.2
      exact ⟨low, Nat.le_trans high (by decide)⟩
    · have low : 'a'.toNat ≤ c.toNat := lower.1
      have high : c.toNat ≤ 'f'.toNat := lower.2
      exact ⟨Nat.le_trans (by decide) low, high⟩
    · have low : 'A'.toNat ≤ c.toNat := upper.1
      have high : c.toNat ≤ 'F'.toNat := upper.2
      exact ⟨Nat.le_trans (by decide) low, Nat.le_trans high (by decide)⟩
  simp only [isBlank, Bool.or_eq_false_iff, Bool.and_eq_false_iff, decide_eq_false_iff_not]
  omega

private theorem isBlank_digitChar (digit : Nat) : isBlank digit.digitChar = false := by
  by_cases small : digit < 16
  · have all : ∀ digit < 16, isBlank (Nat.digitChar digit) = false := by decide
    exact all digit small
  · rw [Nat.digitChar_eq_star.mpr (by omega)]
    decide

theorem plain_toDigits {radix : Nat} (base : 1 < radix) (number : Nat) :
    Plain (Nat.toDigits radix number) := by
  induction number using Nat.strongRecOn with
  | ind number ih =>
    rw [Nat.toDigits_eq_if base]
    split
    · simp [isBlank_digitChar]
    · simp [isBlank_digitChar, ih (number / radix) (Nat.div_lt_self (by omega) base)]

theorem plain_paddedDecimal (width number : Nat) : Plain (paddedDecimal width number).toList := by
  have zero : isBlank '0' = false := by decide
  rw [paddedDecimal, String.toList_ofList, plain_append]
  refine ⟨?_, plain_toDigits (by decide) number⟩
  intro c member
  rw [List.eq_of_mem_replicate member]
  exact zero

end RangeCatalog
