import RangeCatalog.Proofs.Calendar.Reading
import RangeCatalog.Proofs.Calendar.Stamp

/-! # Written instants

The numbers in the written form of an instant, and what calendar and clock show at a second. The numbers
denote the instant again, also at an offset from universal time.
-/

namespace RangeCatalog

namespace Instant

variable {instant : Instant}

/-! ## Texts -/

private theorem plain_yearText (year : Int) : Plain (yearText year).toList := by
  have hyphen : isBlank '-' = false := by decide
  have plus : isBlank '+' = false := by decide
  unfold yearText
  split_ifs <;> simp [plain_paddedDecimal, hyphen, plus]

theorem plain_text (instant : Instant) : Plain instant.text.toList := by
  have hyphen : isBlank '-' = false := by decide
  have colon : isBlank ':' = false := by decide
  have letters : isBlank 'T' = false ∧ isBlank 'Z' = false := by decide
  simp [text, dateText, timeText, plain_yearText, plain_paddedDecimal, hyphen, colon, letters]

theorem text_ne_empty (instant : Instant) : instant.text ≠ "" := by
  intro empty
  have none := congrArg String.toList empty
  simp [text] at none

/-! ## Numbers -/

theorem timeOfDay_eq (instant : Instant) : (instant.timeOfDay : Int) = instant.seconds % daySeconds :=
  Int.toNat_of_nonneg (Int.emod_nonneg _ (by decide))

theorem timeOfDay_lt (instant : Instant) : instant.timeOfDay < 86400 := by
  rw [← Int.ofNat_lt, timeOfDay_eq]
  exact Int.emod_lt_of_pos _ (by decide)

/-- The numbers in the written form of an instant. -/
def fields (instant : Instant) : Stamp.Fields :=
  ⟨instant.date.year, instant.date.month, instant.date.day, instant.timeOfDay / 3600,
    instant.timeOfDay / 60 % 60,
    if instant.leap then instant.timeOfDay % 60 + 1 else instant.timeOfDay % 60⟩

/-- Whether the year has four digits. -/
def HasShortYear (instant : Instant) : Prop :=
  0 ≤ instant.date.year ∧ instant.date.year ≤ 9999

theorem text_eq (short : instant.HasShortYear) :
    instant.text = instant.fields.dateText ++ "T" ++ instant.fields.timeText ++ "Z" := by
  simp only [text, dateText, timeText, Stamp.Fields.dateText, Stamp.Fields.timeText,
    Stamp.Fields.minuteText, fields, yearText, HasShortYear] at *
  rw [if_pos short]

/-- The numbers fit their places. -/
theorem fits_fields (short : instant.HasShortYear) : instant.fields.Fits := by
  have time := instant.timeOfDay_lt
  obtain ⟨_, month, _, day⟩ : instant.date.Valid := Date.valid_ofDays _
  have longest := Date.monthLength_le instant.date.year instant.date.month
  refine ⟨short, ?_, ?_, ?_, ?_, ?_⟩
  · exact Nat.lt_of_le_of_lt month (by decide)
  · exact Nat.lt_of_le_of_lt (Nat.le_trans day longest) (by decide)
  · show instant.timeOfDay / 3600 < 100
    omega
  · show instant.timeOfDay / 60 % 60 < 100
    omega
  · simp only [fields]
    split <;> omega

theorem regular_ofSeconds (seconds : Int) : (ofSeconds seconds).Regular := by
  intro leap
  contradiction

/-- The numbers are those of a date and a time of day. -/
theorem valid_fields (short : instant.HasShortYear) : instant.fields.Valid := by
  have time := instant.timeOfDay_lt
  refine ⟨Int.le_trans (by decide) short.1, Int.le_trans short.2 (by decide), Date.valid_ofDays _, ?_, ?_, ?_⟩
  · show instant.timeOfDay / 3600 < 24
    omega
  · exact Nat.mod_lt _ (by decide)
  · simp only [fields]
    split <;> omega

/-- At an offset, the numbers of a local time denote the instant that lies before it by the offset. -/
theorem toInstant?_fields (short : instant.HasShortYear) (regular : instant.Regular) (offset : Int) :
    instant.fields.toInstant? offset = some ⟨instant.seconds - offset, instant.leap⟩ := by
  have days : (Date.mk instant.fields.year instant.fields.month instant.fields.day).toDays =
      instant.seconds / daySeconds := Date.toDays_ofDays _
  have whole := Int.mul_ediv_add_emod instant.seconds daySeconds
  rw [← timeOfDay_eq] at whole
  have hour : instant.fields.hour = instant.timeOfDay / 3600 := rfl
  have minute : instant.fields.minute = instant.timeOfDay / 60 % 60 := rfl
  rw [Stamp.Fields.toInstant?, if_pos (valid_fields short), days, hour, minute]
  cases leap : instant.leap with
  | false =>
    have second : instant.fields.second = instant.timeOfDay % 60 := by simp [fields, leap]
    have proper : ¬instant.timeOfDay % 60 = 60 := by omega
    simp only [second, proper, if_false, decide_false, Option.some.injEq, Instant.mk.injEq, and_true]
    rw [daySeconds] at whole ⊢
    omega
  | true =>
    have last : instant.timeOfDay % 60 = 59 := by
      have minuteEnd := regular leap
      simp only [daySeconds] at whole
      omega
    have second : instant.fields.second = 60 := by simp [fields, leap, last]
    simp only [second, if_true, decide_true, Option.some.injEq, Instant.mk.injEq, and_true]
    rw [daySeconds] at whole ⊢
    omega

end Instant

end RangeCatalog
