import RangeCatalog.Proofs.Calendar.Spelling

/-! # What the text of an instant tells

The text of a second shows what calendar and clock show at that second, in every year, and it tells the second:
different days have different dates, and the numbers of a time of day stand in places of their own. The text of
a leap second shows the second before it, counted on to 60, so that a text tells this too.
-/

namespace RangeCatalog

namespace Stamp

/-! ## Numerals -/

/-- A numeral of a fixed width is read whole, also where its number does not fit the width. -/
theorem readNumber_whole (width number : Nat) :
    readNumber 1 (paddedDecimal width number).toList.length (paddedDecimal width number).toList =
      some (number, []) := by
  have small : ∀ digit ∈ paddedDigits width number, digit < 10 := fun _ => lt_of_mem_paddedDigits
  have span := spanDigits_map_append (by decide) small []
  rw [List.append_nil, ← toList_paddedDecimal] at span
  have length : (paddedDecimal width number).toList.length = (paddedDigits width number).length := by
    rw [toList_paddedDecimal, List.length_map]
  have present : ¬(paddedDecimal width number).toList.length < 1 :=
    Nat.not_lt.mpr (List.length_pos_iff.mpr (paddedDecimal_ne_nil number))
  rw [readNumber, List.take_length, span]
  simp only [spanDigits, List.append_nil, numberOfDigits_paddedDigits, ← length, if_neg present,
    List.drop_length]

theorem paddedDecimal_inj {width number other : Nat}
    (same : paddedDecimal width number = paddedDecimal width other) : number = other := by
  have read := readNumber_whole width number
  rw [same, readNumber_whole] at read
  exact (congrArg Prod.fst (Option.some.inj read)).symm

/-- The numeral of a year is read as the year, with or without a sign. -/
theorem readYear_yearText (year : Int) : readYear (Instant.yearText year).toList = some (year, []) := by
  rw [Instant.yearText]
  split_ifs with short before
  · have fits : year.natAbs < 10000 := by omega
    have read := readYear_paddedDecimal fits []
    rw [List.append_nil] at read
    rw [read, Int.natAbs_of_nonneg short.1]
  · have number : -(year.natAbs : Int) = year := by omega
    have text : ("-" ++ paddedDecimal 4 year.natAbs).toList = '-' :: (paddedDecimal 4 year.natAbs).toList := by
      simp
    have sign : isBlank '-' = false := by decide
    rw [text, readYear, List.dropWhile_cons_of_neg (by simp [sign])]
    simp only [readNumber_whole, Option.map_some, number]
  · have number : (year.natAbs : Int) = year := by omega
    have text : ("+" ++ paddedDecimal 4 year.natAbs).toList = '+' :: (paddedDecimal 4 year.natAbs).toList := by
      simp
    have sign : isBlank '+' = false := by decide
    rw [text, readYear, List.dropWhile_cons_of_neg (by simp [sign])]
    simp only [readNumber_whole, Option.map_some, number]

theorem yearText_inj {year other : Int} (same : Instant.yearText year = Instant.yearText other) :
    year = other := by
  have read := readYear_yearText year
  rw [same, readYear_yearText] at read
  exact (congrArg Prod.fst (Option.some.inj read)).symm

private theorem length_paddedDecimal_two {number : Nat} (fits : number < 100) :
    (paddedDecimal 2 number).toList.length = 2 := by
  rw [toList_paddedDecimal, List.length_map]
  exact length_paddedDigits fits (by decide)

end Stamp

/-! ## Dates -/

namespace Date

/-- The date as `YYYY-MM-DD`, with a sign where the year needs one. -/
def text (date : Date) : String :=
  Instant.yearText date.year ++ "-" ++ paddedDecimal 2 date.month ++ "-" ++ paddedDecimal 2 date.day

private theorem Valid.month_lt {date : Date} (valid : date.Valid) : date.month < 100 :=
  Nat.lt_of_le_of_lt valid.2.1 (by decide)

private theorem Valid.day_lt {date : Date} (valid : date.Valid) : date.day < 100 :=
  Nat.lt_of_le_of_lt (Nat.le_trans valid.2.2.2 (monthLength_le _ _)) (by decide)

/-- A date is told by its text. -/
theorem text_inj {date other : Date} (valid : date.Valid) (otherValid : other.Valid)
    (same : date.text = other.text) : date = other := by
  have chars := congrArg String.toList same
  simp only [text, String.toList_append] at chars
  have month := Stamp.length_paddedDecimal_two valid.month_lt
  have otherMonth := Stamp.length_paddedDecimal_two otherValid.month_lt
  have day := Stamp.length_paddedDecimal_two valid.day_lt
  have otherDay := Stamp.length_paddedDecimal_two otherValid.day_lt
  -- the year is the only part without a fixed width, so the parts are cut off from the end
  obtain ⟨chars, days⟩ := List.append_inj' chars (day.trans otherDay.symm)
  obtain ⟨chars, months⟩ := List.append_inj' (List.append_cancel_right chars) (month.trans otherMonth.symm)
  have years := List.append_cancel_right chars
  obtain ⟨year, month, day⟩ := date
  obtain ⟨otherYear, otherMonth, otherDay⟩ := other
  rw [Date.mk.injEq]
  exact ⟨Stamp.yearText_inj (String.toList_injective years),
    Stamp.paddedDecimal_inj (String.toList_injective months),
    Stamp.paddedDecimal_inj (String.toList_injective days)⟩

end Date

namespace Instant

variable {instant other : Instant}

private theorem dateText_eq (instant : Instant) : instant.dateText = instant.date.text :=
  rfl

/-- Instants have one date text exactly when they are of one day. -/
theorem dateText_eq_iff :
    instant.dateText = other.dateText ↔ instant.seconds / daySeconds = other.seconds / daySeconds := by
  constructor
  · intro same
    rw [dateText_eq, dateText_eq] at same
    have dates := Date.text_inj (Date.valid_ofDays _) (Date.valid_ofDays _) same
    have days := congrArg Date.toDays dates
    rwa [Date.toDays_ofDays, Date.toDays_ofDays] at days
  · intro day
    simp only [dateText, date, day]

end Instant

/-! ## Instants -/

namespace Stamp.Fields

/-- The date and the time of day as `YYYY-MM-DDTHH:MM:SSZ`, with a sign where the year needs one. -/
def text (fields : Fields) : String :=
  (Date.mk fields.year fields.month fields.day).text ++ "T" ++ fields.timeText ++ "Z"

/-- Whether the numbers of the time of day fit their places. -/
structure Clocked (fields : Fields) : Prop where
  hour : fields.hour < 100
  minute : fields.minute < 100
  second : fields.second < 100

variable {fields other : Fields}

private theorem Clocked.length_timeText (clocked : fields.Clocked) : fields.timeText.toList.length = 8 := by
  rw [toList_timeText, toList_minuteText]
  simp only [List.length_append, List.length_cons, length_paddedDecimal_two clocked.hour,
    length_paddedDecimal_two clocked.minute, length_paddedDecimal_two clocked.second]

/-- A time of day is told by its text. -/
theorem timeText_inj (clocked : fields.Clocked) (otherClocked : other.Clocked)
    (same : fields.timeText = other.timeText) :
    fields.hour = other.hour ∧ fields.minute = other.minute ∧ fields.second = other.second := by
  have chars := congrArg String.toList same
  rw [toList_timeText, toList_timeText, toList_minuteText, toList_minuteText, List.append_assoc,
    List.append_assoc] at chars
  have hour := length_paddedDecimal_two clocked.hour
  have otherHour := length_paddedDecimal_two otherClocked.hour
  have minute := length_paddedDecimal_two clocked.minute
  have otherMinute := length_paddedDecimal_two otherClocked.minute
  obtain ⟨hours, chars⟩ := List.append_inj chars (hour.trans otherHour.symm)
  obtain ⟨minutes, chars⟩ := List.append_inj (List.tail_eq_of_cons_eq chars) (minute.trans otherMinute.symm)
  have seconds := List.tail_eq_of_cons_eq chars
  exact ⟨paddedDecimal_inj (String.toList_injective hours), paddedDecimal_inj (String.toList_injective minutes),
    paddedDecimal_inj (String.toList_injective seconds)⟩

end Stamp.Fields

namespace Instant

variable {instant other : Instant}

private theorem text_eq_text_fields (instant : Instant) : instant.text = instant.fields.text :=
  rfl

private theorem clocked_fields (instant : Instant) : instant.fields.Clocked := by
  have time := instant.timeOfDay_lt
  refine ⟨?_, ?_, ?_⟩
  · show instant.timeOfDay / 3600 < 100
    omega
  · show instant.timeOfDay / 60 % 60 < 100
    omega
  · simp only [fields]
    split <;> omega

private theorem second_of_leap (leap : instant.leap = true) (regular : instant.Regular) :
    instant.fields.second = 60 := by
  have last := regular leap
  have time := instant.timeOfDay_eq
  simp only [daySeconds] at time
  simp only [fields, leap, if_true]
  omega

private theorem second_of_not_leap (proper : instant.leap = false) :
    instant.fields.second = instant.timeOfDay % 60 := by
  simp only [fields, proper, Bool.false_eq_true, if_false]

/-- The second 60 is the mark of a leap second. -/
theorem second_eq_sixty_iff (regular : instant.Regular) : instant.fields.second = 60 ↔ instant.leap = true := by
  constructor
  · intro sixty
    by_contra proper
    rw [second_of_not_leap (Bool.eq_false_of_not_eq_true proper)] at sixty
    omega
  · intro leap
    exact second_of_leap leap regular

/-- An instant is told by its text, the leap second that follows it included. -/
theorem text_inj (regular : instant.Regular) (otherRegular : other.Regular)
    (same : instant.text = other.text) : instant = other := by
  have clocked := instant.clocked_fields
  have otherClocked := other.clocked_fields
  have length := clocked.length_timeText.trans otherClocked.length_timeText.symm
  have chars := congrArg String.toList same
  simp only [text_eq_text_fields, Stamp.Fields.text, String.toList_append] at chars
  obtain ⟨chars, times⟩ := List.append_inj' (List.append_cancel_right chars) length
  have dates : instant.dateText = other.dateText :=
    String.toList_injective (List.append_cancel_right chars)
  have days := dateText_eq_iff.mp dates
  obtain ⟨hours, minutes, seconds⟩ :=
    Stamp.Fields.timeText_inj clocked otherClocked (String.toList_injective times)
  -- a leap second and the second before it differ in their last number only
  have leaps : instant.leap = other.leap := by
    rw [Bool.eq_iff_iff, ← second_eq_sixty_iff regular, ← second_eq_sixty_iff otherRegular, seconds]
  have lasts : instant.timeOfDay % 60 = other.timeOfDay % 60 := by
    simp only [fields, leaps] at seconds
    split at seconds <;> omega
  have hour : instant.timeOfDay / 3600 = other.timeOfDay / 3600 := hours
  have minute : instant.timeOfDay / 60 % 60 = other.timeOfDay / 60 % 60 := minutes
  have time := instant.timeOfDay_eq
  have otherTime := other.timeOfDay_eq
  obtain ⟨count, leap⟩ := instant
  obtain ⟨otherCount, otherLeap⟩ := other
  simp only [daySeconds] at days time otherTime
  rw [Instant.mk.injEq]
  exact ⟨by omega, leaps⟩

end Instant

/-! ## Renderings of seconds -/

/-- Whether a text is the rendering of a second: what calendar and clock show then in universal time. -/
def Renders (text : String) (seconds : Int) : Prop :=
  ∃ fields : Stamp.Fields, fields.Shows seconds ∧ text = fields.text

/-- Whether a text is the rendering of the leap second that follows a second: what is shown at the second, which
is the last one of a minute, with 60 in place of 59. -/
def RendersLeap (text : String) (seconds : Int) : Prop :=
  ∃ fields : Stamp.Fields, fields.Shows seconds ∧ fields.second = 59 ∧
    text = { fields with second := 60 }.text

namespace Instant

variable {instant : Instant}

theorem renders_iff {text : String} {seconds : Int} : Renders text seconds ↔ text = (ofSeconds seconds).text := by
  constructor
  · rintro ⟨fields, shows, rfl⟩
    rw [Stamp.Fields.shows_iff.mp shows, text_eq_text_fields]
  · rintro rfl
    exact ⟨_, Stamp.Fields.shows_iff.mpr rfl, text_eq_text_fields _⟩

theorem renders_text (proper : instant.leap = false) : Renders instant.text instant.seconds := by
  rw [renders_iff, ofSeconds, ← proper]

theorem rendersLeap_text (leap : instant.leap = true) (regular : instant.Regular) :
    RendersLeap instant.text instant.seconds := by
  have shown : (ofSeconds instant.seconds).fields.Shows instant.seconds := Stamp.Fields.shows_iff.mpr rfl
  have last : (ofSeconds instant.seconds).fields.second = 59 := by
    have minuteEnd := regular leap
    have time := shown.time
    have minute := shown.minute
    have second := shown.second
    omega
  have sixty := second_of_leap leap regular
  refine ⟨_, shown, last, ?_⟩
  rw [text_eq_text_fields, ← sixty]
  rfl

end Instant

end RangeCatalog
