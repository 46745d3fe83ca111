import RangeCatalog.Proofs.Calendar.Instant

/-! # The spellings of a second

A second of universal time may be written in many ways: by what calendar and clock show at an offset, with
the offset behind it, or by what they show in universal time, with or without a mark for that. All of them
are read as that second. What calendar and clock show is said without the conversions, by counting days.
-/

namespace RangeCatalog.Stamp

/-! ## Calendar and clock -/

/-- What calendar and clock show at a second, counted from the start of 1970. -/
structure Fields.Shows (fields : Fields) (seconds : Int) : Prop where
  date : Date.OnDay (seconds / 86400) ⟨fields.year, fields.month, fields.day⟩
  time : (fields.hour * 3600 + fields.minute * 60 + fields.second : Int) = seconds % 86400
  minute : fields.minute < 60
  second : fields.second < 60

/-- They show the numbers of the written form, and nothing else. -/
theorem Fields.shows_iff {fields : Fields} {seconds : Int} :
    fields.Shows seconds ↔ fields = (Instant.ofSeconds seconds).fields := by
  have time : ((Instant.ofSeconds seconds).timeOfDay : Int) = seconds % 86400 := Instant.timeOfDay_eq _
  constructor
  · rintro ⟨onDay, clock, minute, second⟩
    obtain ⟨year, month, day, hour, minutes, secondsShown⟩ := fields
    have date : Date.ofDays (seconds / 86400) = ⟨year, month, day⟩ := Date.onDay_iff.mp onDay
    simp only at clock minute second
    simp only [Instant.fields, Instant.date, Instant.daySeconds, Instant.ofSeconds, date,
      Bool.false_eq_true, if_false, Fields.mk.injEq, true_and] at time ⊢
    omega
  · rintro rfl
    refine ⟨Date.onDay_iff.mpr rfl, ?_, Nat.mod_lt _ (by decide), Nat.mod_lt _ (by decide)⟩
    rw [← time]
    simp only [Instant.fields, Instant.ofSeconds, Bool.false_eq_true, if_false]
    omega

/-! ## Offsets -/

/-- An offset from universal time of whole minutes that is less than a day. -/
structure Offset where
  east : Bool
  hours : Fin 24
  minutes : Fin 60
deriving DecidableEq, Repr

namespace Offset

/-- The seconds by which a local time is ahead. -/
def seconds (offset : Offset) : Int :=
  let size : Int := offset.hours * 3600 + offset.minutes * 60
  if offset.east then size else -size

/-- The offset as `+HH:MM` or `-HH:MM`. -/
def text (offset : Offset) : String :=
  (if offset.east then "+" else "-") ++ paddedDecimal 2 offset.hours ++ ":" ++
    paddedDecimal 2 offset.minutes

private theorem toList_text (offset : Offset) :
    offset.text.toList = (if offset.east then '+' else '-') ::
      ((paddedDecimal 2 offset.hours).toList ++ ':' :: (paddedDecimal 2 offset.minutes).toList) := by
  cases east : offset.east <;> simp [text, east]

private theorem readOffset_text (offset : Offset) : readOffset offset.text.toList = some (offset.seconds, []) := by
  have colon := readOne_self ':'
  have hours := readExact_two (Nat.lt_trans offset.hours.isLt (by decide))
  have minutes := readExact_two (Nat.lt_trans offset.minutes.isLt (by decide)) []
  have inDay : offset.hours.val < 24 ∧ offset.minutes.val < 60 := ⟨offset.hours.isLt, offset.minutes.isLt⟩
  rw [List.append_nil] at minutes
  rw [toList_text, seconds]
  cases offset.east <;>
    simp [readOffset, hours, colon, minutes, inDay]

private theorem plain_text (offset : Offset) : Plain offset.text.toList := by
  have signs : isBlank '+' = false ∧ isBlank '-' = false := by decide
  have colon : isBlank ':' = false := by decide
  cases east : offset.east <;> simp [toList_text, east, plain_paddedDecimal, signs, colon]

private theorem endsFraction_text (offset : Offset) : EndsFraction offset.text.toList := by
  rw [toList_text]
  intro c member
  obtain rfl := Option.some.inj member
  cases offset.east <;> decide

end Offset

/-! ## Spellings -/

/-- The spellings of a second. The first fields are what is shown in universal time, the second what is
shown at an offset. -/
inductive Spells (seconds : Int) (utc shown : Fields) (offset : Offset) : List Char → Prop
  /-- The time at the offset, with the offset. -/
  | atOffset {mark : Char} {fraction : List Char} (isMark : mark ∈ ['T', 't', ' '])
    (isFraction : IsFraction fraction) :
    Spells seconds utc shown offset
      (shown.dateText.toList ++ mark :: (shown.timeText.toList ++ (fraction ++ offset.text.toList)))
  /-- The time in universal time, with the mark of it. -/
  | universal {mark zone : Char} {fraction : List Char} (isMark : mark ∈ ['T', 't', ' '])
    (isZone : zone ∈ ['Z', 'z']) (isFraction : IsFraction fraction) :
    Spells seconds utc shown offset
      (utc.dateText.toList ++ mark :: (utc.timeText.toList ++ (fraction ++ [zone])))
  /-- The time in universal time without a mark of it. -/
  | plain {mark : Char} {fraction : List Char} (isMark : mark ∈ ['T', ' ']) (isFraction : IsFraction fraction) :
    Spells seconds utc shown offset (utc.dateText.toList ++ mark :: (utc.timeText.toList ++ fraction))
  /-- The start of a minute. -/
  | minute (whole : seconds % 60 = 0) :
    Spells seconds utc shown offset (utc.dateText.toList ++ 'T' :: utc.minuteText.toList)
  /-- The start of a day. -/
  | midnight (whole : seconds % 86400 = 0) : Spells seconds utc shown offset utc.dateText.toList

private theorem IsFraction.plain {fraction : List Char} (isFraction : IsFraction fraction) : Plain fraction := by
  rcases isFraction with rfl | ⟨digits, _, isDigit, rfl⟩
  · exact plain_nil
  · rw [plain_cons]
    refine ⟨by decide, ?_⟩
    intro c member
    obtain ⟨_, value⟩ := digitValue?_of_isDigit (isDigit c member)
    exact isBlank_of_digitValue? value

private theorem Fields.plain_dateText (fields : Fields) : Plain fields.dateText.toList := by
  have hyphen : isBlank '-' = false := by decide
  simp [toList_dateText, plain_paddedDecimal, hyphen]

private theorem Fields.plain_minuteText (fields : Fields) : Plain fields.minuteText.toList := by
  have colon : isBlank ':' = false := by decide
  simp [toList_minuteText, plain_paddedDecimal, colon]

private theorem Fields.plain_timeText (fields : Fields) : Plain fields.timeText.toList := by
  have colon : isBlank ':' = false := by decide
  simp [toList_timeText, plain_minuteText, plain_paddedDecimal, colon]

private theorem Fields.dateText_ne_nil (fields : Fields) : fields.dateText.toList ≠ [] := by
  simp [toList_dateText]

private theorem Fields.timeText_ne_nil (fields : Fields) : fields.timeText.toList ≠ [] := by
  simp [toList_timeText]

variable {seconds : Int} {utc shown : Fields} {offset : Offset} {chars : List Char}

/-- A spelling has no blanks at its ends. -/
theorem Spells.trimChars (spelled : Spells seconds utc shown offset chars) : trimChars chars = chars := by
  have marked {fields : Fields} {mark : Char} {rest : List Char} (plain : Plain rest) :
      RangeCatalog.trimChars (fields.dateText.toList ++ mark :: (fields.timeText.toList ++ rest)) =
        fields.dateText.toList ++ mark :: (fields.timeText.toList ++ rest) := by
    have plainLast : Plain (fields.timeText.toList ++ rest) :=
      (plain_append _ _).mpr ⟨fields.plain_timeText, plain⟩
    have someLast : fields.timeText.toList ++ rest ≠ [] := by simp [fields.timeText_ne_nil]
    rw [← List.singleton_append]
    exact trimChars_of_plain_ends fields.plain_dateText fields.dateText_ne_nil plainLast someLast [mark]
  cases spelled with
  | atOffset _ isFraction => exact marked ((plain_append _ _).mpr ⟨isFraction.plain, offset.plain_text⟩)
  | universal _ isZone isFraction =>
    refine marked ((plain_append _ _).mpr ⟨isFraction.plain, ?_⟩)
    simp only [List.mem_cons, List.not_mem_nil, or_false] at isZone
    rcases isZone with rfl | rfl <;> exact (plain_cons _ _).mpr ⟨by decide, plain_nil⟩
  | plain _ isFraction => exact marked isFraction.plain
  | minute =>
    have letter : isBlank 'T' = false := by decide
    exact Plain.trimChars (by simp [utc.plain_dateText, utc.plain_minuteText, letter])
  | midnight => exact utc.plain_dateText.trimChars

private theorem Fields.Shows.second_eq {fields : Fields} (shows : fields.Shows seconds)
    (whole : seconds % 60 = 0) : { fields with second := 0 } = fields := by
  have second : fields.second = 0 := by
    have small := shows.second
    have time := shows.time
    omega
  rw [← second]

private theorem Fields.Shows.time_eq {fields : Fields} (shows : fields.Shows seconds)
    (whole : seconds % 86400 = 0) : { fields with hour := 0, minute := 0, second := 0 } = fields := by
  have time := shows.time
  have hour : fields.hour = 0 := by omega
  have minute : fields.minute = 0 := by omega
  have second : fields.second = 0 := by omega
  obtain ⟨year, month, day, _, _, _⟩ := fields
  simp only at hour minute second
  rw [hour, minute, second]

/-- What is shown at an offset denotes the second at that offset. -/
theorem Fields.Shows.toInstant? {fields : Fields} {ahead : Int} (shows : fields.Shows (seconds + ahead))
    (year : 0 ≤ fields.year ∧ fields.year ≤ 9999) :
    fields.Fits ∧ fields.toInstant? ahead = some (.ofSeconds seconds) := by
  obtain rfl := Fields.shows_iff.mp shows
  refine ⟨Instant.fits_fields year, ?_⟩
  rw [Instant.toInstant?_fields year (Instant.regular_ofSeconds _), Instant.ofSeconds, Int.add_sub_cancel]
  rfl

/-- A spelling is read as its second, where the years have four digits. -/
theorem Spells.ofTrimmed? (spelled : Spells seconds utc shown offset chars) (utcShown : utc.Shows seconds)
    (offsetShown : shown.Shows (seconds + offset.seconds)) (utcYear : 0 ≤ utc.year ∧ utc.year ≤ 9999)
    (year : 0 ≤ shown.year ∧ shown.year ≤ 9999) : ofTrimmed? chars = some (.ofSeconds seconds) := by
  obtain ⟨fits, denoted⟩ := offsetShown.toInstant? year
  have utcAgain : utc.Shows (seconds + 0) := by rwa [Int.add_zero]
  obtain ⟨utcFits, utcDenoted⟩ := utcAgain.toInstant? utcYear
  cases spelled with
  | atOffset isMark isFraction =>
    exact ofTrimmed?_zoned fits isMark isFraction offset.endsFraction_text offset.readOffset_text denoted
  | @universal mark zone _ isMark isZone isFraction =>
    have read : readOffset [zone] = some (0, []) := by
      simp only [List.mem_cons, List.not_mem_nil, or_false] at isZone
      rw [readOffset, if_pos isZone]
    have ends : EndsFraction [zone] := by
      intro c member
      obtain rfl := Option.some.inj member
      simp only [List.mem_cons, List.not_mem_nil, or_false] at isZone
      rcases isZone with rfl | rfl <;> decide
    exact ofTrimmed?_zoned utcFits isMark isFraction ends read utcDenoted
  | plain isMark isFraction => exact ofTrimmed?_plain utcFits isMark isFraction utcDenoted
  | minute whole => exact ofTrimmed?_minute utcFits ((utcShown.second_eq whole).symm ▸ utcDenoted)
  | midnight whole => exact ofTrimmed?_date utcFits ((utcShown.time_eq whole).symm ▸ utcDenoted)

/-- For every second and every offset, let `utc` and `shown` be what calendar and clock show in universal
time and at the offset. If both years have four digits, each spelling of the second is read as the instant
of this second, with any blanks around it, and the text of the instant is the one of universal time. -/
theorem spellings_agree (seconds : Int) (offset : Offset) :
    ∃ utc shown : Fields, utc.Shows seconds ∧ shown.Shows (seconds + offset.seconds) ∧
      (0 ≤ utc.year ∧ utc.year ≤ 9999 → 0 ≤ shown.year ∧ shown.year ≤ 9999 →
        ∀ before text after : String, isBlankText before = true → isBlankText after = true →
          Spells seconds utc shown offset text.toList →
          ∃ instant, ofText? (before ++ text ++ after) = some instant ∧ instant.seconds = seconds ∧
            instant.text = utc.dateText ++ "T" ++ utc.timeText ++ "Z") := by
  have utcShown := Fields.shows_iff.mpr (rfl : (Instant.ofSeconds seconds).fields = _)
  have offsetShown :=
    Fields.shows_iff.mpr (rfl : (Instant.ofSeconds (seconds + offset.seconds)).fields = _)
  refine ⟨_, _, utcShown, offsetShown, ?_⟩
  intro utcYear year before text after blankBefore blankAfter spelled
  refine ⟨.ofSeconds seconds, ?_, rfl, Instant.text_eq utcYear⟩
  rw [ofText?_eq, String.toList_append, String.toList_append,
    trimChars_pad (List.all_eq_true.mp blankBefore) (List.all_eq_true.mp blankAfter), spelled.trimChars]
  exact spelled.ofTrimmed? utcShown offsetShown utcYear year

/-- What is shown at the last second of the leap day of 2000, and fourteen hours ahead, where March has begun. -/
def leapDayEnd : Fields := ⟨2000, 2, 29, 23, 59, 59⟩

@[inherit_doc leapDayEnd]
def marchBegun : Fields := ⟨2000, 3, 1, 13, 59, 59⟩

/-- The last second of the leap day, spelled with a fraction and fourteen hours ahead. -/
theorem spellings_agree_leap_day :
    Spells 951868799 leapDayEnd marchBegun ⟨true, 14, 0⟩ "2000-03-01T13:59:59.50+14:00".toList ∧
      ∃ instant, ofText? "\t2000-03-01T13:59:59.50+14:00\n" = some instant ∧ instant.seconds = 951868799 ∧
        instant.text = "2000-02-29T23:59:59Z" := by
  have half : IsFraction ".50".toList := .inr ⟨['5', '0'], by decide, List.all_eq_true.mp (by decide), rfl⟩
  have spelled : Spells 951868799 leapDayEnd marchBegun ⟨true, 14, 0⟩
      (marchBegun.dateText.toList ++ 'T' :: (marchBegun.timeText.toList ++
        (".50".toList ++ (Offset.mk true 14 0).text.toList))) := .atOffset (by decide) half
  have text : marchBegun.dateText.toList ++ 'T' :: (marchBegun.timeText.toList ++
      (".50".toList ++ (Offset.mk true 14 0).text.toList)) = "2000-03-01T13:59:59.50+14:00".toList := by
    decide +kernel
  rw [text] at spelled
  obtain ⟨utc, shown, utcShown, offsetShown, read⟩ := spellings_agree 951868799 ⟨true, 14, 0⟩
  obtain rfl : utc = leapDayEnd := (Fields.shows_iff.mp utcShown).trans (by decide +kernel)
  obtain rfl : shown = marchBegun := (Fields.shows_iff.mp offsetShown).trans (by decide +kernel)
  have padded : "\t" ++ "2000-03-01T13:59:59.50+14:00" ++ "\n" = "\t2000-03-01T13:59:59.50+14:00\n" := by
    decide +kernel
  have utcText : leapDayEnd.dateText ++ "T" ++ leapDayEnd.timeText ++ "Z" = "2000-02-29T23:59:59Z" := by
    decide +kernel
  have agrees := read (by decide) (by decide) "\t" "2000-03-01T13:59:59.50+14:00" "\n" (by decide)
    (by decide) spelled
  rw [padded, utcText] at agrees
  exact ⟨spelled, agrees⟩

end RangeCatalog.Stamp
