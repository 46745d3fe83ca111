import Mathlib.Tactic.SplitIfs
import RangeCatalog.Calendar.Stamp
import RangeCatalog.Proofs.Text.Blank
import RangeCatalog.Proofs.Text.Numeral

/-! # Reading written dates and times

A date and a time whose numbers fill their places are read as these numbers in each of the forms, and
what follows them is left. A text in one of the forms is not taken for a text in a form that is tried
before it: where a form goes on, that text has another mark or ends.
-/

namespace RangeCatalog

namespace Stamp

/-! ## Numbers -/

private theorem readNumber_paddedDecimal {least width number : Nat} (fits : number < Nat.pow 10 width)
    (some : 0 < width) (room : least ≤ width) (rest : List Char) :
    readNumber least width ((paddedDecimal width number).toList ++ rest) = .some (number, rest) := by
  have length := length_paddedDigits fits some
  have text : (paddedDecimal width number).toList.length = width := by
    rw [toList_paddedDecimal, List.length_map, length]
  have decimal : 10 ≤ 16 := by decide
  have small : ∀ digit ∈ paddedDigits width number, digit < 10 := fun _ => lt_of_mem_paddedDigits
  have span := spanDigits_map_append decimal small []
  rw [List.append_nil, spanDigits, List.append_nil, ← toList_paddedDecimal] at span
  simp only [readNumber, List.take_left' text, span, length, List.drop_left' text,
    numberOfDigits_paddedDigits, if_neg (Nat.not_lt.mpr room)]

/-- A number that is read is the number of some digits before the rest. -/
theorem exists_of_readNumber {least most number : Nat} {chars rest : List Char}
    (read : readNumber least most chars = some (number, rest)) :
    ∃ text digits, chars = text ++ rest ∧ DigitText 10 text digits ∧ numberOfDigits 10 digits = number ∧
      least ≤ digits.length ∧ digits.length ≤ most := by
  obtain ⟨text, split, spelled, _⟩ := spanDigits_eq_iff.mp (rfl : spanDigits 10 (chars.take most) = (_, _))
  obtain ⟨tail, whole⟩ : ∃ tail, chars = text ++ tail := by
    refine ⟨(spanDigits 10 (chars.take most)).2 ++ chars.drop most, ?_⟩
    rw [← List.append_assoc, ← split, List.take_append_drop]
  have taken : text.length ≤ most := by
    have length := congrArg List.length split
    rw [List.length_append, List.length_take] at length
    omega
  rw [readNumber] at read
  split_ifs at read with short
  cases read
  refine ⟨text, _, ?_, spelled, rfl, Nat.le_of_not_lt short, spelled.length_eq ▸ taken⟩
  rw [← spelled.length_eq, whole, List.drop_left]

theorem readExact_two {number : Nat} (fits : number < 100) (rest : List Char) :
    readExact 2 ((paddedDecimal 2 number).toList ++ rest) = some (number, rest) :=
  readNumber_paddedDecimal fits (by decide) (Nat.le_refl 2) rest

private theorem readExact_four {number : Nat} (fits : number < 10000) (rest : List Char) :
    readExact 4 ((paddedDecimal 4 number).toList ++ rest) = some (number, rest) :=
  readNumber_paddedDecimal fits (by decide) (Nat.le_refl 4) rest

theorem paddedDecimal_ne_nil {width : Nat} (number : Nat) : (paddedDecimal width number).toList ≠ [] := by
  simp [toList_paddedDecimal, paddedDigits]

private theorem readPart_paddedDecimal {number : Nat} (fits : number < 100) (rest : List Char) :
    readPart 2 ((paddedDecimal 2 number).toList ++ rest) = some (number, rest) := by
  rw [readPart, (plain_paddedDecimal 2 number).dropWhile_append (paddedDecimal_ne_nil number)]
  exact readNumber_paddedDecimal fits (by decide) (by decide) rest

/-- A year that starts with a digit has no sign and at most four digits. -/
theorem readYear_of_digit {digit : Nat} {c : Char} (value : digitValue? 10 c = some digit) (rest : List Char) :
    readYear (c :: rest) = (readNumber 1 4 (c :: rest)).map fun (year, tail) => ((year : Int), tail) := by
  have start : (c :: rest).dropWhile isBlank = c :: rest := by
    rw [List.dropWhile_cons_of_neg (by simp [isBlank_of_digitValue? value])]
  have minus : c ≠ '-' := by
    rintro rfl
    simp [digitValue?] at value
  have plus : c ≠ '+' := by
    rintro rfl
    simp [digitValue?] at value
  rw [readYear, start]
  split
  · simp_all
  · simp_all
  · rfl

theorem readYear_paddedDecimal {number : Nat} (fits : number < 10000) (rest : List Char) :
    readYear ((paddedDecimal 4 number).toList ++ rest) = some ((number : Int), rest) := by
  have read : readNumber 1 4 ((paddedDecimal 4 number).toList ++ rest) = some (number, rest) :=
    readNumber_paddedDecimal fits (by decide) (by decide) rest
  have nonempty : paddedDigits 4 number ≠ [] := by simp [paddedDigits]
  obtain ⟨digit, digits, same⟩ := List.exists_cons_of_ne_nil nonempty
  have small : digit < 10 := lt_of_mem_paddedDigits (same ▸ List.mem_cons_self)
  rw [toList_paddedDecimal, same, List.map_cons, List.cons_append] at read ⊢
  rw [readYear_of_digit (digitValue?_digitChar (by decide) small), read, Option.map_some]

/-! ## Written fields -/

namespace Fields

/-- The date as `YYYY-MM-DD`. -/
def dateText (fields : Fields) : String :=
  paddedDecimal 4 fields.year.natAbs ++ "-" ++ paddedDecimal 2 fields.month ++ "-" ++
    paddedDecimal 2 fields.day

/-- The time of day as `HH:MM`. -/
def minuteText (fields : Fields) : String :=
  paddedDecimal 2 fields.hour ++ ":" ++ paddedDecimal 2 fields.minute

/-- The time of day as `HH:MM:SS`. -/
def timeText (fields : Fields) : String :=
  fields.minuteText ++ ":" ++ paddedDecimal 2 fields.second

/-- Whether each number fits its places in the written form. -/
structure Fits (fields : Fields) : Prop where
  year : 0 ≤ fields.year ∧ fields.year ≤ 9999
  month : fields.month < 100
  day : fields.day < 100
  hour : fields.hour < 100
  minute : fields.minute < 100
  second : fields.second < 100

variable {fields : Fields}

theorem toList_dateText (fields : Fields) :
    fields.dateText.toList = (paddedDecimal 4 fields.year.natAbs).toList ++
      '-' :: ((paddedDecimal 2 fields.month).toList ++ '-' :: (paddedDecimal 2 fields.day).toList) := by
  simp [dateText]

theorem toList_minuteText (fields : Fields) :
    fields.minuteText.toList =
      (paddedDecimal 2 fields.hour).toList ++ ':' :: (paddedDecimal 2 fields.minute).toList := by
  simp [minuteText]

theorem toList_timeText (fields : Fields) :
    fields.timeText.toList = fields.minuteText.toList ++ ':' :: (paddedDecimal 2 fields.second).toList := by
  simp [timeText]

end Fields

/-- A fraction of a second: nothing, or a point and digits after it. -/
def IsFraction (text : List Char) : Prop :=
  text = [] ∨ ∃ digits, digits ≠ [] ∧ (∀ c ∈ digits, c.isDigit) ∧ text = '.' :: digits

/-- A text that does not go on with a fraction. -/
def EndsFraction (rest : List Char) : Prop :=
  ∀ c ∈ rest.head?, digitValue? 10 c = none ∧ c ≠ '.'

theorem digitValue?_of_isDigit {c : Char} (isDigit : c.isDigit) : ∃ digit, digitValue? 10 c = some digit := by
  simp only [Char.isDigit, Bool.and_eq_true, decide_eq_true_eq] at isDigit
  have range : '0' ≤ c ∧ c ≤ '9' := isDigit
  have high : c.toNat ≤ 57 := isDigit.2
  refine ⟨c.toNat - '0'.toNat, ?_⟩
  rw [digitValue?, if_pos range, Option.filter_some_pos]
  have zero : '0'.toNat = 48 := rfl
  simp only [decide_eq_true_eq]
  omega

private theorem spanDigits_of_isDigit {digits rest : List Char} (isDigit : ∀ c ∈ digits, c.isDigit)
    (ends : EndsDigits 10 rest) :
    ∃ values, values.length = digits.length ∧ spanDigits 10 (digits ++ rest) = (values, rest) := by
  induction digits with
  | nil => exact ⟨[], rfl, spanDigits_of_endsDigits ends⟩
  | cons c digits ih =>
    obtain ⟨value, found⟩ := digitValue?_of_isDigit (isDigit c List.mem_cons_self)
    obtain ⟨values, length, span⟩ := ih fun other member => isDigit other (List.mem_cons_of_mem c member)
    exact ⟨value :: values, congrArg (· + 1) length, by simp only [List.cons_append, spanDigits, found, span]⟩

private theorem skipFraction_append {fraction rest : List Char} (isFraction : IsFraction fraction)
    (ends : EndsFraction rest) : skipFraction (fraction ++ rest) = some rest := by
  rcases isFraction with rfl | ⟨digits, present, isDigit, rfl⟩
  · cases rest with
    | nil => rfl
    | cons c rest =>
      have other : c ≠ '.' := (ends c rfl).2
      rw [List.nil_append, skipFraction]
      intro _ same
      exact other (List.cons.inj same).1
  · have endsDigits : EndsDigits 10 rest := fun c member => (ends c member).1
    obtain ⟨values, length, span⟩ := spanDigits_of_isDigit isDigit endsDigits
    have some : values.isEmpty = false := by
      rw [List.isEmpty_eq_false_iff, ← List.length_pos_iff, length, List.length_pos_iff]
      exact present
    simp only [List.cons_append, skipFraction, span, some, Bool.false_eq_true, if_false]

/-! ## The form of RFC 3339 -/

variable {fields : Fields}

private theorem Fields.Fits.natAbs_year (fits : fields.Fits) : (fields.year.natAbs : Int) = fields.year :=
  Int.natAbs_of_nonneg fits.year.1

theorem Fields.Fits.natAbs_year_lt (fits : fields.Fits) : fields.year.natAbs < 10000 := by
  rw [← Int.ofNat_lt, fits.natAbs_year]
  exact Int.lt_of_le_of_lt fits.year.2 (by decide)

private theorem readOne_of_mem {allowed : List Char} {c : Char} (member : c ∈ allowed) (rest : List Char) :
    readOne allowed (c :: rest) = some rest := by
  rw [readOne, if_pos member]

theorem readOne_self (c : Char) (rest : List Char) : readOne [c] (c :: rest) = some rest :=
  readOne_of_mem List.mem_cons_self rest

theorem readOne_nil (allowed : List Char) : readOne allowed [] = none :=
  rfl

/-- The numbers of a written date and time are read, and the offset is left. -/
theorem ofInternet?_written (fits : fields.Fits) {mark : Char} (isMark : mark ∈ ['T', 't', ' '])
    {fraction zone : List Char} (isFraction : IsFraction fraction) (ends : EndsFraction zone) :
    ofInternet? (fields.dateText.toList ++ mark :: (fields.timeText.toList ++ (fraction ++ zone))) =
      (readOffset zone).bind fun (offset, rest) =>
        if rest.isEmpty then fields.toInstant? offset else none := by
  have hyphen := readOne_self '-'
  have colon := readOne_self ':'
  simp only [ofInternet?, Fields.toList_dateText, Fields.toList_timeText, Fields.toList_minuteText,
    List.append_assoc, List.cons_append, readExact_four fits.natAbs_year_lt, readExact_two fits.month,
    readExact_two fits.day, readExact_two fits.hour, readExact_two fits.minute, readExact_two fits.second,
    hyphen, colon, readOne_of_mem isMark, skipFraction_append isFraction ends, Option.bind_eq_bind,
    Option.bind_some, fits.natAbs_year]

/-- A date and a time without an offset are not of this form. -/
theorem ofInternet?_unzoned (fits : fields.Fits) {mark : Char} (isMark : mark ∈ ['T', 't', ' '])
    {fraction : List Char} (isFraction : IsFraction fraction) :
    ofInternet? (fields.dateText.toList ++ mark :: (fields.timeText.toList ++ fraction)) = none := by
  have ends : EndsFraction [] := by
    intro c member
    simp at member
  have read := ofInternet?_written fits isMark isFraction ends
  rwa [List.append_nil] at read

/-- Nor is a date and a time without seconds. -/
theorem ofInternet?_minute (fits : fields.Fits) {mark : Char} (isMark : mark ∈ ['T', 't', ' ']) :
    ofInternet? (fields.dateText.toList ++ mark :: fields.minuteText.toList) = none := by
  have hyphen := readOne_self '-'
  have colon := readOne_self ':'
  rw [← List.append_nil fields.minuteText.toList]
  simp only [ofInternet?, Fields.toList_dateText, Fields.toList_minuteText, List.append_assoc,
    List.cons_append, readExact_four fits.natAbs_year_lt, readExact_two fits.month,
    readExact_two fits.day, readExact_two fits.hour, readExact_two fits.minute, hyphen, colon,
    readOne_of_mem isMark, readOne_nil, Option.bind_eq_bind, Option.bind_some, Option.bind_none]

/-- Nor is a date alone. -/
theorem ofInternet?_date (fits : fields.Fits) : ofInternet? fields.dateText.toList = none := by
  have hyphen := readOne_self '-'
  rw [← List.append_nil fields.dateText.toList]
  simp only [ofInternet?, Fields.toList_dateText, List.append_assoc, List.cons_append,
    readExact_four fits.natAbs_year_lt, readExact_two fits.month, readExact_two fits.day, hyphen,
    readOne_nil, Option.bind_eq_bind, Option.bind_some, Option.bind_none]

/-! ## The lenient forms -/

/-- Reads parts one after the other into the fields. -/
def readParts (parts : List Part) (start : Fields × List Char) : Option (Fields × List Char) :=
  parts.foldlM (fun (fields, rest) part => part.read fields rest) start

theorem ofForm?_eq (chars : List Char) (form : List Part) :
    ofForm? chars form = (readParts form ({}, chars)).bind fun (fields, rest) =>
      if rest.isEmpty then fields.toInstant? 0 else none := rfl

theorem readParts_nil (start : Fields × List Char) : readParts [] start = some start := rfl

theorem readParts_cons (part : Part) (parts : List Part) (fields : Fields) (rest : List Char) :
    readParts (part :: parts) (fields, rest) = (part.read fields rest).bind (readParts parts) :=
  List.foldlM_cons

theorem readParts_append (first second : List Part) (start : Fields × List Char) :
    readParts (first ++ second) start = (readParts first start).bind (readParts second) :=
  List.foldlM_append

private theorem readParts_date (fits : fields.Fits) (start : Fields) (rest : List Char) :
    readParts dateParts (start, fields.dateText.toList ++ rest) =
      some ({ start with year := fields.year, month := fields.month, day := fields.day }, rest) := by
  have hyphen := readOne_self '-'
  simp only [dateParts, readParts_cons, readParts_nil, Part.read, Fields.toList_dateText,
    List.append_assoc, List.cons_append, readYear_paddedDecimal fits.natAbs_year_lt,
    readPart_paddedDecimal fits.month, readPart_paddedDecimal fits.day, hyphen, Option.map_some,
    Option.bind_some, fits.natAbs_year]

private theorem readParts_minute (fits : fields.Fits) (start : Fields) (rest : List Char) :
    readParts (timeParts false) (start, fields.minuteText.toList ++ rest) =
      some ({ start with hour := fields.hour, minute := fields.minute }, rest) := by
  have colon := readOne_self ':'
  simp only [timeParts, Bool.false_eq_true, if_false, List.append_nil, readParts_cons, readParts_nil,
    Part.read, Fields.toList_minuteText, List.append_assoc, List.cons_append,
    readPart_paddedDecimal fits.hour, readPart_paddedDecimal fits.minute, colon, Option.map_some,
    Option.bind_some]

/-- The parts of a time with seconds are those without and the seconds. -/
theorem timeParts_true : timeParts true = timeParts false ++ [.literal ':', .second, .fraction] := rfl

private theorem readParts_time (fits : fields.Fits) (start : Fields) {fraction : List Char}
    (isFraction : IsFraction fraction) :
    readParts (timeParts true) (start, fields.timeText.toList ++ fraction) =
      some ({ start with hour := fields.hour, minute := fields.minute, second := fields.second }, []) := by
  have colon := readOne_self ':'
  have ends : EndsFraction [] := by
    intro c member
    simp at member
  have skipped := skipFraction_append isFraction ends
  rw [List.append_nil] at skipped
  simp only [timeParts_true, readParts_append, Fields.toList_timeText, List.append_assoc,
    readParts_minute fits, Option.bind_some, readParts_cons, readParts_nil, Part.read, List.cons_append,
    colon, readPart_paddedDecimal fits.second, skipped, Option.map_some]

private theorem ofForm?_of_readParts {chars : List Char} {form : List Part} (read : Fields)
    (parts : readParts form ({}, chars) = some (read, [])) : ofForm? chars form = read.toInstant? 0 := by
  rw [ofForm?_eq, parts]
  rfl

private theorem ofForm?_of_unread {chars : List Char} {form : List Part}
    (parts : readParts form ({}, chars) = none) : ofForm? chars form = none := by
  rw [ofForm?_eq, parts]
  rfl

/-- A form whose part after the date does not read what follows the date. -/
theorem ofForm?_unread_part (fits : fields.Fits) {part : Part} {rest : List Char}
    (unread : ∀ read, part.read read rest = none) (parts : List Part) :
    ofForm? (fields.dateText.toList ++ rest) (dateParts ++ part :: parts) = none := by
  refine ofForm?_of_unread ?_
  rw [readParts_append, readParts_date fits, Option.bind_some, readParts_cons, unread, Option.bind_none]

/-- The form with blanks before the time, when no number follows the date. -/
theorem ofForm?_unread_time (fits : fields.Fits) {rest : List Char}
    (unread : readPart 2 (rest.dropWhile isBlank) = none) :
    ofForm? (fields.dateText.toList ++ rest) (dateParts ++ .blanks :: timeParts true) = none := by
  refine ofForm?_of_unread ?_
  have time : timeParts true = .hour :: [.literal ':', .minute, .literal ':', .second, .fraction] := rfl
  rw [readParts_append, readParts_date fits, Option.bind_some, readParts_cons, Part.read,
    Option.bind_some, time, readParts_cons, Part.read, unread]
  rfl

/-! ## All forms -/

/-- The instant that a text without blanks at its ends denotes. -/
def ofTrimmed? (chars : List Char) : Option Instant :=
  (ofInternet? chars).orElse fun _ => lenientForms.findSome? (ofForm? chars)

theorem ofText?_eq (text : String) : ofText? text = ofTrimmed? (trimChars text.toList) := rfl

variable {instant : Instant}

private theorem ofTrimmed?_of_internet {chars : List Char} (read : ofInternet? chars = some instant) :
    ofTrimmed? chars = some instant := by
  rw [ofTrimmed?, read]
  rfl

private theorem ofTrimmed?_of_form {chars : List Char} {after : List (List Part)} {form : List Part}
    (before : List (List Part)) (internet : ofInternet? chars = none)
    (forms : lenientForms = before ++ form :: after)
    (earlier : ∀ other ∈ before, ofForm? chars other = none) (read : ofForm? chars form = some instant) :
    ofTrimmed? chars = some instant := by
  have passed : before.findSome? (ofForm? chars) = none := List.findSome?_eq_none_iff.mpr earlier
  rw [ofTrimmed?, internet, forms, List.findSome?_append, passed, List.findSome?_cons, read]
  rfl

/-- A date and a time with an offset. -/
theorem ofTrimmed?_zoned (fits : fields.Fits) {mark : Char} (isMark : mark ∈ ['T', 't', ' '])
    {fraction zone : List Char} (isFraction : IsFraction fraction) (ends : EndsFraction zone) {offset : Int}
    (isZone : readOffset zone = some (offset, [])) (denoted : fields.toInstant? offset = some instant) :
    ofTrimmed? (fields.dateText.toList ++ mark :: (fields.timeText.toList ++ (fraction ++ zone))) =
      some instant := by
  refine ofTrimmed?_of_internet ?_
  rw [ofInternet?_written fits isMark isFraction ends, isZone, Option.bind_some]
  exact denoted

/-- A date and a time without an offset. -/
theorem ofTrimmed?_plain (fits : fields.Fits) {mark : Char} (isMark : mark ∈ ['T', ' '])
    {fraction : List Char} (isFraction : IsFraction fraction)
    (denoted : fields.toInstant? 0 = some instant) :
    ofTrimmed? (fields.dateText.toList ++ mark :: (fields.timeText.toList ++ fraction)) = some instant := by
  have allowed : mark ∈ ['T', 't', ' '] := by
    simp only [List.mem_cons, List.not_mem_nil, or_false] at isMark ⊢
    exact isMark.imp_right .inr
  have internet := ofInternet?_unzoned fits allowed isFraction
  simp only [List.mem_cons, List.not_mem_nil, or_false] at isMark
  rcases isMark with rfl | rfl
  · have mark := readOne_self 'T'
    refine ofTrimmed?_of_form [] internet rfl (by simp) ?_
    rw [ofForm?_of_readParts fields, denoted]
    rw [readParts_append, readParts_date fits, Option.bind_some, readParts_cons, Part.read, mark,
      Option.map_some, Option.bind_some, readParts_time fits _ isFraction]
  · refine ofTrimmed?_of_form [_] internet rfl ?_ ?_
    · intro other member
      rw [List.mem_singleton.mp member]
      exact ofForm?_unread_part fits (fun read => by simp [Part.read, readOne]) _
    · rw [ofForm?_of_readParts fields, denoted]
      have blank : (' ' :: (fields.timeText.toList ++ fraction)).dropWhile isBlank =
          fields.timeText.toList ++ fraction := by
        have digits := plain_paddedDecimal 2 fields.hour
        rw [List.dropWhile_cons_of_pos (by decide), Fields.toList_timeText, Fields.toList_minuteText,
          List.append_assoc, List.append_assoc, digits.dropWhile_append (paddedDecimal_ne_nil _)]
      rw [readParts_append, readParts_date fits, Option.bind_some, readParts_cons, Part.read, blank,
        Option.bind_some, readParts_time fits _ isFraction]

/-- A date and a time without seconds. -/
theorem ofTrimmed?_minute (fits : fields.Fits)
    (denoted : { fields with second := 0 }.toInstant? 0 = some instant) :
    ofTrimmed? (fields.dateText.toList ++ 'T' :: fields.minuteText.toList) = some instant := by
  have mark := readOne_self 'T'
  refine ofTrimmed?_of_form [_, _] (ofInternet?_minute fits (by decide)) rfl ?_ ?_
  · intro other member
    simp only [List.mem_cons, List.not_mem_nil, or_false] at member
    rcases member with rfl | rfl
    · refine ofForm?_of_unread ?_
      rw [← List.append_nil fields.minuteText.toList]
      simp only [readParts_append, readParts_date fits, Option.bind_some, readParts_cons, Part.read, mark,
        Option.map_some, timeParts_true, readParts_minute fits, readOne_nil, Option.map_none,
        Option.bind_none]
    · exact ofForm?_unread_time fits rfl
  · rw [ofForm?_of_readParts { fields with second := 0 }, denoted]
    rw [← List.append_nil fields.minuteText.toList, readParts_append, readParts_date fits, Option.bind_some,
      readParts_cons, Part.read, mark, Option.map_some, Option.bind_some, readParts_minute fits]

/-- A date alone. -/
theorem ofTrimmed?_date (fits : fields.Fits)
    (denoted : { fields with hour := 0, minute := 0, second := 0 }.toInstant? 0 = some instant) :
    ofTrimmed? fields.dateText.toList = some instant := by
  refine ofTrimmed?_of_form [_, _, _] (ofInternet?_date fits) rfl ?_ ?_
  · intro other member
    simp only [List.mem_cons, List.not_mem_nil, or_false] at member
    rw [← List.append_nil fields.dateText.toList]
    rcases member with rfl | rfl | rfl
    · exact ofForm?_unread_part fits (fun _ => rfl) _
    · exact ofForm?_unread_time fits rfl
    · exact ofForm?_unread_part fits (fun _ => rfl) _
  · rw [ofForm?_of_readParts { fields with hour := 0, minute := 0, second := 0 }, denoted]
    rw [← List.append_nil fields.dateText.toList, readParts_date fits]

end Stamp

end RangeCatalog
