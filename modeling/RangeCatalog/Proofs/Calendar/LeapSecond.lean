import RangeCatalog.Proofs.Calendar.Marks
import RangeCatalog.Proofs.Calendar.Rendering

/-! # Seconds written as 60

The second 60 of a minute is a leap second, which the count of seconds leaves out. A text is read as a leap
second exactly when one of its colons goes before the number 60: the other numbers behind colons are minutes, of
the time of day or of the offset, and no hour has 60 of them. A reading step consumes no colon unless it is the
step for one, so that each step is followed through the text.
-/

namespace RangeCatalog.Stamp

/-! ## Texts -/

/-- Whether a text goes on with 60 after any blanks. -/
def StartsSixty (chars : List Char) : Prop :=
  ['6', '0'] <+: chars.dropWhile isBlank

instance (chars : List Char) : Decidable (StartsSixty chars) :=
  inferInstanceAs (Decidable (_ <+: _))

/-- Whether a colon in a text goes before the number 60. -/
def WritesSixty (chars : List Char) : Prop :=
  ∃ before rest, chars = before ++ ':' :: rest ∧ StartsSixty rest

private theorem not_writesSixty_nil : ¬WritesSixty [] := by
  rintro ⟨before, rest, empty, _⟩
  simp at empty

theorem writesSixty_cons_iff {c : Char} {rest : List Char} :
    WritesSixty (c :: rest) ↔ c = ':' ∧ StartsSixty rest ∨ WritesSixty rest := by
  constructor
  · rintro ⟨before, after, same, starts⟩
    rw [List.cons_eq_append_iff] at same
    rcases same with ⟨_, same⟩ | ⟨before, _, same⟩
    · cases same
      exact .inl ⟨rfl, starts⟩
    · exact .inr ⟨before, after, same, starts⟩
  · rintro (⟨rfl, starts⟩ | ⟨before, after, rfl, starts⟩)
    · exact ⟨[], rest, rfl, starts⟩
    · exact ⟨c :: before, after, rfl, starts⟩

instance decidableWritesSixty : (chars : List Char) → Decidable (WritesSixty chars)
  | [] => isFalse not_writesSixty_nil
  | _ :: rest =>
    have : Decidable (WritesSixty rest) := decidableWritesSixty rest
    decidable_of_iff _ writesSixty_cons_iff.symm

theorem writesSixty_append_iff {before : List Char} (plain : ':' ∉ before) (rest : List Char) :
    WritesSixty (before ++ rest) ↔ WritesSixty rest := by
  induction before with
  | nil => rfl
  | cons c before ih =>
    rw [List.mem_cons, not_or] at plain
    rw [List.cons_append, writesSixty_cons_iff, ih plain.2]
    exact or_iff_right fun colon => plain.1 colon.1.symm

/-- Blanks behind a text do not change how it starts. -/
theorem startsSixty_append_blanks {blanks : List Char} (blank : ∀ c ∈ blanks, isBlank c = true)
    (chars : List Char) : StartsSixty (chars ++ blanks) ↔ StartsSixty chars := by
  have zero : isBlank '0' = false := by decide
  rw [StartsSixty, StartsSixty, List.dropWhile_append]
  generalize chars.dropWhile isBlank = left
  match left with
  | [] => simp [List.dropWhile_eq_nil_iff.mpr blank]
  | [c] =>
    have short : ¬['6', '0'] <+: [c] := fun starts => absurd starts.length_le (by simp)
    have unended : ¬['0'] <+: blanks := by
      intro starts
      rw [blank '0' (starts.subset List.mem_cons_self)] at zero
      contradiction
    simp [List.cons_prefix_cons, unended, short]
  | c :: d :: rest => simp [List.cons_prefix_cons]

private theorem writesSixty_append_blanks {blanks : List Char} (blank : ∀ c ∈ blanks, isBlank c = true)
    (chars : List Char) : WritesSixty (chars ++ blanks) ↔ WritesSixty chars := by
  induction chars with
  | nil =>
    have none := writesSixty_append_iff (isMark_colon.not_mem_blanks blank) []
    rwa [List.append_nil] at none
  | cons c chars ih =>
    rw [List.cons_append, writesSixty_cons_iff, writesSixty_cons_iff, startsSixty_append_blanks blank, ih]

private theorem writesSixty_trimChars_iff (chars : List Char) :
    WritesSixty (trimChars chars) ↔ WritesSixty chars := by
  obtain ⟨before, after, blankBefore, blankAfter, split⟩ := exists_trimChars_pad chars
  have whole : WritesSixty (before ++ trimChars chars ++ after) ↔ WritesSixty (trimChars chars) := by
    rw [writesSixty_append_blanks blankAfter, writesSixty_append_iff (isMark_colon.not_mem_blanks blankBefore)]
  rw [← whole, ← split]

private theorem LeadsTo.writesSixty_iff {chars rest : List Char} (leads : LeadsTo ':' chars rest) :
    WritesSixty chars ↔ WritesSixty rest := by
  obtain ⟨passed, plain, rfl⟩ := leads
  exact writesSixty_append_iff plain rest

variable {chars rest : List Char} {number : Nat}

/-! ## Numbers behind a colon -/

/-- A text that is read as a number of at most two digits starts with 60 exactly when it is the number 60. -/
theorem startsSixty_iff_of_readPart (read : readPart 2 chars = some (number, rest)) :
    StartsSixty chars ↔ number = 60 := by
  rw [StartsSixty]
  rw [readPart] at read
  generalize chars.dropWhile isBlank = digitChars at read ⊢
  constructor
  · rintro ⟨tail, rfl⟩
    have sixty : readNumber 1 2 (['6', '0'] ++ tail) = some (60, tail) := rfl
    rw [sixty] at read
    exact (congrArg Prod.fst (Option.some.inj read)).symm
  · rintro rfl
    obtain ⟨text, digits, rfl, spelled, value, some, few⟩ := exists_of_readNumber read
    simp only [numberOfDigits] at value
    -- one digit is too small, and of two digits the value tells both
    rcases spelled with _ | ⟨first, _ | ⟨second, _ | _⟩⟩
    · contradiction
    · have small := (eq_digitChar_of_digitValue? first).1
      simp only [List.foldl_cons, List.foldl_nil] at value
      omega
    · rename_i _ tens _ units
      obtain ⟨smallTens, rfl⟩ := eq_digitChar_of_digitValue? first
      obtain ⟨smallUnits, rfl⟩ := eq_digitChar_of_digitValue? second
      simp only [List.foldl_cons, List.foldl_nil] at value
      obtain rfl : tens = 6 := by omega
      obtain rfl : units = 0 := by omega
      exact List.prefix_append _ rest
    · simp at few

private theorem readPart_of_readExact (read : readExact 2 chars = some (number, rest)) :
    readPart 2 chars = some (number, rest) := by
  obtain ⟨text, digits, split, spelled, _, some, _⟩ := exists_of_readNumber read
  have start : chars.dropWhile isBlank = chars := by
    cases spelled with
    | nil => contradiction
    | cons first _ =>
      rw [split, List.cons_append, List.dropWhile_cons_of_neg (by simp [isBlank_of_digitValue? first])]
  rw [readExact, readNumber] at read
  split_ifs at read with short
  rw [readPart, start, readNumber, if_neg (by omega), read]

/-- A colon and the number behind it. -/
theorem writesSixty_of_readPart {tail : List Char} (colon : readOne [':'] chars = some rest)
    (read : readPart 2 rest = some (number, tail)) : WritesSixty chars ↔ number = 60 ∨ WritesSixty tail := by
  obtain ⟨c, member, rfl⟩ := exists_of_readOne colon
  obtain rfl := List.mem_singleton.mp member
  have leads := leadsTo_of_readPart isMark_colon read
  rw [writesSixty_cons_iff, startsSixty_iff_of_readPart read, leads.writesSixty_iff]
  simp only [true_and]

private theorem writesSixty_of_readExact {tail : List Char} (colon : readOne [':'] chars = some rest)
    (read : readExact 2 rest = some (number, tail)) : WritesSixty chars ↔ number = 60 ∨ WritesSixty tail :=
  writesSixty_of_readPart colon (readPart_of_readExact read)

/-- An offset has fewer than 60 minutes. -/
theorem writesSixty_of_readOffset {offset : Int} (read : readOffset chars = some (offset, rest)) :
    WritesSixty chars ↔ WritesSixty rest := by
  cases chars with
  | nil => contradiction
  | cons c chars =>
    rw [readOffset] at read
    split_ifs at read with zero sign plus
    · cases read
      have other : ':' ≠ c := by rcases zero with rfl | rfl <;> decide
      exact ((LeadsTo.refl ':' rest).cons other).writesSixty_iff
    all_goals
      have other : ':' ≠ c := by rcases sign with rfl | rfl | rfl <;> decide
      simp only [Option.bind_eq_bind, Option.bind_eq_some_iff] at read
      obtain ⟨⟨hours, afterHours⟩, readHours, afterColon, colon, ⟨minutes, afterMinutes⟩, readMinutes, read⟩ := read
      simp only at read
      split_ifs at read with small
      cases read
      have fewer : minutes ≠ 60 := Nat.ne_of_lt small.2
      rw [((leadsTo_of_readNumber isMark_colon readHours).cons other).writesSixty_iff,
        writesSixty_of_readExact colon readMinutes]
      exact or_iff_right fewer

/-! ## The form of RFC 3339 -/

variable {instant : Instant}

/-- Valid fields have fewer than 60 minutes, and their second 60 is a leap second. -/
theorem Fields.leap_iff_of_toInstant? {fields : Fields} {offset : Int}
    (denoted : fields.toInstant? offset = some instant) :
    instant.leap = true ↔ fields.minute = 60 ∨ fields.second = 60 := by
  rw [toInstant?] at denoted
  split_ifs at denoted with valid
  cases denoted
  obtain ⟨_, _, _, _, minute, _⟩ := valid
  rw [decide_eq_true_eq]
  exact (or_iff_right (Nat.ne_of_lt minute)).symm

private theorem leap_iff_of_ofInternet? (read : ofInternet? chars = some instant) :
    instant.leap = true ↔ WritesSixty chars := by
  rw [ofInternet?] at read
  obtain ⟨⟨year, afterYear⟩, readYear, read⟩ := Option.bind_eq_some_iff.mp read
  obtain ⟨monthText, yearEnd, read⟩ := Option.bind_eq_some_iff.mp read
  obtain ⟨⟨month, afterMonth⟩, readMonth, read⟩ := Option.bind_eq_some_iff.mp read
  obtain ⟨dayText, monthEnd, read⟩ := Option.bind_eq_some_iff.mp read
  obtain ⟨⟨day, afterDay⟩, readDay, read⟩ := Option.bind_eq_some_iff.mp read
  obtain ⟨hourText, dayEnd, read⟩ := Option.bind_eq_some_iff.mp read
  obtain ⟨⟨hour, afterHour⟩, readHour, read⟩ := Option.bind_eq_some_iff.mp read
  obtain ⟨minuteText, hourEnd, read⟩ := Option.bind_eq_some_iff.mp read
  obtain ⟨⟨minute, afterMinute⟩, readMinute, read⟩ := Option.bind_eq_some_iff.mp read
  obtain ⟨secondText, minuteEnd, read⟩ := Option.bind_eq_some_iff.mp read
  obtain ⟨⟨second, afterSecond⟩, readSecond, read⟩ := Option.bind_eq_some_iff.mp read
  obtain ⟨zone, skipped, read⟩ := Option.bind_eq_some_iff.mp read
  obtain ⟨⟨offset, rest⟩, readZone, read⟩ := Option.bind_eq_some_iff.mp read
  dsimp only at *
  split_ifs at read with ended
  -- no colon stands before the hour ends, and then the steps take the colons one by one
  have toHour : LeadsTo ':' chars afterHour :=
    (leadsTo_of_readNumber isMark_colon readYear).trans <| (leadsTo_of_readOne yearEnd (by decide)).trans <|
      (leadsTo_of_readNumber isMark_colon readMonth).trans <| (leadsTo_of_readOne monthEnd (by decide)).trans <|
      (leadsTo_of_readNumber isMark_colon readDay).trans <| (leadsTo_of_readOne dayEnd (by decide)).trans <|
      leadsTo_of_readNumber isMark_colon readHour
  have none : ¬WritesSixty zone := by
    rw [writesSixty_of_readOffset readZone, List.isEmpty_iff.mp ended]
    exact not_writesSixty_nil
  rw [Fields.leap_iff_of_toInstant? read, toHour.writesSixty_iff, writesSixty_of_readExact hourEnd readMinute,
    writesSixty_of_readExact minuteEnd readSecond, (leadsTo_of_skipFraction isMark_colon skipped).writesSixty_iff]
  simp only [none, or_false]

/-! ## The lenient forms -/

/-- A part sets its own number and keeps the others. -/
theorem Part.kept_of_read {part : Part} {fields next : Fields}
    (read : part.read fields chars = some (next, rest)) :
    (part ≠ .minute → next.minute = fields.minute) ∧ (part ≠ .second → next.second = fields.second) := by
  cases part with
  | blanks =>
    cases read
    exact ⟨fun _ => rfl, fun _ => rfl⟩
  | minute =>
    obtain ⟨_, _, same⟩ := Option.map_eq_some_iff.mp read
    cases same
    exact ⟨fun other => absurd rfl other, fun _ => rfl⟩
  | second =>
    obtain ⟨_, _, same⟩ := Option.map_eq_some_iff.mp read
    cases same
    exact ⟨fun _ => rfl, fun other => absurd rfl other⟩
  | _ =>
    obtain ⟨_, _, same⟩ := Option.map_eq_some_iff.mp read
    cases same
    exact ⟨fun _ => rfl, fun _ => rfl⟩

private theorem kept_of_readParts {parts : List Part} {start next : Fields × List Char}
    (read : readParts parts start = some next) :
    (.minute ∉ parts → next.1.minute = start.1.minute) ∧ (.second ∉ parts → next.1.second = start.1.second) := by
  induction parts generalizing start with
  | nil =>
    cases read
    exact ⟨fun _ => rfl, fun _ => rfl⟩
  | cons part parts ih =>
    obtain ⟨fields, chars⟩ := start
    obtain ⟨middle, left, first, read⟩ := readParts_cons_iff.mp read
    obtain ⟨keptMinute, keptSecond⟩ := part.kept_of_read first
    obtain ⟨laterMinute, laterSecond⟩ := ih read
    simp only [List.mem_cons, not_or]
    exact ⟨fun other => (laterMinute other.2).trans (keptMinute (Ne.symm other.1)),
      fun other => (laterSecond other.2).trans (keptSecond (Ne.symm other.1))⟩

variable {fields next : Fields}

private theorem writesSixty_of_minute (read : readParts (timeParts false) (fields, chars) = some (next, rest)) :
    WritesSixty chars ↔ next.minute = 60 ∨ WritesSixty rest := by
  have parts : timeParts false = [.hour, .literal ':', .minute] := rfl
  rw [parts, readParts_cons_iff] at read
  obtain ⟨_, afterHour, hour, read⟩ := read
  obtain ⟨_, _, colon, read⟩ := readParts_cons_iff.mp read
  obtain ⟨_, _, minute, read⟩ := readParts_cons_iff.mp read
  obtain ⟨_, readColon, same⟩ := Option.map_eq_some_iff.mp colon
  cases same
  obtain ⟨_, readMinute, same⟩ := Option.map_eq_some_iff.mp minute
  cases same
  cases read
  rw [(Part.leadsTo_of_read isMark_colon hour (by decide)).writesSixty_iff,
    writesSixty_of_readPart readColon readMinute]

private theorem writesSixty_of_second
    (read : readParts [.literal ':', .second, .fraction] (fields, chars) = some (next, rest)) :
    WritesSixty chars ↔ next.second = 60 ∨ WritesSixty rest := by
  obtain ⟨_, _, colon, read⟩ := readParts_cons_iff.mp read
  obtain ⟨_, _, second, read⟩ := readParts_cons_iff.mp read
  obtain ⟨_, readColon, same⟩ := Option.map_eq_some_iff.mp colon
  cases same
  obtain ⟨_, readSecond, same⟩ := Option.map_eq_some_iff.mp second
  cases same
  have fraction := leadsTo_of_readParts isMark_colon (by decide) read
  have kept := (kept_of_readParts read).2 (by decide)
  rw [writesSixty_of_readPart readColon readSecond, fraction.writesSixty_iff, kept]

private theorem writesSixty_of_time (read : readParts (timeParts true) (fields, chars) = some (next, rest)) :
    WritesSixty chars ↔ next.minute = 60 ∨ next.second = 60 ∨ WritesSixty rest := by
  rw [timeParts_true, readParts_append] at read
  obtain ⟨⟨middle, left⟩, readMinute, readSecond⟩ := Option.bind_eq_some_iff.mp read
  have minute : next.minute = middle.minute := (kept_of_readParts readSecond).1 (by decide)
  rw [writesSixty_of_minute readMinute, writesSixty_of_second readSecond, minute]

private theorem leadsTo_of_dateParts (read : readParts dateParts (fields, chars) = some (next, rest)) :
    LeadsTo ':' chars rest :=
  leadsTo_of_readParts isMark_colon (by decide) read

/-- A date, a mark that is no colon, and the rest of a form. -/
theorem writesSixty_of_dated {mark : Part} {parts : List Part} (other : mark ≠ .literal ':')
    (read : readParts (dateParts ++ mark :: parts) (fields, chars) = some (next, rest)) :
    ∃ middle left, readParts parts (middle, left) = some (next, rest) ∧
      (WritesSixty chars ↔ WritesSixty left) := by
  rw [readParts_append] at read
  obtain ⟨⟨dated, afterDate⟩, date, read⟩ := Option.bind_eq_some_iff.mp read
  obtain ⟨middle, left, marked, read⟩ := readParts_cons_iff.mp read
  have leads := (leadsTo_of_dateParts date).trans (mark.leadsTo_of_read isMark_colon marked other)
  exact ⟨middle, left, read, leads.writesSixty_iff⟩

/-- What is read in a lenient form has 60 minutes or a second 60 exactly when the text writes 60. -/
theorem writesSixty_of_lenient {form : List Part} (lenient : form ∈ lenientForms)
    (read : readParts form ({}, chars) = some (next, rest)) :
    WritesSixty chars ↔ next.minute = 60 ∨ next.second = 60 ∨ WritesSixty rest := by
  have kept := kept_of_readParts read
  have noMinute (absent : .minute ∉ form) : next.minute ≠ 60 := by
    have start : next.minute = 0 := kept.1 absent
    omega
  have noSecond (absent : .second ∉ form) : next.second ≠ 60 := by
    have start : next.second = 0 := kept.2 absent
    omega
  -- the third form has no second and the last one no time: these numbers stay 0
  simp only [lenientForms, List.mem_cons, List.not_mem_nil, or_false] at lenient
  rcases lenient with rfl | rfl | rfl | rfl
  · obtain ⟨_, _, time, same⟩ := writesSixty_of_dated (by decide) read
    rw [same, writesSixty_of_time time]
  · obtain ⟨_, _, time, same⟩ := writesSixty_of_dated (by decide) read
    rw [same, writesSixty_of_time time]
  · obtain ⟨_, _, time, same⟩ := writesSixty_of_dated (by decide) read
    rw [same, writesSixty_of_minute time, or_iff_right (noSecond (by decide))]
  · rw [(leadsTo_of_dateParts read).writesSixty_iff, or_iff_right (noMinute (by decide)),
      or_iff_right (noSecond (by decide))]

private theorem leap_iff_of_ofForm? {form : List Part} (lenient : form ∈ lenientForms)
    (read : ofForm? chars form = some instant) : instant.leap = true ↔ WritesSixty chars := by
  rw [ofForm?_eq] at read
  obtain ⟨⟨fields, rest⟩, parts, read⟩ := Option.bind_eq_some_iff.mp read
  dsimp only at read
  split_ifs at read with ended
  obtain rfl := List.isEmpty_iff.mp ended
  rw [Fields.leap_iff_of_toInstant? read, writesSixty_of_lenient lenient parts]
  simp only [not_writesSixty_nil, or_false]

/-! ## All forms -/

/-- A text is read as a leap second exactly when it writes 60. -/
theorem leap_iff_of_ofText? {text : String} (read : ofText? text = some instant) :
    instant.leap = true ↔ WritesSixty text.toList := by
  rw [ofText?_eq, ofTrimmed?, Option.orElse_eq_or, Option.or_eq_some_iff] at read
  rw [← writesSixty_trimChars_iff]
  rcases read with internet | ⟨_, lenient⟩
  · exact leap_iff_of_ofInternet? internet
  · obtain ⟨form, member, read⟩ := List.exists_of_findSome?_eq_some lenient
    exact leap_iff_of_ofForm? member read

/-! ## Texts and seconds -/

/-- The text and the seconds of whatever instant is read from a text. The text is the rendering of the seconds,
unless the text that was read has its seconds written as 60: such a leap second has no number of its own, the
seconds are those before it, and the text shows 60 after them. So two instants have one text exactly when they
have the same seconds and both or neither of them were written with 60. -/
theorem text_renders_seconds :
    (∀ (raw : String) (instant : Instant), ofText? raw = some instant →
      (¬WritesSixty raw.toList → Renders instant.text instant.seconds) ∧
      (WritesSixty raw.toList → RendersLeap instant.text instant.seconds)) ∧
    ∀ (raw other : String) (instant next : Instant), ofText? raw = some instant → ofText? other = some next →
      (instant.text = next.text ↔
        instant.seconds = next.seconds ∧ (WritesSixty raw.toList ↔ WritesSixty other.toList)) := by
  refine ⟨?_, ?_⟩
  · intro raw instant read
    have leap := leap_iff_of_ofText? read
    refine ⟨fun proper => ?_, fun sixty => ?_⟩
    · exact Instant.renders_text (Bool.eq_false_of_not_eq_true (leap.not.mpr proper))
    · exact Instant.rendersLeap_text (leap.mpr sixty) (regular_of_ofText? read)
  · intro raw other instant next read readNext
    rw [← leap_iff_of_ofText? read, ← leap_iff_of_ofText? readNext, ← Bool.eq_iff_iff]
    constructor
    · intro same
      obtain rfl := Instant.text_inj (regular_of_ofText? read) (regular_of_ofText? readNext) same
      exact ⟨rfl, rfl⟩
    · rintro ⟨seconds, leaps⟩
      obtain ⟨count, leap⟩ := instant
      obtain ⟨otherCount, otherLeap⟩ := next
      simp only at seconds leaps
      rw [seconds, leaps]

/-- A leap second at an offset, and the second before it in a lenient form. -/
theorem text_renders_seconds_around_leap :
    (ofText? "2017-01-01T05:29:60.7+05:30" = some ⟨1483228799, true⟩ ∧
      RendersLeap (Instant.mk 1483228799 true).text 1483228799) ∧
    (ofText? "2016-12-31 23: 59: 59.5" = some ⟨1483228799, false⟩ ∧
      Renders (Instant.mk 1483228799 false).text 1483228799) ∧
    ¬(Instant.mk 1483228799 true).text = (Instant.mk 1483228799 false).text := by
  have leap : ofText? "2017-01-01T05:29:60.7+05:30" = some ⟨1483228799, true⟩ := by decide +kernel
  have proper : ofText? "2016-12-31 23: 59: 59.5" = some ⟨1483228799, false⟩ := by decide +kernel
  have sixty : WritesSixty "2017-01-01T05:29:60.7+05:30".toList := by decide +kernel
  have below : ¬WritesSixty "2016-12-31 23: 59: 59.5".toList := by decide +kernel
  obtain ⟨rendered, told⟩ := text_renders_seconds
  refine ⟨⟨leap, (rendered _ _ leap).2 sixty⟩, ⟨proper, (rendered _ _ proper).1 below⟩, ?_⟩
  rw [told _ _ _ _ leap proper]
  exact fun same => below (same.2.mp sixty)

/-- The leap second at the end of 2016 has the seconds of the second before it and another text, which is not the
rendering of these seconds. -/
theorem leap_second_shares_seconds :
    ofText? "2016-12-31T23:59:60Z" = some ⟨1483228799, true⟩ ∧
      ofText? "2016-12-31T23:59:59Z" = some ⟨1483228799, false⟩ ∧
      (Instant.mk 1483228799 true).text = "2016-12-31T23:59:60Z" ∧
      (Instant.mk 1483228799 false).text = "2016-12-31T23:59:59Z" ∧
      ¬Renders "2016-12-31T23:59:60Z" 1483228799 := by
  refine ⟨?_, ?_, ?_, ?_, ?_⟩
  · decide +kernel
  · decide +kernel
  · decide +kernel
  · decide +kernel
  · rw [Instant.renders_iff]
    decide +kernel

end RangeCatalog.Stamp
