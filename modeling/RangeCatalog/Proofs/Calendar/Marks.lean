import RangeCatalog.Proofs.Calendar.Reading

/-! # Marks

A mark is a character that no number, sign, blank or fraction has, such as the colon and the letters `T` and `Z`.
The text of a date has none. What a reading step consumes has no mark, unless the step is the one for it, so that
a mark can be followed through all steps of a form.
-/

namespace RangeCatalog.Stamp

/-- A character that is in no number, sign, blank or fraction. -/
structure IsMark (mark : Char) : Prop where
  notDigit : digitValue? 10 mark = none
  notBlank : isBlank mark = false
  notSign : mark ∉ ['+', '-']
  notPoint : mark ≠ '.'

theorem isMark_zulu : IsMark 'Z' :=
  ⟨by decide, by decide, by decide, by decide⟩

theorem isMark_colon : IsMark ':' :=
  ⟨by decide, by decide, by decide, by decide⟩

theorem isMark_tee : IsMark 'T' :=
  ⟨by decide, by decide, by decide, by decide⟩

variable {mark : Char} {chars rest : List Char}

theorem IsMark.not_mem_blanks (isMark : IsMark mark) {blanks : List Char}
    (blank : ∀ c ∈ blanks, isBlank c = true) : mark ∉ blanks := by
  intro member
  have plain := isMark.notBlank
  rw [blank mark member] at plain
  contradiction

private theorem IsMark.notPlus (isMark : IsMark mark) : mark ≠ '+' :=
  List.ne_of_not_mem_cons isMark.notSign

private theorem IsMark.notMinus (isMark : IsMark mark) : mark ≠ '-' :=
  List.ne_of_not_mem_cons (List.not_mem_of_not_mem_cons isMark.notSign)

/-! ## Dates -/

private theorem IsMark.not_mem_paddedDecimal (isMark : IsMark mark) (width number : Nat) :
    mark ∉ (paddedDecimal width number).toList := by
  rw [toList_paddedDecimal, List.mem_map]
  rintro ⟨digit, member, rfl⟩
  have value : digitValue? 10 digit.digitChar = some digit :=
    digitValue?_digitChar (by decide) (lt_of_mem_paddedDigits member)
  rw [isMark.notDigit] at value
  contradiction

private theorem IsMark.not_mem_yearText (isMark : IsMark mark) (year : Int) :
    mark ∉ (Instant.yearText year).toList := by
  have digits := isMark.not_mem_paddedDecimal 4 year.natAbs
  rw [Instant.yearText]
  split_ifs
  · exact digits
  · simp [digits, isMark.notMinus]
  · simp [digits, isMark.notPlus]

theorem IsMark.not_mem_dateText (isMark : IsMark mark) (instant : Instant) : mark ∉ instant.dateText.toList := by
  have year := isMark.not_mem_yearText instant.date.year
  have month := isMark.not_mem_paddedDecimal 2 instant.date.month
  have day := isMark.not_mem_paddedDecimal 2 instant.date.day
  simp [Instant.dateText, year, month, day, isMark.notMinus]

/-! ## Texts that go on -/

/-- A text that goes on with another one after characters of which none is the mark. -/
def LeadsTo (mark : Char) (chars rest : List Char) : Prop :=
  ∃ passed, mark ∉ passed ∧ chars = passed ++ rest

theorem LeadsTo.refl (mark : Char) (chars : List Char) : LeadsTo mark chars chars :=
  ⟨[], List.not_mem_nil, rfl⟩

theorem LeadsTo.trans {middle : List Char} (first : LeadsTo mark chars middle)
    (second : LeadsTo mark middle rest) : LeadsTo mark chars rest := by
  obtain ⟨passed, plain, rfl⟩ := first
  obtain ⟨others, plainOthers, rfl⟩ := second
  refine ⟨passed ++ others, ?_, (List.append_assoc _ _ _).symm⟩
  rw [List.mem_append, not_or]
  exact ⟨plain, plainOthers⟩

theorem LeadsTo.cons {c : Char} (other : mark ≠ c) (leads : LeadsTo mark chars rest) :
    LeadsTo mark (c :: chars) rest := by
  obtain ⟨passed, plain, rfl⟩ := leads
  refine ⟨c :: passed, ?_, rfl⟩
  rw [List.mem_cons, not_or]
  exact ⟨other, plain⟩

/-- The mark is still ahead. -/
theorem LeadsTo.mem (leads : LeadsTo mark chars rest) (member : mark ∈ chars) : mark ∈ rest := by
  obtain ⟨passed, plain, rfl⟩ := leads
  exact (List.mem_append.mp member).resolve_left plain

/-! ## Reading steps -/

variable {number : Nat}

private theorem leadsTo_of_digits (isMark : IsMark mark) {text : List Char} {digits : List Nat}
    (spelled : DigitText 10 text digits) (rest : List Char) : LeadsTo mark (text ++ rest) rest :=
  ⟨text, spelled.not_mem isMark.notDigit, rfl⟩

theorem leadsTo_of_readNumber (isMark : IsMark mark) {least most : Nat}
    (read : readNumber least most chars = some (number, rest)) : LeadsTo mark chars rest := by
  obtain ⟨text, digits, rfl, spelled, _⟩ := exists_of_readNumber read
  exact leadsTo_of_digits isMark spelled rest

private theorem leadsTo_dropWhile_isBlank (isMark : IsMark mark) (chars : List Char) :
    LeadsTo mark chars (chars.dropWhile isBlank) :=
  ⟨chars.takeWhile isBlank, isMark.not_mem_blanks fun _ member => List.mem_takeWhile_imp member,
    List.takeWhile_append_dropWhile.symm⟩

theorem leadsTo_of_readPart (isMark : IsMark mark) {most : Nat}
    (read : readPart most chars = some (number, rest)) : LeadsTo mark chars rest :=
  (leadsTo_dropWhile_isBlank isMark chars).trans (leadsTo_of_readNumber isMark read)

private theorem leadsTo_of_readYear (isMark : IsMark mark) {year : Int}
    (read : readYear chars = some (year, rest)) : LeadsTo mark chars rest := by
  refine (leadsTo_dropWhile_isBlank isMark chars).trans ?_
  rw [readYear] at read
  split at read <;> rename_i start
  all_goals
    obtain ⟨result, found, same⟩ := Option.map_eq_some_iff.mp read
    cases same
  · rw [start]
    exact .cons isMark.notMinus (leadsTo_of_readNumber isMark found)
  · rw [start]
    exact .cons isMark.notPlus (leadsTo_of_readNumber isMark found)
  · exact leadsTo_of_readNumber isMark found

theorem leadsTo_of_skipFraction (isMark : IsMark mark) (read : skipFraction chars = some rest) :
    LeadsTo mark chars rest := by
  rw [skipFraction.eq_def] at read
  split at read
  · rename_i digits
    obtain ⟨text, split, spelled, _⟩ := spanDigits_eq_iff.mp (rfl : spanDigits 10 digits = (_, _))
    simp only at read
    split_ifs at read
    cases read
    have leads := leadsTo_of_digits isMark spelled (spanDigits 10 digits).2
    rw [← split] at leads
    exact .cons isMark.notPoint leads
  · cases read
    exact .refl mark chars

theorem exists_of_readOne {allowed : List Char} (read : readOne allowed chars = some rest) :
    ∃ c ∈ allowed, chars = c :: rest := by
  cases chars with
  | nil => contradiction
  | cons c tail =>
    rw [readOne] at read
    split_ifs at read with member
    cases read
    exact ⟨c, member, rfl⟩

theorem leadsTo_of_readOne {allowed : List Char} (read : readOne allowed chars = some rest)
    (others : mark ∉ allowed) : LeadsTo mark chars rest := by
  obtain ⟨c, member, rfl⟩ := exists_of_readOne read
  exact .cons (fun same => others (same ▸ member)) (.refl mark rest)

/-! ## Forms -/

/-- A part of a lenient form passes no mark but its own. -/
theorem Part.leadsTo_of_read (isMark : IsMark mark) {part : Part} {fields next : Fields}
    (read : part.read fields chars = some (next, rest)) (other : part ≠ .literal mark) :
    LeadsTo mark chars rest := by
  cases part with
  | blanks =>
    cases read
    exact leadsTo_dropWhile_isBlank isMark chars
  | literal c =>
    obtain ⟨_, found, same⟩ := Option.map_eq_some_iff.mp read
    cases same
    refine leadsTo_of_readOne found ?_
    rw [List.mem_singleton]
    exact fun same => other (congrArg literal same.symm)
  | fraction =>
    obtain ⟨_, found, same⟩ := Option.map_eq_some_iff.mp read
    cases same
    exact leadsTo_of_skipFraction isMark found
  | year =>
    obtain ⟨_, found, same⟩ := Option.map_eq_some_iff.mp read
    cases same
    exact leadsTo_of_readYear isMark found
  | _ =>
    obtain ⟨_, found, same⟩ := Option.map_eq_some_iff.mp read
    cases same
    exact leadsTo_of_readPart isMark found

theorem readParts_cons_iff {part : Part} {parts : List Part} {fields : Fields} {next : Fields × List Char} :
    readParts (part :: parts) (fields, chars) = some next ↔
      ∃ middle left, part.read fields chars = some (middle, left) ∧ readParts parts (middle, left) = some next := by
  rw [readParts_cons, Option.bind_eq_some_iff, Prod.exists]

theorem leadsTo_of_readParts (isMark : IsMark mark) {parts : List Part} (others : .literal mark ∉ parts)
    {start next : Fields × List Char} (read : readParts parts start = some next) :
    LeadsTo mark start.2 next.2 := by
  induction parts generalizing start with
  | nil =>
    cases read
    exact .refl mark _
  | cons part parts ih =>
    rw [List.mem_cons, not_or] at others
    obtain ⟨fields, chars⟩ := start
    obtain ⟨middle, left, first, read⟩ := readParts_cons_iff.mp read
    exact (part.leadsTo_of_read isMark first (Ne.symm others.1)).trans (ih others.2 read)

end RangeCatalog.Stamp
