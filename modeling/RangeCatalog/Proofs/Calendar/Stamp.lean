import Mathlib.Tactic.SplitIfs
import RangeCatalog.Calendar.Stamp
import RangeCatalog.Proofs.Calendar.Date

/-! # What time stamps denote

Every text that has an instant names the numbers of a valid date and time and an offset of whole minutes,
less than a day. The years of the calendar in use keep the seconds of all these instants far within 64 bits,
and a leap second among them ends a minute.
-/

namespace RangeCatalog

/-- The days of the calendar in use. -/
theorem Date.toDays_bounds {date : Date} (valid : date.Valid) (least : Instant.minYear ≤ date.year)
    (greatest : date.year ≤ Instant.maxYear) :
    -100000000 ≤ date.toDays ∧ date.toDays ≤ 100000000 := by
  obtain ⟨_, month, _, day⟩ := valid
  have long := monthLength_le date.year date.month
  simp only [Instant.minYear, Instant.maxYear] at least greatest
  simp only [toDays, eraDays, epochDays]
  split_ifs <;> omega

/-- A leap second comes after the last second of a minute. -/
def Instant.Regular (instant : Instant) : Prop :=
  instant.leap = true → instant.seconds % 60 = 59

namespace Stamp

/-! ## Fields -/

/-- An offset from universal time, in seconds: whole minutes, less than a day. -/
def IsOffset (offset : Int) : Prop :=
  -Instant.daySeconds < offset ∧ offset < Instant.daySeconds ∧ offset % 60 = 0

instance (offset : Int) : Decidable (IsOffset offset) :=
  inferInstanceAs (Decidable (_ ∧ _ ∧ _))

/-- The least and the greatest second that a stamp can have. -/
theorem Fields.toInstant?_bounds {fields : Fields} {offset : Int} {instant : Instant}
    (isOffset : IsOffset offset) (read : fields.toInstant? offset = some instant) :
    -10000000000000 ≤ instant.seconds ∧ instant.seconds ≤ 10000000000000 := by
  rw [toInstant?] at read
  split_ifs at read with valid
  obtain ⟨early, late, date, hour, minute, second⟩ := valid
  obtain ⟨least, greatest, _⟩ := isOffset
  have days := Date.toDays_bounds date early late
  have same := congrArg Instant.seconds (Option.some.inj read)
  simp only [Instant.daySeconds] at *
  split_ifs at same <;> omega

/-- A leap second follows the last second of a minute, also in universal time. -/
theorem Fields.regular_of_toInstant? {fields : Fields} {offset : Int} {instant : Instant}
    (isOffset : IsOffset offset) (read : fields.toInstant? offset = some instant) : instant.Regular := by
  rw [toInstant?] at read
  split_ifs at read
  cases read
  intro leap
  obtain ⟨_, _, minutes⟩ := isOffset
  rw [decide_eq_true_eq] at leap
  simp only [if_pos leap, Instant.daySeconds]
  omega

/-! ## Texts -/

private theorem isOffset_of_readOffset {chars rest : List Char} {offset : Int}
    (read : readOffset chars = some (offset, rest)) : IsOffset offset := by
  cases chars with
  | nil => simp [readOffset] at read
  | cons c chars =>
    rw [readOffset] at read
    split_ifs at read with zero mark plus
    · cases read
      decide
    all_goals
      simp only [Option.bind_eq_bind, Option.bind_eq_some_iff] at read
      obtain ⟨⟨hours, _⟩, _, _, _, ⟨minutes, _⟩, _, read⟩ := read
      simp only at read
      split_ifs at read with small
      cases read
      simp only [IsOffset, Instant.daySeconds]
      omega

private theorem exists_fields_of_ofInternet? {chars : List Char} {instant : Instant}
    (read : ofInternet? chars = some instant) :
    ∃ fields : Fields, ∃ offset, IsOffset offset ∧ fields.toInstant? offset = some instant := by
  rw [ofInternet?] at read
  obtain ⟨⟨year, _⟩, _, read⟩ := Option.bind_eq_some_iff.mp read
  obtain ⟨_, _, read⟩ := Option.bind_eq_some_iff.mp read
  obtain ⟨⟨month, _⟩, _, read⟩ := Option.bind_eq_some_iff.mp read
  obtain ⟨_, _, read⟩ := Option.bind_eq_some_iff.mp read
  obtain ⟨⟨day, _⟩, _, read⟩ := Option.bind_eq_some_iff.mp read
  obtain ⟨_, _, read⟩ := Option.bind_eq_some_iff.mp read
  obtain ⟨⟨hour, _⟩, _, read⟩ := Option.bind_eq_some_iff.mp read
  obtain ⟨_, _, read⟩ := Option.bind_eq_some_iff.mp read
  obtain ⟨⟨minute, _⟩, _, read⟩ := Option.bind_eq_some_iff.mp read
  obtain ⟨_, _, read⟩ := Option.bind_eq_some_iff.mp read
  obtain ⟨⟨second, _⟩, _, read⟩ := Option.bind_eq_some_iff.mp read
  obtain ⟨_, _, read⟩ := Option.bind_eq_some_iff.mp read
  obtain ⟨⟨offset, rest⟩, offsetRead, read⟩ := Option.bind_eq_some_iff.mp read
  dsimp only at read
  split_ifs at read
  exact ⟨_, offset, isOffset_of_readOffset offsetRead, read⟩

private theorem exists_fields_of_ofForm? {chars : List Char} {form : List Part} {instant : Instant}
    (read : ofForm? chars form = some instant) :
    ∃ fields : Fields, fields.toInstant? 0 = some instant := by
  simp only [ofForm?, Option.bind_eq_bind, Option.bind_eq_some_iff] at read
  obtain ⟨⟨fields, rest⟩, _, read⟩ := read
  simp only at read
  split_ifs at read
  exact ⟨fields, read⟩

/-- Every text that has an instant has it from valid fields and an offset. -/
theorem exists_fields_of_ofText? {text : String} {instant : Instant}
    (read : ofText? text = some instant) :
    ∃ fields : Fields, ∃ offset, IsOffset offset ∧ fields.toInstant? offset = some instant := by
  simp only [ofText?, Option.orElse_eq_or, Option.or_eq_some_iff] at read
  rcases read with internet | ⟨_, lenient⟩
  · exact exists_fields_of_ofInternet? internet
  · obtain ⟨form, _, read⟩ := List.exists_of_findSome?_eq_some lenient
    obtain ⟨fields, read⟩ := exists_fields_of_ofForm? read
    exact ⟨fields, 0, by decide, read⟩

/-- The seconds of every instant that a text has. -/
theorem ofText?_bounds {text : String} {instant : Instant} (read : ofText? text = some instant) :
    -10000000000000 ≤ instant.seconds ∧ instant.seconds ≤ 10000000000000 := by
  obtain ⟨fields, offset, isOffset, read⟩ := exists_fields_of_ofText? read
  exact fields.toInstant?_bounds isOffset read

theorem regular_of_ofText? {text : String} {instant : Instant} (read : ofText? text = some instant) :
    instant.Regular := by
  obtain ⟨fields, offset, isOffset, read⟩ := exists_fields_of_ofText? read
  exact fields.regular_of_toInstant? isOffset read

end Stamp

end RangeCatalog
