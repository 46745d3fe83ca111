import Mathlib.Tactic.IntervalCases
import Mathlib.Tactic.SplitIfs
import RangeCatalog.Calendar.Date

/-! # The calendar

The two conversions between dates and days are inverse to each other, and they count the days one by one
from the first of January of 1970. Both rest on years that start with March: there every month but the last
has a fixed length, and the leap day ends the year.
-/

namespace RangeCatalog.Date

theorem monthLength_le (year : Int) (month : Nat) : monthLength year month ≤ 31 := by
  rw [monthLength]
  split_ifs <;> omega

/-! ## Years that start with March -/

theorem isLeapYear_iff {year : Int} :
    isLeapYear year = true ↔ year % 4 = 0 ∧ (year % 100 ≠ 0 ∨ year % 400 = 0) := by
  simp [isLeapYear]

/-- The days from the first of March of the year 0 to the first of March of a year. -/
def daysBefore (year : Int) : Int :=
  365 * year + year / 4 - year / 100 + year / 400

/-- The days from the first of March to the first of a month. The months are counted from March. -/
def daysBeforeMonth (month : Nat) : Nat :=
  (153 * month + 2) / 5

/-- The date in a month that is counted from March, in the year that starts there. -/
def fromMarch (year : Int) (month day : Nat) : Date :=
  if month < 10 then ⟨year, month + 3, day⟩ else ⟨year + 1, month - 9, day⟩

/-- The number of days of a month that is counted from March. -/
def marchLength (year : Int) (month : Nat) : Nat :=
  if month < 11 then daysBeforeMonth (month + 1) - daysBeforeMonth month else monthLength (year + 1) 2

private theorem marchLength_pos (year : Int) (month : Nat) : 0 < marchLength year month := by
  rw [marchLength]
  split_ifs
  · simp only [daysBeforeMonth]
    omega
  · rw [monthLength, if_pos rfl]
    split_ifs <;> decide

@[simp]
private theorem fromMarch_day (year : Int) (month day : Nat) : (fromMarch year month day).day = day := by
  rw [fromMarch]
  split <;> rfl

private theorem monthLength_fromMarch {year : Int} {month : Nat} (inside : month < 12) (day : Nat) :
    monthLength (fromMarch year month day).year (fromMarch year month day).month =
      marchLength year month := by
  interval_cases month <;> simp [fromMarch, marchLength, daysBeforeMonth, monthLength]

private theorem valid_fromMarch_iff {year : Int} {month day : Nat} (inside : month < 12) :
    (fromMarch year month day).Valid ↔ 1 ≤ day ∧ day ≤ marchLength year month := by
  have months : 1 ≤ (fromMarch year month day).month ∧ (fromMarch year month day).month ≤ 12 := by
    rw [fromMarch]
    split <;> simp only <;> omega
  rw [Valid, monthLength_fromMarch inside, fromMarch_day]
  exact ⟨fun valid => valid.2.2, fun days => ⟨months.1, months.2, days⟩⟩

private theorem exists_fromMarch {date : Date} (valid : date.Valid) :
    ∃ year month, month < 12 ∧ date = fromMarch year month date.day := by
  obtain ⟨year, month, day⟩ := date
  obtain ⟨first, last, _⟩ := valid
  simp only at first last
  by_cases early : month ≤ 2
  · refine ⟨year - 1, month + 9, by omega, ?_⟩
    rw [fromMarch, if_neg (by omega), Int.sub_add_cancel, Nat.add_sub_cancel]
  · refine ⟨year, month - 3, by omega, ?_⟩
    rw [fromMarch, if_pos (by omega), Nat.sub_add_cancel (by omega)]

private theorem toDays_fromMarch {year : Int} {month day : Nat} (inside : month < 12) :
    (fromMarch year month day).toDays = daysBefore year + daysBeforeMonth month + day - 1 - epochDays := by
  simp only [fromMarch, toDays, daysBefore, daysBeforeMonth, eraDays]
  split_ifs <;> simp only at * <;> omega

/-- A year has 365 days, and one more when it ends with a leap day. -/
theorem daysBefore_succ (year : Int) :
    daysBefore (year + 1) = daysBefore year + daysBeforeMonth 11 + marchLength year 11 := by
  simp only [daysBefore, daysBeforeMonth, marchLength, monthLength, Nat.lt_irrefl, if_false, if_true]
  split_ifs with long <;> rw [isLeapYear_iff] at long <;> omega

private theorem daysBefore_mono {year later : Int} (order : year ≤ later) :
    daysBefore year ≤ daysBefore later := by
  simp only [daysBefore]
  omega

private theorem daysBeforeMonth_mono {month later : Nat} (order : month ≤ later) :
    daysBeforeMonth month ≤ daysBeforeMonth later :=
  Nat.div_le_div_right (by omega)

private theorem daysBeforeMonth_succ (year : Int) {month : Nat} (inside : month < 11) :
    daysBeforeMonth (month + 1) = daysBeforeMonth month + marchLength year month := by
  have order := daysBeforeMonth_mono (Nat.le_add_right month 1)
  rw [marchLength, if_pos inside]
  omega

/-- The days of a year end before the year that follows. -/
theorem day_lt_daysBefore_succ {year : Int} {month day : Nat} (inside : month < 12)
    (short : day ≤ marchLength year month) :
    daysBefore year + daysBeforeMonth month + day ≤ daysBefore (year + 1) := by
  rw [daysBefore_succ]
  rcases Nat.lt_succ_iff_lt_or_eq.mp inside with earlier | rfl
  · have next := daysBeforeMonth_succ year earlier
    have order := daysBeforeMonth_mono (show month + 1 ≤ 11 by omega)
    omega
  · omega

/-- Different dates have different days. -/
theorem toDays_injective {date other : Date} (valid : date.Valid) (otherValid : other.Valid)
    (same : date.toDays = other.toDays) : date = other := by
  obtain ⟨year, month, inside, eq⟩ := exists_fromMarch valid
  obtain ⟨otherYear, otherMonth, otherInside, otherEq⟩ := exists_fromMarch otherValid
  rw [eq, valid_fromMarch_iff inside] at valid
  rw [otherEq, valid_fromMarch_iff otherInside] at otherValid
  rw [eq, otherEq, toDays_fromMarch inside, toDays_fromMarch otherInside] at same
  have days := day_lt_daysBefore_succ inside valid.2
  have otherDays := day_lt_daysBefore_succ otherInside otherValid.2
  have years : year = otherYear := by
    rcases Int.lt_trichotomy year otherYear with before | years | after
    · have order := daysBefore_mono (show year + 1 ≤ otherYear by omega)
      omega
    · exact years
    · have order := daysBefore_mono (show otherYear + 1 ≤ year by omega)
      omega
  subst years
  have months : month = otherMonth := by
    rcases Nat.lt_trichotomy month otherMonth with before | months | after
    · have order := daysBeforeMonth_mono (show month + 1 ≤ otherMonth by omega)
      have next := daysBeforeMonth_succ year (show month < 11 by omega)
      omega
    · exact months
    · have order := daysBeforeMonth_mono (show otherMonth + 1 ≤ month by omega)
      have next := daysBeforeMonth_succ year (show otherMonth < 11 by omega)
      omega
  subst months
  have dayEq : date.day = other.day := by omega
  rw [eq, otherEq, dayEq]

/-! ## From days to dates -/

/-- The year of a day within an era, where the day is given by its century, the years of four in it, the
years in these, and the days in the year. -/
theorem yearOfEra_eq {century quad year day : Int} (centuries : 0 ≤ century ∧ century ≤ 3)
    (quads : 0 ≤ quad ∧ quad ≤ 24) (years : 0 ≤ year ∧ year ≤ 3) (days : 0 ≤ day ∧ day ≤ 365)
    (leap : day = 365 → year = 3 ∧ (quad = 24 → century = 3)) {dayOfEra : Int}
    (parts : dayOfEra = 36524 * century + 1461 * quad + 365 * year + day) :
    (dayOfEra - dayOfEra / 1460 + dayOfEra / 36524 - dayOfEra / 146096) / 365 =
      100 * century + 4 * quad + year := by
  have quadsBefore : dayOfEra / 1460 =
      25 * century + quad + if year = 3 ∧ 365 ≤ 24 * century + quad + day then 1 else 0 := by
    split_ifs <;> omega
  by_cases last : century = 3 ∧ quad = 24 ∧ day = 365
  · omega
  · have short : 1461 * quad + 365 * year + day ≤ 36523 := by omega
    have centuriesBefore : dayOfEra / 36524 = century := by omega
    have eraBefore : dayOfEra / 146096 = 0 := by omega
    omega

private theorem exists_parts {dayOfEra : Int} (least : 0 ≤ dayOfEra) (greatest : dayOfEra < eraDays) :
    ∃ century quad year day : Int, (0 ≤ century ∧ century ≤ 3) ∧ (0 ≤ quad ∧ quad ≤ 24) ∧
      (0 ≤ year ∧ year ≤ 3) ∧ (0 ≤ day ∧ day ≤ 365) ∧ (day = 365 → year = 3 ∧ (quad = 24 → century = 3)) ∧
      dayOfEra = 36524 * century + 1461 * quad + 365 * year + day := by
  rw [eraDays] at greatest
  -- The last day of an era and of four years would open a century and a year of their own.
  obtain ⟨century, isCentury⟩ : ∃ century, century = min (dayOfEra / 36524) 3 := ⟨_, rfl⟩
  obtain ⟨rest, isRest⟩ : ∃ rest, rest = dayOfEra - 36524 * century := ⟨_, rfl⟩
  refine ⟨century, rest / 1461, min (rest % 1461 / 365) 3, rest % 1461 - 365 * min (rest % 1461 / 365) 3, ?_⟩
  omega

/-- The day within a year, from the same parts. -/
theorem dayOfYear_eq {century quad year day dayOfEra : Int} (quads : 0 ≤ quad ∧ quad ≤ 24)
    (years : 0 ≤ year ∧ year ≤ 3) (parts : dayOfEra = 36524 * century + 1461 * quad + 365 * year + day) :
    dayOfEra - (365 * (100 * century + 4 * quad + year) + (100 * century + 4 * quad + year) / 4 -
      (100 * century + 4 * quad + year) / 100) = day := by
  have fours : (100 * century + 4 * quad + year) / 4 = 25 * century + quad := by omega
  have hundreds : (100 * century + 4 * quad + year) / 100 = century := by omega
  omega

/-- The month of a day of the year, and the day of the month. -/
theorem monthOfYear_eq {year : Int} {day : Nat} (inside : day < daysBeforeMonth 11 + marchLength year 11) :
    (5 * day + 2) / 153 < 12 ∧ daysBeforeMonth ((5 * day + 2) / 153) ≤ day ∧
      day < daysBeforeMonth ((5 * day + 2) / 153) + marchLength year ((5 * day + 2) / 153) := by
  have long : marchLength year 11 ≤ 29 := by
    rw [marchLength, if_neg (Nat.lt_irrefl 11), monthLength, if_pos rfl]
    split_ifs <;> decide
  have months : (5 * day + 2) / 153 < 12 := by
    simp only [daysBeforeMonth] at inside
    omega
  refine ⟨months, ?_, ?_⟩
  · rw [daysBeforeMonth]
    omega
  · rcases Nat.lt_succ_iff_lt_or_eq.mp months with earlier | last
    · rw [← daysBeforeMonth_succ year earlier, daysBeforeMonth]
      omega
    · rwa [last]

/-- The first of March of a year, from the era and the place of the year in it. -/
theorem daysBefore_eq {era century quad year : Int} (centuries : 0 ≤ century ∧ century ≤ 3)
    (quads : 0 ≤ quad ∧ quad ≤ 24) (years : 0 ≤ year ∧ year ≤ 3) :
    daysBefore (era * 400 + (100 * century + 4 * quad + year)) =
      eraDays * era + (36524 * century + 1461 * quad + 365 * year) := by
  simp only [daysBefore, eraDays]
  omega

/-- The leap day is there in the years that have it. -/
theorem day_lt_of_leap {era century quad year : Int} {day : Nat} (quads : 0 ≤ quad ∧ quad ≤ 24)
    (short : day ≤ 365) (leap : day = 365 → year = 3 ∧ (quad = 24 → century = 3)) :
    day < daysBeforeMonth 11 + marchLength (era * 400 + (100 * century + 4 * quad + year)) 11 := by
  simp only [daysBeforeMonth, marchLength, monthLength, Nat.lt_irrefl, if_false, if_true]
  split_ifs with long
  · omega
  · rw [isLeapYear_iff] at long
    omega

/-- The year of a day and the day in the year, as they are found within an era. -/
theorem exists_year {dayOfEra : Int} (least : 0 ≤ dayOfEra) (greatest : dayOfEra < eraDays) (era : Int) :
    ∃ yearOfEra : Int, ∃ dayOfYear : Nat,
      (dayOfEra - dayOfEra / 1460 + dayOfEra / 36524 - dayOfEra / 146096) / 365 = yearOfEra ∧
      dayOfEra - (365 * yearOfEra + yearOfEra / 4 - yearOfEra / 100) = dayOfYear ∧
      dayOfYear < daysBeforeMonth 11 + marchLength (era * 400 + yearOfEra) 11 ∧
      daysBefore (era * 400 + yearOfEra) + dayOfYear = eraDays * era + dayOfEra := by
  obtain ⟨century, quad, year, day, centuries, quads, years, days, leap, parts⟩ := exists_parts least greatest
  obtain ⟨dayOfYear, rfl⟩ := Int.eq_ofNat_of_zero_le days.1
  have short : dayOfYear ≤ 365 := Int.ofNat_le.mp days.2
  refine ⟨100 * century + 4 * quad + year, dayOfYear, yearOfEra_eq centuries quads years days leap parts,
    dayOfYear_eq quads years parts, day_lt_of_leap quads short ?_, ?_⟩
  · intro last
    exact leap (congrArg Nat.cast last)
  · rw [daysBefore_eq centuries quads years, parts, Int.add_assoc]

/-- The date of a day, with the month counted from March. -/
theorem exists_ofDays (days : Int) :
    ∃ year month day, month < 12 ∧ ofDays days = fromMarch year month day ∧ 1 ≤ day ∧
      day ≤ marchLength year month ∧
      days = daysBefore year + daysBeforeMonth month + day - 1 - epochDays := by
  have least : 0 ≤ (days + epochDays) % eraDays := Int.emod_nonneg _ (by decide)
  have greatest : (days + epochDays) % eraDays < eraDays := Int.emod_lt_of_pos _ (by decide)
  have whole := Int.mul_ediv_add_emod (days + epochDays) eraDays
  obtain ⟨yearOfEra, dayOfYear, yearEq, dayEq, short, sum⟩ :=
    exists_year least greatest ((days + epochDays) / eraDays)
  rw [whole] at sum
  obtain ⟨inside, after, before⟩ := monthOfYear_eq short
  obtain ⟨month, isMonth⟩ : ∃ month, month = (5 * dayOfYear + 2) / 153 := ⟨_, rfl⟩
  rw [← isMonth] at inside after before
  have monthEq : (5 * (dayOfYear : Int) + 2) / 153 = month := by
    rw [isMonth]
    rfl
  have daysEq : (153 * (month : Int) + 2) / 5 = daysBeforeMonth month := rfl
  refine ⟨(days + epochDays) / eraDays * 400 + yearOfEra, month, dayOfYear - daysBeforeMonth month + 1,
    inside, ?_, Nat.le_add_left _ _, by omega, by omega⟩
  simp only [ofDays, yearEq, dayEq, monthEq, daysEq, fromMarch]
  clear least greatest whole sum before monthEq daysEq isMonth
  split_ifs <;> simp only [Date.mk.injEq, true_and] <;> omega

/-- The date of a day has that day. -/
theorem toDays_ofDays (days : Int) : (ofDays days).toDays = days := by
  obtain ⟨year, month, day, inside, date, _, _, same⟩ := exists_ofDays days
  rw [date, toDays_fromMarch inside, ← same]

theorem valid_ofDays (days : Int) : (ofDays days).Valid := by
  obtain ⟨year, month, day, inside, date, first, last, _⟩ := exists_ofDays days
  rw [date, valid_fromMarch_iff inside]
  exact ⟨first, last⟩

/-- The date of the day of a date is the date. -/
theorem ofDays_toDays {date : Date} (valid : date.Valid) : ofDays date.toDays = date :=
  toDays_injective (valid_ofDays _) valid (toDays_ofDays _)

/-! ## One day after the other -/

/-- The date of the day after. -/
def next (date : Date) : Date :=
  if date.day < monthLength date.year date.month then { date with day := date.day + 1 }
  else if date.month < 12 then ⟨date.year, date.month + 1, 1⟩
  else ⟨date.year + 1, 1, 1⟩

private theorem next_fromMarch {year : Int} {month day : Nat} (inside : month < 12) :
    (fromMarch year month day).next =
      if day < marchLength year month then fromMarch year month (day + 1)
      else if month < 11 then fromMarch year (month + 1) 1
      else fromMarch (year + 1) 0 1 := by
  rw [next, monthLength_fromMarch inside, fromMarch_day]
  interval_cases month <;> rfl

theorem valid_next {date : Date} (valid : date.Valid) : date.next.Valid := by
  obtain ⟨year, month, inside, eq⟩ := exists_fromMarch valid
  rw [eq, next_fromMarch inside]
  rw [eq, valid_fromMarch_iff inside] at valid
  split_ifs with within earlier
  · exact (valid_fromMarch_iff inside).mpr ⟨Nat.le_add_left _ _, within⟩
  · have inYear : month + 1 < 12 := Nat.succ_lt_succ earlier
    exact (valid_fromMarch_iff inYear).mpr ⟨Nat.le_refl 1, marchLength_pos _ _⟩
  · exact (valid_fromMarch_iff (by decide)).mpr ⟨Nat.le_refl 1, marchLength_pos _ _⟩

private theorem toDays_next {date : Date} (valid : date.Valid) : date.next.toDays = date.toDays + 1 := by
  obtain ⟨year, month, inside, eq⟩ := exists_fromMarch valid
  rw [eq, valid_fromMarch_iff inside] at valid
  rw [eq, next_fromMarch inside, toDays_fromMarch inside]
  split_ifs with within earlier
  · rw [toDays_fromMarch inside]
    omega
  · rw [toDays_fromMarch (Nat.succ_lt_succ earlier), daysBeforeMonth_succ year earlier]
    omega
  · have last : month = 11 := by omega
    subst last
    rw [toDays_fromMarch (by decide), daysBefore_succ]
    have none : daysBeforeMonth 0 = 0 := rfl
    omega

/-- The date of the next day is the next date. -/
theorem ofDays_succ (days : Int) : ofDays (days + 1) = (ofDays days).next := by
  have valid := valid_ofDays days
  have later : (ofDays days).next.toDays = days + 1 := by rw [toDays_next valid, toDays_ofDays]
  rw [← later, ofDays_toDays (valid_next valid)]

/-- The date of a day, counted from the first of January of 1970 by nothing but the lengths of the months. -/
inductive OnDay : Int → Date → Prop
  | epoch : OnDay 0 ⟨1970, 1, 1⟩
  | next {days : Int} {date : Date} (on : OnDay days date) : OnDay (days + 1) date.next
  | previous {days : Int} {date : Date} (valid : date.Valid) (on : OnDay (days + 1) date.next) :
    OnDay days date

/-- The conversion of days counts them one by one. -/
theorem onDay_iff {days : Int} {date : Date} : OnDay days date ↔ ofDays days = date := by
  constructor
  · intro on
    induction on with
    | epoch => decide
    | next _ ih => rw [ofDays_succ, ih]
    | @previous days date valid _ ih =>
      have later : date.toDays + 1 = days + 1 := by rw [← toDays_next valid, ← ih, toDays_ofDays]
      rw [← (Int.add_left_inj 1).mp later, ofDays_toDays valid]
  · rintro rfl
    induction days using Int.induction_on with
    | zero => exact .epoch
    | succ days on =>
      rw [ofDays_succ]
      exact .next on
    | pred days on =>
      refine .previous (valid_ofDays _) ?_
      rw [← ofDays_succ, Int.sub_add_cancel]
      exact on

end RangeCatalog.Date
