import RangeCatalog.Calendar.Instant
import RangeCatalog.Text.Blank

/-! # Time stamps

The texts in which a source may give the time of its data: RFC 3339 with an offset, a date and a time
without an offset, and a date alone, the last two in universal time. Any other text has no instant.
The forms without an offset are lenient. A number may have fewer digits than usual and blanks before
it, and a signed year may have any number of digits.
-/

namespace RangeCatalog.Stamp

/-- The numbers of a date and a time of day. -/
structure Fields where
  year : Int := 1970
  month : Nat := 1
  day : Nat := 1
  hour : Nat := 0
  minute : Nat := 0
  second : Nat := 0
deriving DecidableEq, Repr

namespace Fields

/-- Whether the calendar and the clock have the date and the time. The second 60 is a leap second
after any minute. -/
def Valid (fields : Fields) : Prop :=
  Instant.minYear ≤ fields.year ∧ fields.year ≤ Instant.maxYear ∧
    (Date.mk fields.year fields.month fields.day).Valid ∧
    fields.hour < 24 ∧ fields.minute < 60 ∧ fields.second ≤ 60

instance (fields : Fields) : Decidable fields.Valid :=
  inferInstanceAs (Decidable (_ ∧ _ ∧ _ ∧ _ ∧ _ ∧ _))

/-- The instant of the fields at an offset from universal time, in seconds. -/
def toInstant? (fields : Fields) (offset : Int) : Option Instant :=
  if fields.Valid then
    let days := (Date.mk fields.year fields.month fields.day).toDays
    let leap := fields.second = 60
    let second := if leap then 59 else fields.second
    let time : Int := fields.hour * 3600 + fields.minute * 60 + second
    some ⟨days * Instant.daySeconds + time - offset, leap⟩
  else none

end Fields

/-- `min` to `max` digits as a number. Further digits are left. -/
def readNumber (min max : Nat) (chars : List Char) : Option (Nat × List Char) :=
  let digits := (spanDigits 10 (chars.take max)).1
  if digits.length < min then none else some (numberOfDigits 10 digits, chars.drop digits.length)

/-- Exactly `count` digits as a number. -/
def readExact (count : Nat) : List Char → Option (Nat × List Char) :=
  readNumber count count

/-- The text after one of the given characters. -/
def readOne (allowed : List Char) : List Char → Option (List Char)
  | c :: rest => if c ∈ allowed then some rest else none
  | [] => none

/-- The text after a point and at least one digit, or the whole text when it has no point. -/
def skipFraction : List Char → Option (List Char)
  | '.' :: rest =>
    let (digits, tail) := spanDigits 10 rest
    if digits.isEmpty then none else some tail
  | chars => some chars

/-- An offset from universal time in seconds: `Z`, or a sign, hours and minutes. -/
def readOffset : List Char → Option (Int × List Char)
  | c :: rest =>
    if c = 'Z' ∨ c = 'z' then some (0, rest)
    else if c = '+' ∨ c = '-' ∨ c = '\u2212' then do
      let (hours, rest) ← readExact 2 rest
      let rest ← readOne [':'] rest
      let (minutes, rest) ← readExact 2 rest
      if hours < 24 ∧ minutes < 60 then
        let offset : Int := hours * 3600 + minutes * 60
        some (if c = '+' then offset else -offset, rest)
      else none
    else none
  | [] => none

/-- Reads the form of RFC 3339, in which every number has a fixed width. -/
def ofInternet? (chars : List Char) : Option Instant := do
  let (year, chars) ← readExact 4 chars
  let (month, chars) ← readExact 2 (← readOne ['-'] chars)
  let (day, chars) ← readExact 2 (← readOne ['-'] chars)
  let (hour, chars) ← readExact 2 (← readOne ['T', 't', ' '] chars)
  let (minute, chars) ← readExact 2 (← readOne [':'] chars)
  let (second, chars) ← readExact 2 (← readOne [':'] chars)
  let (offset, chars) ← readOffset (← skipFraction chars)
  if chars.isEmpty then
    Fields.toInstant? ⟨year, month, day, hour, minute, second⟩ offset
  else none

/-- One part of a lenient form. -/
inductive Part where
  | year
  | month
  | day
  | hour
  | minute
  | second
  /-- An optional fraction of a second, which does not count. -/
  | fraction
  | literal (c : Char)
  /-- Any number of blanks, also none. -/
  | blanks
deriving DecidableEq, Repr

/-- The number of a part after any blanks. -/
def readPart (max : Nat) (chars : List Char) : Option (Nat × List Char) :=
  readNumber 1 max (chars.dropWhile isBlank)

/-- A year after any blanks. Only a signed year may have more than four digits. -/
def readYear (chars : List Char) : Option (Int × List Char) :=
  match chars.dropWhile isBlank with
  | '-' :: rest => (readNumber 1 rest.length rest).map fun (year, tail) => (-(year : Int), tail)
  | '+' :: rest => (readNumber 1 rest.length rest).map fun (year, tail) => ((year : Int), tail)
  | chars => (readNumber 1 4 chars).map fun (year, tail) => ((year : Int), tail)

def Part.read (fields : Fields) (chars : List Char) : Part → Option (Fields × List Char)
  | year => (readYear chars).map fun (number, rest) => ({ fields with year := number }, rest)
  | month => (readPart 2 chars).map fun (number, rest) => ({ fields with month := number }, rest)
  | day => (readPart 2 chars).map fun (number, rest) => ({ fields with day := number }, rest)
  | hour => (readPart 2 chars).map fun (number, rest) => ({ fields with hour := number }, rest)
  | minute => (readPart 2 chars).map fun (number, rest) => ({ fields with minute := number }, rest)
  | second => (readPart 2 chars).map fun (number, rest) => ({ fields with second := number }, rest)
  | fraction => (skipFraction chars).map fun rest => (fields, rest)
  | literal c => (readOne [c] chars).map fun rest => (fields, rest)
  | blanks => some (fields, chars.dropWhile isBlank)

def dateParts : List Part :=
  [.year, .literal '-', .month, .literal '-', .day]

/-- The parts of a time of day without and with its seconds. -/
def timeParts (seconds : Bool) : List Part :=
  [.hour, .literal ':', .minute] ++ if seconds then [.literal ':', .second, .fraction] else []

/-- The lenient forms, in the order in which they are tried. -/
def lenientForms : List (List Part) :=
  [dateParts ++ .literal 'T' :: timeParts true,
    dateParts ++ .blanks :: timeParts true,
    dateParts ++ .literal 'T' :: timeParts false,
    dateParts]

def ofForm? (chars : List Char) (form : List Part) : Option Instant := do
  let (fields, rest) ← form.foldlM (fun (fields, rest) part => part.read fields rest) (({} : Fields), chars)
  if rest.isEmpty then fields.toInstant? 0 else none

/-- The instant that a text denotes. Blanks around the text do not count. -/
def ofText? (text : String) : Option Instant :=
  let chars := trimChars text.toList
  (ofInternet? chars).orElse fun _ => lenientForms.findSome? (ofForm? chars)

end RangeCatalog.Stamp
