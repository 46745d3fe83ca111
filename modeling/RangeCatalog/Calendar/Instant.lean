import RangeCatalog.Calendar.Date
import RangeCatalog.Text.Numeral

/-! # Instants

Seconds since the start of 1970 in universal time, and their written forms. A leap second has no count
of its own: it is the second after the one that is counted, and its written form says `60`.
-/

namespace RangeCatalog

/-- A second of universal time. -/
structure Instant where
  seconds : Int
  /-- Whether the instant is the leap second that follows `seconds`. -/
  leap : Bool
deriving DecidableEq, Repr

namespace Instant

def ofSeconds (seconds : Int) : Instant :=
  ⟨seconds, false⟩

def daySeconds : Int := 86400

def date (instant : Instant) : Date :=
  Date.ofDays (instant.seconds / daySeconds)

def timeOfDay (instant : Instant) : Nat :=
  (instant.seconds % daySeconds).toNat

/-- The least and the greatest year of the calendar in use. -/
def minYear : Int := -262143

@[inherit_doc minYear]
def maxYear : Int := 262142

/-- The numeral of a year: four digits, and outside the years 0 to 9999 a sign before them. -/
def yearText (year : Int) : String :=
  if 0 ≤ year ∧ year ≤ 9999 then paddedDecimal 4 year.natAbs
  else (if year < 0 then "-" else "+") ++ paddedDecimal 4 year.natAbs

/-- The date as `YYYY-MM-DD`. -/
def dateText (instant : Instant) : String :=
  let date := instant.date
  yearText date.year ++ "-" ++ paddedDecimal 2 date.month ++ "-" ++ paddedDecimal 2 date.day

/-- The time as `HH:MM:SS`. -/
def timeText (instant : Instant) : String :=
  let time := instant.timeOfDay
  let second := if instant.leap then time % 60 + 1 else time % 60
  paddedDecimal 2 (time / 3600) ++ ":" ++ paddedDecimal 2 (time / 60 % 60) ++ ":" ++
    paddedDecimal 2 second

/-- The instant as `YYYY-MM-DDTHH:MM:SSZ`. -/
def text (instant : Instant) : String :=
  instant.dateText ++ "T" ++ instant.timeText ++ "Z"

end Instant

end RangeCatalog
