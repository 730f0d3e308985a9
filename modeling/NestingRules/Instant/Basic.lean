/-!
# Instants

An instant is a reading of the UTC calendar and clock: a date of the proleptic Gregorian calendar,
hour, minute, second and nanosecond.  The nanoseconds of a second run on to twice a second, which
makes room for a leap second after it.  Clocks put a leap second at the end of a minute; a reading
may have one after any second.  Years reach from −262143 to 262142.
-/

namespace NestingRules

namespace Calendar

/-- The year has a 29 February. -/
def isLeapYear (year : Int) : Bool :=
  year % 4 == 0 && (year % 100 != 0 || year % 400 == 0)

/-- The number of days of a month. -/
def daysInMonth (year : Int) (month : Nat) : Nat :=
  if month == 2 then (if isLeapYear year then 29 else 28)
  else if month == 4 || month == 6 || month == 9 || month == 11 then 30
  else 31

/-- A date of the calendar. -/
structure Date where
  year : Int
  month : Nat
  day : Nat
  deriving DecidableEq, Repr

namespace Date

/-- The date exists. -/
def isValid (d : Date) : Bool :=
  1 ≤ d.month && d.month ≤ 12 && 1 ≤ d.day && d.day ≤ daysInMonth d.year d.month &&
    -262143 ≤ d.year && d.year ≤ 262142

/-- The day after. -/
def next (d : Date) : Date :=
  if d.day < daysInMonth d.year d.month then ⟨d.year, d.month, d.day + 1⟩
  else if d.month < 12 then ⟨d.year, d.month + 1, 1⟩
  else ⟨d.year + 1, 1, 1⟩

/-- The day before. -/
def previous (d : Date) : Date :=
  if 1 < d.day then ⟨d.year, d.month, d.day - 1⟩
  else if 1 < d.month then ⟨d.year, d.month - 1, daysInMonth d.year (d.month - 1)⟩
  else ⟨d.year - 1, 12, 31⟩

/-- The date `n` days after 1970-01-01.  Years are counted from 1 March, so that the leap day comes
last, in eras of 400 years with 146097 days each. -/
def ofDayNumber (n : Int) : Date :=
  let z := n + 719468
  let era := z.fdiv 146097
  let dayOfEra := z - era * 146097
  let yearOfEra := (dayOfEra - dayOfEra / 1460 + dayOfEra / 36524 - dayOfEra / 146096) / 365
  let dayOfYear := dayOfEra - (365 * yearOfEra + yearOfEra / 4 - yearOfEra / 100)
  let shifted := (5 * dayOfYear + 2) / 153
  let day := dayOfYear - (153 * shifted + 2) / 5 + 1
  let month := if shifted < 10 then shifted + 3 else shifted - 9
  let year := yearOfEra + era * 400 + (if month ≤ 2 then 1 else 0)
  ⟨year, month.toNat, day.toNat⟩

end Date

end Calendar

/-- A reading of the UTC calendar and clock. -/
structure Instant where
  date : Calendar.Date
  hour : Nat
  minute : Nat
  second : Nat
  /-- The nanosecond, from 1000000000 on in a leap second after the second. -/
  nanosecond : Nat
  date_valid : date.isValid = true
  hour_lt : hour < 24
  minute_lt : minute < 60
  second_lt : second < 60
  nanosecond_lt : nanosecond < 2000000000
  deriving DecidableEq

namespace Instant

open Calendar

/-- The instant of a date and a time of day, if both exist.  There are leap seconds at the end of a
minute only. -/
def ofFields? (date : Date) (hour minute second nanosecond : Nat) : Option Instant :=
  if h : date.isValid = true ∧ hour < 24 ∧ minute < 60 ∧ second < 60 ∧ nanosecond < 2000000000 ∧
      (1000000000 ≤ nanosecond → second = 59) then
    some ⟨date, hour, minute, second, nanosecond, h.1, h.2.1, h.2.2.1, h.2.2.2.1, h.2.2.2.2.1⟩
  else none

/-- The instant so many seconds after 1970-01-01T00:00:00Z.  Nanoseconds from a whole second on
stand for a leap second after the last second of a minute. -/
def ofUnix? (seconds : Int) (nanoseconds : Nat) : Option Instant :=
  let time := (seconds.emod 86400).toNat
  let date := Date.ofDayNumber (seconds.ediv 86400)
  ofFields? date (time / 3600) (time / 60 % 60) (time % 60) nanoseconds

/-- The epoch. -/
def epoch : Instant :=
  ⟨⟨1970, 1, 1⟩, 0, 0, 0, 0, by decide, by decide, by decide, by decide, by decide⟩

instance : Inhabited Instant := ⟨epoch⟩

end Instant

end NestingRules
