/-!
Dates of the proleptic Gregorian calendar, times of day to the nanosecond, and their pairs.

A leap second is the last second of a minute with a nanosecond count of 10^9 or more; a clock
shows it as second 60. Day numbers count from 1970-01-01.
-/

namespace TypedSql

def isLeapYear (year : Int) : Bool :=
  year % 4 == 0 && (year % 100 != 0 || year % 400 == 0)

def daysInMonth (year : Int) (month : Nat) : Nat :=
  if month = 2 then (if isLeapYear year then 29 else 28)
  else if month = 4 ∨ month = 6 ∨ month = 9 ∨ month = 11 then 30
  else 31

/-- The years that dates are kept for, ends included. -/
def minYear : Int := -262143

def maxYear : Int := 262142

structure Date where
  year : Int
  month : Nat
  day : Nat
  inYears : minYear ≤ year ∧ year ≤ maxYear
  inMonths : 1 ≤ month ∧ month ≤ 12
  inDays : 1 ≤ day ∧ day ≤ daysInMonth year month
deriving DecidableEq, Repr

/-- A time of day. Chrono's `with_nanosecond` makes leap seconds of seconds other than the last of a
minute too, each of which is written as the second after it and read back as that one; they are left
out. -/
structure TimeOfDay where
  hour : Nat
  minute : Nat
  second : Nat
  nanosecond : Nat
  inClock : hour < 24 ∧ minute < 60 ∧ second < 60
  inSecond : nanosecond < 1000000000 ∨ second = 59 ∧ nanosecond < 2000000000
deriving DecidableEq, Repr

structure DateTime where
  date : Date
  time : TimeOfDay
deriving DecidableEq, Repr

/-- An instant, as its date and time of day at zone offset zero. -/
structure Timestamp where
  utc : DateTime
deriving DecidableEq, Repr

def Date.of? (year : Int) (month day : Nat) : Option Date :=
  if hy : minYear ≤ year ∧ year ≤ maxYear then
    if hm : 1 ≤ month ∧ month ≤ 12 then
      if hd : 1 ≤ day ∧ day ≤ daysInMonth year month then
        some ⟨year, month, day, hy, hm, hd⟩
      else none
    else none
  else none

def TimeOfDay.of? (hour minute second nanosecond : Nat) : Option TimeOfDay :=
  if hc : hour < 24 ∧ minute < 60 ∧ second < 60 then
    if hs : nanosecond < 1000000000 ∨ second = 59 ∧ nanosecond < 2000000000 then
      some ⟨hour, minute, second, nanosecond, hc, hs⟩
    else none
  else none

theorem Date.of?_parts (d : Date) : Date.of? d.year d.month d.day = some d := by
  simp [Date.of?, d.inYears, d.inMonths, d.inDays]

theorem TimeOfDay.of?_parts (t : TimeOfDay) :
    TimeOfDay.of? t.hour t.minute t.second t.nanosecond = some t := by
  simp [TimeOfDay.of?, t.inClock, t.inSecond]

/--
The number of a day. Years are taken from March, so that the leap day is the last of its
year, and grouped by the 146097 days of every 400 years.
-/
def Date.dayNumber (d : Date) : Int :=
  let year := if d.month ≤ 2 then d.year - 1 else d.year
  let era := year.fdiv 400
  let yearOfEra := year - era * 400
  let month : Int := if d.month ≤ 2 then d.month + 9 else d.month - 3
  let dayOfYear := (153 * month + 2) / 5 + d.day - 1
  let dayOfEra := yearOfEra * 365 + yearOfEra / 4 - yearOfEra / 100 + dayOfYear
  era * 146097 + dayOfEra - 719468

/-- The day with a number, if it lies in the years that dates are kept for. -/
def Date.ofDayNumber? (number : Int) : Option Date :=
  let shifted := number + 719468
  let era := shifted.fdiv 146097
  let dayOfEra := shifted - era * 146097
  let yearOfEra := (dayOfEra - dayOfEra / 1460 + dayOfEra / 36524 - dayOfEra / 146096) / 365
  let dayOfYear := dayOfEra - (365 * yearOfEra + yearOfEra / 4 - yearOfEra / 100)
  let month := (5 * dayOfYear + 2) / 153
  let day := dayOfYear - (153 * month + 2) / 5 + 1
  let calendarMonth := if month < 10 then month + 3 else month - 9
  let year := yearOfEra + era * 400 + (if calendarMonth ≤ 2 then 1 else 0)
  Date.of? year calendarMonth.toNat day.toNat

/-- Seconds since the start of 1970, leap seconds not counted. -/
def DateTime.seconds (d : DateTime) : Int :=
  d.date.dayNumber * 86400 + d.time.hour * 3600 + d.time.minute * 60 + d.time.second

/-- The date and time of a count of seconds since 1970, with its nanoseconds. -/
def DateTime.ofSeconds? (seconds : Int) (nanosecond : Nat) : Option DateTime := do
  let day := seconds.fdiv 86400
  let rest := (seconds - day * 86400).toNat
  let date ← Date.ofDayNumber? day
  let time ← TimeOfDay.of? (rest / 3600) (rest / 60 % 60) (rest % 60) nanosecond
  some ⟨date, time⟩

end TypedSql
