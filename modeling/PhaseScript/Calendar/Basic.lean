/-
Days of the Gregorian calendar, times of day, moments and durations. A day is known by its year, month and day,
and counted from 1 January of year 1; a duration is a whole number of microseconds.
-/
set_option autoImplicit false

namespace PhaseScript

/-- Whether a year has a 29 February. -/
def isLeapYear (year : Nat) : Bool := year % 4 == 0 && (year % 100 != 0 || year % 400 == 0)

/-- The days of a month. -/
def daysInMonth (year month : Nat) : Nat :=
  match month with
  | 2 => if isLeapYear year then 29 else 28
  | 4 | 6 | 9 | 11 => 30
  | _ => 31

/-- The days before a year. -/
def daysBeforeYear (year : Nat) : Nat :=
  let y := year - 1
  y * 365 + y / 4 - y / 100 + y / 400

/-- The days of a year before a month. -/
def daysBeforeMonth (year month : Nat) : Nat :=
  ((List.range (month - 1)).map fun m => daysInMonth year (m + 1)).foldl (· + ·) 0

/-- A day. -/
structure Date where
  year : Nat
  month : Nat
  day : Nat
  deriving DecidableEq, Repr, Inhabited

namespace Date

/-- Whether the calendar, from year 1 to year 9999, has the day. -/
def isValid (d : Date) : Bool :=
  1 ≤ d.year && d.year ≤ 9999 && 1 ≤ d.month && d.month ≤ 12 && 1 ≤ d.day && d.day ≤ daysInMonth d.year d.month

/-- The number of a day, 1 January of year 1 being 1. -/
def ordinal (d : Date) : Nat := daysBeforeYear d.year + daysBeforeMonth d.year d.month + d.day

/-- The number of the last day of year 9999. -/
def maxOrdinal : Nat := 3652059

/-- The month and day of a place in a year, counted from zero. -/
def monthDay (year place : Nat) : Nat → Nat → Nat × Nat
  | 0, month => (month, place + 1)
  | left + 1, month =>
    let size := daysInMonth year month
    if place < size then (month, place + 1) else monthDay year (place - size) left (month + 1)

/-- The day of a number. -/
def ofOrdinal (n : Nat) : Date :=
  let n := n - 1
  let (n400, n) := (n / 146097, n % 146097)
  let (n100, n) := (n / 36524, n % 36524)
  let (n4, n) := (n / 1461, n % 1461)
  let (n1, n) := (n / 365, n % 365)
  let year := n400 * 400 + n100 * 100 + n4 * 4 + n1 + 1
  if n1 == 4 || n100 == 4 then ⟨year - 1, 12, 31⟩
  else
    let (month, day) := monthDay year n 11 1
    ⟨year, month, day⟩

/-- The day of the week, Monday being 0. -/
def weekday (d : Date) : Nat := (d.ordinal + 6) % 7

/-- The place of a day in its year, counted from one. -/
def dayOfYear (d : Date) : Nat := daysBeforeMonth d.year d.month + d.day

/-- The number of the Monday with which the first week of a year begins: the week that has its Thursday in it. -/
def firstMonday (year : Nat) : Int :=
  let first := Int.ofNat (daysBeforeYear year) + 1
  let weekday := (first + 6) % 7
  let monday := first - weekday
  if weekday > 3 then monday + 7 else monday

/-- The year, week and weekday (from 1) of a day in the calendar of weeks. -/
def isoCalendar (d : Date) : Int × Nat × Nat :=
  let today := Int.ofNat d.ordinal
  let year := Int.ofNat d.year
  let start := firstMonday d.year
  let (year, start) :=
    if today < start then (year - 1, firstMonday (d.year - 1))
    else if today ≥ firstMonday (d.year + 1) then (year + 1, firstMonday (d.year + 1))
    else (year, start)
  (year, ((today - start) / 7).toNat + 1, ((today - start) % 7).toNat + 1)

/-- The order of days. -/
def compare (a b : Date) : Ordering := Ord.compare a.ordinal b.ordinal

end Date

/-- A whole number of microseconds. -/
structure Duration where
  micros : Int
  deriving DecidableEq, Repr, Inhabited

namespace Duration

def microsPerDay : Int := 86400000000

/-- The whole days, rounded down. -/
def days (d : Duration) : Int := d.micros.fdiv microsPerDay

/-- The seconds after the whole days. -/
def seconds (d : Duration) : Int := (d.micros.fmod microsPerDay).fdiv 1000000

/-- The microseconds after the whole seconds. -/
def microseconds (d : Duration) : Int := d.micros.fmod 1000000

def ofParts (days seconds micros : Int) : Duration := ⟨days * microsPerDay + seconds * 1000000 + micros⟩

/-- Durations reach about two and three quarter million years either way. -/
def inRange (d : Duration) : Bool := -999999999 ≤ d.days && d.days ≤ 999999999

end Duration

/-- A time of day, perhaps with its distance from universal time. -/
structure ClockTime where
  hour : Nat
  minute : Nat
  second : Nat
  micro : Nat
  offset : Option Duration
  deriving DecidableEq, Repr, Inhabited

namespace ClockTime

def isValid (t : ClockTime) : Bool := t.hour < 24 && t.minute < 60 && t.second < 60 && t.micro < 1000000

/-- The microseconds since midnight. -/
def micros (t : ClockTime) : Int :=
  Int.ofNat (((t.hour * 60 + t.minute) * 60 + t.second) * 1000000 + t.micro)

/-- The time of day that is so many microseconds after midnight. -/
def ofMicros (n : Nat) (offset : Option Duration) : ClockTime :=
  ⟨n / 3600000000, n / 60000000 % 60, n / 1000000 % 60, n % 1000000, offset⟩

end ClockTime

/-- A day and a time of day. -/
structure Moment where
  date : Date
  clock : ClockTime
  deriving DecidableEq, Repr, Inhabited

namespace Moment

/-- The microseconds since the beginning of the day before year 1, by the clock. -/
def micros (m : Moment) : Int := Int.ofNat m.date.ordinal * Duration.microsPerDay + m.clock.micros

/-- The microseconds by universal time. -/
def absoluteMicros (m : Moment) : Int := m.micros - (m.clock.offset.getD ⟨0⟩).micros

/-- The moment a number of microseconds denotes, if the calendar has it. -/
def ofMicros? (n : Int) (offset : Option Duration) : Option Moment :=
  let day := n.fdiv Duration.microsPerDay
  if 1 ≤ day && day ≤ Int.ofNat Date.maxOrdinal then
    some ⟨Date.ofOrdinal day.toNat, ClockTime.ofMicros (n.fmod Duration.microsPerDay).toNat offset⟩
  else none

end Moment

end PhaseScript
