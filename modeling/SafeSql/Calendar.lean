/-!
# Dates and times

Dates of the Gregorian calendar, times of day and moments, with their standard text and with
the instant that a moment with a known offset names.

## Main definitions

* `Calendar.Date`, `Calendar.Time`, `Calendar.Moment` — a day, a time of day, both together.
* `Calendar.Date.dayNumber`, `Calendar.civil` — days counted from 1970-01-01, and back.
* `Calendar.Moment.text` — year first, to the microsecond when there are any.
* `Calendar.stamp` — a moment to the second, as it stands in logs.
-/

namespace SafeSql.Calendar

def padded (width n : Nat) : List Char :=
  let digits := Nat.toDigits 10 n
  List.replicate (width - digits.length) '0' ++ digits

structure Date where
  year : Nat
  month : Nat
  day : Nat
  deriving DecidableEq, Repr

/-- A time of day, with its distance from universal time in seconds when that is known. -/
structure Time where
  hour : Nat
  minute : Nat
  second : Nat
  microsecond : Nat
  offset : Option Int
  deriving DecidableEq, Repr

structure Moment where
  date : Date
  time : Time
  deriving DecidableEq, Repr

namespace Date

def text (date : Date) : List Char :=
  padded 4 date.year ++ ['-'] ++ padded 2 date.month ++ ['-'] ++ padded 2 date.day

/-- Days since 1970-01-01. Years are counted from March, so that a leap day ends its year. -/
def dayNumber (date : Date) : Int :=
  let year : Int := if date.month ≤ 2 then (date.year : Int) - 1 else date.year
  let era := year.fdiv 400
  let yearOfEra := year - era * 400
  let month : Int := if date.month ≤ 2 then (date.month : Int) + 9 else (date.month : Int) - 3
  let dayOfYear := (153 * month + 2) / 5 + date.day - 1
  let dayOfEra := yearOfEra * 365 + yearOfEra / 4 - yearOfEra / 100 + dayOfYear
  era * 146097 + dayOfEra - 719468

end Date

namespace Time

/-- The distance from universal time as `+HH:MM`, with the seconds when there are any. -/
def offsetText (offset : Int) : List Char :=
  let size := offset.natAbs
  let seconds := size % 60
  (if offset < 0 then ['-'] else ['+']) ++ padded 2 (size / 3600) ++ [':']
    ++ padded 2 (size / 60 % 60) ++ (if seconds = 0 then [] else ':' :: padded 2 seconds)

/-- The text `HH:MM:SS`, with the microseconds when there are any and with the offset when it
is known. -/
def text (time : Time) : List Char :=
  padded 2 time.hour ++ [':'] ++ padded 2 time.minute ++ [':'] ++ padded 2 time.second
    ++ (if time.microsecond = 0 then [] else '.' :: padded 6 time.microsecond)
    ++ (time.offset.map offsetText).getD []

/-- Microseconds since midnight, in universal time when the offset is known. -/
def microseconds (time : Time) : Int :=
  (((time.hour * 60 + time.minute) * 60 + time.second : Nat) - time.offset.getD 0) * 1000000
    + time.microsecond

/-- Two times agree when both offsets are known or both are not, and they fall together. -/
def same (s t : Time) : Bool :=
  s.offset.isSome == t.offset.isSome && s.microseconds == t.microseconds

end Time

namespace Moment

def text (moment : Moment) : List Char :=
  moment.date.text ++ [' '] ++ moment.time.text

def instant (moment : Moment) : Int :=
  moment.date.dayNumber * 86400000000 + moment.time.microseconds

/-- Two moments agree when both offsets are known or both are not, and they fall together. -/
def same (m n : Moment) : Bool :=
  m.time.offset.isSome == n.time.offset.isSome && m.instant == n.instant

end Moment

/-- The year, the month and the day at a distance from 1970-01-01, with years before the first
one counted as zero and below. -/
def civil (number : Int) : Int × Nat × Nat :=
  let shifted := number + 719468
  let era := shifted.fdiv 146097
  let dayOfEra := shifted - era * 146097
  let yearOfEra := (dayOfEra - dayOfEra / 1460 + dayOfEra / 36524 - dayOfEra / 146096) / 365
  let dayOfYear := dayOfEra - (365 * yearOfEra + yearOfEra / 4 - yearOfEra / 100)
  let shiftedMonth := (5 * dayOfYear + 2) / 153
  let day := dayOfYear - (153 * shiftedMonth + 2) / 5 + 1
  let month := if shiftedMonth < 10 then shiftedMonth + 3 else shiftedMonth - 9
  (yearOfEra + era * 400 + if month ≤ 2 then 1 else 0, month.toNat, day.toNat)

/-- A number in base ten with its sign, without padding. -/
def plainText (n : Int) : List Char :=
  (if n < 0 then ['-'] else []) ++ padded 1 n.natAbs

/-- The moment in universal time at a number of seconds since the start of 1970, as it stands in
logs: the year is not padded. -/
def stamp (seconds : Int) : List Char :=
  let days := seconds.fdiv 86400
  let rest := (seconds - days * 86400).toNat
  let (year, month, day) := civil days
  plainText year ++ ['-'] ++ padded 2 month ++ ['-'] ++ padded 2 day ++ [' ']
    ++ padded 2 (rest / 3600) ++ [':'] ++ padded 2 (rest / 60 % 60) ++ [':']
    ++ padded 2 (rest % 60)

end SafeSql.Calendar
