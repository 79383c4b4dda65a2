/-!
# Dates and times of day

The proleptic Gregorian calendar with astronomical year numbers, and times of day with
nanoseconds. Neither carries a time zone.

* `Date` — a valid date; **its fields are checked by the type**;
* `TimeOfDay` — a valid time; nanoseconds of a billion or more mean **a leap second behind the
  second that the time names**, which need not be the last one of its minute;
* `Date.dayNumber` — days since 1970-01-01;
* `DateTime.timestamp` — seconds since the start of 1970, which do not count leap seconds.
-/

namespace SqlLayer

/-- Whether a year has a 29 February. -/
def isLeapYear (year : Int) : Bool := year % 4 = 0 && (year % 100 != 0 || year % 400 = 0)

/-- The number of days of a month, counted from 1; zero for what is no month. -/
def daysInMonth (year : Int) (month : Nat) : Nat :=
  if month = 2 then (if isLeapYear year then 29 else 28)
  else if month = 4 ∨ month = 6 ∨ month = 9 ∨ month = 11 then 30
  else if 1 ≤ month ∧ month ≤ 12 then 31
  else 0

/-- The least year of a date. -/
def minYear : Int := -262143

/-- The greatest year of a date. -/
def maxYear : Int := 262142

/-- A date. -/
structure Date where
  year : Int
  month : Nat
  day : Nat
  /-- The year is in range. -/
  year_mem : minYear ≤ year ∧ year ≤ maxYear
  /-- The month has this day. -/
  day_mem : 1 ≤ day ∧ day ≤ daysInMonth year month
  deriving DecidableEq

/-- A time of day. -/
structure TimeOfDay where
  hour : Nat
  minute : Nat
  second : Nat
  nano : Nat
  hour_lt : hour < 24
  minute_lt : minute < 60
  second_lt : second < 60
  /-- The second billion counts the leap second that follows. -/
  nano_lt : nano < 2000000000
  deriving DecidableEq

/-- A date with a time of day. -/
structure DateTime where
  date : Date
  time : TimeOfDay
  deriving DecidableEq

/-! ### Checked construction -/

/-- The date with these fields, if there is one. -/
def Date.ofFields? (year : Int) (month day : Nat) : Option Date :=
  if hy : minYear ≤ year ∧ year ≤ maxYear then
    if hd : 1 ≤ day ∧ day ≤ daysInMonth year month then some ⟨year, month, day, hy, hd⟩ else none
  else none

/-- The time of day with these fields, if there is one. A leap second can be had behind second 59
only, where minutes have theirs. -/
def TimeOfDay.ofFields? (hour minute second nano : Nat) : Option TimeOfDay :=
  if hh : hour < 24 then
    if hm : minute < 60 then
      if hs : second < 60 then
        if hn : nano < 1000000000 ∨ (second = 59 ∧ nano < 2000000000) then
          some ⟨hour, minute, second, nano, hh, hm, hs, by omega⟩
        else none
      else none
    else none
  else none

/-- Midnight. -/
def TimeOfDay.midnight : TimeOfDay :=
  ⟨0, 0, 0, 0, by decide, by decide, by decide, by decide⟩

/-- 1970-01-01. -/
def Date.epoch : Date := ⟨1970, 1, 1, by decide, by decide⟩

instance : Inhabited Date := ⟨Date.epoch⟩
instance : Inhabited TimeOfDay := ⟨TimeOfDay.midnight⟩
instance : Inhabited DateTime := ⟨⟨Date.epoch, TimeOfDay.midnight⟩⟩

/-! ### Counting days and seconds -/

/-- Days from 1 March of year 0 to a date. Years are counted from March, so that a leap day comes
last. -/
def Date.daysFromMarchZero (d : Date) : Int :=
  let year := if d.month ≤ 2 then d.year - 1 else d.year
  let month := (d.month + 9) % 12
  365 * year + year / 4 - year / 100 + year / 400 + ((153 * month + 2) / 5 : Nat) + d.day - 1

/-- Days since 1970-01-01. -/
def Date.dayNumber (d : Date) : Int := d.daysFromMarchZero - 719468

/-- Seconds since midnight. A leap second counts as the second before it. -/
def TimeOfDay.seconds (t : TimeOfDay) : Nat := (t.hour * 60 + t.minute) * 60 + t.second

/-- Seconds since the start of 1970. -/
def DateTime.timestamp (t : DateTime) : Int := t.date.dayNumber * 86400 + t.time.seconds

/-! ### Dates from a count of days -/

/-- Year, month and day of the date that many days after 1 March of year 0. -/
def fieldsOfDaysFromMarchZero (days : Int) : Int × Nat × Nat :=
  let era := days / 146097
  let dayOfEra := (days % 146097).toNat
  let yearOfEra := (dayOfEra - dayOfEra / 1460 + dayOfEra / 36524 - dayOfEra / 146096) / 365
  let dayOfYear := dayOfEra - (365 * yearOfEra + yearOfEra / 4 - yearOfEra / 100)
  let month := (5 * dayOfYear + 2) / 153
  let day := dayOfYear - (153 * month + 2) / 5 + 1
  let year := (yearOfEra : Int) + era * 400
  (if month < 10 then year else year + 1, if month < 10 then month + 3 else month - 9, day)

end SqlLayer
