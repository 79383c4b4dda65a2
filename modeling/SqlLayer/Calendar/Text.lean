import SqlLayer.Calendar

/-!
# Dates and times as text

Fields stand in fixed widths: two digits, four for the year. A year outside 0 to 9999 has a sign
and at least four digits. A leap second shows as the second after the one that it follows, which is
second 60 at the end of a minute.
-/

namespace SqlLayer

/-- A number in at least `width` digits. -/
def padded (width n : Nat) : List Char :=
  let digits := Nat.toDigits 10 n
  List.replicate (width - digits.length) '0' ++ digits

/-- A year. -/
def yearText (year : Int) : List Char :=
  if 0 ≤ year ∧ year ≤ 9999 then padded 4 year.toNat
  else (if year < 0 then '-' else '+') :: padded 4 year.natAbs

/-- A date: `2024-02-29`. -/
def Date.chars (d : Date) : List Char :=
  yearText d.year ++ '-' :: padded 2 d.month ++ '-' :: padded 2 d.day

/-- The second as it shows: one more in a leap second. -/
def TimeOfDay.shownSecond (t : TimeOfDay) : Nat := t.second + t.nano / 1000000000

/-- A time to the second: `13:05:00`. -/
def TimeOfDay.clockChars (t : TimeOfDay) : List Char :=
  padded 2 t.hour ++ ':' :: padded 2 t.minute ++ ':' :: padded 2 t.shownSecond

/-- The fraction of a second in three, six or nine digits, or nothing where it is zero. -/
def TimeOfDay.fractionChars (t : TimeOfDay) : List Char :=
  let nano := t.nano % 1000000000
  if nano = 0 then []
  else if nano % 1000000 = 0 then '.' :: padded 3 (nano / 1000000)
  else if nano % 1000 = 0 then '.' :: padded 6 (nano / 1000)
  else '.' :: padded 9 nano

/-- A time with its fraction: `13:05:00.250`. -/
def TimeOfDay.preciseChars (t : TimeOfDay) : List Char := t.clockChars ++ t.fractionChars

/-- A date. -/
def Date.text (d : Date) : String := String.ofList d.chars

/-- A time to the second. -/
def TimeOfDay.clockText (t : TimeOfDay) : String := String.ofList t.clockChars

/-- A time with its fraction. -/
def TimeOfDay.preciseText (t : TimeOfDay) : String := String.ofList t.preciseChars

/-- A date and a time to the second, with a blank between them. -/
def DateTime.clockText (t : DateTime) : String :=
  String.ofList (t.date.chars ++ ' ' :: t.time.clockChars)

/-- A date and a time with its fraction, with a `T` between them. -/
def DateTime.preciseText (t : DateTime) : String :=
  String.ofList (t.date.chars ++ 'T' :: t.time.preciseChars)

end SqlLayer
