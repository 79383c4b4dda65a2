import SqlLayer.Calendar
import SqlLayer.Text.Blank
import SqlLayer.Text.Search

/-!
# Dates and times from text

Blanks may stand before every field and before the marks between fields. Fields may be shorter
than they are written, a year with a sign may be longer, and second 60 is a leap second. What is
read runs to the end of the text.
-/

namespace SqlLayer.Calendar

open SqlLayer.Text

/-- One to `width` digits after blanks. -/
def readField (width : Nat) (s : List Char) : Option (Nat × List Char) :=
  let s := trimStart s
  let digits := (s.take width).takeWhile Char.isDigit
  if digits = [] then none else some (decimal digits, s.drop digits.length)

/-- A year after blanks: up to four digits, or any number of digits after a sign. -/
def readYear (s : List Char) : Option (Int × List Char) :=
  match trimStart s with
  | '-' :: rest =>
    if rest.head?.any Char.isDigit then
      (readField rest.length rest).map fun r => (-(r.1 : Int), r.2)
    else none
  | '+' :: rest =>
    if rest.head?.any Char.isDigit then
      (readField rest.length rest).map fun r => ((r.1 : Int), r.2)
    else none
  | rest => (readField 4 rest).map fun r => ((r.1 : Int), r.2)

/-- A mark after blanks. -/
def readMark (mark : Char) (s : List Char) : Option (List Char) :=
  match trimStart s with
  | c :: rest => if c = mark then some rest else none
  | [] => none

/-- A fraction of a second in nanoseconds, where there is a point; digits after the ninth do not
count. -/
def readFraction (s : List Char) : Option (Nat × List Char) :=
  match s with
  | '.' :: rest =>
    let digits := (rest.take 9).takeWhile Char.isDigit
    if digits = [] then none
    else some (decimal digits * 10 ^ (9 - digits.length), rest.dropWhile Char.isDigit)
  | _ => some (0, s)

/-- Year, month and day. -/
def readDate (s : List Char) : Option ((Int × Nat × Nat) × List Char) := do
  let (year, s) ← readYear s
  let s ← readMark '-' s
  let (month, s) ← readField 2 s
  let s ← readMark '-' s
  let (day, s) ← readField 2 s
  some ((year, month, day), s)

/-- A mark, seconds and their fraction. -/
def readSeconds (s : List Char) : Option ((Nat × Nat) × List Char) := do
  let s ← readMark ':' s
  let (second, s) ← readField 2 s
  let (nano, s) ← readFraction s
  some ((second, nano), s)

/-- The time with these fields, where second 60 is a leap second. -/
def timeOfFields? (hour minute second nano : Nat) : Option TimeOfDay :=
  if second = 60 then TimeOfDay.ofFields? hour minute 59 (nano + 1000000000)
  else TimeOfDay.ofFields? hour minute second nano

end Calendar

open Calendar

/-- The date that a text writes. -/
def Date.read? (s : String) : Option Date := do
  let ((year, month, day), rest) ← readDate s.toList
  if Text.trimStart rest = [] then Date.ofFields? year month day else none

/-- The time that a text writes; the seconds may be missing. -/
def TimeOfDay.read? (s : String) : Option TimeOfDay := do
  let (hour, rest) ← readField 2 s.toList
  let rest ← readMark ':' rest
  let (minute, rest) ← readField 2 rest
  let ((second, nano), rest) := (readSeconds rest).getD ((0, 0), rest)
  if Text.trimStart rest = [] then timeOfFields? hour minute second nano else none

/-- The date and time that a text writes, with a `T` between them. -/
def DateTime.read? (s : String) : Option DateTime := do
  let ((year, month, day), rest) ← readDate s.toList
  let rest ← readMark 'T' rest
  let (hour, rest) ← readField 2 rest
  let rest ← readMark ':' rest
  let (minute, rest) ← readField 2 rest
  let ((second, nano), rest) ← readSeconds rest
  if Text.trimStart rest = [] then
    let date ← Date.ofFields? year month day
    let time ← timeOfFields? hour minute second nano
    some ⟨date, time⟩
  else none

end SqlLayer
