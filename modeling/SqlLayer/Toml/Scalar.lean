import SqlLayer.Binary64
import SqlLayer.Calendar.Text
import SqlLayer.Json
import SqlLayer.Text.Search
import SqlLayer.Toml.Quoted

/-!
# Numbers, truth values and moments in TOML

Scalars that stand without quotes. Digits may be grouped by single underscores. A moment has no
counterpart in a tree, so it becomes an object with one member, named `momentKey`.

* `integer?`, `float?`, `moment?` — the scalars of each kind;
* `scalar?` — the tree of a scalar.
-/

namespace SqlLayer.Toml

/-! ### Numbers -/

/-- The digits of groups between single underscores. -/
def digits? (isDigit : Char → Bool) (s : List Char) : Option (List Char) :=
  let groups := s.splitOn '_'
  if groups.all fun group => !group.isEmpty && group.all isDigit then some groups.flatten
  else none

/-- Decimal digits without a leading zero. -/
def decimalDigits? (s : List Char) : Option (List Char) :=
  match s with
  | '0' :: _ :: _ => none
  | _ => digits? Char.isDigit s

/-- The number that digits of a base denote, after the mark of the base. -/
def basedNat? (base : Nat) (s : List Char) : Option Nat := do
  let isDigit (c : Char) : Bool := (Text.hexValue? c).any (· < base)
  let digits ← digits? isDigit s
  return digits.foldl (fun n c => n * base + (Text.hexValue? c).getD 0) 0

/-- A sign, and whether it is a minus. -/
def sign (s : List Char) : Bool × List Char :=
  match s with
  | '-' :: rest => (true, rest)
  | '+' :: rest => (false, rest)
  | _ => (false, s)

/-- The number that decimal digits denote after a sign. -/
def signedNumber (negative : Bool) (digits : List Char) : Int :=
  if negative then -(Text.decimal digits : Int) else Text.decimal digits

/-- An integer of any size. -/
def anyInteger? : List Char → Option Int
  | '0' :: 'x' :: rest => (basedNat? 16 rest).map Int.ofNat
  | '0' :: 'o' :: rest => (basedNat? 8 rest).map Int.ofNat
  | '0' :: 'b' :: rest => (basedNat? 2 rest).map Int.ofNat
  | s => (decimalDigits? (sign s).2).map (signedNumber (sign s).1)

/-- An integer that 128 bits can hold. -/
def integer? (s : List Char) : Option Int :=
  (anyInteger? s).filter fun n => -(2 ^ 127 : Int) ≤ n ∧ n < 2 ^ 128

/-- What stands before and after the first character of a class. -/
def splitAt? (isMark : Char → Bool) (s : List Char) : List Char × Option (List Char) :=
  let before := s.takeWhile fun c => !isMark c
  match s.drop before.length with
  | [] => (before, none)
  | _ :: after => (before, some after)

/-- The exponent of a double; zero where there is none. -/
def exponent? : Option (List Char) → Option Int
  | none => some 0
  | some s => (digits? Char.isDigit (sign s).2).map (signedNumber (sign s).1)

/-- The digits after the point; none where there is no point. -/
def fraction? : Option (List Char) → Option (List Char)
  | none => some []
  | some s => digits? Char.isDigit s

/-- A double written in decimal: it has a fraction, an exponent or both, and is not too great. -/
def decimalFloat? (negative : Bool) (s : List Char) : Option Binary64 := do
  let (mantissa, exponent) := splitAt? (fun c => c = 'e' ∨ c = 'E') s
  let (whole, fraction) := splitAt? (· = '.') mantissa
  if fraction = none ∧ exponent = none then none
  else do
    let whole ← decimalDigits? whole
    let fraction ← fraction? fraction
    let exponent ← exponent? exponent
    let x := Binary64.ofScientific negative (Text.decimal (whole ++ fraction))
      (exponent - fraction.length)
    if x.isFinite then some x else none

/-- A double. -/
def float? (s : List Char) : Option Binary64 :=
  let (negative, rest) := sign s
  if rest = ['i', 'n', 'f'] then some (.ofMagnitude negative Binary64.infiniteMagnitude)
  else if rest = ['n', 'a', 'n'] then
    some (.ofMagnitude negative (Binary64.infiniteMagnitude + 2 ^ 51))
  else decimalFloat? negative rest

/-! ### Moments -/

/-- A number of exactly `width` digits that is at most `greatest`, and what follows. -/
def field? (width greatest : Nat) (s : List Char) : Option (Nat × List Char) :=
  let digits := s.take width
  if digits.length = width ∧ Text.allDigits digits ∧ Text.decimal digits ≤ greatest then
    some (Text.decimal digits, s.drop width)
  else none

/-- What follows a character. -/
def after? (c : Char) : List Char → Option (List Char)
  | d :: rest => if d = c then some rest else none
  | [] => none

/-- A date, and what follows. -/
def date? (s : List Char) : Option (Date × List Char) := do
  let (year, s) ← field? 4 9999 s
  let (month, s) ← field? 2 12 (← after? '-' s)
  let (day, s) ← field? 2 31 (← after? '-' s)
  let d ← Date.ofFields? year month day
  return (d, s)

/-- The fraction of a second: at most nine digits of it count, and final zeros do not show. -/
def fractionText (digits : List Char) : List Char :=
  match ((digits.take 9).reverse.dropWhile (· = '0')).reverse with
  | [] => []
  | shown => '.' :: shown

/-- The seconds of a time, which may be left out, and their fraction. -/
def secondsText? : List Char → Option (List Char × List Char)
  | ':' :: s => do
    let (second, s) ← field? 2 60 s
    match s with
    | '.' :: s =>
      let digits := s.takeWhile Char.isDigit
      if digits = [] then none
      else some (padded 2 second ++ fractionText digits, s.drop digits.length)
    | _ => some (padded 2 second, s)
  | s => some (padded 2 0, s)

/-- The text of a time, and what follows. -/
def timeText? (s : List Char) : Option (List Char × List Char) := do
  let (hour, s) ← field? 2 23 s
  let (minute, s) ← field? 2 59 (← after? ':' s)
  let (seconds, s) ← secondsText? s
  return (padded 2 hour ++ ':' :: padded 2 minute ++ ':' :: seconds, s)

/-- The text of a distance from universal time: the letter, or a sign with hours and minutes. No
distance at all has a plus, however it was signed. -/
def offsetText? : List Char → Option (List Char)
  | [] => some []
  | ['Z'] => some ['Z']
  | ['z'] => some ['Z']
  | c :: s => do
    if c = '+' ∨ c = '-' then
      let (hour, s) ← field? 2 23 s
      let (minute, s) ← field? 2 59 (← after? ':' s)
      let sign := if hour = 0 ∧ minute = 0 then '+' else c
      if s = [] then some (sign :: padded 2 hour ++ ':' :: padded 2 minute) else none
    else none

/-- A date, a time or both, as normalised text. -/
def moment? (s : List Char) : Option (List Char) :=
  match date? s with
  | none => do
    let (time, s) ← timeText? s
    if s = [] then some time else none
  | some (d, []) => some d.chars
  | some (d, c :: s) => do
    if c = 'T' ∨ c = 't' ∨ c = ' ' then
      let (time, s) ← timeText? s
      let offset ← offsetText? s
      return d.chars ++ 'T' :: time ++ offset
    else none

/-- The name of the member that holds a moment. -/
def momentKey : String := "$__toml_private_datetime"

/-! ### Scalars -/

/-- The tree of a scalar. -/
def scalar? (s : List Char) : Option Json :=
  if s = ['t', 'r', 'u', 'e'] then some (.bool true)
  else if s = ['f', 'a', 'l', 's', 'e'] then some (.bool false)
  else
    match integer? s, float? s, moment? s with
    | some n, _, _ => some (.int n)
    | none, some x, _ => some (.float x)
    | none, none, some m => some (.object [(momentKey, .text (String.ofList m))])
    | none, none, none => none

/-- Whether a character may stand in a scalar. -/
def isScalarChar (c : Char) : Bool :=
  c.isAlphanum || c = '+' || c = '-' || c = '_' || c = '.' || c = ':'

/-- The characters of the scalar that a text starts with, and what follows. A date and a time may
stand with a blank between them. -/
def spanScalar (s : List Char) : List Char × List Char :=
  let word := s.takeWhile isScalarChar
  let rest := s.drop word.length
  match date? word, rest with
  | some (_, []), ' ' :: c :: more =>
    if c.isDigit then
      let time := (c :: more).takeWhile isScalarChar
      (word ++ ' ' :: time, (c :: more).drop time.length)
    else (word, rest)
  | _, _ => (word, rest)

end SqlLayer.Toml
