import SqlLayer.Binary64
import SqlLayer.Text.Blank
import SqlLayer.Text.Search

/-!
# Numbers at the start of a text

A numeral is an optional sign, ASCII digits with an optional point among or around them, and an
optional exponent. `Numeral.read?` takes the longest one that a text starts with and keeps its
parts as written, so that `Numeral.text` gives the very characters back.

* `leadingNumeralText` — the characters of the leading numeral, blanks before it skipped;
* `Numeral.toInt64` — its value as an integer: exact where it is written as an integer in range,
  else the whole part of the nearest double, **clamped** to the range;
* `Numeral.toBinary64` — the nearest double.
-/

namespace SqlLayer

/-- An exponent as written: its mark, its sign and its digits. -/
structure Numeral.Exponent where
  mark : Char
  sign : Option Char
  digits : List Char
  deriving DecidableEq

/-- A number as written. -/
structure Numeral where
  sign : Option Char
  whole : List Char
  /-- The digits after the point, where there is a point. -/
  fraction : Option (List Char)
  exponent : Option Numeral.Exponent
  deriving DecidableEq

namespace Numeral

/-! ### Reading -/

/-- A leading sign and what follows. -/
def splitSign : List Char → Option Char × List Char
  | [] => (none, [])
  | c :: rest => if c = '+' ∨ c = '-' then (some c, rest) else (none, c :: rest)

/-- The leading digits and what follows. -/
def splitDigits (s : List Char) : List Char × List Char :=
  (s.takeWhile Char.isDigit, s.dropWhile Char.isDigit)

/-- A point with the digits after it. Without digits before it, the point needs some after it. -/
def splitFraction (whole : List Char) : List Char → Option (List Char) × List Char
  | [] => (none, [])
  | c :: rest =>
    let (digits, after) := splitDigits rest
    if c = '.' ∧ ¬(whole = [] ∧ digits = []) then (some digits, after) else (none, c :: rest)

/-- An exponent mark with at least one digit after it. -/
def splitExponent : List Char → Option Exponent × List Char
  | [] => (none, [])
  | c :: rest =>
    let (sign, unsigned) := splitSign rest
    let (digits, after) := splitDigits unsigned
    if (c = 'e' ∨ c = 'E') ∧ digits ≠ [] then (some ⟨c, sign, digits⟩, after)
    else (none, c :: rest)

/-- The longest numeral that a text starts with. -/
def read? (s : List Char) : Option Numeral :=
  let (sign, unsigned) := splitSign s
  let (whole, afterWhole) := splitDigits unsigned
  let (fraction, afterFraction) := splitFraction whole afterWhole
  if whole = [] ∧ fraction.getD [] = [] then none
  else some ⟨sign, whole, fraction, (splitExponent afterFraction).1⟩

/-! ### Writing -/

/-- The characters of an exponent. -/
def Exponent.text (e : Exponent) : List Char := e.mark :: (e.sign.toList ++ e.digits)

/-- The characters of a numeral. -/
def text (n : Numeral) : List Char :=
  n.sign.toList ++ n.whole ++
    (match n.fraction with
      | none => []
      | some digits => '.' :: digits) ++
    (match n.exponent with
      | none => []
      | some e => e.text)

/-! ### Values -/

/-- Whether the number is written with a minus sign. -/
def negative (n : Numeral) : Bool := n.sign == some '-'

/-- The value of an exponent. -/
def Exponent.value (e : Exponent) : Int :=
  if e.sign = some '-' then -(Text.decimal e.digits : Int) else Text.decimal e.digits

/-- The double nearest to the number. -/
def toBinary64 (n : Numeral) : Binary64 :=
  let fraction := n.fraction.getD []
  let exponent := (n.exponent.map Exponent.value).getD 0
  Binary64.ofScientific n.negative (Text.decimal (n.whole ++ fraction))
    (exponent - fraction.length)

/-- The number, where it is written without point and exponent. -/
def integer? (n : Numeral) : Option Int :=
  match n.fraction, n.exponent with
  | none, none => some (if n.negative then -(Text.decimal n.whole : Int) else Text.decimal n.whole)
  | _, _ => none

/-- The number as a 64-bit integer. -/
def toInt64 (n : Numeral) : Int64 :=
  match n.integer? with
  | some i =>
    if Int64.minValue.toInt ≤ i ∧ i ≤ Int64.maxValue.toInt then Int64.ofInt i
    else Int64.ofIntClamp n.toBinary64.truncate
  | none => Int64.ofIntClamp n.toBinary64.truncate

end Numeral

/-- The numeral that a text starts with after its leading blanks. -/
def leadingNumeral? (s : List Char) : Option Numeral := Numeral.read? (Text.trimStart s)

/-- The characters of the numeral that a text starts with after its leading blanks. -/
def leadingNumeralText (s : List Char) : List Char := ((leadingNumeral? s).map Numeral.text).getD []

end SqlLayer
