import SqlLayer.Binary64.Shortest

/-!
# Doubles as text

A `Layout` holds the decisions of one written form: where positional notation ends, whether whole
numbers keep a fraction, how an exponent is marked. Three forms are in use.

* `plain` — always positional, whole numbers without a fraction;
* `literal` — whole numbers keep `.0`, exponents outside `10 ^ -4 … 10 ^ 16`;
* `json` — as `literal`, positional down to `10 ^ -5` and with a sign on every exponent.
-/

namespace SqlLayer.Binary64

/-- The decisions of one written form. -/
structure Layout where
  /-- The least and the first too great place of a leading digit that is written positionally;
  `none` where every number is. -/
  positional : Option (Int × Int)
  /-- Whether a whole number in positional notation ends in `.0`. -/
  keepsFraction : Bool
  /-- What stands before an exponent that is not negative. -/
  plus : List Char
  /-- Which digits an exact tie takes. -/
  tie : DigitTie

/-- The form of a number among other text. -/
def plain : Layout := ⟨none, false, [], .away⟩

/-- The form of a number in diagnostics and in SQL. -/
def literal : Layout := ⟨some (-4, 16), true, [], .away⟩

/-- The form of a number in JSON. -/
def json : Layout := ⟨some (-5, 16), true, ['+'], .toEven⟩

/-- Digits with a decimal point at `exponent`, filled up with zeros. -/
def positionalText (keepsFraction : Bool) (digits : List Char) (exponent : Int) : List Char :=
  if 0 ≤ exponent then
    digits ++ List.replicate exponent.toNat '0' ++ if keepsFraction then ['.', '0'] else []
  else
    let places := (-exponent).toNat
    let padded := List.replicate (places + 1 - digits.length) '0' ++ digits
    padded.take (padded.length - places) ++ '.' :: padded.drop (padded.length - places)

/-- One leading digit, the others after a point, then the exponent. -/
def exponentText (plus : List Char) (digits : List Char) (leading : Int) : List Char :=
  let fraction := match digits.drop 1 with
    | [] => []
    | rest => '.' :: rest
  digits.take 1 ++ fraction ++ 'e' ::
    (if leading < 0 then '-' :: Nat.toDigits 10 leading.natAbs
     else plus ++ Nat.toDigits 10 leading.natAbs)

/-- The text of a positive finite double. -/
def Layout.positiveText (l : Layout) (x : Binary64) : List Char :=
  let s := x.shortest l.tie
  let digits := Nat.toDigits 10 s.coefficient
  let leading := s.exponent + digits.length - 1
  let positional := match l.positional with
    | none => true
    | some (low, high) => low ≤ leading && leading < high
  if positional then positionalText l.keepsFraction digits s.exponent
  else exponentText l.plus digits leading

/-- The text of a double. -/
def Layout.text (l : Layout) (x : Binary64) : String :=
  let sign := if x.negative then ['-'] else []
  if x.isNaN then "NaN"
  else if x.isZero then String.ofList (sign ++ positionalText l.keepsFraction ['0'] 0)
  else if x.isFinite then String.ofList (sign ++ l.positiveText x)
  else String.ofList (sign ++ ['i', 'n', 'f'])

end SqlLayer.Binary64
