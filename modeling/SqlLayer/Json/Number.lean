import SqlLayer.Binary64.Arithmetic
import SqlLayer.Json
import SqlLayer.Numeral

/-!
# Numbers in JSON texts

A number without point and exponent that 64 bits can hold is an integer. Every other number is a
double, read fast rather than to the last bit: the leading digits make an integer of 64 bits, which
is rounded, and a power of ten multiplies or divides it, which rounds again.

* `isNumber` — which numerals are numbers of JSON;
* `scaledDouble?` — an integer of 64 bits times a power of ten;
* `ofNumeral?` — the tree of a number; none where the number is too great.
-/

namespace SqlLayer.Json

/-- Whether a numeral is a number of JSON: no plus sign in front, no leading zero, and digits on
both sides of a point. -/
def isNumber (n : Numeral) : Bool :=
  n.sign ≠ some '+' && n.fraction ≠ some [] &&
    match n.whole with
    | [] => false
    | '0' :: rest => rest.isEmpty
    | _ => true

/-- Whether a digit may follow an integer of 64 bits. -/
def hasRoom (n d : Nat) : Bool := 10 * n + d < 2 ^ 64

/-- The greatest power of ten that is a double, by its exponent. -/
def greatestPower : Nat := 308

/-- The double nearest to a power of ten. -/
def powerOfTen (places : Nat) : Binary64 := Binary64.ofRatio false (10 ^ places) 1

/-- A double divided by the greatest power of ten, `count` times. Zero stays zero. -/
def divRepeatedly : Nat → Binary64 → Binary64
  | 0, x => x
  | count + 1, x =>
    if x.isZero then x else divRepeatedly count (x.div (powerOfTen greatestPower))

/-- An integer of 64 bits times a power of ten; none where that is too great. -/
def scaledDouble? (negative : Bool) (n : Nat) (exponent : Int) : Option Binary64 :=
  let x := Binary64.ofRatio negative n 1
  if 0 ≤ exponent then
    if exponent ≤ greatestPower then
      some (x.mul (powerOfTen exponent.toNat)) |>.filter Binary64.isFinite
    else if n = 0 then some x
    else none
  else
    let steps := ((-exponent).toNat - 1) / greatestPower
    let places := (-exponent).toNat - steps * greatestPower
    some ((divRepeatedly steps x).div (powerOfTen places))

/-- The double of a number; none where the number is too great. A digit for which there is no room
only counts as a place, and after the point not at all. -/
def double? (n : Numeral) : Option Binary64 :=
  let fraction := n.fraction.getD []
  let (whole, places) := Text.decimalWhile hasRoom 0 n.whole
  let (integer, unused) := Text.decimalWhile hasRoom whole fraction
  let exponent := (n.exponent.map Numeral.Exponent.value).getD 0
  scaledDouble? n.negative integer
    (exponent + places.length - (fraction.length - unused.length : Nat))

/-- Whether 64 bits can hold an integer, with a sign where it has one. Zero with a sign needs a
double. -/
def fitsInteger (negative : Bool) (n : Int) : Bool :=
  if negative then -(2 ^ 63) ≤ n && n < 0 else n < 2 ^ 64

/-- The tree of a number; none where the number is too great. -/
def ofNumeral? (n : Numeral) : Option Json :=
  match n.integer?.filter (fitsInteger n.negative) with
  | some i => some (.int i)
  | none => (double? n).map .float

end SqlLayer.Json
