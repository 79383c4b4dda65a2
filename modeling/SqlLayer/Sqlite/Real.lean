import SqlLayer.Extended
import SqlLayer.Numeral

/-!
# Doubles of the SQLite engine

The engine reads a decimal into an integer of 64 bits and a power of ten, and multiplies the two in
the extended format. Its doubles may lie next to the nearest one.

* `scaled` — an extended number times a power of ten, in steps of 100, 10 and one place;
* `real` — the double that a numeral denotes.
-/

namespace SqlLayer.Sqlite

/-- Digits count while the integer they denote is below this bound. -/
def digitBound : Nat := (2 ^ 64 - 10) / 10

/-- The greatest size of a written exponent. Greater ones count as this one. -/
def greatestExponent : Nat := 10000

/-- Moves places from a power of ten into the integer before it, while it has room. -/
def absorbPlaces : Nat → Nat → Nat × Nat
  | 0, n => (n, 0)
  | places + 1, n =>
    if n < (2 ^ 64 - 1) / 10 then absorbPlaces places (10 * n) else (n, places + 1)

/-- Takes final zeros off an integer, as many as a negative power of ten has places. -/
def cancelPlaces : Nat → Nat → Nat × Nat
  | 0, n => (n, 0)
  | places + 1, n => if n % 10 = 0 then cancelPlaces places (n / 10) else (n, places + 1)

/-- A power of ten as an extended number; `down` makes its exponent negative. -/
def powerOfTen (down : Bool) (places : Nat) : Extended :=
  if down then Extended.ofRatio 1 (10 ^ places) else Extended.ofRatio (10 ^ places) 1

/-- An extended number times the same factor, `count` times. -/
def mulRepeatedly (factor : Extended) : Nat → Extended → Extended
  | 0, x => x
  | count + 1, x => mulRepeatedly factor count (x.mul factor)

/-- An extended number times a power of ten. The greatest steps come first. -/
def scaled (down : Bool) (places : Nat) (x : Extended) : Extended :=
  let x := mulRepeatedly (powerOfTen down 100) (places / 100) x
  let x := mulRepeatedly (powerOfTen down 10) (places % 100 / 10) x
  mulRepeatedly (powerOfTen down 1) (places % 10) x

/-- The exponent of a numeral, no greater than the greatest. -/
def exponentOf (n : Numeral) : Int :=
  match n.exponent with
  | none => 0
  | some e => max (-(greatestExponent : Int)) (min greatestExponent e.value)

/-- The extended number that a numeral denotes, its sign aside. -/
def extendedOf (n : Numeral) : Extended :=
  let digits := n.whole ++ n.fraction.getD []
  let (integer, unused) := Text.decimalWhile (fun n _ => n < digitBound) 0 digits
  let used := digits.length - unused.length
  let exponent := exponentOf n + n.whole.length - used
  if 0 ≤ exponent then
    let (integer, places) := absorbPlaces exponent.toNat integer
    scaled false places (Extended.ofRatio integer 1)
  else
    let (integer, places) := cancelPlaces (-exponent).toNat integer
    scaled true places (Extended.ofRatio integer 1)

/-- The double that a numeral denotes. -/
def real (n : Numeral) : Binary64 := (extendedOf n).toBinary64 n.negative

end SqlLayer.Sqlite
