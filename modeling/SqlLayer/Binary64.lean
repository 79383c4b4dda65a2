/-!
# Doubles as bit patterns

A double is its 64 bits: a sign, eleven exponent bits and fifty-two fraction bits. A finite one
stands for `± significand · 2 ^ scale`, so every operation here is exact arithmetic on integers
followed by one rounding.

* `ofRatio` — a quotient of two naturals, **rounded to the nearest double**, a tie to the even one;
* `ofInt`, `ofScientific`, `ofSingle` — integers, decimals and single-precision numbers;
* `truncate` — the whole part of a finite double, toward zero.
-/

namespace SqlLayer

-- Powers are those of the core library, also where Mathlib has instances of its own.
attribute [instance (10000), default_instance 10000] instPowNat

/-- A double-precision number, by its bit pattern. -/
structure Binary64 where
  bits : UInt64
  deriving DecidableEq, Inhabited

namespace Binary64

/-! ### The parts of a bit pattern -/

/-- The bits below the sign. They order the doubles that are not negative. -/
def magnitude (x : Binary64) : Nat := x.bits.toNat % 2 ^ 63

/-- The sign bit. -/
def negative (x : Binary64) : Bool := 2 ^ 63 ≤ x.bits.toNat

/-- The magnitude of the infinities. Larger ones are no numbers. -/
def infiniteMagnitude : Nat := 2047 * 2 ^ 52

/-- Whether the double is neither infinite nor no number. -/
def isFinite (x : Binary64) : Bool := x.magnitude < infiniteMagnitude

/-- Whether the double is no number. -/
def isNaN (x : Binary64) : Bool := infiniteMagnitude < x.magnitude

/-- Whether the double is one of the two zeros. -/
def isZero (x : Binary64) : Bool := x.magnitude == 0

/-- The exponent bits. -/
def biasedExponent (x : Binary64) : Nat := x.magnitude / 2 ^ 52

/-- The integer that a finite double scales: the fraction, with its leading bit where it has one. -/
def significand (x : Binary64) : Nat :=
  if x.biasedExponent = 0 then x.magnitude else x.magnitude % 2 ^ 52 + 2 ^ 52

/-- The power of two that scales the significand. -/
def scale (x : Binary64) : Int := (max x.biasedExponent 1 : Nat) - 1075

/-- The double with the given sign and magnitude. -/
def ofMagnitude (negative : Bool) (magnitude : Nat) : Binary64 :=
  ⟨UInt64.ofNat (magnitude + if negative then 2 ^ 63 else 0)⟩

/-! ### Rounding -/

/-- A quotient rounded to the nearest natural, a tie to the even one. -/
def roundHalfEven (num den : Nat) : Nat :=
  let q := num / den
  let r := num % den
  if 2 * r < den then q else if den < 2 * r then q + 1 else if q % 2 = 0 then q else q + 1

/-- The greatest `e` with `2 ^ e ≤ num / den`, for positive `num` and `den`. -/
def floorLog2 (num den : Nat) : Int :=
  let e : Int := (Nat.log2 num : Int) - Nat.log2 den
  let reached := if 0 ≤ e then den * 2 ^ e.toNat ≤ num else den ≤ num * 2 ^ (-e).toNat
  if reached then e else e - 1

/-- The magnitude of the double nearest to `num / den`. Quotients beyond the greatest finite
double give infinity, and a carry into the next binade is a carry into the exponent bits. -/
def nearestMagnitude (num den : Nat) : Nat :=
  if num = 0 then 0
  else
    let scale := max (-1074) (floorLog2 num den - 52)
    let significand :=
      if 0 ≤ scale then roundHalfEven num (den * 2 ^ scale.toNat)
      else roundHalfEven (num * 2 ^ (-scale).toNat) den
    min infiniteMagnitude ((scale + 1074).toNat * 2 ^ 52 + significand)

/-- The double nearest to `± num / den`. -/
def ofRatio (negative : Bool) (num den : Nat) : Binary64 :=
  ofMagnitude negative (nearestMagnitude num den)

/-- The double nearest to an integer. -/
def ofInt (n : Int) : Binary64 := ofRatio (decide (n < 0)) n.natAbs 1

/-- The double nearest to `± coefficient · 10 ^ exponent`. Decimals of more than 310 places before
the point are beyond every finite double, and those below `10 ^ -330` are nearest to zero. -/
def ofScientific (negative : Bool) (coefficient : Nat) (exponent : Int) : Binary64 :=
  let places : Int := (Nat.toDigits 10 coefficient).length + exponent
  if coefficient = 0 ∨ places < -330 then ofMagnitude negative 0
  else if 310 < places then ofMagnitude negative infiniteMagnitude
  else if 0 ≤ exponent then ofRatio negative (coefficient * 10 ^ exponent.toNat) 1
  else ofRatio negative coefficient (10 ^ (-exponent).toNat)

/-- The double that equals a single-precision number, given by its bit pattern. -/
def ofSingle (bits : UInt32) : Binary64 :=
  let n := bits.toNat
  let negative : Bool := 2 ^ 31 ≤ n
  let biased := n / 2 ^ 23 % 256
  let fraction := n % 2 ^ 23
  if biased = 255 then ofMagnitude negative (infiniteMagnitude + fraction * 2 ^ 29)
  else if biased = 0 then ofRatio negative fraction (2 ^ 149)
  else ofRatio negative ((fraction + 2 ^ 23) * 2 ^ biased) (2 ^ 150)

/-! ### The whole part -/

/-- The whole part of a finite double, toward zero; zero for infinities and for no number. -/
def truncate (x : Binary64) : Int :=
  if x.isFinite then
    let whole :=
      if 0 ≤ x.scale then x.significand * 2 ^ x.scale.toNat
      else x.significand / 2 ^ (-x.scale).toNat
    if x.negative then -(whole : Int) else whole
  else 0

end Binary64

end SqlLayer
