import SqlLayer.Binary64

/-!
# The shortest decimal that reads back

The decimals that round to a positive finite double form an interval around it. `shortest` looks
for the coarsest decimal grid with a point in that interval and takes the point nearest to the
double. On each grid only the two neighbours of the double need a look: if any point of the grid
lies in the interval, then one of these two does.
-/

namespace SqlLayer

/-- The number `coefficient · 10 ^ exponent`. -/
structure Scientific where
  coefficient : Nat
  exponent : Int
  deriving DecidableEq, Inhabited

namespace Scientific

/-- The same number without zeros at the end of a positive coefficient. -/
def normalize (s : Scientific) : Scientific :=
  let digits := (Nat.toDigits 10 s.coefficient).reverse
  let zeros := (digits.takeWhile (· == '0')).length
  if s.coefficient = 0 then s else ⟨s.coefficient / 10 ^ zeros, s.exponent + zeros⟩

end Scientific

namespace Binary64

/-- A positive double with the interval of numbers that round to it, as numerators over one
denominator. -/
structure Neighbourhood where
  low : Nat
  value : Nat
  high : Nat
  den : Nat
  /-- Whether the ends belong to the interval. -/
  closed : Bool

/-- The interval ends half-way to the two neighbours; below a power of two the lower neighbour is
only half as far. -/
def neighbourhood (x : Binary64) : Neighbourhood :=
  let m := x.significand
  let below := if m = 2 ^ 52 ∧ 1 < x.biasedExponent then 1 else 2
  let quarter := x.scale - 2
  let unit := if 0 ≤ quarter then 2 ^ quarter.toNat else 1
  { low := (4 * m - below) * unit
    value := 4 * m * unit
    high := (4 * m + 2) * unit
    den := if 0 ≤ quarter then 1 else 2 ^ (-quarter).toNat
    closed := m % 2 = 0 }

/-- The place of the leading decimal digit of `num / den`: the greatest `e` with
`10 ^ e ≤ num / den`. -/
def leadingPlace (num den : Nat) : Int :=
  if den ≤ num then ((Nat.toDigits 10 (num / den)).length : Int) - 1
  else
    let quotient := (den - 1) / num
    if quotient = 0 then 0 else -((Nat.toDigits 10 quotient).length : Int)

/-- Which neighbour an exact tie between two grid points goes to. -/
inductive DigitTie
  | toEven
  | away
  deriving DecidableEq

/-- The point of the grid `10 ^ place` in the interval that is nearest to the value, if any. -/
def Neighbourhood.gridPoint? (n : Neighbourhood) (tie : DigitTie) (place : Int) : Option Nat :=
  let up := 10 ^ (-place).toNat
  let down := 10 ^ place.toNat
  let step := n.den * down
  let floor := n.value * up / step
  let within (p : Nat) : Bool :=
    let s := p * step
    (n.low * up < s && s < n.high * up) || (n.closed && (s == n.low * up || s == n.high * up))
  let rest := 2 * (n.value * up % step)
  let nearer :=
    if rest < step then floor
    else if step < rest then floor + 1
    else
      match tie with
      | .toEven => if floor % 2 = 0 then floor else floor + 1
      | .away => floor + 1
  if within nearer then some nearer
  else if within floor then some floor
  else if within (floor + 1) then some (floor + 1)
  else none

/-- The first grid with a point in the interval, from `digits` digits on; `fuel` bounds the
number of grids. -/
def Neighbourhood.firstPoint (n : Neighbourhood) (tie : DigitTie) (leading : Int) :
    Nat → Nat → Scientific
  | 0, _ => ⟨n.value / n.den, 0⟩
  | fuel + 1, digits =>
    let place := leading + 1 - digits
    match n.gridPoint? tie place with
    | some p => ⟨p, place⟩
    | none => n.firstPoint tie leading fuel (digits + 1)

/-- The shortest decimal that rounds to a positive finite double, the nearest one of that length.
Seventeen digits always suffice. -/
def shortest (tie : DigitTie) (x : Binary64) : Scientific :=
  let n := x.neighbourhood
  (n.firstPoint tie (leadingPlace n.value n.den) 17 1).normalize

end Binary64

end SqlLayer
