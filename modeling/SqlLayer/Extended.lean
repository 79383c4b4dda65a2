import SqlLayer.Binary64

/-!
# Numbers of 64 significant bits

An extended number is `significand · 2 ^ scale` with a significand of at most 64 bits and a scale
without bounds. Readers of decimals that work in this format round after every multiplication, so
their last bit differs from that of the nearest double.

* `ofRatio` — a quotient of two naturals, rounded to the nearest extended number;
* `mul` — a product, **rounded once**;
* `toBinary64` — the nearest double; infinity above the greatest one.
-/

namespace SqlLayer

/-- A number of 64 significant bits that is not negative. -/
structure Extended where
  significand : Nat
  scale : Int
  deriving DecidableEq

namespace Extended

/-- The extended number nearest to `num / den`, a tie to the even one. -/
def ofRatio (num den : Nat) : Extended :=
  if num = 0 then ⟨0, 0⟩
  else
    let scale := Binary64.floorLog2 num den - 63
    if 0 ≤ scale then ⟨Binary64.roundHalfEven num (den * 2 ^ scale.toNat), scale⟩
    else ⟨Binary64.roundHalfEven (num * 2 ^ (-scale).toNat) den, scale⟩

/-- The product of two extended numbers. -/
def mul (x y : Extended) : Extended :=
  let product := ofRatio (x.significand * y.significand) 1
  { product with scale := product.scale + x.scale + y.scale }

/-- The greatest finite double. -/
def greatestDouble : Nat := (2 ^ 53 - 1) * 2 ^ 971

/-- The magnitude of the nearest double. A number above the greatest double gives infinity, also
where the greatest double is the nearest. -/
def doubleMagnitude (x : Extended) : Nat :=
  if 0 ≤ x.scale then
    let n := x.significand * 2 ^ x.scale.toNat
    if greatestDouble < n then Binary64.infiniteMagnitude else Binary64.nearestMagnitude n 1
  else Binary64.nearestMagnitude x.significand (2 ^ (-x.scale).toNat)

/-- The double of a sign and an extended number. -/
def toBinary64 (negative : Bool) (x : Extended) : Binary64 :=
  .ofMagnitude negative x.doubleMagnitude

end Extended

end SqlLayer
