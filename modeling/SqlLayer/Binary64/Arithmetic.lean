import SqlLayer.Binary64

/-!
# Products and quotients of doubles

A finite double is a fraction of two naturals with a sign. Products and quotients are taken on the
fractions and rounded once.

* `mul`, `div` — the double nearest to a product and to a quotient of finite doubles.
-/

namespace SqlLayer.Binary64

/-- The numerator of a finite double without its sign. -/
def numerator (x : Binary64) : Nat :=
  if 0 ≤ x.scale then x.significand * 2 ^ x.scale.toNat else x.significand

/-- The denominator of a finite double. -/
def denominator (x : Binary64) : Nat := if 0 ≤ x.scale then 1 else 2 ^ (-x.scale).toNat

theorem denominator_pos (x : Binary64) : 0 < x.denominator := by
  unfold denominator
  split
  · exact Nat.one_pos
  · exact Nat.two_pow_pos _

/-- The product of two finite doubles. -/
def mul (x y : Binary64) : Binary64 :=
  ofRatio (x.negative != y.negative) (x.numerator * y.numerator) (x.denominator * y.denominator)

/-- The quotient of two finite doubles, the second one not zero. -/
def div (x y : Binary64) : Binary64 :=
  ofRatio (x.negative != y.negative) (x.numerator * y.denominator) (x.denominator * y.numerator)

end SqlLayer.Binary64
