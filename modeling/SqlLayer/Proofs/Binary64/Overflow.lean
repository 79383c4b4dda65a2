import Mathlib.Data.Nat.Digits.Defs
import SqlLayer.Binary64

/-!
# Large integers as doubles

An integer of 64 bits or more is rounded to a multiple of a power of two, and the nearest double is
still of that size, until there is none: from `2 ^ 1024 - 2 ^ 970` on, half-way between the greatest
finite double and the next power of two, integers are rounded to infinity.

* `roundHalfEven_bounds`, `floorLog2_one` — one rounding, and the place of the leading bit;
* `nearestMagnitude_large` — the bits of the double nearest to a large integer;
* `nearestMagnitude_lt_iff` — **the first integer without a finite double**;
* `truncate_ofScientific_large` — the whole part of that double: of 64 bits or more, **or zero**.
-/

namespace SqlLayer.Binary64

/-! ### Rounding to an integer -/

/-- A quotient is rounded to one of its two neighbours. -/
theorem roundHalfEven_bounds (num den : Nat) :
    num / den ≤ roundHalfEven num den ∧ roundHalfEven num den ≤ num / den + 1 := by
  simp only [roundHalfEven]
  split_ifs <;> omega

/-- Above an odd number, a quotient is rounded up from half-way on. -/
theorem lt_roundHalfEven_iff {num den : Nat} (hodd : num / den % 2 = 1) :
    num / den < roundHalfEven num den ↔ den ≤ 2 * (num % den) := by
  simp only [roundHalfEven]
  split_ifs <;> omega

/-- The place of the leading bit of an integer. -/
theorem floorLog2_one {n : Nat} (h : n ≠ 0) : floorLog2 n 1 = (Nat.log2 n : Int) := by
  have hone : Nat.log2 1 = 0 := by decide
  have hreached : 1 * 2 ^ Nat.log2 n ≤ n := by
    rw [Nat.one_mul]
    exact Nat.log2_self_le h
  simp only [floorLog2, hone, Int.natCast_zero, Int.sub_zero, Int.natCast_nonneg, if_true,
    Int.toNat_natCast, hreached]

theorem lt_of_log2_lt {n k e : Nat} (hne : n ≠ 0) (h : Nat.log2 n < k + e) :
    n < 2 ^ k * 2 ^ e := by
  rw [← Nat.pow_add]
  exact (Nat.log2_lt hne).1 h

theorem le_of_le_log2 {n k e : Nat} (hne : n ≠ 0) (h : k + e ≤ Nat.log2 n) :
    2 ^ k * 2 ^ e ≤ n := by
  rw [← Nat.pow_add]
  exact (Nat.le_log2 hne).1 h

/-! ### The nearest double -/

/-- The leading bits of an integer, rounded. -/
def leadingBits (n : Nat) : Nat := roundHalfEven n (2 ^ (Nat.log2 n - 52))

/-- **The bits of the double nearest to an integer** of 53 bits or more. -/
theorem nearestMagnitude_large {n : Nat} (h : 2 ^ 52 ≤ n) :
    nearestMagnitude n 1
      = min infiniteMagnitude ((Nat.log2 n + 1022) * 2 ^ 52 + leadingBits n) := by
  have hne : n ≠ 0 := by omega
  have hlog : 52 ≤ Nat.log2 n := (Nat.le_log2 hne).2 h
  have hscale : max (-1074) ((Nat.log2 n : Int) - 52) = ((Nat.log2 n - 52 : Nat) : Int) := by
    omega
  have hexponent : ((Nat.log2 n - 52 : Nat) + 1074 : Int).toNat = Nat.log2 n + 1022 := by
    omega
  rw [nearestMagnitude, if_neg hne, floorLog2_one hne]
  simp only [hscale]
  rw [if_pos (Int.natCast_nonneg _), Int.toNat_natCast, Nat.one_mul, hexponent, leadingBits]

/-- There are 53 of them, or they are carried into the next power of two. -/
theorem leadingBits_bounds {n : Nat} (h : 2 ^ 52 ≤ n) :
    2 ^ 52 ≤ leadingBits n ∧ leadingBits n ≤ 2 ^ 53 := by
  have hne : n ≠ 0 := by omega
  have hlog : 52 ≤ Nat.log2 n := (Nat.le_log2 hne).2 h
  obtain ⟨hlow, hhigh⟩ := roundHalfEven_bounds n (2 ^ (Nat.log2 n - 52))
  have hpos : 0 < 2 ^ (Nat.log2 n - 52) := Nat.two_pow_pos _
  have hfloor : 2 ^ 52 ≤ n / 2 ^ (Nat.log2 n - 52) := by
    rw [Nat.le_div_iff_mul_le hpos]
    exact le_of_le_log2 hne (by omega)
  have hceil : n / 2 ^ (Nat.log2 n - 52) < 2 ^ 53 := by
    rw [Nat.div_lt_iff_lt_mul hpos]
    exact lt_of_log2_lt hne (by omega)
  exact ⟨hfloor.trans hlow, hhigh.trans hceil⟩

/-- **Where they are carried**: from half-way between the greatest number of 53 bits and the next
power of two, in units of the last place. -/
theorem leadingBits_carried_iff {n e : Nat} (hlog : Nat.log2 n = 53 + e) :
    2 ^ 53 ≤ leadingBits n ↔ (2 ^ 54 - 1) * 2 ^ e ≤ n := by
  have hne : n ≠ 0 := by
    intro hzero
    rw [hzero, Nat.log2_zero] at hlog
    omega
  have hhigh : n < 2 ^ 54 * 2 ^ e := lt_of_log2_lt hne (by omega)
  have hunit : 2 ^ (Nat.log2 n - 52) = 2 * 2 ^ e := by
    have hexponent : Nat.log2 n - 52 = e + 1 := by omega
    rw [hexponent, Nat.pow_succ, Nat.mul_comm]
  have hpos : 0 < 2 ^ e := Nat.two_pow_pos e
  rw [leadingBits, hunit]
  generalize 2 ^ e = half at *
  obtain ⟨hfloor, hceil⟩ := roundHalfEven_bounds n (2 * half)
  have hcut := Nat.div_add_mod n (2 * half)
  have hrest : n % (2 * half) < 2 * half := Nat.mod_lt n (by omega)
  have hquotient : n / (2 * half) < 2 ^ 53 := by
    rw [Nat.div_lt_iff_lt_mul (by omega)]
    omega
  constructor
  · intro hcarried
    have hfull : n / (2 * half) = 2 ^ 53 - 1 := by omega
    have hup := (lt_roundHalfEven_iff (by rw [hfull])).1 (show n / (2 * half) < _ by omega)
    rw [hfull] at hcut
    omega
  · intro hlarge
    have hfull : n / (2 * half) = 2 ^ 53 - 1 := by
      have hle : 2 ^ 53 - 1 ≤ n / (2 * half) := by
        rw [Nat.le_div_iff_mul_le (by omega)]
        omega
      omega
    rw [hfull] at hcut
    have hup := (@lt_roundHalfEven_iff n (2 * half) (by rw [hfull])).2 (by omega)
    omega

/-! ### Infinity -/

/-- The first integer that is rounded to infinity, half-way between the greatest finite double and
`2 ^ 1024`. -/
@[irreducible] def overflow : Nat := (2 ^ 54 - 1) * 2 ^ 970

/-- **Integers are rounded to infinity** from there on. -/
theorem nearestMagnitude_lt_iff {n : Nat} (h : 2 ^ 52 ≤ n) :
    nearestMagnitude n 1 < infiniteMagnitude ↔ n < overflow := by
  have hne : n ≠ 0 := by omega
  obtain ⟨hlow, hhigh⟩ := leadingBits_bounds h
  have hpos : 0 < 2 ^ 970 := Nat.two_pow_pos 970
  rw [nearestMagnitude_large h, infiniteMagnitude]
  unfold overflow
  obtain hlog | hlog | hlog := Nat.lt_trichotomy (Nat.log2 n) (53 + 970)
  · have hsmall := lt_of_log2_lt hne hlog
    generalize 2 ^ 970 = half at *
    omega
  · have hcarried := leadingBits_carried_iff hlog
    generalize 2 ^ 970 = half at *
    omega
  · have hmore : 54 + 970 ≤ Nat.log2 n := by omega
    have hlarge := le_of_le_log2 hne hmore
    generalize 2 ^ 970 = half at *
    omega

/-! ### Whole parts -/

variable {magnitude : Nat}

theorem toNat_ofMagnitude (negative : Bool) (h : magnitude < 2 ^ 63) :
    (ofMagnitude negative magnitude).bits.toNat = magnitude + if negative then 2 ^ 63 else 0 := by
  rw [ofMagnitude, UInt64.toNat_ofNat']
  cases negative <;> simp <;> omega

theorem magnitude_ofMagnitude (negative : Bool) (h : magnitude < 2 ^ 63) :
    (ofMagnitude negative magnitude).magnitude = magnitude := by
  rw [Binary64.magnitude, toNat_ofMagnitude negative h]
  cases negative <;> simp <;> omega

theorem negative_ofMagnitude (negative : Bool) (h : magnitude < 2 ^ 63) :
    (ofMagnitude negative magnitude).negative = negative := by
  rw [Binary64.negative, toNat_ofMagnitude negative h]
  cases negative with
  | false => simpa using h
  | true => simp

/-- An infinity has no whole part. -/
theorem truncate_of_not_isFinite {x : Binary64} (h : ¬x.magnitude < infiniteMagnitude) :
    x.truncate = 0 := by
  rw [truncate, isFinite, decide_eq_false h]
  rfl

/-- The whole part of a finite double of 64 bits or more. -/
theorem exists_truncate_eq {x : Binary64} (hfinite : x.magnitude < infiniteMagnitude)
    (hlarge : 1086 * 2 ^ 52 ≤ x.magnitude) :
    ∃ whole : Nat, 2 ^ 63 ≤ whole ∧
      x.truncate = if x.negative then -(whole : Int) else (whole : Int) := by
  have hexponent : 1086 ≤ x.biasedExponent := by
    rw [biasedExponent, Nat.le_div_iff_mul_le (by decide)]
    exact hlarge
  have hscale : 11 ≤ x.scale := by
    rw [scale]
    omega
  have hsignificand : 2 ^ 52 ≤ x.significand := by
    rw [significand, if_neg (by omega)]
    exact Nat.le_add_left _ _
  refine ⟨x.significand * 2 ^ x.scale.toNat, ?_, ?_⟩
  · calc 2 ^ 63 = 2 ^ 52 * 2 ^ 11 := by decide
      _ ≤ x.significand * 2 ^ x.scale.toNat :=
        Nat.mul_le_mul hsignificand (Nat.pow_le_pow_right (by decide) (by omega))
  · have hnonneg : 0 ≤ x.scale := by omega
    simp only [truncate, isFinite, decide_eq_true hfinite, if_true, if_pos hnonneg]

/-- **The whole part of the double nearest to an integer** of 64 bits or more: an integer of that
size and sign, or zero where the double is infinite. -/
theorem truncate_ofRatio_large (negative : Bool) {n : Nat} (h : 2 ^ 63 ≤ n) :
    (n < overflow → ∃ whole : Nat, 2 ^ 63 ≤ whole ∧
        (ofRatio negative n 1).truncate = if negative then -(whole : Int) else (whole : Int)) ∧
      (overflow ≤ n → (ofRatio negative n 1).truncate = 0) := by
  have h52 : 2 ^ 52 ≤ n := by omega
  have hbound : nearestMagnitude n 1 < 2 ^ 63 := by
    rw [nearestMagnitude_large h52, infiniteMagnitude]
    omega
  have hmagnitude := magnitude_ofMagnitude negative hbound
  have hnegative := negative_ofMagnitude negative hbound
  rw [← ofRatio] at hmagnitude hnegative
  constructor
  · intro hsmall
    have hfinite := (nearestMagnitude_lt_iff h52).2 hsmall
    have hlarge : 1086 * 2 ^ 52 ≤ nearestMagnitude n 1 := by
      have hne : n ≠ 0 := by omega
      have hlog : 63 ≤ Nat.log2 n := (Nat.le_log2 hne).2 h
      obtain ⟨hlow, -⟩ := leadingBits_bounds h52
      rw [nearestMagnitude_large h52, infiniteMagnitude]
      omega
    rw [← hmagnitude] at hfinite hlarge
    have hwhole := exists_truncate_eq hfinite hlarge
    rwa [hnegative] at hwhole
  · intro hlarge
    refine truncate_of_not_isFinite ?_
    rw [hmagnitude, nearestMagnitude_lt_iff h52]
    exact Nat.not_lt.2 hlarge

/-- A number is as great as its digits are many. -/
theorem pow_le_of_lt_length {n places : Nat} (hpos : 0 < places)
    (h : places < (Nat.toDigits 10 n).length) : 10 ^ places ≤ n := by
  by_contra hsmall
  exact absurd (Nat.toDigits_length 10 n places hpos (Nat.not_le.1 hsmall)) (Nat.not_le.2 h)

theorem overflow_le_pow : overflow ≤ 10 ^ 310 := by
  unfold overflow
  decide +kernel

/-- The same of the double nearest to an integer in decimal digits. Digits too many for a finite
double are not rounded at all. -/
theorem truncate_ofScientific_large (negative : Bool) {n : Nat} (h : 2 ^ 63 ≤ n) :
    (n < overflow → ∃ whole : Nat, 2 ^ 63 ≤ whole ∧ (ofScientific negative n 0).truncate
        = if negative then -(whole : Int) else (whole : Int)) ∧
      (overflow ≤ n → (ofScientific negative n 0).truncate = 0) := by
  have hfew : ¬(n = 0 ∨ ((Nat.toDigits 10 n).length : Int) + 0 < -330) := by omega
  simp only [ofScientific]
  rw [if_neg hfew]
  by_cases hlong : 310 < ((Nat.toDigits 10 n).length : Int) + 0
  · have hlarge : overflow ≤ n :=
      overflow_le_pow.trans (@pow_le_of_lt_length n 310 (by decide) (by omega))
    rw [if_pos hlong]
    refine ⟨fun hsmall => absurd hlarge (Nat.not_le.2 hsmall), fun _ => ?_⟩
    refine truncate_of_not_isFinite ?_
    rw [magnitude_ofMagnitude negative (by decide)]
    exact Nat.lt_irrefl _
  · rw [if_neg hlong, if_pos (Int.le_refl 0), Int.toNat_zero, Nat.pow_zero, Nat.mul_one]
    exact truncate_ofRatio_large negative h

end SqlLayer.Binary64
