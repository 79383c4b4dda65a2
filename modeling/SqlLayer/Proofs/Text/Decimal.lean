import Mathlib.Data.List.Induction
import SqlLayer.Text.Search

/-!
# Decimal numbers read back

* `unsignedDecimal?`, `signedDecimal?` — the number that a **whole text** of digits denotes, with a
  minus sign before them or without;
* `signedDecimal?_toString` — an integer is read back from the text that it is printed as;
* `Denotes` — a numeral is a number as it is printed, behind any number of zeros;
* `denotes_decimal` — digits denote the number that they are read as, and **no other**
  (`Denotes.decimal_eq`).
-/

namespace SqlLayer.Text

/-- The number that a text of digits denotes; none if there is no digit or another character. -/
def unsignedDecimal? (digits : List Char) : Option Nat :=
  if digits ≠ [] ∧ allDigits digits then some (decimal digits) else none

/-- The number that a text of digits denotes, after a minus sign or without one. -/
def signedDecimal? (s : List Char) : Option Int :=
  if s.head? = some '-' then (unsignedDecimal? s.tail).map fun n : Nat => -(n : Int)
  else (unsignedDecimal? s).map fun n : Nat => (n : Int)

/-- The digits that a number is printed as are digits. -/
theorem allDigits_toDigits (n : Nat) : allDigits (Nat.toDigits 10 n) = true := by
  rw [allDigits, List.all_eq_true]
  intro c hc
  exact Nat.isDigit_of_mem_toDigits (by decide) (by decide) hc

/-- A number is read back from its digits. -/
theorem unsignedDecimal?_toDigits (n : Nat) : unsignedDecimal? (Nat.toDigits 10 n) = some n := by
  rw [unsignedDecimal?, if_pos ⟨Nat.toDigits_ne_nil, allDigits_toDigits n⟩, decimal,
    Nat.ofDigitChars_ten_toDigits]

/-- Only the digits of a number are printed. -/
theorem minus_not_mem_toDigits (n : Nat) : '-' ∉ Nat.toDigits 10 n := by
  intro hminus
  have hdigit := Nat.isDigit_of_mem_toDigits (by decide) (by decide) hminus
  exact absurd hdigit (by decide)

/-- A number is printed without a minus sign. -/
theorem head?_toDigits_ne_minus (n : Nat) : (Nat.toDigits 10 n).head? ≠ some '-' :=
  fun h => minus_not_mem_toDigits n (List.mem_of_mem_head? h)

/-- An integer that is not negative is printed as its digits. -/
theorem toList_toString_of_nonneg {n : Int} (h : 0 ≤ n) :
    (toString n).toList = Nat.toDigits 10 n.toNat := by
  rw [Int.toString_eq_repr, Int.repr_eq_if, if_pos h, Nat.toList_repr]

/-- A negative integer is printed as its digits behind a minus sign. -/
theorem toList_toString_of_neg {n : Int} (h : n < 0) :
    (toString n).toList = '-' :: Nat.toDigits 10 (-n).toNat := by
  rw [Int.toString_eq_repr, Int.repr_eq_if, if_neg (Int.not_le.2 h), String.toList_append,
    Nat.toList_repr]
  rfl

/-- The sign that an integer is printed with. -/
def printedSign (n : Int) : Option Char := if n < 0 then some '-' else none

/-- An integer is printed as its sign and the digits of its size. -/
theorem toList_toString (n : Int) :
    (toString n).toList = (printedSign n).toList ++ Nat.toDigits 10 n.natAbs := by
  by_cases h : n < 0
  · rw [toList_toString_of_neg h, printedSign, if_pos h, show (-n).toNat = n.natAbs by omega]
    rfl
  · rw [toList_toString_of_nonneg (Int.not_lt.1 h), printedSign, if_neg h,
      show n.toNat = n.natAbs by omega]
    rfl

/-- A number starts with a digit. -/
theorem exists_toDigits_eq_cons (n : Nat) :
    ∃ c rest, Nat.toDigits 10 n = c :: rest ∧ c.isDigit = true := by
  obtain ⟨c, rest, hdigits⟩ := List.exists_cons_of_ne_nil (@Nat.toDigits_ne_nil n 10)
  exact ⟨c, rest, hdigits,
    Nat.isDigit_of_mem_toDigits (by decide) (by decide) (hdigits ▸ List.mem_cons_self)⟩

/-- The first digit of a number is no zero, unless it is the only one. -/
theorem eq_nil_of_toDigits_eq_zero_cons {n : Nat} {rest : List Char}
    (h : Nat.toDigits 10 n = '0' :: rest) : rest = [] := by
  induction n using Nat.strongRecOn generalizing rest with
  | ind n ih =>
    obtain hsmall | hlarge := Nat.lt_or_ge n 10
    · rw [Nat.toDigits_of_lt_base hsmall] at h
      exact (List.cons.inj h).2.symm
    · have hpos : 0 < n / 10 := by omega
      have hlast : n % 10 < 10 := by omega
      have hsplit := Nat.toDigits_append_toDigits (by decide) hpos hlast
      rw [Nat.div_add_mod] at hsplit
      -- the digits before the last one would be a zero, and there is none
      obtain ⟨c, more, hmore, -⟩ := exists_toDigits_eq_cons (n / 10)
      rw [h, hmore, List.cons_append] at hsplit
      obtain ⟨rfl, -⟩ := List.cons.inj hsplit
      have hzero := ih (n / 10) (by omega) hmore
      have hvalue := unsignedDecimal?_toDigits (n / 10)
      rw [hmore, hzero] at hvalue
      have heq : 0 = n / 10 := Option.some.inj hvalue
      omega

/-- **An integer is read back** from the text that it is printed as. -/
theorem signedDecimal?_toString (n : Int) : signedDecimal? (toString n).toList = some n := by
  by_cases h : 0 ≤ n
  · rw [toList_toString_of_nonneg h, signedDecimal?, if_neg (head?_toDigits_ne_minus _),
      unsignedDecimal?_toDigits, Option.map_some, Int.toNat_of_nonneg h]
  · rw [toList_toString_of_neg (Int.not_le.1 h), signedDecimal?, List.head?_cons, if_pos rfl,
      List.tail_cons, unsignedDecimal?_toDigits, Option.map_some, Int.toNat_of_nonneg (by omega),
      Int.neg_neg]

/-! ### Numerals -/

/-- A numeral of a number: its digits as they are printed, behind any number of zeros. -/
def Denotes (digits : List Char) (n : Nat) : Prop :=
  ∃ zeros, digits = List.replicate zeros '0' ++ Nat.toDigits 10 n

theorem Denotes.decimal_eq {digits : List Char} {n : Nat} (h : Denotes digits n) :
    decimal digits = n := by
  obtain ⟨zeros, rfl⟩ := h
  rw [decimal, Nat.ofDigitChars_append, Nat.ofDigitChars_replicate_zero, Nat.mul_zero,
    Nat.ofDigitChars_ten_toDigits]

/-- A number has a digit. -/
theorem Denotes.ne_nil {digits : List Char} {n : Nat} (h : Denotes digits n) :
    digits ≠ [] := by
  obtain ⟨zeros, rfl⟩ := h
  exact List.append_ne_nil_of_right_ne_nil _ Nat.toDigits_ne_nil

/-- It has nothing but digits. -/
theorem Denotes.isDigit {digits : List Char} {n : Nat} (h : Denotes digits n) :
    ∀ c ∈ digits, c.isDigit = true := by
  obtain ⟨zeros, rfl⟩ := h
  intro c hc
  obtain hzero | hdigit := List.mem_append.1 hc
  · rw [List.eq_of_mem_replicate hzero]
    rfl
  · exact Nat.isDigit_of_mem_toDigits (by decide) (by decide) hdigit

/-- A digit is printed for the number it stands for. -/
theorem exists_digitChar_eq {c : Char} (h : c.isDigit = true) :
    ∃ d < 10, c = Nat.digitChar d := by
  obtain ⟨hlow, hhigh⟩ := Char.isDigit_iff_toNat.1 h
  have hlow : 48 ≤ c.toNat := hlow
  have hhigh : c.toNat ≤ 57 := hhigh
  have hd : c.toNat - 48 < 10 := by omega
  refine ⟨c.toNat - 48, hd, Char.toNat_inj.1 ?_⟩
  rw [Nat.toNat_digitChar_of_lt_ten hd]
  omega

/-- A numeral with one more digit behind it. -/
theorem Denotes.concat {digits : List Char} {n d : Nat} (h : Denotes digits n) (hd : d < 10) :
    Denotes (digits ++ [Nat.digitChar d]) (10 * n + d) := by
  obtain ⟨zeros, rfl⟩ := h
  obtain rfl | hn := Nat.eq_zero_or_pos n
  · -- the digit of zero is one more of the zeros in front
    refine ⟨zeros + 1, ?_⟩
    rw [Nat.mul_zero, Nat.zero_add, Nat.toDigits_of_lt_base hd, Nat.toDigits_zero,
      List.replicate_succ']
  · refine ⟨zeros, ?_⟩
    rw [List.append_assoc, ← Nat.toDigits_append_toDigits (by decide) hn hd,
      Nat.toDigits_of_lt_base hd]

/-- Digits denote the number they are read as, by induction from the last digit backwards. -/
theorem denotes_decimal {digits : List Char} (hne : digits ≠ [])
    (hdigits : ∀ c ∈ digits, c.isDigit = true) : Denotes digits (decimal digits) := by
  induction digits using List.reverseRecOn with
  | nil => exact absurd rfl hne
  | append_singleton digits c ih =>
    obtain ⟨d, hd, rfl⟩ := exists_digitChar_eq (hdigits c (by simp))
    have hread : decimal (digits ++ [Nat.digitChar d]) = 10 * decimal digits + d := by
      rw [decimal, Nat.ofDigitChars_append, Nat.ofDigitChars_cons_digitChar_of_lt_ten hd,
        Nat.ofDigitChars_nil, decimal]
    by_cases hempty : digits = []
    · subst hempty
      refine ⟨0, ?_⟩
      rw [hread]
      simp [decimal, Nat.toDigits_of_lt_base hd]
    · rw [hread]
      exact (ih hempty fun e he => hdigits e (List.mem_append_left _ he)).concat hd

end SqlLayer.Text
