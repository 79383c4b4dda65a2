import SqlLayer.Proofs.Binary64.Overflow
import SqlLayer.Proofs.Numeral.Longest
import SqlLayer.Proofs.Text.Blank
import SqlLayer.Proofs.Text.Decimal
import SqlLayer.Value

/-!
# Integers in texts

A text that starts with an integer counts for that integer, and for the end of the range if the
integer lies beyond it.  Beyond the range the number goes through the nearest double, which keeps
its size as long as there is a finite one: **a number too great for a double counts for zero**.

* `StartsWithInteger` — blanks, a sign, digits, and nothing behind them that belongs to a number;
* `leadingNumeral?_integer` — the numeral that is read there;
* `Numeral.toInt_toInt64` — its value, in and beyond the range;
* `Value.toInt_clamped_iff` — **which texts count for their integer**, printed integers among them;
* `Value.toInt_endless` — one that does not.
-/

namespace SqlLayer

/-- A text that starts with an integer. -/
inductive StartsWithInteger : List Char → Int → Prop
  | intro {blanks digits rest : List Char} {sign : Option Char} {n : Nat}
      (blank : ∀ c ∈ blanks, Text.isBlank c = true)
      (signed : ∀ c ∈ sign, c = '+' ∨ c = '-')
      (denotes : Text.Denotes digits n)
      (ends : ∀ c ∈ rest.head?, ¬(c.isDigit = true ∨ c = '.' ∨ c = 'e' ∨ c = 'E')) :
      StartsWithInteger (blanks ++ (sign.toList ++ (digits ++ rest)))
        (if sign = some '-' then -(n : Int) else n)

/-- An integer, or the end of the 64-bit range that is next to it. -/
def clamped (n : Int) : Int := max Int64.minValue.toInt (min n Int64.maxValue.toInt)

namespace Numeral

/-- Where an integer ends there is neither a point nor an exponent. -/
theorem splitFraction_of_ends (whole : List Char) {rest : List Char}
    (h : ∀ c ∈ rest.head?, ¬(c.isDigit = true ∨ c = '.' ∨ c = 'e' ∨ c = 'E')) :
    splitDigits rest = ([], rest) ∧ splitFraction whole rest = (none, rest) ∧
      (splitExponent rest).1 = none := by
  cases rest with
  | nil => exact ⟨rfl, rfl, rfl⟩
  | cons c rest =>
    have hc := h c rfl
    simp only [not_or] at hc
    obtain ⟨hdigit, hpoint, hlower, hupper⟩ := hc
    refine ⟨splitDigits_cons (by simpa using hdigit) rest, ?_, ?_⟩
    · simp [splitFraction, hpoint]
    · simp [splitExponent, hlower, hupper]

/-- An integer is read up to its last digit. -/
theorem read?_integer {digits rest : List Char} {sign : Option Char} {n : Nat}
    (hsign : ∀ c ∈ sign, c = '+' ∨ c = '-') (hdigits : Text.Denotes digits n)
    (hends : ∀ c ∈ rest.head?, ¬(c.isDigit = true ∨ c = '.' ∨ c = 'e' ∨ c = 'E')) :
    read? (sign.toList ++ (digits ++ rest)) = some ⟨sign, digits, none, none⟩ := by
  have hunsigned :=
    splitSign_append hsign (not_sign_of_digits hdigits.ne_nil hdigits.isDigit rest)
  obtain ⟨-, hfraction, hexponent⟩ := splitFraction_of_ends digits hends
  have hwhole : splitDigits (digits ++ rest) = (digits, rest) :=
    splitDigits_of_ends hdigits.isDigit fun c hc => by
      simpa using mt Or.inl (hends c hc)
  rw [read?_eq]
  simp only [hunsigned, hwhole, hfraction, hexponent]
  exact if_neg fun h => hdigits.ne_nil h.1

end Numeral

/-- **The numeral there** is the sign and the digits. -/
theorem leadingNumeral?_integer {blanks digits rest : List Char} {sign : Option Char} {n : Nat}
    (hblank : ∀ c ∈ blanks, Text.isBlank c = true) (hsign : ∀ c ∈ sign, c = '+' ∨ c = '-')
    (hdigits : Text.Denotes digits n)
    (hends : ∀ c ∈ rest.head?, ¬(c.isDigit = true ∨ c = '.' ∨ c = 'e' ∨ c = 'E')) :
    leadingNumeral? (blanks ++ (sign.toList ++ (digits ++ rest)))
      = some ⟨sign, digits, none, none⟩ := by
  have hunblank : ∀ c ∈ (sign.toList ++ (digits ++ rest)).head?, Text.isBlank c = false := by
    cases sign with
    | none =>
      intro c hc
      rw [Option.toList_none, List.nil_append, List.head?_append_of_ne_nil _ hdigits.ne_nil] at hc
      exact Text.isBlank_of_isDigit (hdigits.isDigit c (List.mem_of_mem_head? hc))
    | some s =>
      rintro c ⟨⟩
      obtain rfl | rfl := hsign s rfl <;> decide
  rw [leadingNumeral?, Text.trimStart_append hblank hunblank]
  exact Numeral.read?_integer hsign hdigits hends

/-! ### Its value -/

theorem minValue_toInt : Int64.minValue.toInt = -2 ^ 63 := rfl

theorem maxValue_toInt : Int64.maxValue.toInt = 2 ^ 63 - 1 := rfl

theorem toInt_ofIntClamp (i : Int) : (Int64.ofIntClamp i).toInt = clamped i := by
  rw [clamped]
  unfold Int64.ofIntClamp
  split_ifs with hlow hhigh
  · rw [Int64.toInt_ofIntLE]
    omega
  · rw [maxValue_toInt, minValue_toInt] at *
    omega
  · rw [maxValue_toInt, minValue_toInt] at *
    omega

theorem clamped_of_mem {i : Int} (hlow : Int64.minValue.toInt ≤ i)
    (hhigh : i ≤ Int64.maxValue.toInt) : clamped i = i := by
  rw [clamped]
  omega

/-- Beyond the range, only the sign counts. -/
theorem clamped_signed {negative : Bool} {m n : Nat} (hm : 2 ^ 63 ≤ m) (hn : 2 ^ 63 ≤ n) :
    clamped (if negative then -(m : Int) else (m : Int))
      = clamped (if negative then -(n : Int) else (n : Int)) := by
  simp only [clamped, maxValue_toInt, minValue_toInt]
  cases negative <;> simp <;> omega

theorem two_pow_lt_overflow : 2 ^ 63 < Binary64.overflow := by
  unfold Binary64.overflow
  decide +kernel

/-- **The value of an integer as it is written**: the integer in the range, the end of the range
beyond it, and zero from the first integer on that has no finite double. -/
theorem Numeral.toInt_toInt64 (sign : Option Char) {digits : List Char} {n : Nat}
    (h : Text.Denotes digits n) :
    (Numeral.toInt64 ⟨sign, digits, none, none⟩).toInt
      = if n < Binary64.overflow then clamped (if sign = some '-' then -(n : Int) else n)
        else 0 := by
  have hbound := two_pow_lt_overflow
  have hinteger : Numeral.integer? ⟨sign, digits, none, none⟩
      = some (if sign = some '-' then -(n : Int) else n) := by
    simp [Numeral.integer?, Numeral.negative, h.decimal_eq]
  have hdouble : Numeral.toBinary64 ⟨sign, digits, none, none⟩
      = Binary64.ofScientific (sign == some '-') n 0 := by
    simp [Numeral.toBinary64, Numeral.negative, h.decimal_eq]
  obtain ⟨i, hi⟩ : ∃ i : Int, (if sign = some '-' then -(n : Int) else n) = i := ⟨_, rfl⟩
  have hsigned : i = if sign == some '-' then -(n : Int) else (n : Int) := by simp [← hi]
  have hsize : i.natAbs = n := by
    rw [← hi]
    split_ifs <;> omega
  rw [Numeral.toInt64, hinteger, hi]
  dsimp only
  by_cases hrange : Int64.minValue.toInt ≤ i ∧ i ≤ Int64.maxValue.toInt
  · have hsmall : n < Binary64.overflow := by
      rw [maxValue_toInt, minValue_toInt] at hrange
      omega
    rw [if_pos hrange, if_pos hsmall, clamped_of_mem hrange.1 hrange.2,
      ← Int64.ofIntLE_eq_ofInt hrange.1 hrange.2, Int64.toInt_ofIntLE]
  · have hlarge : 2 ^ 63 ≤ n := by
      rw [maxValue_toInt, minValue_toInt] at hrange
      omega
    obtain ⟨hfinite, hinfinite⟩ := Binary64.truncate_ofScientific_large (sign == some '-') hlarge
    rw [if_neg hrange, toInt_ofIntClamp, hdouble]
    by_cases hsmall : n < Binary64.overflow
    · obtain ⟨whole, hwhole, htruncate⟩ := hfinite hsmall
      rw [if_pos hsmall, htruncate, hsigned]
      exact clamped_signed hwhole hlarge
    · rw [if_neg hsmall, hinfinite (Nat.not_lt.1 hsmall)]
      rfl

/-- What a text that starts with an integer counts for. -/
theorem Value.toInt_leading {s : String} {n : Int} (h : StartsWithInteger s.toList n) :
    (Value.text s).toInt.toInt = if n.natAbs < Binary64.overflow then clamped n else 0 := by
  rw [Value.toInt, Value.intOfText]
  generalize s.toList = chars at h
  cases h with
  | @intro blanks digits rest sign k hblank hsign hdigits hends =>
    have hsize : (if sign = some '-' then -(k : Int) else k).natAbs = k := by
      split_ifs <;> omega
    rw [leadingNumeral?_integer hblank hsign hdigits hends, hsize]
    exact Numeral.toInt_toInt64 sign hdigits

/-- A printed integer is a text that starts with it. -/
theorem startsWithInteger_toString (i : Int) : StartsWithInteger (toString i).toList i := by
  have hprinted (n : Nat) (sign : Option Char) (hsign : ∀ c ∈ sign, c = '+' ∨ c = '-') :
      StartsWithInteger (sign.toList ++ Nat.toDigits 10 n)
        (if sign = some '-' then -(n : Int) else n) := by
    have h := @StartsWithInteger.intro [] (Nat.toDigits 10 n) [] sign n (by simp) hsign ⟨0, rfl⟩
      (by simp)
    rwa [List.append_nil, List.nil_append] at h
  by_cases hi : 0 ≤ i
  · rw [Text.toList_toString_of_nonneg hi]
    simpa [Int.toNat_of_nonneg hi] using hprinted i.toNat none (by simp)
  · have hneg : 0 ≤ -i := by omega
    rw [Text.toList_toString_of_neg (Int.not_le.1 hi)]
    simpa [Int.toNat_of_nonneg hneg] using hprinted (-i).toNat (some '-') (by simp)

/-- A one and the zeros behind it. -/
theorem startsWithInteger_power (zeros : Nat) :
    StartsWithInteger (String.ofList ('1' :: List.replicate zeros '0')).toList (10 ^ zeros) := by
  have hdigits : ∀ c ∈ '1' :: List.replicate zeros '0', c.isDigit = true := by
    intro c hc
    obtain rfl | hzero := List.mem_cons.1 hc
    · rfl
    · rw [List.eq_of_mem_replicate hzero]
      rfl
  have hdecimal : Text.decimal ('1' :: List.replicate zeros '0') = 10 ^ zeros := by
    rw [Text.decimal, Nat.ofDigitChars_cons, Nat.ofDigitChars_replicate_zero]
    simp
  have hdenotes := Text.denotes_decimal (List.cons_ne_nil _ _) hdigits
  rw [hdecimal] at hdenotes
  have h := @StartsWithInteger.intro [] _ [] none _ (by simp) (by simp) hdenotes (by simp)
  simpa using h

/-! ### The main statement -/

/-- An end of the range is not zero. -/
theorem clamped_ne_zero {n : Int} (h : Binary64.overflow ≤ n.natAbs) : clamped n ≠ 0 := by
  have hbound := two_pow_lt_overflow
  rw [clamped, maxValue_toInt, minValue_toInt]
  omega

/-- **Which texts count for their integer.**  A text that starts with an integer counts for it,
clamped to the range, exactly if the integer has a finite double, and otherwise for zero.  A printed
integer of 64 bits counts for itself, and greater integers that have doubles count for more. -/
theorem Value.toInt_clamped_iff {s : String} {n : Int} (h : StartsWithInteger s.toList n) :
    ((Value.text s).toInt.toInt = clamped n ↔ n.natAbs < Binary64.overflow) ∧
      (Binary64.overflow ≤ n.natAbs → (Value.text s).toInt.toInt = 0) ∧
      (∀ i : Int64, (Value.text (toString i.toInt)).toInt = i) ∧
      ∀ (t : String) (m : Int), StartsWithInteger t.toList m → n ≤ m →
        n.natAbs < Binary64.overflow → m.natAbs < Binary64.overflow →
          (Value.text s).toInt.toInt ≤ (Value.text t).toInt.toInt := by
  have hvalue := Value.toInt_leading h
  refine ⟨⟨fun hclamped => ?_, fun hsmall => ?_⟩, fun hlarge => ?_, fun i => ?_, ?_⟩
  · by_contra hlarge
    rw [if_neg hlarge] at hvalue
    exact clamped_ne_zero (Nat.not_lt.1 hlarge) (hclamped.symm.trans hvalue)
  · rw [hvalue, if_pos hsmall]
  · rw [hvalue, if_neg (Nat.not_lt.2 hlarge)]
  · have hlow := i.minValue_le_toInt
    have hhigh := i.toInt_le
    have hsmall : i.toInt.natAbs < Binary64.overflow := by
      have hbound := two_pow_lt_overflow
      rw [minValue_toInt] at hlow
      rw [maxValue_toInt] at hhigh
      omega
    rw [← Int64.toInt_inj, Value.toInt_leading (startsWithInteger_toString i.toInt),
      if_pos hsmall, clamped_of_mem hlow hhigh]
  · intro t m ht hle hn hm
    rw [hvalue, if_pos hn, Value.toInt_leading ht, if_pos hm, clamped, clamped]
    omega

/-- An integer just below the range, behind blanks, with zeros in front of it and a word behind. -/
theorem Value.toInt_below_range :
    StartsWithInteger "  -009223372036854775809 apples".toList (-9223372036854775809) ∧
      (Value.text "  -009223372036854775809 apples").toInt.toInt = -9223372036854775808 := by
  have hstarts :
      StartsWithInteger "  -009223372036854775809 apples".toList (-9223372036854775809) :=
    @StartsWithInteger.intro [' ', ' '] "009223372036854775809".toList " apples".toList (some '-')
      9223372036854775809 (List.all_eq_true.1 (by decide)) (by simp) ⟨2, by decide⟩ (by simp)
  refine ⟨hstarts, ?_⟩
  rw [(Value.toInt_clamped_iff hstarts).1.2]
  · decide
  · unfold Binary64.overflow
    decide +kernel

/-- A one with 309 zeros behind it counts for nothing. -/
theorem Value.toInt_endless :
    StartsWithInteger (String.ofList ('1' :: List.replicate 309 '0')).toList (10 ^ 309) ∧
      (Value.text (String.ofList ('1' :: List.replicate 309 '0'))).toInt.toInt = 0 ∧
      clamped (10 ^ 309) = Int64.maxValue.toInt := by
  refine ⟨startsWithInteger_power 309, ?_, by decide +kernel⟩
  rw [Value.toInt_leading (startsWithInteger_power 309), if_neg]
  unfold Binary64.overflow
  decide +kernel

end SqlLayer
