import SqlLayer.Proofs.Numeral.Longest
import SqlLayer.Text.Utf8

/-!
# Numerals among bytes

A text in memory is its bytes, and a place in it is a number of bytes.  The end of the numeral that
a text starts with can be found among the bytes, without decoding them: every character of a numeral
is one byte, and no byte of another character looks like one of them.

* `Text.sliceTo?` — the text before a place, **if the place lies between two of its characters**;
* `Numeral.byteEnd` — the place behind the numeral, found byte by byte;
* `Numeral.byteEnd_encode`, `Numeral.sliceTo?_byteEnd` — that place lies between two characters, and
  the text before it is the numeral.
-/

namespace SqlLayer

namespace Text

/-- The text before a place; none where the place lies beyond the end or within a character. -/
def sliceTo? : List Char → Nat → Option (List Char)
  | _, 0 => some []
  | [], _ + 1 => none
  | c :: rest, stop + 1 =>
    if c.utf8Size ≤ stop + 1 then (sliceTo? rest (stop + 1 - c.utf8Size)).map (c :: ·) else none

/-- Whether a byte is a character of a class by itself. -/
def isByteOf (p : Char → Bool) (b : UInt8) : Bool := b.toNat < 128 && p (Char.ofNat b.toNat)

/-- Whether there is a character of a class at a place. -/
def hasByteOf (p : Char → Bool) (bytes : List UInt8) (i : Nat) : Bool :=
  bytes[i]?.any (isByteOf p)

theorem lt_length_of_hasByteOf {p : Char → Bool} {bytes : List UInt8} {i : Nat}
    (h : hasByteOf p bytes i = true) : i < bytes.length := by
  by_contra hout
  rw [hasByteOf, List.getElem?_eq_none (Nat.not_lt.1 hout)] at h
  exact absurd h (by simp)

@[simp] theorem encode_nil : encode [] = [] := rfl

theorem encode_cons (c : Char) (s : List Char) :
    encode (c :: s) = String.utf8EncodeChar c ++ encode s := List.flatMap_cons

theorem encode_append (s t : List Char) : encode (s ++ t) = encode s ++ encode t :=
  List.flatMap_append

theorem length_encode_cons (c : Char) (s : List Char) :
    (encode (c :: s)).length = c.utf8Size + (encode s).length := by
  rw [encode_cons, List.length_append, String.length_utf8EncodeChar]

/-- A slice is the first part of a text whose bytes are all there are before the place. -/
theorem sliceTo?_eq_some_iff {s part : List Char} {stop : Nat} :
    sliceTo? s stop = some part ↔ part <+: s ∧ (encode part).length = stop := by
  induction s generalizing part stop with
  | nil =>
    cases stop with
    | zero =>
      rw [sliceTo?, Option.some.injEq, List.prefix_nil]
      exact ⟨fun h => ⟨h.symm, h ▸ rfl⟩, fun h => h.1.symm⟩
    | succ stop =>
      simp only [sliceTo?, List.prefix_nil, reduceCtorEq, false_iff]
      rintro ⟨rfl, hlength⟩
      exact absurd hlength (by simp)
  | cons c rest ih =>
    have hsize := c.utf8Size_pos
    cases stop with
    | zero =>
      rw [sliceTo?, Option.some.injEq]
      constructor
      · rintro rfl
        exact ⟨List.nil_prefix, rfl⟩
      · rintro ⟨-, hlength⟩
        cases part with
        | nil => rfl
        | cons d part =>
          rw [length_encode_cons] at hlength
          have hsize := d.utf8Size_pos
          omega
    | succ stop =>
      rw [sliceTo?]
      constructor
      · intro h
        split_ifs at h with hfits
        obtain ⟨part, hpart, rfl⟩ := Option.map_eq_some_iff.1 h
        obtain ⟨hfront, hlength⟩ := ih.1 hpart
        refine ⟨List.cons_prefix_cons.2 ⟨rfl, hfront⟩, ?_⟩
        rw [length_encode_cons]
        omega
      · rintro ⟨hfront, hlength⟩
        cases part with
        | nil => exact absurd hlength (by simp)
        | cons d part =>
          obtain ⟨rfl, hpart⟩ := List.cons_prefix_cons.1 hfront
          rw [length_encode_cons] at hlength
          have hrest : sliceTo? rest (stop + 1 - d.utf8Size) = some part :=
            ih.2 ⟨hpart, by omega⟩
          rw [if_pos (by omega), hrest, Option.map_some]

/-- The first byte of a character tells whether the character is one byte. -/
theorem exists_utf8EncodeChar (c : Char) :
    (c.toNat < 128 ∧ ∃ b : UInt8, String.utf8EncodeChar c = [b] ∧ b.toNat = c.toNat) ∨
      (128 ≤ c.toNat ∧ ∃ (b : UInt8) (rest : List UInt8),
        String.utf8EncodeChar c = b :: rest ∧ 128 ≤ b.toNat) := by
  have hval : c.val.toNat = c.toNat := rfl
  unfold String.utf8EncodeChar
  simp only [hval]
  split_ifs with h₁ h₂ h₃
  · exact .inl ⟨by omega, _, rfl, by simp; omega⟩
  · exact .inr ⟨by omega, _, _, rfl, by simp; omega⟩
  · exact .inr ⟨by omega, _, _, rfl, by simp; omega⟩
  · exact .inr ⟨by omega, _, _, rfl, by simp; omega⟩

variable {p : Char → Bool}

/-- The character at a place between two characters, if it is of an ASCII class. -/
theorem hasByteOf_encode (hp : ∀ c, p c = true → c.toNat < 128) (a s : List Char) :
    hasByteOf p (encode (a ++ s)) (encode a).length = s.head?.any p := by
  rw [hasByteOf, encode_append, List.getElem?_append_right (Nat.le_refl _), Nat.sub_self]
  cases s with
  | nil => rfl
  | cons c s =>
    rw [encode_cons]
    obtain ⟨hc, b, hbytes, hb⟩ | ⟨hc, b, rest, hbytes, hb⟩ := exists_utf8EncodeChar c
    · rw [hbytes]
      simp [isByteOf, hb, hc, Char.ofNat_toNat]
    · have hnot : p c = false := by
        by_contra htrue
        exact absurd (hp c (by simpa using htrue)) (by omega)
      rw [hbytes]
      simp [isByteOf, hnot, hb]

/-- A character of an ASCII class is one byte. -/
theorem length_encode_singleton (hp : ∀ c, p c = true → c.toNat < 128) {c : Char}
    (hc : p c = true) : (encode [c]).length = 1 := by
  obtain ⟨-, b, hbytes, -⟩ | ⟨hlarge, -⟩ := exists_utf8EncodeChar c
  · rw [encode_cons, hbytes]
    rfl
  · exact absurd (hp c hc) (by omega)

end Text

namespace Numeral

open Text

/-! ### The end of a numeral, byte by byte -/

/-- The place behind a sign, if there is one. -/
def signEnd (bytes : List UInt8) (i : Nat) : Nat :=
  if hasByteOf (fun c => c = '+' ∨ c = '-') bytes i then i + 1 else i

/-- The place behind the digits that are there. -/
def digitsEnd (bytes : List UInt8) (i : Nat) : Nat :=
  if h : hasByteOf Char.isDigit bytes i then
    have := lt_length_of_hasByteOf h
    digitsEnd bytes (i + 1)
  else i
termination_by bytes.length - i

/-- The place behind a point and the digits after it. The digits before the point have begun at
`start`; without any, the point needs some after it. -/
def fractionEnd (bytes : List UInt8) (start i : Nat) : Nat :=
  if hasByteOf (fun c => c = '.') bytes i ∧ (start < i ∨ i + 1 < digitsEnd bytes (i + 1)) then
    digitsEnd bytes (i + 1)
  else i

/-- The place behind an exponent with at least one digit. -/
def exponentEnd (bytes : List UInt8) (i : Nat) : Nat :=
  let start := signEnd bytes (i + 1)
  if hasByteOf (fun c => c = 'e' ∨ c = 'E') bytes i ∧ start < digitsEnd bytes start then
    digitsEnd bytes start
  else i

/-- The place behind the numeral that some bytes start with. -/
def byteEnd (bytes : List UInt8) : Nat :=
  let start := signEnd bytes 0
  let mantissaEnd := fractionEnd bytes start (digitsEnd bytes start)
  if mantissaEnd = start then 0 else exponentEnd bytes mantissaEnd

/-! ### The same places, told from the characters -/

theorem length_encode_append (a b : List Char) :
    (encode (a ++ b)).length = (encode a).length + (encode b).length := by
  rw [encode_append, List.length_append]

theorem length_encode_pos {a : List Char} (h : a ≠ []) : 0 < (encode a).length := by
  obtain ⟨c, rest, rfl⟩ := List.exists_cons_of_ne_nil h
  rw [length_encode_cons]
  exact Nat.add_pos_left c.utf8Size_pos _

/-- Two places are the same exactly if there is nothing between them. -/
theorem length_encode_eq_iff {a b : List Char} :
    (encode (a ++ b)).length = (encode a).length ↔ b = [] := by
  rw [length_encode_append]
  constructor
  · intro heq
    by_contra hne
    have hpos := length_encode_pos hne
    omega
  · rintro rfl
    simp

theorem length_encode_lt_iff {a b : List Char} :
    (encode a).length < (encode (a ++ b)).length ↔ b ≠ [] := by
  rw [ne_eq, ← length_encode_eq_iff (a := a), length_encode_append]
  omega

theorem isAscii_of_isDigit (c : Char) (hc : c.isDigit = true) : c.toNat < 128 := by
  obtain ⟨-, hhigh⟩ := Char.isDigit_iff_toNat.1 hc
  have hhigh : c.toNat ≤ 57 := hhigh
  omega

theorem isAscii_of_sign (c : Char) (hc : decide (c = '+' ∨ c = '-') = true) : c.toNat < 128 := by
  obtain rfl | rfl := of_decide_eq_true hc <;> decide

theorem isAscii_of_point (c : Char) (hc : decide (c = '.') = true) : c.toNat < 128 := by
  obtain rfl := of_decide_eq_true hc
  decide

theorem isAscii_of_mark (c : Char) (hc : decide (c = 'e' ∨ c = 'E') = true) : c.toNat < 128 := by
  obtain rfl | rfl := of_decide_eq_true hc <;> decide

theorem signEnd_encode (a s : List Char) :
    signEnd (encode (a ++ s)) (encode a).length
      = (encode (a ++ (splitSign s).1.toList)).length := by
  rw [signEnd, hasByteOf_encode isAscii_of_sign]
  cases s with
  | nil => simp [splitSign]
  | cons c rest =>
    by_cases hc : c = '+' ∨ c = '-'
    · simp [splitSign, hc, length_encode_append,
        length_encode_singleton isAscii_of_sign (decide_eq_true hc)]
    · simp [splitSign, hc]

theorem digitsEnd_of_digit {bytes : List UInt8} {i : Nat}
    (h : hasByteOf Char.isDigit bytes i = true) : digitsEnd bytes i = digitsEnd bytes (i + 1) := by
  rw [digitsEnd, dif_pos h]

theorem digitsEnd_of_not_digit {bytes : List UInt8} {i : Nat}
    (h : ¬hasByteOf Char.isDigit bytes i = true) : digitsEnd bytes i = i := by
  rw [digitsEnd, dif_neg h]

theorem digitsEnd_encode (a s : List Char) :
    digitsEnd (encode (a ++ s)) (encode a).length = (encode (a ++ (splitDigits s).1)).length := by
  induction s generalizing a with
  | nil =>
    rw [digitsEnd_of_not_digit (by rw [hasByteOf_encode isAscii_of_isDigit]; simp)]
    simp [splitDigits]
  | cons c rest ih =>
    by_cases hc : c.isDigit = true
    · have hnext : (encode a).length + 1 = (encode (a ++ [c])).length := by
        rw [length_encode_append, length_encode_singleton isAscii_of_isDigit hc]
      have hsplit : (splitDigits (c :: rest)).1 = c :: (splitDigits rest).1 :=
        List.takeWhile_cons_of_pos hc
      have hcut : a ++ c :: rest = a ++ [c] ++ rest := by simp
      rw [digitsEnd_of_digit (by rw [hasByteOf_encode isAscii_of_isDigit]; simpa using hc), hnext,
        hcut, ih, hsplit]
      simp
    · rw [digitsEnd_of_not_digit (by rw [hasByteOf_encode isAscii_of_isDigit]; simpa using hc)]
      simp [splitDigits, hc]

theorem fractionEnd_encode (a whole s : List Char) :
    fractionEnd (encode (a ++ whole ++ s)) (encode a).length (encode (a ++ whole)).length
      = (encode (a ++ whole ++ fractionText (splitFraction whole s).1)).length := by
  rw [fractionEnd, hasByteOf_encode isAscii_of_point]
  cases s with
  | nil => simp [splitFraction, fractionText]
  | cons c rest =>
    by_cases hc : c = '.'
    · subst hc
      have hnext : (encode (a ++ whole)).length + 1 = (encode (a ++ whole ++ ['.'])).length := by
        rw [length_encode_append (a ++ whole),
          length_encode_singleton isAscii_of_point (decide_eq_true rfl)]
      have hcut : a ++ whole ++ '.' :: rest = a ++ whole ++ ['.'] ++ rest := by simp
      simp only [hnext, hcut, digitsEnd_encode, length_encode_lt_iff]
      by_cases hne : whole = [] ∧ (splitDigits rest).1 = []
      · simp [splitFraction, hne, fractionText]
      · have hor : whole ≠ [] ∨ (splitDigits rest).1 ≠ [] := by
          by_contra hnot
          simp only [not_or, not_not] at hnot
          exact hne hnot
        simp [splitFraction, hne, hor, fractionText]
    · simp [splitFraction, hc, fractionText]

theorem exponentEnd_encode (a s : List Char) :
    exponentEnd (encode (a ++ s)) (encode a).length
      = (encode (a ++ exponentText (splitExponent s).1)).length := by
  simp only [exponentEnd, hasByteOf_encode isAscii_of_mark]
  cases s with
  | nil => simp [splitExponent, exponentText]
  | cons c rest =>
    by_cases hc : c = 'e' ∨ c = 'E'
    · have hnext : (encode a).length + 1 = (encode (a ++ [c])).length := by
        rw [length_encode_append, length_encode_singleton isAscii_of_mark (decide_eq_true hc)]
      have hcut : a ++ c :: rest = a ++ [c] ++ rest := by simp
      have hsigned : a ++ [c] ++ rest
          = a ++ [c] ++ (splitSign rest).1.toList ++ (splitSign rest).2 := by
        rw [List.append_assoc (a ++ [c]), append_splitSign]
      rw [hnext, hcut, signEnd_encode, hsigned]
      simp only [digitsEnd_encode, length_encode_lt_iff]
      by_cases hne : (splitDigits (splitSign rest).2).1 = []
      · simp [splitExponent, hc, hne, exponentText]
      · simp [splitExponent, hc, hne, exponentText, Exponent.text]
    · simp [splitExponent, hc, exponentText]

/-- Behind the sign nothing is read exactly if nothing is taken. -/
theorem splitFraction_eq_nil_iff (whole s : List Char) :
    whole ++ fractionText (splitFraction whole s).1 = [] ↔
      whole = [] ∧ (splitFraction whole s).1.getD [] = [] := by
  rw [List.append_eq_nil_iff]
  refine and_congr_right fun hwhole => ?_
  subst hwhole
  cases s with
  | nil => simp [splitFraction, fractionText]
  | cons c rest =>
    simp only [splitFraction]
    split_ifs with hpoint
    · -- without digits before the point there are some after it
      simpa [fractionText] using hpoint.2
    · simp [fractionText]

/-- **The numeral that is read ends** where the bytes say. -/
theorem byteEnd_encode (s : List Char) :
    byteEnd (encode s) = (encode (((read? s).map text).getD [])).length := by
  let sign := (splitSign s).1.toList
  let unsigned := (splitSign s).2
  let whole := (splitDigits unsigned).1
  let cut := splitFraction whole (splitDigits unsigned).2
  let fraction := fractionText cut.1
  have hread : read? s = if whole = [] ∧ cut.1.getD [] = [] then none
      else some ⟨(splitSign s).1, whole, cut.1, (splitExponent cut.2).1⟩ := read?_eq s
  -- every place on the way is the end of a part
  have hunsigned : sign ++ unsigned = s := append_splitSign s
  have hpointed : sign ++ whole ++ (splitDigits unsigned).2 = s := by
    rw [List.append_assoc, append_splitDigits, hunsigned]
  have hmarked : sign ++ whole ++ fraction ++ cut.2 = s := by
    rw [List.append_assoc, append_splitFraction, hpointed]
  have hstart : signEnd (encode s) 0 = (encode sign).length := signEnd_encode [] s
  have hwhole : digitsEnd (encode s) (encode sign).length = (encode (sign ++ whole)).length := by
    rw [← digitsEnd_encode, hunsigned]
  have hfraction : fractionEnd (encode s) (encode sign).length (encode (sign ++ whole)).length
      = (encode (sign ++ whole ++ fraction)).length := by
    rw [← fractionEnd_encode, hpointed]
  have hexponent : exponentEnd (encode s) (encode (sign ++ whole ++ fraction)).length
      = (encode (sign ++ whole ++ fraction ++ exponentText (splitExponent cut.2).1)).length := by
    rw [← exponentEnd_encode, hmarked]
  have hnothing : (encode (sign ++ whole ++ fraction)).length = (encode sign).length ↔
      whole = [] ∧ cut.1.getD [] = [] := by
    rw [List.append_assoc, length_encode_eq_iff, splitFraction_eq_nil_iff]
  simp only [byteEnd, hstart, hwhole, hfraction, hnothing, hread]
  by_cases hnone : whole = [] ∧ cut.1.getD [] = []
  · rw [if_pos hnone, if_pos hnone]
    rfl
  · rw [if_neg hnone, if_neg hnone, hexponent, Option.map_some, Option.getD_some, text_eq]
    simp only [List.append_assoc]
    rfl

/-- **The slice up to that place** is there, and it is the numeral. -/
theorem sliceTo?_byteEnd (s : List Char) :
    sliceTo? s (byteEnd (encode s)) = some (((read? s).map text).getD []) := by
  rw [byteEnd_encode, sliceTo?_eq_some_iff]
  refine ⟨?_, rfl⟩
  cases hread : read? s with
  | none => exact List.nil_prefix
  | some n => exact (of_read?_eq_some hread).2

end Numeral

/-- **Maximal munch.**  Behind the leading blanks of any text, the characters of the leading numeral
are the longest word of the language that is there, and there are none exactly if no word of the
language is.  The place behind them, counted in bytes, lies between two characters. -/
theorem leadingNumeralText_longest (s : List Char) :
    (∀ word, Numeral.IsLongest (Text.trimStart s) word ↔
      leadingNumeralText s = word ∧ word ≠ []) ∧
    (leadingNumeralText s = [] ↔ ∀ word ∈ Numeral.numerals, ¬ word <+: Text.trimStart s) ∧
    Text.sliceTo? (Text.trimStart s) (Numeral.byteEnd (Text.encode (Text.trimStart s)))
      = some (leadingNumeralText s) := by
  have hempty : leadingNumeralText s = [] ↔ Numeral.read? (Text.trimStart s) = none := by
    rw [leadingNumeralText, leadingNumeral?]
    cases hread : Numeral.read? (Text.trimStart s) with
    | none => simp
    | some n =>
      have hmem := (Numeral.isLongest_of_read? hread).mem
      simpa using Numeral.ne_nil_of_mem_numerals hmem
  refine ⟨fun word => ?_, ?_, Numeral.sliceTo?_byteEnd (Text.trimStart s)⟩
  · rw [Numeral.isLongest_iff]
    constructor
    · rintro ⟨n, hread, rfl⟩
      have hmem := (Numeral.isLongest_of_read? hread).mem
      refine ⟨?_, Numeral.ne_nil_of_mem_numerals hmem⟩
      rw [leadingNumeralText, leadingNumeral?, hread]
      rfl
    · rintro ⟨rfl, hne⟩
      cases hread : Numeral.read? (Text.trimStart s) with
      | none => exact absurd (hempty.2 hread) hne
      | some n =>
        refine ⟨n, rfl, ?_⟩
        rw [leadingNumeralText, leadingNumeral?, hread]
        rfl
  · rw [hempty, Numeral.read?_eq_none_iff]

end SqlLayer
