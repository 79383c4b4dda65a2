import Mathlib.Computability.Language
import SqlLayer.Numeral

/-!
# The longest numeral

The numerals are a language over characters, `[+-]? (D+ (. D*)? | . D+) ([eE] [+-]? D+)?` with the
ASCII digits for `D`.  Reading a numeral cuts the text sign first, then the digits before the point,
the point with those after it and the exponent; each cut takes all it can.

* `Numeral.numerals`, `Numeral.mem_numerals_iff` — the language, and its words as numerals in parts;
* `Numeral.of_read?_eq_some` — what is read is a word of the language and a prefix of the text;
* `Numeral.WellFormed.read?_length` — a word is never read shorter than it is, **whatever follows**;
* `Numeral.isLongest_iff` — so reading finds the longest word that a text starts with, if any.
-/

namespace SqlLayer.Numeral

open Computability

/-! ### The language -/

/-- The texts of one character of a class. -/
def oneOf (p : Char → Bool) : Language Char := {s | ∃ c, p c = true ∧ s = [c]}

/-- At least one digit. -/
def digitRuns : Language Char := oneOf Char.isDigit * (oneOf Char.isDigit)∗

/-- A sign or nothing. -/
def signs : Language Char := 1 + oneOf fun c => c = '+' ∨ c = '-'

/-- A decimal point. -/
def points : Language Char := oneOf fun c => c = '.'

/-- Digits with a point among them, behind them or in front of them, or without one. -/
def mantissas : Language Char :=
  digitRuns * (1 + points * (oneOf Char.isDigit)∗) + points * digitRuns

/-- An exponent or nothing. -/
def exponents : Language Char := 1 + (oneOf fun c => c = 'e' ∨ c = 'E') * signs * digitRuns

/-- The numerals. -/
def numerals : Language Char := signs * mantissas * exponents

theorem mem_oneOf_star {p : Char → Bool} {s : List Char} :
    s ∈ (oneOf p)∗ ↔ ∀ c ∈ s, p c = true := by
  rw [Language.mem_kstar]
  constructor
  · rintro ⟨parts, rfl, hparts⟩ c hc
    obtain ⟨part, hpart, hc⟩ := List.mem_flatten.1 hc
    obtain ⟨c', hp, rfl⟩ := hparts part hpart
    rw [List.mem_singleton.1 hc]
    exact hp
  · intro h
    refine ⟨s.map ([·]), ?_, ?_⟩
    · rw [← List.flatMap_def, List.flatMap_singleton']
    · intro part hpart
      obtain ⟨c, hc, rfl⟩ := List.mem_map.1 hpart
      exact ⟨c, h c hc, rfl⟩

theorem mem_digitRuns {s : List Char} :
    s ∈ digitRuns ↔ s ≠ [] ∧ ∀ c ∈ s, c.isDigit = true := by
  rw [digitRuns, Language.mem_mul]
  constructor
  · rintro ⟨_, ⟨c, hc, rfl⟩, rest, hrest, rfl⟩
    refine ⟨List.cons_ne_nil c rest, fun e he => ?_⟩
    obtain rfl | he := List.mem_cons.1 he
    · exact hc
    · exact mem_oneOf_star.1 hrest e he
  · rintro ⟨hne, hdigits⟩
    obtain ⟨c, rest, rfl⟩ := List.exists_cons_of_ne_nil hne
    exact ⟨[c], ⟨c, hdigits c List.mem_cons_self, rfl⟩, rest,
      mem_oneOf_star.2 fun e he => hdigits e (List.mem_cons_of_mem c he), rfl⟩

theorem mem_signs {s : List Char} :
    s ∈ signs ↔ ∃ sign : Option Char, (∀ c ∈ sign, c = '+' ∨ c = '-') ∧ s = sign.toList := by
  rw [signs, Language.mem_add, Language.mem_one]
  constructor
  · rintro (rfl | ⟨c, hc, rfl⟩)
    · exact ⟨none, by simp, rfl⟩
    · exact ⟨some c, by simpa using hc, rfl⟩
  · rintro ⟨sign, hsign, rfl⟩
    cases sign with
    | none => exact .inl rfl
    | some c => exact .inr ⟨c, by simpa using hsign c rfl, rfl⟩

/-! ### Numerals in parts -/

/-- A point with the digits after it, or nothing. -/
def fractionText : Option (List Char) → List Char
  | none => []
  | some digits => '.' :: digits

/-- An exponent or nothing. -/
def exponentText : Option Exponent → List Char
  | none => []
  | some e => e.text

theorem text_eq (n : Numeral) :
    n.text
      = n.sign.toList ++ (n.whole ++ (fractionText n.fraction ++ exponentText n.exponent)) := by
  obtain ⟨sign, whole, fraction, exponent⟩ := n
  cases fraction <;> cases exponent <;> simp [text, fractionText, exponentText]

/-- What the parts of an exponent are made of. -/
structure Exponent.WellFormed (e : Exponent) : Prop where
  mark : e.mark = 'e' ∨ e.mark = 'E'
  sign : ∀ c ∈ e.sign, c = '+' ∨ c = '-'
  ne_nil : e.digits ≠ []
  digits : ∀ c ∈ e.digits, c.isDigit = true

/-- What the parts before an exponent are made of. -/
structure IsMantissa (whole : List Char) (fraction : Option (List Char)) : Prop where
  isDigit_whole : ∀ c ∈ whole, c.isDigit = true
  isDigit_fraction : ∀ digits ∈ fraction, ∀ c ∈ digits, c.isDigit = true
  /-- There is a digit before the point or after it. -/
  ne_nil : ¬(whole = [] ∧ fraction.getD [] = [])

/-- What the parts of a numeral are made of. -/
structure WellFormed (n : Numeral) : Prop where
  sign : ∀ c ∈ n.sign, c = '+' ∨ c = '-'
  mantissa : IsMantissa n.whole n.fraction
  exponent : ∀ e ∈ n.exponent, e.WellFormed

theorem mem_mantissas {s : List Char} :
    s ∈ mantissas ↔
      ∃ whole fraction, IsMantissa whole fraction ∧ s = whole ++ fractionText fraction := by
  simp only [mantissas, Language.mem_add, Language.mem_mul, Language.mem_one, mem_oneOf_star,
    mem_digitRuns, points]
  constructor
  · rintro (⟨whole, ⟨hne, hwhole⟩, _, rfl | ⟨_, ⟨c, hc, rfl⟩, digits, hdigits, rfl⟩, rfl⟩ |
      ⟨_, ⟨c, hc, rfl⟩, digits, ⟨hne, hdigits⟩, rfl⟩)
    · exact ⟨whole, none, ⟨hwhole, by simp, fun h => hne h.1⟩, rfl⟩
    · obtain rfl : c = '.' := by simpa using hc
      exact ⟨whole, some digits, ⟨hwhole, by simpa using hdigits, fun h => hne h.1⟩, rfl⟩
    · obtain rfl : c = '.' := by simpa using hc
      exact ⟨[], some digits, ⟨by simp, by simpa using hdigits, fun h => hne h.2⟩, rfl⟩
  · rintro ⟨whole, fraction, ⟨hwhole, hfraction, hne⟩, rfl⟩
    have hpoint : ['.'] ∈ oneOf fun c => c = '.' := ⟨'.', by simp, rfl⟩
    cases fraction with
    | none => exact .inl ⟨whole, ⟨fun h => hne ⟨h, rfl⟩, hwhole⟩, [], .inl rfl, rfl⟩
    | some digits =>
      by_cases hempty : whole = []
      · subst hempty
        exact .inr ⟨['.'], hpoint, digits, ⟨fun h => hne ⟨rfl, h⟩, hfraction digits rfl⟩, rfl⟩
      · exact .inl ⟨whole, ⟨hempty, hwhole⟩, '.' :: digits,
          .inr ⟨['.'], hpoint, digits, hfraction digits rfl, rfl⟩, rfl⟩

theorem mem_exponents {s : List Char} :
    s ∈ exponents ↔
      ∃ exponent : Option Exponent, (∀ e ∈ exponent, e.WellFormed) ∧ s = exponentText exponent := by
  simp only [exponents, Language.mem_add, Language.mem_mul, Language.mem_one, mem_digitRuns,
    mem_signs]
  constructor
  · rintro (rfl | ⟨_, ⟨_, ⟨c, hc, rfl⟩, _, ⟨sign, hsign, rfl⟩, rfl⟩, digits, ⟨hne, hdigits⟩, rfl⟩)
    · exact ⟨none, by simp, rfl⟩
    · have hmark : c = 'e' ∨ c = 'E' := by simpa using hc
      refine ⟨some ⟨c, sign, digits⟩, ?_, rfl⟩
      rintro e ⟨⟩
      exact ⟨hmark, hsign, hne, hdigits⟩
  · rintro ⟨exponent, hexponent, rfl⟩
    cases exponent with
    | none => exact .inl rfl
    | some e =>
      obtain ⟨hmark, hsign, hne, hdigits⟩ := hexponent e rfl
      exact .inr ⟨e.mark :: e.sign.toList,
        ⟨[e.mark], ⟨e.mark, by simpa using hmark, rfl⟩, e.sign.toList, ⟨e.sign, hsign, rfl⟩, rfl⟩,
        e.digits, ⟨hne, hdigits⟩, rfl⟩

/-- **The words of the language** are the texts of well-formed numerals. -/
theorem mem_numerals_iff {s : List Char} :
    s ∈ numerals ↔ ∃ n : Numeral, n.WellFormed ∧ n.text = s := by
  simp only [numerals, Language.mem_mul, mem_signs, mem_mantissas, mem_exponents]
  constructor
  · rintro ⟨_, ⟨_, ⟨sign, hsign, rfl⟩, _, ⟨whole, fraction, hmantissa, rfl⟩, rfl⟩, _,
      ⟨exponent, hexponent, rfl⟩, rfl⟩
    refine ⟨⟨sign, whole, fraction, exponent⟩, ⟨hsign, hmantissa, hexponent⟩, ?_⟩
    simp [text_eq]
  · rintro ⟨n, ⟨hsign, hmantissa, hexponent⟩, rfl⟩
    refine ⟨n.sign.toList ++ (n.whole ++ fractionText n.fraction),
      ⟨n.sign.toList, ⟨n.sign, hsign, rfl⟩, n.whole ++ fractionText n.fraction,
        ⟨n.whole, n.fraction, hmantissa, rfl⟩, rfl⟩,
      exponentText n.exponent, ⟨n.exponent, hexponent, rfl⟩, ?_⟩
    simp [text_eq]

/-! ### What is read is a word and a prefix -/

theorem splitSign_sign (s : List Char) : ∀ c ∈ (splitSign s).1, c = '+' ∨ c = '-' := by
  cases s with
  | nil => simp [splitSign]
  | cons c rest =>
    rw [splitSign]
    split_ifs with hc
    · rintro _ ⟨⟩
      exact hc
    · simp

theorem append_splitSign (s : List Char) : (splitSign s).1.toList ++ (splitSign s).2 = s := by
  cases s with
  | nil => rfl
  | cons c rest =>
    rw [splitSign]
    split_ifs <;> rfl

theorem append_splitDigits (s : List Char) : (splitDigits s).1 ++ (splitDigits s).2 = s :=
  List.takeWhile_append_dropWhile

theorem splitDigits_digits (s : List Char) : ∀ c ∈ (splitDigits s).1, c.isDigit = true :=
  List.all_eq_true.1 (List.all_takeWhile ..)

theorem append_splitFraction (whole s : List Char) :
    fractionText (splitFraction whole s).1 ++ (splitFraction whole s).2 = s := by
  cases s with
  | nil => rfl
  | cons c rest =>
    simp only [splitFraction]
    split_ifs with hpoint
    · rw [fractionText, hpoint.1, List.cons_append, append_splitDigits]
    · rfl

theorem splitFraction_digits (whole s : List Char) :
    ∀ digits ∈ (splitFraction whole s).1, ∀ c ∈ digits, c.isDigit = true := by
  cases s with
  | nil => simp [splitFraction]
  | cons c rest =>
    simp only [splitFraction]
    split_ifs
    · rintro _ ⟨⟩
      exact splitDigits_digits rest
    · simp

theorem append_splitExponent (s : List Char) :
    exponentText (splitExponent s).1 ++ (splitExponent s).2 = s := by
  cases s with
  | nil => rfl
  | cons c rest =>
    simp only [splitExponent]
    split_ifs
    · simp only [exponentText, Exponent.text, List.cons_append, List.append_assoc,
        append_splitDigits, append_splitSign]
    · rfl

theorem splitExponent_wellFormed (s : List Char) :
    ∀ e ∈ (splitExponent s).1, e.WellFormed := by
  cases s with
  | nil => simp [splitExponent]
  | cons c rest =>
    simp only [splitExponent]
    split_ifs with hmark
    · rintro _ ⟨⟩
      exact ⟨hmark.1, splitSign_sign rest, hmark.2, splitDigits_digits _⟩
    · simp

/-- The places at which a text is cut. -/
theorem read?_eq (s : List Char) :
    read? s =
      let unsigned := (splitSign s).2
      let whole := (splitDigits unsigned).1
      let fraction := splitFraction whole (splitDigits unsigned).2
      if whole = [] ∧ fraction.1.getD [] = [] then none
      else some ⟨(splitSign s).1, whole, fraction.1, (splitExponent fraction.2).1⟩ := rfl

/-- **What is read** is a word of the language and a prefix of the text. -/
theorem of_read?_eq_some {s : List Char} {n : Numeral} (h : read? s = some n) :
    n.WellFormed ∧ n.text <+: s := by
  rw [read?_eq] at h
  dsimp only at h
  split_ifs at h with hempty
  obtain rfl := Option.some.inj h
  refine ⟨⟨splitSign_sign s, ⟨splitDigits_digits _, splitFraction_digits _ _, hempty⟩,
    splitExponent_wellFormed _⟩, ?_⟩
  refine ⟨(splitExponent (splitFraction (splitDigits (splitSign s).2).1
    (splitDigits (splitSign s).2).2).2).2, ?_⟩
  rw [text_eq]
  simp only [List.append_assoc, append_splitExponent, append_splitFraction, append_splitDigits,
    append_splitSign]

/-! ### No longer prefix is a word -/

theorem splitSign_append {sign : Option Char} (hsign : ∀ c ∈ sign, c = '+' ∨ c = '-')
    {s : List Char} (hs : ∀ c ∈ s.head?, ¬(c = '+' ∨ c = '-')) :
    splitSign (sign.toList ++ s) = (sign, s) := by
  cases sign with
  | some c => exact if_pos (hsign c rfl)
  | none =>
    cases s with
    | nil => rfl
    | cons c rest => exact if_neg (hs c rfl)

theorem splitDigits_append {digits : List Char} (hdigits : ∀ c ∈ digits, c.isDigit = true)
    (s : List Char) :
    splitDigits (digits ++ s) = (digits ++ (splitDigits s).1, (splitDigits s).2) := by
  rw [splitDigits, List.takeWhile_append_of_pos hdigits, List.dropWhile_append_of_pos hdigits]
  rfl

theorem splitDigits_cons {c : Char} (hc : c.isDigit = false) (s : List Char) :
    splitDigits (c :: s) = ([], c :: s) := by
  have hneg : ¬c.isDigit = true := by simp [hc]
  rw [splitDigits, List.takeWhile_cons_of_neg hneg, List.dropWhile_cons_of_neg hneg]

theorem splitFraction_point {whole digits : List Char} (hdigits : ∀ c ∈ digits, c.isDigit = true)
    (hne : ¬(whole = [] ∧ digits = [])) (s : List Char) :
    splitFraction whole ('.' :: (digits ++ s))
      = (some (digits ++ (splitDigits s).1), (splitDigits s).2) := by
  have hne' : ¬(whole = [] ∧ digits ++ (splitDigits s).1 = []) := fun h =>
    hne ⟨h.1, (List.append_eq_nil_iff.1 h.2).1⟩
  simp only [splitFraction, splitDigits_append hdigits, true_and]
  exact if_pos hne'

/-- No digit is a sign. -/
theorem not_sign_of_isDigit {c : Char} (hc : c.isDigit = true) : ¬(c = '+' ∨ c = '-') := by
  rintro (rfl | rfl) <;> exact absurd hc (by decide)

/-- A run of digits ends where no digit follows. -/
theorem splitDigits_of_ends {digits rest : List Char}
    (hdigits : ∀ c ∈ digits, c.isDigit = true) (hrest : ∀ c ∈ rest.head?, c.isDigit = false) :
    splitDigits (digits ++ rest) = (digits, rest) := by
  have hend : splitDigits rest = ([], rest) := by
    cases rest with
    | nil => rfl
    | cons c rest => exact splitDigits_cons (hrest c rfl) rest
  rw [splitDigits_append hdigits, hend, List.append_nil]

/-- Digits start with no sign. -/
theorem not_sign_of_digits {digits : List Char} (hne : digits ≠ [])
    (hdigits : ∀ c ∈ digits, c.isDigit = true) (rest : List Char) :
    ∀ c ∈ (digits ++ rest).head?, ¬(c = '+' ∨ c = '-') := by
  intro c hc
  rw [List.head?_append_of_ne_nil _ hne] at hc
  exact not_sign_of_isDigit (hdigits c (List.mem_of_mem_head? hc))

namespace Exponent.WellFormed

variable {e : Exponent} (h : e.WellFormed)
include h

/-- An exponent is neither part of the digits before it nor a point. -/
theorem splitDigits_text (s : List Char) : splitDigits (e.text ++ s) = ([], e.text ++ s) := by
  refine splitDigits_cons ?_ _
  obtain hmark | hmark := h.mark <;> rw [hmark] <;> rfl

theorem splitFraction_text (whole s : List Char) :
    splitFraction whole (e.text ++ s) = (none, e.text ++ s) := by
  refine if_neg fun hpoint => ?_
  obtain hmark | hmark := h.mark <;> rw [hmark] at hpoint <;> exact absurd hpoint.1 (by decide)

/-- An exponent is read with all digits that follow. -/
theorem splitExponent_text (s : List Char) :
    (splitExponent (e.text ++ s)).1 = some ⟨e.mark, e.sign, e.digits ++ (splitDigits s).1⟩ := by
  obtain ⟨c, rest, hdigits⟩ := List.exists_cons_of_ne_nil h.ne_nil
  have hsign : splitSign (e.sign.toList ++ (e.digits ++ s)) = (e.sign, e.digits ++ s) := by
    refine splitSign_append h.sign fun d hd => ?_
    rw [hdigits] at hd
    obtain rfl := Option.some.inj hd
    exact not_sign_of_isDigit (h.digits c (by simp [hdigits]))
  have hne : e.digits ++ (splitDigits s).1 ≠ [] := fun hnil =>
    h.ne_nil (List.append_eq_nil_iff.1 hnil).1
  have htext : e.text ++ s = e.mark :: (e.sign.toList ++ (e.digits ++ s)) := by
    rw [Exponent.text, List.cons_append, List.append_assoc]
  simp only [htext, splitExponent, hsign, splitDigits_append h.digits]
  rw [if_pos ⟨h.mark, hne⟩]

end Exponent.WellFormed

/-- Behind the sign, nothing is read that is shorter than the mantissa and exponent that are there.
There are four cases, for what stands in front of the rest takes the digits at its start. -/
theorem IsMantissa.read_length {whole : List Char} {fraction : Option (List Char)}
    (h : IsMantissa whole fraction) {exponent : Option Exponent}
    (hexponent : ∀ e ∈ exponent, e.WellFormed) (rest : List Char) :
    let s := whole ++ (fractionText fraction ++ (exponentText exponent ++ rest))
    let first := (splitDigits s).1
    let second := splitFraction first (splitDigits s).2
    ¬(first = [] ∧ second.1.getD [] = []) ∧
      (whole ++ (fractionText fraction ++ exponentText exponent)).length
        ≤ (first ++ (fractionText second.1 ++ exponentText (splitExponent second.2).1)).length := by
  simp only [splitDigits_append h.isDigit_whole]
  cases fraction with
  | none =>
    have hne : whole ≠ [] := fun hnil => h.ne_nil ⟨hnil, rfl⟩
    cases exponent with
    | none =>
      refine ⟨fun hnil => hne (List.append_eq_nil_iff.1 hnil.1).1, ?_⟩
      simp only [fractionText, exponentText, List.length_append, List.length_nil]
      omega
    | some e =>
      have he := hexponent e rfl
      simp only [fractionText, exponentText, List.nil_append, he.splitDigits_text,
        he.splitFraction_text, he.splitExponent_text, List.append_nil]
      refine ⟨fun hnil => hne hnil.1, ?_⟩
      simp only [Exponent.text, List.length_append, List.length_cons]
      omega
  | some digits =>
    have hdigits := h.isDigit_fraction digits rfl
    have hpoint : ∀ s, splitDigits ('.' :: s) = ([], '.' :: s) := splitDigits_cons rfl
    simp only [fractionText, List.cons_append, hpoint, List.append_nil,
      splitFraction_point hdigits h.ne_nil]
    refine ⟨fun hnil => h.ne_nil ⟨hnil.1, (List.append_eq_nil_iff.1 hnil.2).1⟩, ?_⟩
    cases exponent with
    | none =>
      simp only [exponentText, List.length_append, List.length_cons, List.length_nil]
      omega
    | some e =>
      have he := hexponent e rfl
      simp only [exponentText, he.splitDigits_text, he.splitExponent_text, List.append_nil]
      simp only [Exponent.text, List.length_append, List.length_cons]
      omega

/-- A mantissa does not start with a sign. -/
theorem IsMantissa.head? {whole : List Char} {fraction : Option (List Char)}
    (h : IsMantissa whole fraction) (rest : List Char) :
    ∀ c ∈ (whole ++ (fractionText fraction ++ rest)).head?, ¬(c = '+' ∨ c = '-') := by
  intro c hc
  cases whole with
  | cons d whole =>
    obtain rfl := Option.some.inj hc
    exact not_sign_of_isDigit (h.isDigit_whole d List.mem_cons_self)
  | nil =>
    cases fraction with
    | none => exact absurd ⟨rfl, rfl⟩ h.ne_nil
    | some digits =>
      obtain rfl := Option.some.inj hc
      decide

/-- **Reading takes all it can.** -/
theorem WellFormed.read?_length {n : Numeral} (h : n.WellFormed) (rest : List Char) :
    ∃ m, read? (n.text ++ rest) = some m ∧ n.text.length ≤ m.text.length := by
  have htext : n.text ++ rest = n.sign.toList
      ++ (n.whole ++ (fractionText n.fraction ++ (exponentText n.exponent ++ rest))) := by
    simp only [text_eq, List.append_assoc]
  have hsign := splitSign_append h.sign (h.mantissa.head? (exponentText n.exponent ++ rest))
  obtain ⟨hne, hlength⟩ := h.mantissa.read_length h.exponent rest
  rw [htext, read?_eq, hsign]
  refine ⟨_, if_neg hne, ?_⟩
  simpa only [text_eq, List.length_append, Nat.add_le_add_iff_left] using hlength

/-- A word that a text starts with, where no other such word is longer. -/
structure IsLongest (s word : List Char) : Prop where
  mem : word ∈ numerals
  isPrefix : word <+: s
  longest : ∀ other ∈ numerals, other <+: s → other.length ≤ word.length

/-- Nothing is read exactly if the text starts with no word. -/
theorem read?_eq_none_iff {s : List Char} :
    read? s = none ↔ ∀ word ∈ numerals, ¬ word <+: s := by
  constructor
  · rintro hnone word hword ⟨rest, rfl⟩
    obtain ⟨n, hn, rfl⟩ := mem_numerals_iff.1 hword
    obtain ⟨m, hm, -⟩ := hn.read?_length rest
    rw [hnone] at hm
    exact absurd hm (by simp)
  · intro hno
    cases hread : read? s with
    | none => rfl
    | some n =>
      obtain ⟨hn, hprefix⟩ := of_read?_eq_some hread
      exact absurd hprefix (hno n.text (mem_numerals_iff.2 ⟨n, hn, rfl⟩))

theorem isLongest_of_read? {s : List Char} {n : Numeral} (h : read? s = some n) :
    IsLongest s n.text := by
  obtain ⟨hn, hprefix⟩ := of_read?_eq_some h
  refine ⟨mem_numerals_iff.2 ⟨n, hn, rfl⟩, hprefix, ?_⟩
  rintro other hother ⟨rest, rfl⟩
  obtain ⟨m, hm, rfl⟩ := mem_numerals_iff.1 hother
  obtain ⟨m', hm', hlength⟩ := hm.read?_length rest
  obtain rfl := Option.some.inj (hm'.symm.trans h)
  exact hlength

/-- There is one longest word at most. -/
theorem IsLongest.unique {s word other : List Char} (h : IsLongest s word)
    (hother : IsLongest s other) : word = other := by
  have hle := hother.longest word h.mem h.isPrefix
  have hge := h.longest other hother.mem hother.isPrefix
  exact (List.prefix_of_prefix_length_le h.isPrefix hother.isPrefix hle).eq_of_length
    (Nat.le_antisymm hle hge)

/-- **Reading finds the longest word** that a text starts with. -/
theorem isLongest_iff {s word : List Char} :
    IsLongest s word ↔ ∃ n, read? s = some n ∧ n.text = word := by
  constructor
  · intro h
    cases hread : read? s with
    | none => exact absurd h.isPrefix (read?_eq_none_iff.1 hread word h.mem)
    | some n => exact ⟨n, rfl, (isLongest_of_read? hread).unique h⟩
  · rintro ⟨n, hread, rfl⟩
    exact isLongest_of_read? hread

/-- A word has characters. -/
theorem ne_nil_of_mem_numerals {word : List Char} (h : word ∈ numerals) : word ≠ [] := by
  rintro rfl
  obtain ⟨n, hn, htext⟩ := mem_numerals_iff.1 h
  simp only [text_eq, List.append_eq_nil_iff] at htext
  obtain ⟨-, hwhole, hfraction, -⟩ := htext
  refine hn.mantissa.ne_nil ⟨hwhole, ?_⟩
  cases hcase : n.fraction with
  | none => rfl
  | some digits =>
    rw [hcase] at hfraction
    exact absurd hfraction (List.cons_ne_nil _ _)

end SqlLayer.Numeral
