import SqlLayer.Proofs.Json.Texts
import SqlLayer.Toml.Reading
import SqlLayer.Toml.Writing

/-!
# Texts and integers in TOML read back

* `Toml.basic?_flatMap_escapeChar` — a text **of any characters** is read back from its quotes;
* `Toml.integer?_toString` — an integer is read back from its digits;
* `Toml.Written`, `Toml.exists_written` — both of them **as values of a definition**.
-/

namespace SqlLayer.Toml

/-! ### Texts -/

theorem toList_quoted (s : String) :
    (quoted s).toList = '\x22' :: (s.toList.flatMap escapeChar ++ ['\x22']) :=
  String.toList_ofList

/-- A small character code is read back from its four digits. -/
theorem hexChar?_fourHexDigits {n : Nat} (h : n < 128) (rest : List Char) :
    hexChar? 4 (Text.fourHexDigits n ++ rest) = some (Char.ofNat n, rest) := by
  have hlength := Text.length_fourHexDigits n h
  have htake : (Text.fourHexDigits n ++ rest).take 4 = Text.fourHexDigits n :=
    List.take_left' hlength
  have hdrop : (Text.fourHexDigits n ++ rest).drop 4 = rest := List.drop_left' hlength
  have hvalue : ((((0 * 16 + 0) * 16 + 0) * 16 + n / 16) * 16 + n % 16) = n := by omega
  have hvalid : n.isValidChar := .inl (by omega)
  simp only [hexChar?, htake, hdrop, Text.mapM_hexValue?_fourHexDigits n h, Option.bind_eq_bind,
    Option.bind_some, List.foldl_cons, List.foldl_nil, hvalue, hlength, hvalid, and_self, if_true]

/-- A character is written as it is, or as a backslash with what `escaped?` reads back. -/
theorem escapeChar_cases (c : Char) :
    (escapeChar c = [c] ∧ c ≠ '\x22' ∧ c ≠ '\\' ∧ isPlain c = true) ∨
      ∃ escape, escapeChar c = '\\' :: escape ∧
        ∀ rest, escaped? (escape ++ rest) = some (c, rest) := by
  unfold escapeChar
  split_ifs with hspecial hplain
  · refine .inr ⟨[c], rfl, fun rest => ?_⟩
    obtain rfl | rfl := hspecial <;> rfl
  · rw [not_or] at hspecial
    exact .inl ⟨rfl, hspecial.1, hspecial.2, hplain⟩
  · refine .inr ⟨'u' :: Text.fourHexDigits c.toNat, rfl, fun rest => ?_⟩
    have hsmall : c.toNat < 128 := by
      simp only [isPlain, Bool.or_eq_true, Bool.and_eq_true, decide_eq_true_eq, not_or] at hplain
      omega
    show hexChar? 4 (Text.fourHexDigits c.toNat ++ rest) = some (c, rest)
    rw [hexChar?_fourHexDigits hsmall, Char.ofNat_toNat]

/-- One character is read back. -/
theorem basicChars?_escapeChar (fuel : Nat) (c : Char) (rest : List Char) :
    basicChars? (fuel + 1) (escapeChar c ++ rest) = (basicChars? fuel rest).map (consRead c) := by
  obtain ⟨hform, hquote, hback, hplain⟩ | ⟨escape, hform, hread⟩ := escapeChar_cases c
  · rw [hform, List.singleton_append, basicChars?, if_neg hquote, if_neg hback, if_pos hplain]
  · rw [hform, List.cons_append, basicChars?, if_neg (by decide), if_pos rfl, hread]
    rfl

/-- **A text is read back** up to the quote that closes it. -/
theorem basicChars?_flatMap_escapeChar (s rest : List Char) {fuel : Nat} (hfuel : s.length < fuel) :
    basicChars? fuel (s.flatMap escapeChar ++ '\x22' :: rest) = some (s, rest) := by
  induction s generalizing fuel with
  | nil =>
    cases fuel with
    | zero => exact absurd hfuel (Nat.not_lt_zero _)
    | succ fuel => rfl
  | cons c s ih =>
    cases fuel with
    | zero => exact absurd hfuel (Nat.not_lt_zero _)
    | succ fuel =>
      rw [List.flatMap_cons, List.append_assoc, basicChars?_escapeChar,
        ih (Nat.lt_of_succ_lt_succ hfuel)]
      rfl

theorem escapeChar_ne_nil (c : Char) : escapeChar c ≠ [] := by
  obtain ⟨hform, -⟩ | ⟨escape, hform, -⟩ := escapeChar_cases c <;> rw [hform] <;>
    exact List.cons_ne_nil _ _

theorem basic?_flatMap_escapeChar (s : String) (rest : List Char) :
    basic? (s.toList.flatMap escapeChar ++ '\x22' :: rest) = some (s, rest) := by
  have hlength := Text.length_le_flatMap escapeChar_ne_nil s.toList
  rw [basic?, basicChars?_flatMap_escapeChar s.toList rest (by
    rw [List.length_append]
    omega)]
  simp

/-- A quoted key is read back. -/
theorem simpleKey?_quoted (s : String) (rest : List Char) :
    simpleKey? ((quoted s).toList ++ rest) = some (s, rest) := by
  rw [toList_quoted, List.cons_append, List.append_assoc, List.singleton_append]
  exact basic?_flatMap_escapeChar s rest

/-- A quoted text is read back where no third quote follows the two of an empty one. -/
theorem quotedText?_quoted (s : String) {rest : List Char} (hrest : rest.head? ≠ some '\x22') :
    quotedText? ((quoted s).toList ++ rest) = some (s, rest) := by
  have hbasic := basic?_flatMap_escapeChar s rest
  rw [toList_quoted, List.cons_append, List.append_assoc, List.singleton_append]
  have hopen : ∀ more,
      s.toList.flatMap escapeChar ++ '\x22' :: rest ≠ '\x22' :: '\x22' :: more := by
    intro more hmore
    cases hchars : s.toList with
    | nil =>
      rw [hchars] at hmore
      exact hrest (by rw [(List.cons.inj hmore).2]; rfl)
    | cons c chars =>
      -- no text starts with a quote of its own
      rw [hchars, List.flatMap_cons] at hmore
      obtain ⟨hform, hquote, -⟩ | ⟨escape, hform, -⟩ := escapeChar_cases c
      · rw [hform] at hmore
        exact hquote (List.cons.inj hmore).1
      · rw [hform] at hmore
        exact absurd (List.cons.inj hmore).1 (by decide)
  unfold quotedText?
  split
  next heq => exact absurd (List.cons.inj heq).2 (hopen _)
  next heq => exact absurd (List.cons.inj heq).1 (by decide)
  next heq => rw [← (List.cons.inj heq).2, hbasic]
  next heq => exact absurd (List.cons.inj heq).1 (by decide)
  next hne _ => exact absurd rfl (hne _)

/-! ### Integers -/

theorem sign_toString (n : Int) :
    sign (toString n).toList = (decide (n < 0), Nat.toDigits 10 n.natAbs) := by
  rw [Text.toList_toString, Text.printedSign]
  split_ifs with hneg
  · rw [decide_eq_true hneg]
    rfl
  · obtain ⟨c, rest, hdigits, hdigit⟩ := Text.exists_toDigits_eq_cons n.natAbs
    have hsign := Numeral.not_sign_of_isDigit hdigit
    rw [not_or] at hsign
    simp [hdigits, sign, hsign.1, hsign.2, hneg]

/-- The digits of a number are one group. -/
theorem decimalDigits?_toDigits (n : Nat) :
    decimalDigits? (Nat.toDigits 10 n) = some (Nat.toDigits 10 n) := by
  have hdigits : (Nat.toDigits 10 n).all Char.isDigit = true := Text.allDigits_toDigits n
  have hgroup : (Nat.toDigits 10 n).splitOn '_' = [Nat.toDigits 10 n] := by
    have hnone : '_' ∉ Nat.toDigits 10 n := fun hmem =>
      absurd (Nat.isDigit_of_mem_toDigits (by decide) (by decide) hmem) (by decide)
    have hsplit := List.splitOn_intercalate '_' (List.forall_mem_singleton.2 hnone)
      (List.cons_ne_nil _ _)
    rwa [List.intercalate_singleton] at hsplit
  unfold decimalDigits?
  split
  next heq => exact nomatch Text.eq_nil_of_toDigits_eq_zero_cons heq
  next => simp [digits?, hgroup, hdigits, Nat.toDigits_ne_nil]

theorem anyInteger?_toString (n : Int) : anyInteger? (toString n).toList = some n := by
  -- a printed integer has no mark of another base behind a zero
  have hbase : ∀ c rest, (toString n).toList ≠ '0' :: c :: rest := by
    intro c rest h
    have hdigits := sign_toString n
    rw [h] at hdigits
    exact nomatch Text.eq_nil_of_toDigits_eq_zero_cons (Prod.mk.inj hdigits).2.symm
  have hdecimal : Text.decimal (Nat.toDigits 10 n.natAbs) = n.natAbs :=
    Nat.ofDigitChars_ten_toDigits
  have hvalue : signedNumber (decide (n < 0)) (Nat.toDigits 10 n.natAbs) = n := by
    rw [signedNumber, hdecimal]
    split_ifs with hneg
    · have := of_decide_eq_true hneg
      omega
    · have : ¬n < 0 := fun h => hneg (decide_eq_true h)
      omega
  unfold anyInteger?
  split
  next heq => exact absurd heq (hbase _ _)
  next heq => exact absurd heq (hbase _ _)
  next heq => exact absurd heq (hbase _ _)
  next => rw [sign_toString, decimalDigits?_toDigits, Option.map_some, hvalue]

/-- **An integer is read back.** -/
theorem integer?_toString {n : Int} (hfits : Json.fitsInteger (decide (n < 0)) n = true) :
    integer? (toString n).toList = some n := by
  have hrange : -(2 ^ 127 : Int) ≤ n ∧ n < 2 ^ 128 := by
    by_cases hneg : n < 0
    · simp [Json.fitsInteger, hneg] at hfits
      omega
    · simp [Json.fitsInteger, hneg] at hfits
      omega
  rw [integer?, anyInteger?_toString, Option.filter_some, decide_eq_true hrange, if_pos rfl]

/-! ### Values of a definition -/

/-- A value and its text: the text starts with no blank, and as the rest of a line it is read as the
value. -/
structure Written (value : Json) (text : String) : Prop where
  valueText : valueText? value = some text
  start : ∀ rest, skipBlanks (text.toList ++ rest) = text.toList ++ rest
  read : ∀ rest, value? (text.toList ++ '\n' :: rest) = some (value, '\n' :: rest)

theorem written_text (s : String) : Written (.text s) (quoted s) where
  valueText := rfl
  start rest := by
    rw [toList_quoted]
    rfl
  read rest := by
    have hread := quotedText?_quoted s (show ('\n' :: rest).head? ≠ some '\x22' by simp)
    rw [toList_quoted, List.cons_append] at hread ⊢
    show (quotedText? _).map _ = _
    rw [hread]
    rfl

theorem isScalarChar_of_mem_toString {n : Int} {c : Char} (hc : c ∈ (toString n).toList) :
    isScalarChar c = true := by
  rw [Text.toList_toString, List.mem_append] at hc
  obtain hsign | hdigit := hc
  · unfold Text.printedSign at hsign
    split_ifs at hsign
    · rw [Option.toList_some, List.mem_singleton] at hsign
      rw [hsign]
      rfl
    · simp at hsign
  · have hdigit : c.isDigit = true := Nat.isDigit_of_mem_toDigits (by decide) (by decide) hdigit
    simp [isScalarChar, Char.isAlphanum, hdigit]

theorem spanScalar_toString (n : Int) (rest : List Char) :
    spanScalar ((toString n).toList ++ '\n' :: rest) = ((toString n).toList, '\n' :: rest) := by
  have hword : ((toString n).toList ++ '\n' :: rest).takeWhile isScalarChar
      = (toString n).toList := by
    rw [List.takeWhile_append_of_pos fun c hc => isScalarChar_of_mem_toString hc,
      List.takeWhile_cons_of_neg (by decide), List.append_nil]
  simp only [spanScalar, hword, List.drop_left]
  split
  next heq => exact absurd (List.cons.inj heq).1 (by decide)
  next => rfl

theorem scalar?_toString {n : Int} (hfits : Json.fitsInteger (decide (n < 0)) n = true) :
    scalar? (toString n).toList = some (.int n) := by
  have hinteger := integer?_toString hfits
  obtain ⟨c, more, htext, hstart⟩ := Json.exists_startsInteger n
  rw [htext] at hinteger ⊢
  have ht := Json.ne_of_startsInteger hstart (show Json.startsInteger 't' = false from rfl)
  have hf := Json.ne_of_startsInteger hstart (show Json.startsInteger 'f' = false from rfl)
  simp [scalar?, ht, hf, hinteger]

theorem written_int {n : Int} (hfits : Json.fitsInteger (decide (n < 0)) n = true) :
    Written (.int n) (toString n) := by
  obtain ⟨c, more, htext, hstart⟩ := Json.exists_startsInteger n
  have hne : ∀ e, Json.startsInteger e = false → c ≠ e := fun e he =>
    Json.ne_of_startsInteger hstart he
  -- what starts like an integer is neither a quote nor a bracket
  have hhead : ∀ rest e tail, Json.startsInteger e = false →
      (toString n).toList ++ rest ≠ e :: tail := by
    intro rest e tail he heq
    rw [htext] at heq
    exact hne e he (List.cons.inj heq).1
  refine ⟨rfl, fun rest => ?_, fun rest => ?_⟩
  · rw [htext, List.cons_append]
    simp [skipBlanks, hne ' ' rfl, hne '\t' rfl]
  · rw [value?, valueStep?]
    · rw [spanScalar_toString]
      simp only [scalar?_toString hfits, Option.map_some]
    · exact fun tail => hhead _ _ tail rfl
    · exact fun tail => hhead _ _ tail rfl
    · exact fun tail _ heq _ => hhead _ _ tail rfl heq
    · exact fun tail _ heq _ => hhead _ _ tail rfl heq

/-- Texts and integers are written so that they are read back. -/
theorem exists_written {value : Json} (h : Json.Plain value) (hleaf : value.isLeaf = true) :
    ∃ text, Written value text := by
  cases h with
  | text s => exact ⟨_, written_text s⟩
  | int hfits => exact ⟨_, written_int hfits⟩
  | object => exact nomatch hleaf

end SqlLayer.Toml
