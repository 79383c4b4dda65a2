import SqlLayer.Json.Reading
import SqlLayer.Proofs.Json.Reordering
import SqlLayer.Proofs.Numeral.Saturation

/-!
# JSON texts read back

The compact text of a tree without doubles is read back as the tree, with the members of its objects
in the order of their names.

* `Json.chars?_flatMap_escapeChar` — a text **of any characters** is read back from its quotes;
* `Json.number?_toString` — an integer that 64 bits can hold is read back as an integer;
* `Json.Plain`, `Json.Plain.read?_render` — texts, integers and objects within objects: **what is
  read is what was written, reordered**.
-/

namespace SqlLayer

/-- Escaping makes no text shorter. -/
theorem Text.length_le_flatMap {escape : Char → List Char} (h : ∀ c, escape c ≠ [])
    (s : List Char) : s.length ≤ (s.flatMap escape).length := by
  induction s with
  | nil => exact Nat.le_refl 0
  | cons c s ih =>
    have hone := List.length_pos_of_ne_nil (h c)
    rw [List.flatMap_cons, List.length_append, List.length_cons]
    omega

namespace Json

/-! ### Texts -/

theorem toList_quote (s : String) :
    (quote s).toList = '\x22' :: (s.toList.flatMap escapeChar ++ ['\x22']) :=
  String.toList_ofList

/-- A small character code is read back from its four digits. -/
theorem numberedChar?_fourHexDigits {n : Nat} (h : n < 128) (rest : List Char) :
    numberedChar? (Text.fourHexDigits n ++ rest) = some (Char.ofNat n, rest) := by
  have hvalues := Text.mapM_hexValue?_fourHexDigits n h
  have hlength := Text.length_fourHexDigits n h
  generalize Text.fourHexDigits n = digits at hvalues hlength
  match digits, hlength with
  | [a, b, c, d], _ =>
    have hunit : hexUnit? ([a, b, c, d] ++ rest) = some (n, rest) := by
      simp only [List.cons_append, List.nil_append, hexUnit?, hvalues, Option.bind_eq_bind,
        Option.bind_some, Option.pure_def, List.foldl_cons, List.foldl_nil]
      rw [show 16 * (16 * (16 * (16 * 0 + 0) + 0) + n / 16) + n % 16 = n by omega]
    have hlow : ¬(0xDC00 ≤ n ∧ n < 0xE000) := by omega
    have hhigh : ¬(0xD800 ≤ n ∧ n < 0xDC00) := by omega
    rw [numberedChar?, hunit]
    simp only [Option.bind_eq_bind, Option.bind_some, if_neg hlow, if_neg hhigh, Option.pure_def]

/-- A character is written as it is, or as a backslash with what `escaped?` reads back. -/
theorem escapeChar_cases (c : Char) :
    (escapeChar c = [c] ∧ c ≠ '\x22' ∧ c ≠ '\\' ∧ ¬c.toNat < 0x20) ∨
      ∃ escape, escapeChar c = '\\' :: escape ∧
        ∀ rest, escaped? (escape ++ rest) = some (c, rest) := by
  unfold escapeChar
  by_cases hquote : c = '\x22'
  · exact .inr ⟨['\x22'], if_pos hquote, fun rest => by rw [hquote]; rfl⟩
  rw [if_neg hquote]
  by_cases hback : c = '\\'
  · exact .inr ⟨['\\'], if_pos hback, fun rest => by rw [hback]; rfl⟩
  rw [if_neg hback]
  by_cases hn : c = '\n'
  · exact .inr ⟨['n'], if_pos hn, fun rest => by rw [hn]; rfl⟩
  rw [if_neg hn]
  by_cases hr : c = '\r'
  · exact .inr ⟨['r'], if_pos hr, fun rest => by rw [hr]; rfl⟩
  rw [if_neg hr]
  by_cases ht : c = '\t'
  · exact .inr ⟨['t'], if_pos ht, fun rest => by rw [ht]; rfl⟩
  rw [if_neg ht]
  by_cases hb : c = '\x08'
  · exact .inr ⟨['b'], if_pos hb, fun rest => by rw [hb]; rfl⟩
  rw [if_neg hb]
  by_cases hf : c = '\x0c'
  · exact .inr ⟨['f'], if_pos hf, fun rest => by rw [hf]; rfl⟩
  rw [if_neg hf]
  by_cases hcontrol : c.toNat < 0x20
  · refine .inr ⟨'u' :: Text.fourHexDigits c.toNat, if_pos hcontrol, fun rest => ?_⟩
    show numberedChar? (Text.fourHexDigits c.toNat ++ rest) = some (c, rest)
    rw [numberedChar?_fourHexDigits (by omega), Char.ofNat_toNat]
  · exact .inl ⟨if_neg hcontrol, hquote, hback, hcontrol⟩

/-- One character is read back. -/
theorem chars?_escapeChar (fuel : Nat) (before : List Char) (c : Char) (rest : List Char) :
    chars? (fuel + 1) before (escapeChar c ++ rest) = chars? fuel (c :: before) rest := by
  obtain ⟨hform, hquote, hback, hcontrol⟩ | ⟨escape, hform, hread⟩ := escapeChar_cases c
  · rw [hform, List.singleton_append, chars?, if_neg hquote, if_neg hback, if_neg hcontrol]
  · rw [hform, List.cons_append, chars?, if_neg (by decide), if_pos rfl, hread]
    rfl

/-- **A text is read back** up to the quote that closes it. -/
theorem chars?_flatMap_escapeChar (s : List Char) (rest before : List Char) {fuel : Nat}
    (hfuel : s.length < fuel) :
    chars? fuel before (s.flatMap escapeChar ++ '\x22' :: rest)
      = some (before.reverse ++ s, rest) := by
  induction s generalizing fuel before with
  | nil =>
    cases fuel with
    | zero => exact absurd hfuel (Nat.not_lt_zero _)
    | succ fuel => rw [List.append_nil]; rfl
  | cons c s ih =>
    cases fuel with
    | zero => exact absurd hfuel (Nat.not_lt_zero _)
    | succ fuel =>
      rw [List.flatMap_cons, List.append_assoc, chars?_escapeChar,
        ih (c :: before) (Nat.lt_of_succ_lt_succ hfuel), List.reverse_cons, List.append_assoc,
        List.singleton_append]

theorem escapeChar_ne_nil (c : Char) : escapeChar c ≠ [] := by
  obtain ⟨hform, -⟩ | ⟨escape, hform, -⟩ := escapeChar_cases c <;> rw [hform] <;>
    exact List.cons_ne_nil _ _

theorem quotedText?_flatMap_escapeChar (s : String) (rest : List Char) :
    quotedText? (s.toList.flatMap escapeChar ++ '\x22' :: rest) = some (s, rest) := by
  have hlength := Text.length_le_flatMap escapeChar_ne_nil s.toList
  rw [quotedText?, chars?_flatMap_escapeChar s.toList rest [] (by
    rw [List.length_append]
    omega)]
  simp

/-! ### Integers -/

/-- What may follow a number: nothing that belongs to it. -/
def EndsNumber (rest : List Char) : Prop :=
  ∀ c ∈ rest.head?, ¬(c.isDigit = true ∨ c = '.' ∨ c = 'e' ∨ c = 'E')

theorem isNumber_toDigits {sign : Option Char} (hplus : sign ≠ some '+') (n : Nat) :
    isNumber ⟨sign, Nat.toDigits 10 n, none, none⟩ = true := by
  have hpoint : (none : Option (List Char)) ≠ some [] := by simp
  simp only [isNumber, decide_eq_true hplus, decide_eq_true hpoint, Bool.true_and]
  split
  next hnone => exact absurd hnone Nat.toDigits_ne_nil
  next rest hzero =>
    rw [Text.eq_nil_of_toDigits_eq_zero_cons hzero]
    rfl
  next => rfl

/-- The numeral that an integer is printed as. -/
def printed (n : Int) : Numeral := ⟨Text.printedSign n, Nat.toDigits 10 n.natAbs, none, none⟩

theorem text_printed (n : Int) : (printed n).text = (toString n).toList := by
  rw [Text.toList_toString, Numeral.text_eq]
  simp [printed, Numeral.fractionText, Numeral.exponentText]

theorem ofNumeral?_printed {n : Int} (hfits : fitsInteger (decide (n < 0)) n = true) :
    ofNumeral? (printed n) = some (.int n) := by
  have hnegative : (printed n).negative = decide (n < 0) := by
    by_cases h : n < 0 <;> simp [printed, Numeral.negative, Text.printedSign, h]
  have hdecimal : Text.decimal (Nat.toDigits 10 n.natAbs) = n.natAbs :=
    Nat.ofDigitChars_ten_toDigits
  have hinteger : (printed n).integer? = some n := by
    show some (if (printed n).negative then -(Text.decimal (Nat.toDigits 10 n.natAbs) : Int)
      else Text.decimal (Nat.toDigits 10 n.natAbs)) = some n
    rw [hnegative, hdecimal]
    by_cases h : n < 0
    · rw [decide_eq_true h, if_pos rfl]
      exact congrArg some (by omega)
    · rw [decide_eq_false h, if_neg Bool.false_ne_true]
      exact congrArg some (by omega)
  rw [← hnegative] at hfits
  rw [ofNumeral?, hinteger, Option.filter_some, if_pos hfits]

/-- **An integer is read back** up to what does not belong to it. -/
theorem number?_toString {n : Int} (hfits : fitsInteger (decide (n < 0)) n = true)
    {rest : List Char} (hrest : EndsNumber rest) :
    number? ((toString n).toList ++ rest) = some (.int n, rest) := by
  have hsign : ∀ c ∈ Text.printedSign n, c = '+' ∨ c = '-' := by
    unfold Text.printedSign
    split_ifs <;> simp
  have hplus : Text.printedSign n ≠ some '+' := by
    unfold Text.printedSign
    split_ifs <;> simp
  have hread : Numeral.read? ((toString n).toList ++ rest) = some (printed n) := by
    rw [Text.toList_toString, List.append_assoc]
    exact Numeral.read?_integer hsign ⟨0, rfl⟩ hrest
  have hnumber : isNumber (printed n) = true := isNumber_toDigits hplus n.natAbs
  have hafter : ((toString n).toList ++ rest).drop (printed n).text.length = rest := by
    rw [text_printed, List.drop_left]
  rw [number?, hread, Option.filter_some, if_pos hnumber]
  simp only [Option.bind_eq_bind, Option.bind_some, ofNumeral?_printed hfits, hafter,
    Option.pure_def]

/-! ### Trees -/

/-- A tree of texts, of integers that 64 bits can hold, and of objects without repeated names. -/
inductive Plain : Json → Prop
  | text (s : String) : Plain (.text s)
  | int {n : Int} : fitsInteger (decide (n < 0)) n = true → Plain (.int n)
  | object {members : List (String × Json)} : (members.map Prod.fst).Nodup →
      (∀ m ∈ members, Plain m.2) → Plain (.object members)

/-- The text of the first tree is read as the second one, up to what does not belong to it. -/
def ReadsAs (tree back : Json) : Prop :=
  ∀ (rest : List Char) (fuel : Nat), EndsNumber rest → tree.render.toList.length ≤ fuel →
    value? fuel (tree.render.toList ++ rest) = some (back, rest)

/-- The characters of a member. -/
def memberChars (m : String × Json) : List Char :=
  '\x22' :: (m.1.toList.flatMap escapeChar ++ '\x22' :: ':' :: m.2.render.toList)

/-- The characters of the members of an object. -/
def membersChars (members : List (String × Json)) : List Char :=
  [','].intercalate (members.map memberChars)

theorem renderMembers_eq (members : List (String × Json)) :
    renderMembers members = members.map fun m => quote m.1 ++ ":" ++ m.2.render := by
  induction members with
  | nil => rfl
  | cons m rest ih => rw [renderMembers, ih, List.map_cons]

theorem toList_render_object (members : List (String × Json)) :
    (render (.object members)).toList = '\x7b' :: (membersChars members ++ ['\x7d']) := by
  have hmember : (String.toList ∘ fun m : String × Json => quote m.1 ++ ":" ++ m.2.render)
      = memberChars := by
    funext m
    simp [memberChars, toList_quote]
  rw [render, renderMembers_eq, String.toList_append, String.toList_append,
    String.toList_intercalate, List.map_map, hmember]
  rfl

/-! ### One level -/

theorem readsAs_text (s : String) : ReadsAs (.text s) (.text s) := by
  intro rest fuel _ hfuel
  rw [show (render (.text s)).toList = _ from toList_quote s] at hfuel ⊢
  cases fuel with
  | zero => exact absurd hfuel (by simp)
  | succ fuel =>
    rw [List.cons_append, List.append_assoc, List.singleton_append]
    show (quotedText? _).map _ = _
    rw [quotedText?_flatMap_escapeChar]
    rfl

/-- A character that starts a printed integer. -/
def startsInteger (c : Char) : Bool := c == '-' || c.isDigit

theorem exists_startsInteger (n : Int) :
    ∃ c rest, (toString n).toList = c :: rest ∧ startsInteger c = true := by
  rw [Text.toList_toString, Text.printedSign]
  split_ifs
  · exact ⟨'-', _, rfl, rfl⟩
  · obtain ⟨c, rest, hdigits, hdigit⟩ := Text.exists_toDigits_eq_cons n.natAbs
    exact ⟨c, rest, hdigits, by simp [startsInteger, hdigit]⟩

theorem ne_of_startsInteger {c e : Char} (hc : startsInteger c = true)
    (he : startsInteger e = false) : c ≠ e := by
  rintro rfl
  exact Bool.false_ne_true (he.symm.trans hc)

theorem readsAs_int {n : Int} (hfits : fitsInteger (decide (n < 0)) n = true) :
    ReadsAs (.int n) (.int n) := by
  intro rest fuel hrest hfuel
  rw [show (render (.int n)).toList = (toString n).toList from rfl] at hfuel ⊢
  obtain ⟨c, more, htext, hstart⟩ := exists_startsInteger n
  have hnumber := number?_toString hfits hrest
  rw [htext, List.cons_append] at hnumber ⊢
  have hne : ∀ e, startsInteger e = false → c ≠ e := fun e he => ne_of_startsInteger hstart he
  have hblank : skipBlanks (c :: (more ++ rest)) = c :: (more ++ rest) := by
    simp [skipBlanks, hne ' ' (by decide), hne '\t' (by decide), hne '\n' (by decide),
      hne '\r' (by decide)]
  have hscalar : scalar? (c :: (more ++ rest)) = some (.int n, rest) := by
    have hnull : afterWord? "null" (c :: (more ++ rest)) = none := by
      simp [afterWord?, (hne 'n' (by decide)).symm]
    have htrue : afterWord? "true" (c :: (more ++ rest)) = none := by
      simp [afterWord?, (hne 't' (by decide)).symm]
    have hfalse : afterWord? "false" (c :: (more ++ rest)) = none := by
      simp [afterWord?, (hne 'f' (by decide)).symm]
    rw [scalar?, hnull, htrue, hfalse]
    exact hnumber
  cases fuel with
  | zero =>
    rw [htext] at hfuel
    exact absurd hfuel (by simp)
  | succ fuel =>
    rw [value?, hblank]
    split
    next heq => exact absurd (List.cons.inj heq).1 (hne '\x22' (by decide))
    next heq => exact absurd (List.cons.inj heq).1 (hne '[' (by decide))
    next heq => exact absurd (List.cons.inj heq).1 (hne '\x7b' (by decide))
    next => exact hscalar

/-- No mark of JSON is a blank. -/
theorem skipBlanks_mark {c : Char} (hc : c = '\x22' ∨ c = ':' ∨ c = ',' ∨ c = '\x7d')
    (rest : List Char) : skipBlanks (c :: rest) = c :: rest := by
  obtain rfl | rfl | rfl | rfl := hc <;> rfl

/-- A member is its name, a colon and its value. -/
theorem memberChars_append (m : String × Json) (rest : List Char) :
    memberChars m ++ rest = '\x22' :: (m.1.toList.flatMap escapeChar ++
      '\x22' :: ':' :: (m.2.render.toList ++ rest)) := by
  simp [memberChars]

section

variable {m : String × Json} {back : Json} {fuel : Nat}

theorem value?_of_memberChars (h : ReadsAs m.2 back) (hfuel : (memberChars m).length ≤ fuel)
    (rest : List Char) (hrest : EndsNumber rest) :
    value? fuel (m.2.render.toList ++ rest) = some (back, rest) := by
  refine h rest fuel hrest (Nat.le_trans ?_ hfuel)
  simp only [memberChars, List.length_cons, List.length_append]
  omega

/-- A member with a comma behind it is read before the others. -/
theorem members?_comma (h : ReadsAs m.2 back) (hfuel : (memberChars m).length ≤ fuel)
    (rest : List Char) :
    members? (fuel + 1) (memberChars m ++ ',' :: rest)
      = (members? fuel rest).map fun read => ((m.1, back) :: read.1, read.2) := by
  have hvalue := value?_of_memberChars h hfuel (',' :: rest) (by simp [EndsNumber])
  rw [memberChars_append, members?, skipBlanks_mark (.inl rfl)]
  simp only [quotedText?_flatMap_escapeChar, Option.bind_eq_bind, Option.bind_some,
    skipBlanks_mark, hvalue, true_or, or_true]

/-- A member with a brace behind it is the last one. -/
theorem members?_brace (h : ReadsAs m.2 back) (hfuel : (memberChars m).length ≤ fuel)
    (rest : List Char) :
    members? (fuel + 1) (memberChars m ++ '\x7d' :: rest) = some ([(m.1, back)], rest) := by
  have hvalue := value?_of_memberChars h hfuel ('\x7d' :: rest) (by simp [EndsNumber])
  rw [memberChars_append, members?, skipBlanks_mark (.inl rfl)]
  simp only [quotedText?_flatMap_escapeChar, Option.bind_eq_bind, Option.bind_some,
    skipBlanks_mark, hvalue, true_or, or_true]

end

/-- **The members of an object are read one after the other**, by induction on their list. -/
theorem members?_membersChars {m : String × Json} {members others : List (String × Json)}
    (h : List.Forall₂ (fun a b => a.1 = b.1 ∧ ReadsAs a.2 b.2) (m :: members) others)
    (rest : List Char) {fuel : Nat} (hfuel : (membersChars (m :: members)).length < fuel) :
    members? fuel (membersChars (m :: members) ++ '\x7d' :: rest) = some (others, rest) := by
  induction members generalizing m others fuel with
  | nil =>
    obtain ⟨⟨name, back⟩, others, ⟨rfl, hread⟩, hnone, rfl⟩ := List.forall₂_cons_left_iff.1 h
    obtain rfl := List.forall₂_nil_left_iff.1 hnone
    rw [membersChars, List.map_singleton, List.intercalate_singleton] at hfuel ⊢
    cases fuel with
    | zero => exact absurd hfuel (Nat.not_lt_zero _)
    | succ fuel => exact members?_brace hread (Nat.le_of_lt_succ hfuel) rest
  | cons next members ih =>
    obtain ⟨⟨name, back⟩, others, ⟨rfl, hread⟩, hothers, rfl⟩ := List.forall₂_cons_left_iff.1 h
    have hchars : membersChars (m :: next :: members)
        = memberChars m ++ ',' :: membersChars (next :: members) := by
      simp [membersChars, List.intercalate_cons_cons]
    rw [hchars] at hfuel ⊢
    rw [List.length_append, List.length_cons] at hfuel
    cases fuel with
    | zero => exact absurd hfuel (Nat.not_lt_zero _)
    | succ fuel =>
      rw [List.append_assoc, List.cons_append, members?_comma hread (by omega),
        ih hothers (by omega)]
      rfl

theorem readsAs_object {members others : List (String × Json)}
    (h : List.Forall₂ (fun a b => a.1 = b.1 ∧ ReadsAs a.2 b.2) members others) :
    ReadsAs (.object members) (ofMembers others) := by
  intro rest fuel _ hfuel
  rw [toList_render_object] at hfuel ⊢
  rw [List.length_cons, List.length_append, List.length_singleton] at hfuel
  cases fuel with
  | zero => exact absurd hfuel (Nat.not_succ_le_zero _)
  | succ fuel =>
    rw [List.cons_append, List.append_assoc, List.singleton_append]
    cases members with
    | nil =>
      obtain rfl := List.forall₂_nil_left_iff.1 h
      rfl
    | cons m members =>
      have hread := members?_membersChars h rest (show _ < fuel by omega)
      have hstart : ∃ more, membersChars (m :: members) ++ '\x7d' :: rest = '\x22' :: more := by
        cases members <;> exact ⟨_, rfl⟩
      obtain ⟨more, hmore⟩ := hstart
      rw [hmore] at hread ⊢
      show (members? fuel ('\x22' :: more)).map _ = _
      rw [hread]
      rfl

/-! ### Every plain tree -/

/-- A plain tree is read as itself, with the members in another order. -/
theorem Plain.exists_readsAs {tree : Json} (h : Plain tree) :
    ∃ back, Reordered tree back ∧ ReadsAs tree back := by
  induction h with
  | text s => exact ⟨_, .refl _, readsAs_text s⟩
  | int hfits => exact ⟨_, .refl _, readsAs_int hfits⟩
  | @object members hnodup _ ih =>
    choose! back hreordered hreads using ih
    have hmembers : List.Forall₂ ReorderedMember members
        (members.map fun m => (m.1, back m)) :=
      List.forall₂_map_right_iff.2 (List.forall₂_same.2 fun m hm => ⟨rfl, hreordered m hm⟩)
    have hread : List.Forall₂ (fun a b => a.1 = b.1 ∧ ReadsAs a.2 b.2) members
        (members.map fun m => (m.1, back m)) :=
      List.forall₂_map_right_iff.2 (List.forall₂_same.2 fun m hm => ⟨rfl, hreads m hm⟩)
    exact ⟨_, reordered_ofMembers hmembers hnodup, readsAs_object hread⟩

/-- **A plain tree is read back from its text**, with the members in another order. -/
theorem Plain.read?_render {tree : Json} (h : Plain tree) :
    ∃ back, read? tree.render = some back ∧ Reordered tree back := by
  obtain ⟨back, hreordered, hreads⟩ := h.exists_readsAs
  have hvalue := hreads [] (2 * tree.render.toList.length + 2) (by simp [EndsNumber]) (by omega)
  rw [List.append_nil] at hvalue
  refine ⟨back, ?_, hreordered⟩
  rw [read?]
  simp only [hvalue, Option.bind_eq_bind, Option.bind_some]
  rfl

end Json

end SqlLayer
