import Mathlib.Tactic.SplitIfs
import SqlLayer.Proofs.Dialect.Reading
import SqlLayer.Proofs.Text.Decimal

/-!
# Statements cut into tokens

A dialect's lexer reads words, numbers, marks and quoted identifiers, and skips blanks between
them.  Words and numbers go on as long as they can, and a quoted identifier up to its closing
quote.

* `Dialect.lex` — the tokens of a statement with **the characters each one takes**, if there are no
  others;
* `Dialect.Spells` — a text **gives some tokens, whatever comes after it**, each one in its own
  characters, as long as what follows begins with something that ends a token;
* `Spells.append`, `Spells.intercalate` — texts one after another, and with separators between
  them;
* `spells_identifier`, `spells_word`, `spells_number` — the tokens one by one.
-/

namespace SqlLayer

/-- A token of a statement. -/
inductive SqlToken where
  | word (w : List Char)
  | number (n : Nat)
  | mark (c : Char)
  /-- A quoted identifier, by its name. -/
  | identifier (name : List Char)
  deriving DecidableEq

/-- The characters of a token. -/
def SqlToken.written (d : Dialect) : SqlToken → List Char
  | .word w => w
  | .number n => Nat.toDigits 10 n
  | .mark c => [c]
  | .identifier name => d.identifierChars name

namespace Dialect

/-! ### The lexer -/

/-- Whether a character may stand in a word. -/
def isWordChar (c : Char) : Bool := c.isAlphanum || c == '_'

/-- Whether a character may start a word. -/
def startsWord (c : Char) : Bool := c.isAlpha || c == '_'

/-- Whether a character is a token by itself. -/
def isMark (c : Char) : Bool := ".,()*;=<>+-/%".toList.contains c

theorem length_splitQuoted {quote : Char} {s text rest : List Char}
    (h : Sqlite.splitQuoted quote s = some (text, rest)) : rest.length < s.length := by
  fun_induction Sqlite.splitQuoted quote s generalizing text with
  | case1 => simp at h
  | case2 => simp at h; simp [h]
  | case3 => simp at h
  | case4 rest' ih =>
    obtain ⟨r, hr, heq⟩ := Option.map_eq_some_iff.1 h
    have hread : Sqlite.splitQuoted quote rest' = some (r.1, rest) := by
      rw [hr, ← (Prod.mk.inj heq).2]
    have hlt := ih hread
    simp only [List.length_cons]
    omega
  | case5 e rest' he =>
    have heq := (Prod.mk.inj (Option.some.inj h)).2
    rw [← heq]
    simp
  | case6 c e rest' hc ih =>
    obtain ⟨r, hr, heq⟩ := Option.map_eq_some_iff.1 h
    have hread : Sqlite.splitQuoted quote (e :: rest') = some (r.1, rest) := by
      rw [hr, ← (Prod.mk.inj heq).2]
    have hlt := ih hread
    simp only [List.length_cons] at hlt ⊢
    omega

/-- An identifier leaves less than there was. -/
theorem length_readIdentifier {d : Dialect} {s name rest : List Char}
    (h : d.readIdentifier s = some (name, rest)) : rest.length < s.length := by
  cases s with
  | nil => exact absurd h (by simp [readIdentifier, readQuoted])
  | cons c s =>
    rw [readIdentifier, readQuoted] at h
    split_ifs at h
    rw [splitBody, escapesIn_identifierQuote] at h
    have hlt := length_splitQuoted h
    simp only [List.length_cons]
    omega

/-- The tokens of a statement, each one with the characters it takes.  A quote that opens no
identifier, or a character that starts no token, makes it unreadable. -/
def lex (d : Dialect) (s : List Char) : Option (List (SqlToken × List Char)) :=
  match s with
  | [] => some []
  | c :: rest =>
    if c.isDigit then
      let digits := c :: rest.takeWhile Char.isDigit
      (d.lex (rest.dropWhile Char.isDigit)).map ((.number (Text.decimal digits), digits) :: ·)
    else if c.isWhitespace then d.lex rest
    else if startsWord c then
      let word := c :: rest.takeWhile isWordChar
      (d.lex (rest.dropWhile isWordChar)).map ((.word word, word) :: ·)
    else if isMark c then (d.lex rest).map ((.mark c, [c]) :: ·)
    else
      match _hread : d.readIdentifier (c :: rest) with
      | none => none
      | some (name, after) =>
        (d.lex after).map
          ((.identifier name, (c :: rest).take ((c :: rest).length - after.length)) :: ·)
termination_by s.length
decreasing_by
  · have hle : (rest.dropWhile Char.isDigit).length ≤ rest.length :=
      (List.dropWhile_suffix Char.isDigit).length_le
    simp only [List.length_cons]
    omega
  · simp
  · have hle : (rest.dropWhile isWordChar).length ≤ rest.length :=
      (List.dropWhile_suffix isWordChar).length_le
    simp only [List.length_cons]
    omega
  · simp
  · exact length_readIdentifier _hread

/-! ### What ends a token -/

/-- Whether a character ends every token before it. -/
def isBreak (c : Char) : Bool := c == ' ' || c == ',' || c == '.' || c == ')'

/-- A text behind which every token has ended. -/
def Ends (rest : List Char) : Prop := ∀ c ∈ rest.head?, isBreak c = true

theorem ends_nil : Ends [] := by simp [Ends]

theorem ends_cons {c : Char} (h : isBreak c = true) (rest : List Char) : Ends (c :: rest) := by
  intro e he
  rw [List.head?_cons, Option.mem_def, Option.some.injEq] at he
  rw [← he]
  exact h

/-- A text that ends tokens goes on ending them in front of another one. -/
theorem Ends.append {a b : List Char} (ha : Ends a) (hb : Ends b) : Ends (a ++ b) := by
  cases a with
  | nil => exact hb
  | cons c a => exact ends_cons (ha c rfl) (a ++ b)

/-- The four characters by name. -/
theorem isBreak_cases {c : Char} (h : isBreak c = true) :
    c = ' ' ∨ c = ',' ∨ c = '.' ∨ c = ')' := by
  simpa [isBreak, or_assoc] using h

/-- What ends a token does not go on with one. -/
theorem Ends.not_head {rest : List Char} (h : Ends rest) {p : Char → Bool}
    (hp : ∀ c, isBreak c = true → p c = false) :
    rest.takeWhile p = [] ∧ rest.dropWhile p = rest := by
  cases rest with
  | nil => exact ⟨rfl, rfl⟩
  | cons c rest =>
    have hc : p c = false := hp c (h c rfl)
    exact ⟨by rw [List.takeWhile_cons, hc]; rfl, by rw [List.dropWhile_cons, hc]; rfl⟩

theorem isWordChar_of_isBreak (c : Char) (h : isBreak c = true) : isWordChar c = false := by
  obtain rfl | rfl | rfl | rfl := isBreak_cases h <;> rfl

theorem isDigit_of_isBreak (c : Char) (h : isBreak c = true) : c.isDigit = false := by
  obtain rfl | rfl | rfl | rfl := isBreak_cases h <;> rfl

theorem Ends.head?_ne_identifierQuote {rest : List Char} (h : Ends rest) (d : Dialect) :
    rest.head? ≠ some d.identifierQuote := by
  intro hq
  have hbreak := h d.identifierQuote hq
  cases d <;> exact absurd hbreak (by decide)

/-! ### Texts that spell tokens -/

/-- A token with its characters. -/
def withText (d : Dialect) (t : SqlToken) : SqlToken × List Char := (t, t.written d)

/-- A text that gives some tokens, each in its own characters, whatever comes after it, once the
last one has ended. -/
def Spells (d : Dialect) (text : List Char) (ts : List SqlToken) : Prop :=
  ∀ rest, Ends rest → d.lex (text ++ rest) = (d.lex rest).map (ts.map d.withText ++ ·)

variable {d : Dialect} {a b : List Char} {ts us : List SqlToken}

/-- A text that spells tokens is read as these tokens. -/
theorem Spells.lex_eq (h : d.Spells a ts) : d.lex a = some (ts.map d.withText) := by
  have hnil := h [] ends_nil
  rw [List.append_nil, lex, Option.map_some, List.append_nil] at hnil
  exact hnil

theorem spells_nil : d.Spells [] [] := by
  intro rest _
  simp

/-- One text after another, where the second one ends the tokens of the first. -/
theorem Spells.append (ha : d.Spells a ts) (hb : d.Spells b us) (hends : Ends b) :
    d.Spells (a ++ b) (ts ++ us) := by
  intro rest hrest
  rw [List.append_assoc, ha (b ++ rest) (hends.append hrest), hb rest hrest, Option.map_map]
  congr 1
  funext vs
  rw [List.map_append, List.append_assoc]
  rfl

/-- A blank in front gives no token. -/
theorem Spells.blank (hb : d.Spells b us) : d.Spells (' ' :: b) us := by
  intro rest hrest
  have hdigit : Char.isDigit ' ' = false := rfl
  have hblank : Char.isWhitespace ' ' = true := rfl
  rw [List.cons_append, lex]
  simp only [hdigit, hblank, Bool.false_eq_true, if_false, if_true]
  exact hb rest hrest

/-- A mark in front is a token by itself, whatever follows it. -/
theorem Spells.mark {c : Char} (hb : d.Spells b us) (hmark : isMark c = true)
    (hblank : c.isWhitespace = false) (hword : startsWord c = false) (hdigit : c.isDigit = false) :
    d.Spells (c :: b) (.mark c :: us) := by
  intro rest hrest
  rw [List.cons_append, lex]
  simp only [hmark, hblank, hword, hdigit, Bool.false_eq_true, if_false, if_true]
  rw [hb rest hrest, Option.map_map]
  rfl

/-- A word is one token. -/
theorem spells_word {c : Char} {w : List Char} (hc : startsWord c = true)
    (hdigit : c.isDigit = false) (hblank : c.isWhitespace = false)
    (hw : ∀ e ∈ w, isWordChar e = true) : d.Spells (c :: w) [.word (c :: w)] := by
  intro rest hrest
  obtain ⟨htake, hdrop⟩ := hrest.not_head isWordChar_of_isBreak
  rw [List.cons_append, lex]
  simp only [hdigit, hblank, hc, Bool.false_eq_true, if_false, if_true]
  rw [List.takeWhile_append_of_pos hw, List.dropWhile_append_of_pos hw, htake, hdrop,
    List.append_nil]
  rfl

/-- A number is one token. -/
theorem spells_number (n : Nat) : d.Spells (Nat.toDigits 10 n) [.number n] := by
  intro rest hrest
  obtain ⟨htake, hdrop⟩ := hrest.not_head isDigit_of_isBreak
  have hdigits : ∀ e ∈ Nat.toDigits 10 n, e.isDigit = true := fun e he =>
    Nat.isDigit_of_mem_toDigits (by decide) (by decide) he
  obtain ⟨c, w, hform⟩ := List.exists_cons_of_ne_nil (Nat.toDigits_ne_nil (n := n) (b := 10))
  rw [hform] at hdigits ⊢
  have hc : c.isDigit = true := hdigits c List.mem_cons_self
  have hw : ∀ e ∈ w, e.isDigit = true := fun e he => hdigits e (List.mem_cons_of_mem c he)
  rw [List.cons_append, lex]
  simp only [hc, if_true]
  rw [List.takeWhile_append_of_pos hw, List.dropWhile_append_of_pos hw, htake, hdrop,
    List.append_nil, ← hform]
  rw [Text.decimal, Nat.ofDigitChars_ten_toDigits]
  simp only [List.map_cons, List.map_nil, withText, SqlToken.written, hform]
  rfl

/-- **A quoted identifier is one token**, whatever its name. -/
theorem spells_identifier (d : Dialect) (name : List Char) :
    d.Spells (d.identifierChars name) [.identifier name] := by
  intro rest hrest
  have hread := readIdentifier_identifierChars d name (hrest.head?_ne_identifierQuote d)
  rw [identifierChars, List.cons_append] at hread ⊢
  rw [lex]
  have hquote : d.identifierQuote.isWhitespace = false ∧ startsWord d.identifierQuote = false ∧
      d.identifierQuote.isDigit = false ∧ isMark d.identifierQuote = false := by
    cases d <;> decide
  obtain ⟨hblank, hword, hdigit, hmark⟩ := hquote
  simp only [hblank, hword, hdigit, hmark, Bool.false_eq_true, if_false]
  split
  · rename_i hnone
    rw [hread] at hnone
    exact absurd hnone (by simp)
  · rename_i name' after hsome
    rw [hread] at hsome
    obtain ⟨rfl, rfl⟩ := Prod.mk.inj (Option.some.inj hsome)
    have htake : (d.identifierChars name ++ rest).take
        ((d.identifierChars name ++ rest).length - rest.length) = d.identifierChars name := by
      rw [List.length_append, Nat.add_sub_cancel]
      exact List.take_left
    rw [identifierChars, List.cons_append] at htake
    rw [htake]
    rfl

/-- Texts with a separator between them. -/
theorem Spells.intercalate {α : Type} {sep : List Char} {st : List SqlToken}
    {text : α → List Char} {tokens : α → List SqlToken} {items : List α}
    (hsep : ∀ {b us}, d.Spells b us → d.Spells (sep ++ b) (st ++ us)) (hends : ∀ b, Ends (sep ++ b))
    (hitems : ∀ x ∈ items, d.Spells (text x) (tokens x)) :
    d.Spells (sep.intercalate (items.map text)) (st.intercalate (items.map tokens)) := by
  induction items with
  | nil => exact spells_nil
  | cons x items ih =>
    have hx := hitems x List.mem_cons_self
    cases items with
    | nil => simpa using hx
    | cons y items =>
      have hrest := ih fun z hz => hitems z (List.mem_cons_of_mem x hz)
      simp only [List.map_cons, List.intercalate_cons_cons] at hrest ⊢
      rw [List.append_assoc, List.append_assoc]
      exact hx.append (hsep hrest) (hends _)

end Dialect

end SqlLayer
