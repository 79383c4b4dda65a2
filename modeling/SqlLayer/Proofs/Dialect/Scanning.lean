import SqlLayer.Proofs.Dialect.Reading

/-!
# Scanning statements for quotes

The scanner goes through a statement character by character and knows one thing: whether it is
outside of quotes or inside.  It cuts the statement into characters outside of quotes and quoted
tokens.  A doubled quote stays inside, and so does what follows a backslash, where a backslash is
special.

* `Dialect.scan` — the pieces of a statement, in order;
* `Dialect.decode?` — the text that a quoted token stands for;
* `scanFrom_textChars`, `scanFrom_identifierChars` — a literal takes the scanner **from outside to
  the end of one token**, whatever is written in it.
-/

namespace SqlLayer

/-- Where the scanner is, with what it has read since the last opening quote. -/
inductive ScanMode where
  | outside
  | inside (quote : Char) (body : List Char)
  /-- Inside, right behind a backslash. -/
  | skipping (quote : Char) (body : List Char)
  /-- Behind a quote that closes the token, unless it is the first half of a doubled one. -/
  | closing (quote : Char) (body : List Char)
  deriving DecidableEq

/-- A piece of a statement. -/
inductive Piece where
  | outside (c : Char)
  /-- A quoted token, as written between its quotes. -/
  | quoted (quote : Char) (body : List Char)
  /-- A token whose closing quote is missing. -/
  | unclosed (quote : Char) (body : List Char)
  deriving DecidableEq

/-- The characters outside of quotes. -/
def unquotedText (pieces : List Piece) : List Char :=
  pieces.filterMap fun
    | .outside c => some c
    | _ => none

/-- Whether the scanner is outside of quotes. -/
def ScanMode.isOutside : ScanMode → Bool
  | .outside | .closing .. => true
  | .inside .. | .skipping .. => false

/-- The quote that the scanner has passed last, until the token is complete. -/
def ScanMode.quote? : ScanMode → Option Char
  | .outside => none
  | .inside quote _ | .skipping quote _ | .closing quote _ => some quote

/-- The piece that the end of the statement completes. -/
def ScanMode.pending : ScanMode → List Piece
  | .outside => []
  | .inside quote body => [.unclosed quote body]
  | .skipping quote body => [.unclosed quote body]
  | .closing quote body => [.quoted quote body]

namespace Dialect

/-! ### The scanner -/

/-- Whether a character is a quote. -/
def isQuote (c : Char) : Bool := c == '\x27' || c == '\x22' || c == '\x60'

/-- One character outside of quotes: the pieces that it completes, and where the scanner is then. -/
def scanOutside (c : Char) : List Piece × ScanMode :=
  if isQuote c then ([], .inside c []) else ([.outside c], .outside)

/-- One character. -/
def scanChar (d : Dialect) : ScanMode → Char → List Piece × ScanMode
  | .outside, c => scanOutside c
  | .inside quote body, c =>
    if c = quote then ([], .closing quote body)
    else if c = '\\' ∧ d.escapesIn quote then ([], .skipping quote (body ++ [c]))
    else ([], .inside quote (body ++ [c]))
  | .skipping quote body, c => ([], .inside quote (body ++ [c]))
  | .closing quote body, c =>
    if c = quote then ([], .inside quote (body ++ [quote, quote]))
    else (.quoted quote body :: (scanOutside c).1, (scanOutside c).2)

/-- A text: the pieces that it completes, and where the scanner is then. -/
def scanFrom (d : Dialect) : ScanMode → List Char → List Piece × ScanMode
  | m, [] => ([], m)
  | m, c :: rest =>
    let first := d.scanChar m c
    let last := d.scanFrom first.2 rest
    (first.1 ++ last.1, last.2)

/-- The pieces of the rest of a statement. -/
def scanRest (d : Dialect) (m : ScanMode) (text : List Char) : List Piece :=
  (d.scanFrom m text).1 ++ (d.scanFrom m text).2.pending

/-- The pieces of a statement. -/
def scan (d : Dialect) (text : List Char) : List Piece := d.scanRest .outside text

/-- The text that a quoted token stands for. -/
def decode? (d : Dialect) (quote : Char) (body : List Char) : Option (List Char) :=
  match d.splitBody quote (body ++ [quote]) with
  | some (text, []) => some text
  | _ => none

/-! ### Texts one after another -/

@[simp] theorem scanFrom_nil (d : Dialect) (m : ScanMode) : d.scanFrom m [] = ([], m) := rfl

theorem scanFrom_cons (d : Dialect) (m : ScanMode) (c : Char) (rest : List Char) :
    d.scanFrom m (c :: rest)
      = ((d.scanChar m c).1 ++ (d.scanFrom (d.scanChar m c).2 rest).1,
        (d.scanFrom (d.scanChar m c).2 rest).2) := rfl

theorem scanFrom_append (d : Dialect) (m : ScanMode) (a b : List Char) :
    d.scanFrom m (a ++ b)
      = ((d.scanFrom m a).1 ++ (d.scanFrom (d.scanFrom m a).2 b).1,
        (d.scanFrom (d.scanFrom m a).2 b).2) := by
  induction a generalizing m with
  | nil => rfl
  | cons c a ih =>
    rw [List.cons_append, scanFrom_cons, ih, scanFrom_cons, List.append_assoc]

theorem scanRest_append (d : Dialect) (m : ScanMode) (a b : List Char) :
    d.scanRest m (a ++ b) = (d.scanFrom m a).1 ++ d.scanRest (d.scanFrom m a).2 b := by
  rw [scanRest, scanFrom_append, scanRest, List.append_assoc]

/-! ### Outside of quotes -/

/-- Characters that are no quotes leave the scanner outside. -/
theorem scanFrom_outside (d : Dialect) {text : List Char} (h : ∀ c ∈ text, isQuote c = false) :
    d.scanFrom .outside text = (text.map .outside, .outside) := by
  induction text with
  | nil => rfl
  | cons c text ih =>
    have hc : d.scanChar .outside c = ([.outside c], .outside) := by
      rw [scanChar, scanOutside, h c List.mem_cons_self]
      rfl
    rw [scanFrom_cons, hc, ih fun e he => h e (List.mem_cons_of_mem c he)]
    rfl

/-- A token is complete once another character than its quote follows. -/
theorem scanRest_closing (d : Dialect) {quote : Char} {body rest : List Char}
    (h : rest.head? ≠ some quote) :
    d.scanRest (.closing quote body) rest = .quoted quote body :: d.scanRest .outside rest := by
  cases rest with
  | nil => rfl
  | cons c rest =>
    have hc : c ≠ quote := fun eq => h (by rw [eq]; rfl)
    simp only [scanRest, scanFrom_cons, scanChar, if_neg hc, List.cons_append]

/-! ### Behind a closing quote -/

/-- The scanner enters no quotes but those of `isQuote`. -/
theorem isQuote_scanChar (d : Dialect) {m : ScanMode} (hm : ∀ q ∈ m.quote?, isQuote q = true)
    (c : Char) : ∀ q ∈ (d.scanChar m c).2.quote?, isQuote q = true := by
  have hout : ∀ q ∈ (scanOutside c).2.quote?, isQuote q = true := by
    intro q hq
    unfold scanOutside at hq
    split_ifs at hq with hc
    · simp only [ScanMode.quote?, Option.mem_def, Option.some.injEq] at hq
      rw [← hq]
      exact hc
    · simp [ScanMode.quote?] at hq
  cases m with
  | outside => exact hout
  | inside quote body =>
    rw [scanChar]
    split_ifs <;> exact hm
  | skipping quote body => exact hm
  | closing quote body =>
    rw [scanChar]
    split_ifs
    · exact hm
    · exact hout

theorem isQuote_scanFrom (d : Dialect) {m : ScanMode} (hm : ∀ q ∈ m.quote?, isQuote q = true)
    (text : List Char) : ∀ q ∈ (d.scanFrom m text).2.quote?, isQuote q = true := by
  induction text generalizing m with
  | nil => exact hm
  | cons c text ih => exact ih (isQuote_scanChar d hm c)

/-- Only a closing quote takes the scanner behind a token. -/
theorem eq_of_scanChar_closing (d : Dialect) {m : ScanMode} {c quote : Char} {body : List Char}
    (h : (d.scanChar m c).2 = .closing quote body) : c = quote := by
  cases m with
  | outside =>
    simp only [scanChar, scanOutside] at h
    split_ifs at h
  | inside q b =>
    simp only [scanChar] at h
    split_ifs at h with hc
    simp only [ScanMode.closing.injEq] at h
    rw [hc, h.1]
  | skipping q b =>
    simp only [scanChar, reduceCtorEq] at h
  | closing q b =>
    simp only [scanChar, scanOutside] at h
    split_ifs at h

/-- The scanner is behind a closing quote only if that quote is the last character. -/
theorem getLast?_of_closing (d : Dialect) (text : List Char) {quote : Char} {body : List Char}
    (h : (d.scanFrom .outside text).2 = .closing quote body) : text.getLast? = some quote := by
  obtain rfl | ⟨init, c, rfl⟩ := List.eq_nil_or_concat text
  · simp at h
  · rw [List.concat_eq_append] at h ⊢
    rw [scanFrom_append] at h
    rw [List.getLast?_concat, eq_of_scanChar_closing d h]

/-- Outside of quotes and not right behind a quote, no token is left to complete. -/
theorem eq_outside_of_isOutside (d : Dialect) (text : List Char)
    (h : (d.scanFrom .outside text).2.isOutside = true)
    (hlast : ∀ c ∈ text.getLast?, isQuote c = false) : (d.scanFrom .outside text).2 = .outside := by
  cases hm : (d.scanFrom .outside text).2 with
  | outside => rfl
  | inside quote body => simp [hm, ScanMode.isOutside] at h
  | skipping quote body => simp [hm, ScanMode.isOutside] at h
  | closing quote body =>
    have hstart : ∀ q ∈ ScanMode.outside.quote?, isQuote q = true := by simp [ScanMode.quote?]
    have hq : isQuote quote = true := isQuote_scanFrom d hstart text quote (by rw [hm]; rfl)
    have hl : isQuote quote = false := hlast quote (getLast?_of_closing d text hm)
    rw [hq] at hl
    exact absurd hl (by decide)

/-! ### Inside of literals -/

/-- A character in its doubled form stays inside. -/
theorem scanFrom_doubleQuote (d : Dialect) {quote : Char} (hq : d.escapesIn quote = false)
    (body : List Char) (c : Char) :
    d.scanFrom (.inside quote body) (doubleQuote quote c)
      = ([], .inside quote (body ++ doubleQuote quote c)) := by
  by_cases h : c = quote
  · subst h
    simp [doubleQuote, scanFrom, scanChar]
  · simp [doubleQuote, scanFrom, scanChar, h, hq]

/-- A character in its form with a backslash stays inside. -/
theorem scanFrom_backslashEscape (body : List Char) (c : Char) :
    mysql.scanFrom (.inside '\x27' body) (backslashEscape c)
      = ([], .inside '\x27' (body ++ backslashEscape c)) := by
  have hesc : mysql.escapesIn '\x27' = true := rfl
  obtain ⟨e, hform, -⟩ | ⟨hform, hb, hq⟩ := backslashEscape_cases c
  · simp [hform, scanFrom, scanChar, hesc]
  · simp [hform, scanFrom, scanChar, hb, hq]

/-- A text stays inside if every one of its characters does. -/
theorem scanFrom_flatMap (d : Dialect) {quote : Char} {form : Char → List Char}
    (h : ∀ body c, d.scanFrom (.inside quote body) (form c)
      = ([], .inside quote (body ++ form c))) (body text : List Char) :
    d.scanFrom (.inside quote body) (text.flatMap form)
      = ([], .inside quote (body ++ text.flatMap form)) := by
  induction text generalizing body with
  | nil => simp
  | cons c text ih =>
    rw [List.flatMap_cons, scanFrom_append, h, ih, List.append_assoc]
    rfl

/-- The inside of a quoted token, written in forms that stay inside, takes the scanner from outside
to the end of that token. -/
theorem scanFrom_literal (d : Dialect) {quote : Char} (hq : isQuote quote = true)
    {form : Char → List Char}
    (h : ∀ body c, d.scanFrom (.inside quote body) (form c)
      = ([], .inside quote (body ++ form c))) (text : List Char) :
    d.scanFrom .outside (quote :: (text.flatMap form ++ [quote]))
      = ([], .closing quote (text.flatMap form)) := by
  have hopen : d.scanChar .outside quote = ([], .inside quote []) := by
    rw [scanChar, scanOutside, hq]
    rfl
  rw [scanFrom_cons, hopen, scanFrom_append, scanFrom_flatMap d h]
  simp [scanFrom, scanChar]

/-- **A text literal is one token.** -/
theorem scanFrom_textChars (d : Dialect) (text : List Char) :
    d.scanFrom .outside (d.textChars text)
      = ([], .closing '\x27' (text.flatMap d.textEscape)) := by
  cases d with
  | mysql => exact scanFrom_literal mysql rfl scanFrom_backslashEscape text
  | sqlite => exact scanFrom_literal sqlite rfl (scanFrom_doubleQuote sqlite rfl) text
  | recording => exact scanFrom_literal recording rfl (scanFrom_doubleQuote recording rfl) text

/-- **A quoted identifier is one token.** -/
theorem scanFrom_identifierChars (d : Dialect) (name : List Char) :
    d.scanFrom .outside (d.identifierChars name)
      = ([], .closing d.identifierQuote (name.flatMap (doubleQuote d.identifierQuote))) := by
  have hq : isQuote d.identifierQuote = true := by cases d <;> rfl
  exact scanFrom_literal d hq (scanFrom_doubleQuote d (escapesIn_identifierQuote d)) name

/-- A text literal stands for its text. -/
theorem decode?_textEscape (d : Dialect) (text : List Char) :
    d.decode? '\x27' (text.flatMap d.textEscape) = some text := by
  have h : ([] : List Char).head? ≠ some '\x27' := by decide
  rw [decode?, splitBody_textEscape d text h]

/-- A quoted identifier stands for its name. -/
theorem decode?_identifier (d : Dialect) (name : List Char) :
    d.decode? d.identifierQuote (name.flatMap (doubleQuote d.identifierQuote)) = some name := by
  have h : ([] : List Char).head? ≠ some d.identifierQuote := by simp
  rw [decode?, splitBody_identifier d name h]

end Dialect

end SqlLayer
