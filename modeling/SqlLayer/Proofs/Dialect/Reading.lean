import Mathlib.Tactic.SplitIfs
import SqlLayer.Dialect
import SqlLayer.Sqlite.Lexeme

/-!
# Quoted literals read back

An engine reads a quoted text or identifier up to the quote that closes it.  In most quotes only the
quote itself is special: it is written twice.  Between the text quotes of MySQL a backslash is
special too, and stands with the letter after it for one character.

* `Dialect.readText`, `Dialect.readIdentifier` — the readers: the text between the quotes, and
  **what follows the closing quote**;
* `Dialect.readText_textChars`, `Dialect.readIdentifier_identifierChars` — a literal is read back
  whole, whatever follows it, as long as that does **not begin with the same quote**.
-/

namespace SqlLayer

namespace Dialect

/-! ### The readers -/

/-- What a backslash and a letter after it stand for. -/
def unescape? (c : Char) : Option Char :=
  if c = '0' then some '\x00'
  else if c = 'n' then some '\n'
  else if c = 'r' then some '\r'
  else if c = '\\' then some '\\'
  else if c = '\x27' then some '\x27'
  else if c = '\x22' then some '\x22'
  else if c = 'Z' then some '\x1a'
  else none

/-- The text up to a closing quote and what follows it, where a backslash is special.  A doubled
quote stands for one. -/
def splitEscaped (quote : Char) : List Char → Option (List Char × List Char)
  | [] => none
  | [c] => if c = quote then some ([], []) else none
  | c :: d :: rest =>
    if c = '\\' then
      match unescape? d with
      | none => none
      | some u => (splitEscaped quote rest).map fun r => (u :: r.1, r.2)
    else if c = quote then
      if d = quote then (splitEscaped quote rest).map fun r => (quote :: r.1, r.2)
      else some ([], d :: rest)
    else (splitEscaped quote (d :: rest)).map fun r => (c :: r.1, r.2)

/-- Whether a backslash is special between two quotes of a kind. -/
def escapesIn (d : Dialect) (quote : Char) : Bool := d == .mysql && quote != '\x60'

/-- The text up to a closing quote and what follows it, after an opening quote. -/
def splitBody (d : Dialect) (quote : Char) (s : List Char) : Option (List Char × List Char) :=
  if d.escapesIn quote then splitEscaped quote s else Sqlite.splitQuoted quote s

/-- The quoted token that a text starts with, read, and what follows it. -/
def readQuoted (d : Dialect) (quote : Char) : List Char → Option (List Char × List Char)
  | [] => none
  | c :: rest => if c = quote then d.splitBody quote rest else none

/-- The text literal that a text starts with, read, and what follows it. -/
def readText (d : Dialect) : List Char → Option (List Char × List Char) := d.readQuoted '\x27'

/-- The quoted identifier that a text starts with, read, and what follows it. -/
def readIdentifier (d : Dialect) : List Char → Option (List Char × List Char) :=
  d.readQuoted d.identifierQuote

/-! ### One character inside quotes -/

/-- A character that is not the quote is read as it is. -/
theorem splitQuoted_cons_of_ne {quote c : Char} (h : c ≠ quote) (rest : List Char) :
    Sqlite.splitQuoted quote (c :: rest)
      = (Sqlite.splitQuoted quote rest).map fun r => (c :: r.1, r.2) := by
  cases rest with
  | nil => simp [Sqlite.splitQuoted, h]
  | cons e rest => rw [Sqlite.splitQuoted, if_neg h]

/-- A character is read back from the form that it has between quotes. -/
theorem splitQuoted_doubleQuote (quote c : Char) (rest : List Char) :
    Sqlite.splitQuoted quote (doubleQuote quote c ++ rest)
      = (Sqlite.splitQuoted quote rest).map fun r => (c :: r.1, r.2) := by
  by_cases h : c = quote
  · subst h
    simp [doubleQuote, Sqlite.splitQuoted]
  · simp only [doubleQuote, if_neg h]
    exact splitQuoted_cons_of_ne h rest

/-- A backslash and a letter are read as the character that they stand for. -/
theorem splitEscaped_backslash {quote e u : Char} (he : unescape? e = some u)
    (rest : List Char) :
    splitEscaped quote ('\\' :: e :: rest)
      = (splitEscaped quote rest).map fun r => (u :: r.1, r.2) := by
  rw [splitEscaped, if_pos rfl, he]

/-- A character that is neither the quote nor a backslash is read as it is. -/
theorem splitEscaped_cons_of_ne {quote c : Char} (h : c ≠ quote) (hb : c ≠ '\\')
    (rest : List Char) :
    splitEscaped quote (c :: rest) = (splitEscaped quote rest).map fun r => (c :: r.1, r.2) := by
  cases rest with
  | nil => simp [splitEscaped, h]
  | cons e rest => rw [splitEscaped, if_neg hb, if_neg h]

/-- A character is written as a backslash with a letter that stands for it, or it is neither a
backslash nor a text quote and is written as it is. -/
theorem backslashEscape_cases (c : Char) :
    (∃ e, backslashEscape c = ['\\', e] ∧ unescape? e = some c) ∨
      (backslashEscape c = [c] ∧ c ≠ '\\' ∧ c ≠ '\x27') := by
  unfold backslashEscape
  split_ifs with h₀ hn hr hb hq hd hz
  · exact .inl ⟨'0', rfl, by rw [h₀]; rfl⟩
  · exact .inl ⟨'n', rfl, by rw [hn]; rfl⟩
  · exact .inl ⟨'r', rfl, by rw [hr]; rfl⟩
  · exact .inl ⟨'\\', rfl, by rw [hb]; rfl⟩
  · exact .inl ⟨'\x27', rfl, by rw [hq]; rfl⟩
  · exact .inl ⟨'\x22', rfl, by rw [hd]; rfl⟩
  · exact .inl ⟨'Z', rfl, by rw [hz]; rfl⟩
  · exact .inr ⟨rfl, hb, hq⟩

/-- A character is read back from the form with a backslash. -/
theorem splitEscaped_backslashEscape (c : Char) (rest : List Char) :
    splitEscaped '\x27' (backslashEscape c ++ rest)
      = (splitEscaped '\x27' rest).map fun r => (c :: r.1, r.2) := by
  obtain ⟨e, hform, he⟩ | ⟨hform, hb, hq⟩ := backslashEscape_cases c
  · rw [hform]
    exact splitEscaped_backslash he rest
  · rw [hform]
    exact splitEscaped_cons_of_ne hq hb rest

/-! ### Whole literals -/

/-- The quote after a text closes it, where no second one follows. -/
theorem splitQuoted_close {quote : Char} {rest : List Char} (h : rest.head? ≠ some quote) :
    Sqlite.splitQuoted quote (quote :: rest) = some ([], rest) := by
  cases rest with
  | nil => simp [Sqlite.splitQuoted]
  | cons e rest =>
    have he : e ≠ quote := fun eq => h (by rw [eq]; rfl)
    rw [Sqlite.splitQuoted, if_pos rfl, if_neg he]

theorem splitEscaped_close {quote : Char} {rest : List Char} (hq : quote ≠ '\\')
    (h : rest.head? ≠ some quote) : splitEscaped quote (quote :: rest) = some ([], rest) := by
  cases rest with
  | nil => simp [splitEscaped]
  | cons e rest =>
    have he : e ≠ quote := fun eq => h (by rw [eq]; rfl)
    rw [splitEscaped, if_neg hq, if_pos rfl, if_neg he]

/-- **Doubled quotes.**  The text up to the closing quote is read back. -/
theorem splitQuoted_doubled (quote : Char) (text : List Char) {rest : List Char}
    (h : rest.head? ≠ some quote) :
    Sqlite.splitQuoted quote (text.flatMap (doubleQuote quote) ++ quote :: rest)
      = some (text, rest) := by
  induction text with
  | nil => exact splitQuoted_close h
  | cons c text ih =>
    rw [List.flatMap_cons, List.append_assoc, splitQuoted_doubleQuote, ih]
    rfl

/-- **Backslashes.**  The text up to the closing quote is read back. -/
theorem splitEscaped_escaped (text : List Char) {rest : List Char}
    (h : rest.head? ≠ some '\x27') :
    splitEscaped '\x27' (text.flatMap backslashEscape ++ '\x27' :: rest) = some (text, rest) := by
  induction text with
  | nil => exact splitEscaped_close (by decide) h
  | cons c text ih =>
    rw [List.flatMap_cons, List.append_assoc, splitEscaped_backslashEscape, ih]
    rfl

/-- No dialect gives a backslash a meaning in identifiers. -/
theorem escapesIn_identifierQuote (d : Dialect) : d.escapesIn d.identifierQuote = false := by
  cases d <;> rfl

/-- The inside of a quoted text is read back. -/
theorem splitBody_textEscape (d : Dialect) (text : List Char) {rest : List Char}
    (h : rest.head? ≠ some '\x27') :
    d.splitBody '\x27' (text.flatMap d.textEscape ++ '\x27' :: rest) = some (text, rest) := by
  cases d with
  | mysql => exact splitEscaped_escaped text h
  | sqlite => exact splitQuoted_doubled '\x27' text h
  | recording => exact splitQuoted_doubled '\x27' text h

/-- The inside of a quoted identifier is read back. -/
theorem splitBody_identifier (d : Dialect) (name : List Char) {rest : List Char}
    (h : rest.head? ≠ some d.identifierQuote) :
    d.splitBody d.identifierQuote
        (name.flatMap (doubleQuote d.identifierQuote) ++ d.identifierQuote :: rest)
      = some (name, rest) := by
  rw [splitBody, escapesIn_identifierQuote]
  exact splitQuoted_doubled d.identifierQuote name h

/-- **A text literal is read back whole**, up to any text that does not begin with its quote. -/
theorem readText_textChars (d : Dialect) (text : List Char) {rest : List Char}
    (h : rest.head? ≠ some '\x27') :
    d.readText (d.textChars text ++ rest) = some (text, rest) := by
  show d.readQuoted '\x27' ('\x27' :: (text.flatMap d.textEscape ++ ['\x27']) ++ rest) = _
  rw [List.cons_append, readQuoted, if_pos rfl, List.append_assoc]
  exact splitBody_textEscape d text h

/-- **A quoted identifier is read back whole**, up to any text that does not begin with its
quote. -/
theorem readIdentifier_identifierChars (d : Dialect) (name : List Char) {rest : List Char}
    (h : rest.head? ≠ some d.identifierQuote) :
    d.readIdentifier (d.identifierChars name ++ rest) = some (name, rest) := by
  show d.readQuoted d.identifierQuote
    (d.identifierQuote :: (name.flatMap (doubleQuote d.identifierQuote)
      ++ [d.identifierQuote]) ++ rest) = _
  rw [List.cons_append, readQuoted, if_pos rfl, List.append_assoc]
  exact splitBody_identifier d name h

/-! ### Characters that have to be written with a backslash -/

/-- A character that some readers of statements give a meaning of its own. -/
def isControl (c : Char) : Bool := c == '\x00' || c == '\n' || c == '\r' || c == '\x1a'

/-- With backslashes no such character is left. -/
theorem isControl_of_mem_backslashEscape {c e : Char} (h : e ∈ backslashEscape c) :
    isControl e = false := by
  unfold backslashEscape at h
  split_ifs at h <;> simp only [List.mem_cons, List.not_mem_nil, or_false] at h <;>
    grind [isControl]

end Dialect

end SqlLayer
