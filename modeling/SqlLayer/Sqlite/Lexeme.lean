import SqlLayer.Numeral
import SqlLayer.Text.Hex
import SqlLayer.Text.Utf8

/-!
# Lexemes of the SQLite engine

A statement text cut into words, numbers, quoted texts and names, bytes and single marks. Every
lexeme keeps its source and the blanks before it, so that a run of lexemes gives its text back.

* `firstLexeme` — the lexeme that a text starts with;
* `lex` — the lexemes of a text, up to the first that the engine does not recognise;
* `sourceText` — the text of a run of lexemes.
-/

namespace SqlLayer.Sqlite

/-- What a lexeme means. -/
inductive Lexeme.Kind where
  /-- A keyword or a name without quotes. -/
  | word
  | number
  | text (s : List Char)
  /-- A name between quotes. -/
  | name (s : List Char)
  | blob (bytes : List UInt8)
  /-- The place of a value that is bound later. -/
  | placeholder
  | mark (c : Char)
  /-- What starts like a lexeme of another kind and is none, or a character that starts none. -/
  | unrecognized
  deriving DecidableEq

/-- A lexeme with its source. -/
structure Lexeme where
  /-- The blanks and comments before it. -/
  gap : List Char
  source : List Char
  kind : Lexeme.Kind
  deriving DecidableEq

/-- Whether a character separates lexemes. -/
def isSpace (c : Char) : Bool :=
  c = ' ' || c = '\t' || c = '\n' || c = '\r' || c = '\x0c'

/-- Whether a character may start a word. -/
def isWordStart (c : Char) : Bool := c.isAlpha || c = '_' || 128 ≤ c.toNat

/-- Whether a character may stand in a word. -/
def isWordChar (c : Char) : Bool := isWordStart c || c.isDigit || c = '$'

/-- The text up to a closing quote and what follows it; a doubled quote stands for one. -/
def splitQuoted (quote : Char) : List Char → Option (List Char × List Char)
  | [] => none
  | [c] => if c = quote then some ([], []) else none
  | c :: d :: rest =>
    if c = quote then
      if d = quote then (splitQuoted quote rest).map fun r => (quote :: r.1, r.2)
      else some ([], d :: rest)
    else (splitQuoted quote (d :: rest)).map fun r => (c :: r.1, r.2)

/-- The bytes of pairs of hexadecimal digits. -/
def hexBytes? : List Char → Option (List UInt8)
  | [] => some []
  | [_] => none
  | a :: b :: rest => do
    let high ← Text.hexValue? a
    let low ← Text.hexValue? b
    let bytes ← hexBytes? rest
    some (UInt8.ofNat (16 * high + low) :: bytes)

/-- The blanks and comments at the start of a text, and what follows; `fuel` bounds the number of
comments. -/
def splitGap : Nat → List Char → List Char × List Char
  | 0, s => ([], s)
  | fuel + 1, s =>
    let blanks := s.takeWhile isSpace
    match s.dropWhile isSpace with
    | '-' :: '-' :: rest =>
      let comment := rest.takeWhile (· ≠ '\n')
      let (gap, after) := splitGap fuel (rest.dropWhile (· ≠ '\n'))
      (blanks ++ '-' :: '-' :: (comment ++ gap), after)
    | rest => (blanks, rest)

/-- The numeral without a sign that a text starts with. -/
def unsignedNumeral? (s : List Char) : Option Numeral :=
  (Numeral.read? s).filter fun n => n.sign = none

/-- Whether a character is a lexeme by itself. -/
def isMarkChar (c : Char) : Bool := "+-*/%=<>|&~(),;.".toList.contains c

/-- Whether a character starts the place of a bound value. -/
def isPlaceholderStart (c : Char) : Bool := "?#@:$".toList.contains c

/-- A kind with the length of the lexeme, where something was read before `after`. Otherwise the
whole text is not recognised. -/
def readTo {α : Type} (s : List Char) (kind : α → Lexeme.Kind) (read : Option (α × List Char)) :
    Lexeme.Kind × Nat :=
  match read with
  | some (content, after) => (kind content, s.length - after.length)
  | none => (.unrecognized, s.length)

/-- The bytes at the start of a text, and their length. A character that is no digit, or an odd
number of digits, spoils them up to the closing quote. -/
def blobLexeme (s : List Char) : Lexeme.Kind × Nat :=
  let digits := (s.drop 2).takeWhile (· ≠ '\x27')
  match s[digits.length + 2]?, hexBytes? digits with
  | some _, some bytes => (.blob bytes, digits.length + 3)
  | some _, none => (.unrecognized, digits.length + 3)
  | none, _ => (.unrecognized, s.length)

/-- The number at the start of a text, and its length. Letters right behind a number spoil it. -/
def numberLexeme (n : Numeral) (s : List Char) : Lexeme.Kind × Nat :=
  let size := n.text.length
  match ((s.drop size).takeWhile isWordChar).length with
  | 0 => (.number, size)
  | letters => (.unrecognized, size + letters)

/-- The kind of the lexeme that a text starts with, and its length; the text has no leading
blanks. -/
def firstLexeme (s : List Char) : Lexeme.Kind × Nat :=
  match s with
  | [] => (.unrecognized, 0)
  | c :: rest =>
    if (c = 'x' ∨ c = 'X') ∧ rest.head? = some '\x27' then blobLexeme s
    else if isWordStart c then (.word, 1 + (rest.takeWhile isWordChar).length)
    else if c = '\x27' then readTo s .text (splitQuoted c rest)
    else if c = '\x22' ∨ c = '\x60' then readTo s .name (splitQuoted c rest)
    else
      match unsignedNumeral? s with
      | some n => numberLexeme n s
      | none =>
        if isMarkChar c then (.mark c, 1)
        else if isPlaceholderStart c ∧ (c = '?' ∨ rest.head?.any isWordChar) then
          (.placeholder, 1 + (rest.takeWhile isWordChar).length)
        else (.unrecognized, 1)

/-- The lexemes of a text; `fuel` bounds their number. -/
def lexWith : Nat → List Char → List Lexeme
  | 0, _ => []
  | fuel + 1, s =>
    let (gap, body) := splitGap (s.length + 1) s
    if body = [] then []
    else
      let (kind, size) := firstLexeme body
      let lexeme : Lexeme := ⟨gap, body.take size, kind⟩
      if kind = .unrecognized then [lexeme] else lexeme :: lexWith fuel (body.drop size)

/-- The lexemes of a text. One that is not recognised is the last. -/
def lex (s : List Char) : List Lexeme := lexWith (s.length + 1) s

/-- The text of a run of lexemes, without the blanks before the first. -/
def sourceText : List Lexeme → List Char
  | [] => []
  | l :: rest => l.source ++ rest.flatMap fun l => l.gap ++ l.source

end SqlLayer.Sqlite
