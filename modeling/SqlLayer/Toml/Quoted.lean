import SqlLayer.Text.Hex

/-!
# Quoted text in TOML

Texts stand in double quotes, where a backslash starts an escape, or in single quotes, where every
character stands for itself. Three quotes open a text of several lines; a line break right behind
them is skipped, and every line break counts as one line feed.

* `basic?`, `literal?` — a text on one line, after its opening quote;
* `lines?` — a text of several lines, after its opening quotes;
* `quoted` — a text in double quotes, on one line.
-/

namespace SqlLayer.Toml

/-- Whether a character may stand in quotes as it is: no control character but the tab. -/
def isPlain (c : Char) : Bool := c = '\t' || (0x20 ≤ c.toNat && c.toNat ≠ 0x7F)

/-- The character that `count` hexadecimal digits name, and what follows. -/
def hexChar? (count : Nat) (s : List Char) : Option (Char × List Char) := do
  let digits := s.take count
  let values ← digits.mapM Text.hexValue?
  let n := values.foldl (fun n v => n * 16 + v) 0
  if digits.length = count ∧ n.isValidChar then some (Char.ofNat n, s.drop count) else none

/-- The character of an escape, after its backslash, and what follows. -/
def escaped? : List Char → Option (Char × List Char)
  | 'b' :: rest => some ('\x08', rest)
  | 't' :: rest => some ('\t', rest)
  | 'n' :: rest => some ('\n', rest)
  | 'f' :: rest => some ('\x0c', rest)
  | 'r' :: rest => some ('\r', rest)
  | 'e' :: rest => some ('\x1b', rest)
  | '\x22' :: rest => some ('\x22', rest)
  | '\\' :: rest => some ('\\', rest)
  | 'x' :: rest => hexChar? 2 rest
  | 'u' :: rest => hexChar? 4 rest
  | 'U' :: rest => hexChar? 8 rest
  | _ => none

/-- What follows a line break: a line feed, which a carriage return may precede. -/
def lineBreak? : List Char → Option (List Char)
  | '\n' :: rest => some rest
  | '\r' :: '\n' :: rest => some rest
  | _ => none

/-- Puts a character in front of a text that was read. -/
def consRead (c : Char) (read : List Char × List Char) : List Char × List Char :=
  (c :: read.1, read.2)

/-! ### One line -/

/-- A text in double quotes, after the first one; `fuel` bounds its length. -/
def basicChars? : Nat → List Char → Option (List Char × List Char)
  | 0, _ => none
  | _, [] => none
  | fuel + 1, c :: rest =>
    if c = '\x22' then some ([], rest)
    else if c = '\\' then do
      let (e, rest) ← escaped? rest
      (basicChars? fuel rest).map (consRead e)
    else if isPlain c then (basicChars? fuel rest).map (consRead c)
    else none

/-- A text in double quotes, after the first one, and what follows. -/
def basic? (s : List Char) : Option (String × List Char) :=
  (basicChars? (s.length + 1) s).map fun read => (String.ofList read.1, read.2)

/-- A text in single quotes, after the first one, and what follows. -/
def literal? (s : List Char) : Option (String × List Char) :=
  let content := s.takeWhile (· ≠ '\x27')
  match s.drop content.length with
  | _ :: rest => if content.all isPlain then some (String.ofList content, rest) else none
  | [] => none

/-! ### Several lines -/

/-- The end of a text of several lines: up to two quotes that belong to it, then three that close
it. -/
def closing? (quote : Char) (s : List Char) : Option (List Char × List Char) :=
  let quotes := (s.takeWhile (· = quote)).length
  if quotes < 3 then none
  else some (List.replicate (min (quotes - 3) 2) quote, s.drop (min quotes 5))

/-- A text from its first character that is neither blank nor line break. -/
def skipBlankLines : List Char → List Char
  | '\r' :: '\n' :: rest => skipBlankLines rest
  | c :: rest => if c = ' ' ∨ c = '\t' ∨ c = '\n' then skipBlankLines rest else c :: rest
  | [] => []

/-- What follows a backslash at the end of a line, with the blanks of the next lines skipped. -/
def lineContinuation? (s : List Char) : Option (List Char) :=
  (lineBreak? (s.dropWhile fun c => c = ' ' ∨ c = '\t')).map skipBlankLines

/-- A text of several lines, after its opening quotes; `fuel` bounds its length, and `escapes` tells
whether a backslash starts an escape. -/
def linesChars? (quote : Char) (escapes : Bool) : Nat → List Char → Option (List Char × List Char)
  | 0, _ => none
  | _, [] => none
  | fuel + 1, c :: rest =>
    match closing? quote (c :: rest) with
    | some ending => some ending
    | none =>
      if c = '\\' ∧ escapes then
        match lineContinuation? rest with
        | some rest => linesChars? quote escapes fuel rest
        | none => do
          let (e, rest) ← escaped? rest
          (linesChars? quote escapes fuel rest).map (consRead e)
      else if isPlain c ∨ (lineBreak? (c :: rest)).isSome then
        (linesChars? quote escapes fuel rest).map (consRead c)
      else none

/-- A text of several lines, after its opening quotes, and what follows. -/
def lines? (quote : Char) (escapes : Bool) (s : List Char) : Option (String × List Char) :=
  let s := (lineBreak? s).getD s
  (linesChars? quote escapes (s.length + 1) s).map fun read => (String.ofList read.1, read.2)

/-- A quoted text, and what follows. -/
def quotedText? : List Char → Option (String × List Char)
  | '\x22' :: '\x22' :: '\x22' :: rest => lines? '\x22' true rest
  | '\x27' :: '\x27' :: '\x27' :: rest => lines? '\x27' false rest
  | '\x22' :: rest => basic? rest
  | '\x27' :: rest => literal? rest
  | _ => none

/-! ### Writing -/

/-- A character in double quotes. -/
def escapeChar (c : Char) : List Char :=
  if c = '\x22' ∨ c = '\\' then ['\\', c]
  else if isPlain c then [c]
  else '\\' :: 'u' :: Text.fourHexDigits c.toNat

/-- A text in double quotes, on one line. -/
def quoted (s : String) : String :=
  String.ofList ('\x22' :: (s.toList.flatMap escapeChar ++ ['\x22']))

end SqlLayer.Toml
