import SqlLayer.Value.Kind

/-!
# Dialects: quoting and escaping

A dialect is the way an engine writes identifiers, texts and moments. The rest of escaping is the
same for all of them and follows the declared kind of the value.

* `Dialect.identifierLiteral`, `Dialect.textLiteral` — text between quotes, with a form for each
  character that keeps it **inside its quotes**;
* `blobLiteral` — bytes in hexadecimal digits;
* `Dialect.escape` — a value as an SQL literal or identifier.
-/

namespace SqlLayer

/-- The way an engine writes literals and identifiers. -/
inductive Dialect where
  /-- Identifiers in backticks, texts with backslash escapes. -/
  | mysql
  /-- Identifiers in double quotes, texts with doubled quotes. -/
  | sqlite
  /-- Identifiers in backticks, texts with doubled quotes. -/
  | recording
  deriving DecidableEq, Inhabited

namespace Dialect

/-- The quote around identifiers. -/
def identifierQuote : Dialect → Char
  | .mysql => '\x60'
  | .sqlite => '\x22'
  | .recording => '\x60'

/-- A character inside a quoted text or identifier where only the quote is special: it is written
twice. -/
def doubleQuote (quote c : Char) : List Char := if c = quote then [quote, quote] else [c]

/-- A character inside a text with backslash escapes. -/
def backslashEscape (c : Char) : List Char :=
  if c = '\x00' then ['\\', '0']
  else if c = '\n' then ['\\', 'n']
  else if c = '\r' then ['\\', 'r']
  else if c = '\\' then ['\\', '\\']
  else if c = '\x27' then ['\\', '\x27']
  else if c = '\x22' then ['\\', '\x22']
  else if c = '\x1a' then ['\\', 'Z']
  else [c]

/-- A character inside a quoted text. -/
def textEscape : Dialect → Char → List Char
  | .mysql => backslashEscape
  | .sqlite => doubleQuote '\x27'
  | .recording => doubleQuote '\x27'

/-- The characters of a quoted identifier. -/
def identifierChars (d : Dialect) (name : List Char) : List Char :=
  d.identifierQuote :: (name.flatMap (doubleQuote d.identifierQuote) ++ [d.identifierQuote])

/-- The characters of a quoted text. -/
def textChars (d : Dialect) (text : List Char) : List Char :=
  '\x27' :: (text.flatMap d.textEscape ++ ['\x27'])

/-- A quoted identifier. -/
def identifierLiteral (d : Dialect) (name : String) : String :=
  String.ofList (d.identifierChars name.toList)

/-- A quoted text. -/
def textLiteral (d : Dialect) (text : String) : String := String.ofList (d.textChars text.toList)

/-- The moment that many seconds after the start of 1970, computed by the engine. -/
def unixTimeCall (d : Dialect) (seconds : Int64) : String :=
  match d with
  | .mysql => "FROM_UNIXTIME(" ++ toString seconds.toInt ++ ")"
  | .sqlite => "datetime(" ++ toString seconds.toInt ++ ", 'unixepoch')"
  | .recording => "FROM_UNIXTIME(" ++ toString seconds.toInt ++ ")"

end Dialect

/-- A hexadecimal digit, in upper case. -/
def hexDigit (n : Nat) : Char := (Nat.digitChar n).toUpper

/-- The two hexadecimal digits of a byte. -/
def hexByte (b : UInt8) : List Char := [hexDigit (b.toNat / 16), hexDigit (b.toNat % 16)]

/-- A literal of bytes. -/
def blobLiteral (bytes : List UInt8) : String :=
  String.ofList ('X' :: '\x27' :: (bytes.flatMap hexByte ++ ['\x27']))

namespace Dialect

/-- A moment as far as the declared kind shows it. -/
def momentText (tag : SqlKind) (t : DateTime) : String :=
  match tag with
  | .date => t.date.text
  | .time => t.time.clockText
  | _ => t.clockText

/-- A value under a declared kind. Numbers are cast leniently, a double that is not finite is
`NULL`, and a value that names no moment stands for the present one. -/
def escapeTagged (d : Dialect) (now : DateTime) (v : Value) (tag : SqlKind) : String :=
  match tag with
  | .int => toString v.toInt.toInt
  | .float =>
    let x := v.toBinary64
    if x.isFinite then Binary64.literal.text x else "NULL"
  | .text => d.textLiteral v.display
  | .blob =>
    match v with
    | .bytes b => blobLiteral b
    | v => blobLiteral (Text.encode v.display.toList)
  | .date | .time | .dateTime => d.textLiteral (momentText tag (v.moment?.getD now))
  | .unixTime => d.unixTimeCall v.toInt
  | .field | .table => d.identifierLiteral v.display

/-- A value as an SQL literal or identifier. Without a tag the kind of the value decides, and
`NULL` is `NULL`. -/
def escape (d : Dialect) (now : DateTime) (v : Value) (tag : Option SqlKind) : String :=
  match tag.or (SqlKind.ofValue? v) with
  | none => "NULL"
  | some tag => d.escapeTagged now v tag

end Dialect

end SqlLayer
