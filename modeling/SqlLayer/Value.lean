import SqlLayer.Binary64.Text
import SqlLayer.Calendar.Text
import SqlLayer.Numeral
import SqlLayer.Text.Utf8

/-!
# Values

A value on its way between an application and a driver. Values of result rows and values bound
into fragments share this type.

* `Value.display` — a value as plain text; `NULL` is empty;
* `Value.toInt`, `Value.toBinary64` — the **lenient casts** of loosely typed clients: a text counts
  for the number it starts with, a date or time for its seconds;
* `Value.moment?` — the moment that a temporal value names.
-/

namespace SqlLayer

/-- A value. -/
inductive Value where
  | null
  | int (n : Int64)
  | float (x : Binary64)
  | text (s : String)
  | bytes (b : List UInt8)
  | date (d : Date)
  | time (t : TimeOfDay)
  | dateTime (t : DateTime)
  deriving DecidableEq, Inhabited

namespace Value

/-- Whether the value is `NULL`. -/
def isNull : Value → Bool
  | .null => true
  | _ => false

/-- The text of a text value. -/
def asText? : Value → Option String
  | .text s => some s
  | _ => none

/-! ### Plain text -/

/-- A value as plain text. -/
def display : Value → String
  | .null => ""
  | .int n => toString n.toInt
  | .float x => Binary64.plain.text x
  | .text s => s
  | .bytes b => String.ofList (Text.decodeLossy b)
  | .date d => d.text
  | .time t => t.clockText
  | .dateTime t => t.clockText

/-! ### Lenient casts -/

/-- The number that a text starts with, as an integer; zero where it starts with none. -/
def intOfText (s : List Char) : Int64 :=
  match leadingNumeral? s with
  | none => 0
  | some n => n.toInt64

/-- The number that a text starts with, as a double; zero where it starts with none. -/
def binary64OfText (s : List Char) : Binary64 :=
  match leadingNumeral? s with
  | none => Binary64.ofInt 0
  | some n => n.toBinary64

/-- A value as an integer. -/
def toInt : Value → Int64
  | .null => 0
  | .int n => n
  | .float x => Int64.ofIntClamp x.truncate
  | .text s => intOfText s.toList
  | .bytes b => intOfText (Text.decodeLossy b)
  | .date d => Int64.ofInt (DateTime.mk d TimeOfDay.midnight).timestamp
  | .time t => Int64.ofInt t.seconds
  | .dateTime t => Int64.ofInt t.timestamp

/-- A value as a double. -/
def toBinary64 : Value → Binary64
  | .float x => x
  | .text s => binary64OfText s.toList
  | .bytes b => binary64OfText (Text.decodeLossy b)
  | v => Binary64.ofInt v.toInt.toInt

/-- The moment that a temporal value names: a date starts at midnight, and a time lies on the
first day of 1970. -/
def moment? : Value → Option DateTime
  | .date d => some ⟨d, TimeOfDay.midnight⟩
  | .time t => some ⟨Date.epoch, t⟩
  | .dateTime t => some t
  | _ => none

/-! ### Values from application types -/

/-- A natural number; one beyond the integer range becomes the greatest integer. -/
def ofNat (n : Nat) : Value := .int (Int64.ofIntClamp n)

/-- A truth value, as one or zero. -/
def ofBool (b : Bool) : Value := .int (if b then 1 else 0)

/-- A single-precision number by its bit pattern, widened. -/
def ofSingle (bits : UInt32) : Value := .float (Binary64.ofSingle bits)

/-- A value that may be absent. -/
def ofOption (v : Option Value) : Value := v.getD .null

end Value

end SqlLayer
