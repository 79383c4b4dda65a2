import SqlLayer.Error
import SqlLayer.Value

/-!
# Declared kinds of values

The SQL kind that a value is declared to have selects how it is escaped. Each kind has a code of one
character. An argument is a value with an optional tag, which is its declared kind; without a tag
the value itself decides.
-/

namespace SqlLayer

/-- The SQL kind that a value is written as. -/
inductive SqlKind where
  | blob
  | float
  | int
  | text
  /-- A column identifier. -/
  | field
  /-- A table identifier. -/
  | table
  | date
  | time
  | dateTime
  /-- Seconds since the start of 1970, which the engine converts. -/
  | unixTime
  deriving DecidableEq, Inhabited

namespace SqlKind

/-- All kinds. -/
def all : List SqlKind :=
  [.blob, .float, .int, .text, .field, .table, .date, .time, .dateTime, .unixTime]

/-- The code of a kind. -/
def code : SqlKind → Char
  | .blob => 'l'
  | .float => 'f'
  | .int => 'n'
  | .text => 's'
  | .field => 'c'
  | .table => 'i'
  | .date => 'd'
  | .time => 't'
  | .dateTime => 'x'
  | .unixTime => 'u'

/-- The name of a kind. -/
def name : SqlKind → String
  | .blob => "Blob"
  | .float => "Float"
  | .int => "Int"
  | .text => "Text"
  | .field => "Field"
  | .table => "Table"
  | .date => "Date"
  | .time => "Time"
  | .dateTime => "DateTime"
  | .unixTime => "UnixTime"

/-- The kind with a code. -/
def ofCode (code : Char) : Except SqlError SqlKind :=
  match all.find? (fun tag => tag.code == code) with
  | some tag => .ok tag
  | none => .error (.usage ("Unknown value tag '" ++ code.toString ++ "'"))

/-- The kind with a name. -/
def ofName? (name : String) : Option SqlKind := all.find? fun tag => tag.name == name

theorem mem_all (tag : SqlKind) : tag ∈ all := by cases tag <;> decide

theorem ofCode_code (tag : SqlKind) : ofCode tag.code = .ok tag := by cases tag <;> rfl

/-- The kind of a value that is not declared to have another; none for `NULL`. -/
def ofValue? : Value → Option SqlKind
  | .null => none
  | .int _ => some .int
  | .float _ => some .float
  | .text _ => some .text
  | .bytes _ => some .blob
  | .date _ => some .date
  | .time _ => some .time
  | .dateTime _ => some .dateTime

/-- Whether values of this kind are identifiers. -/
def namesIdentifier (tag : SqlKind) : Bool := tag == .field || tag == .table

/-- Whether values of this kind are dates or times. -/
def namesMoment (tag : SqlKind) : Bool := tag == .date || tag == .time || tag == .dateTime

end SqlKind

/-- A value bound into a fragment. -/
structure Arg where
  value : Value
  tag : Option SqlKind
  deriving DecidableEq, Inhabited

namespace Arg

/-- An argument whose value decides how it is written. -/
def plain (value : Value) : Arg := ⟨value, none⟩

/-- An argument with a declared kind. -/
def ofKind (value : Value) (tag : SqlKind) : Arg := ⟨value, some tag⟩

/-- A column identifier. -/
def field (name : String) : Arg := ofKind (.text name) .field

/-- A table identifier. -/
def table (name : String) : Arg := ofKind (.text name) .table

/-- Bytes. -/
def blob (bytes : List UInt8) : Arg := ofKind (.bytes bytes) .blob

/-- Seconds since the start of 1970. -/
def unixTime (seconds : Int64) : Arg := ofKind (.int seconds) .unixTime

end Arg

end SqlLayer
