import SqlLayer.Value.Kind

/-!
# Values in diagnostics and typed access

* `Value.inspect`, `Arg.inspect` — values and arguments as diagnostics show them;
* `Value.convert` — the value as it is, provided that it has the requested kind.
-/

namespace SqlLayer

/-- A value as diagnostics show it. -/
def Value.inspect : Value → String
  | .null => "Null"
  | .int n => Diagnostic.wrapped "Int" (toString n.toInt)
  | .float x => Diagnostic.wrapped "Float" (Binary64.literal.text x)
  | .text s => Diagnostic.wrapped "Text" (Diagnostic.text s)
  | .bytes b => Diagnostic.wrapped "Bytes" (Diagnostic.listing (b.map fun x => toString x.toNat))
  | .date d => Diagnostic.wrapped "Date" d.text
  | .time t => Diagnostic.wrapped "Time" t.preciseText
  | .dateTime t => Diagnostic.wrapped "DateTime" t.preciseText

/-- An argument as diagnostics show it. -/
def Arg.inspect (arg : Arg) : String :=
  Diagnostic.record "Arg"
    [("value", arg.value.inspect), ("tag", Diagnostic.optional (arg.tag.map SqlKind.name))]

/-- The kinds that a caller can ask a value for. -/
inductive ValueType where
  | int
  | float
  | text
  | bytes
  | date
  | time
  | dateTime
  deriving DecidableEq, Inhabited

/-- The name of a kind in messages. -/
def ValueType.name : ValueType → String
  | .int => "i64"
  | .float => "f64"
  | .text => "String"
  | .bytes => "Vec<u8>"
  | .date => "NaiveDate"
  | .time => "NaiveTime"
  | .dateTime => "NaiveDateTime"

/-- The kind of a value; none for `NULL`. -/
def Value.kind? : Value → Option ValueType
  | .null => none
  | .int _ => some .int
  | .float _ => some .float
  | .text _ => some .text
  | .bytes _ => some .bytes
  | .date _ => some .date
  | .time _ => some .time
  | .dateTime _ => some .dateTime

/-- The value, if it has the requested kind. -/
def Value.convert (v : Value) (kind : ValueType) : Except SqlError Value :=
  if v.kind? = some kind then .ok v
  else .error (.typeMismatch ("Cannot convert " ++ v.inspect ++ " to " ++ kind.name))

end SqlLayer
