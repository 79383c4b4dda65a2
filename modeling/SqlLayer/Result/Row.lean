import SqlLayer.OrderedMap
import SqlLayer.Value.Inspect
import SqlLayer.Value.Json

/-!
# Rows

One fetched row: values under column names. The mode it was fetched in decides whether its columns
have names, ordinals or both. A row may hold fewer or more values than there are columns.

* `Row.indexOf?` — where a key points: names see the **last** column of that name;
* `Row.get?`, `Row.take`, `Row.getOfType` — reading a field; taking one can run past the values;
* `Row.toMap`, `Row.toMembers` — a row by column name.
-/

namespace SqlLayer

/-- How the columns of a row are addressed: the mode that the row was fetched in. -/
inductive Addressing where
  | byName
  | byOrdinal
  /-- By name and by ordinal. -/
  | byEither
  deriving DecidableEq, Inhabited

namespace Addressing

/-- The code of a mode. -/
def code : Addressing → Nat
  | .byName => 1
  | .byOrdinal => 2
  | .byEither => 3

/-- The name of a mode. -/
def name : Addressing → String
  | .byName => "Assoc"
  | .byOrdinal => "Num"
  | .byEither => "Both"

/-- The mode with a code. -/
def ofCode (code : Nat) : Except SqlError Addressing :=
  match code with
  | 1 => .ok .byName
  | 2 => .ok .byOrdinal
  | 3 => .ok .byEither
  | _ => .error (.usage ("Unknown fetch mode " ++ toString code))

/-- The mode with a name. -/
def ofName? (name : String) : Option Addressing :=
  [Addressing.byName, .byOrdinal, .byEither].find? fun mode => mode.name == name

/-- Whether columns have names. -/
def hasNames (mode : Addressing) : Bool := mode != .byOrdinal

/-- Whether columns have ordinals. -/
def hasOrdinals (mode : Addressing) : Bool := mode != .byName

theorem ofCode_code (mode : Addressing) : ofCode mode.code = .ok mode := by cases mode <;> rfl

end Addressing

/-- A column by ordinal or by name. -/
inductive ColumnKey where
  | ordinal (i : Nat)
  | name (s : String)
  deriving DecidableEq, Inhabited

namespace ColumnKey

/-- The greatest ordinal. No row is that long. -/
def greatestOrdinal : Nat := 2 ^ 64 - 1

/-- A column by a signed ordinal; a negative one lies beyond every row. -/
def ofInt (i : Int) : ColumnKey := .ordinal (if i < 0 then greatestOrdinal else i.toNat)

/-- A key as plain text. -/
def display : ColumnKey → String
  | .ordinal i => toString i
  | .name s => s

end ColumnKey

/-- One fetched row. -/
structure Row where
  mode : Addressing
  columns : List String
  values : List Value
  deriving DecidableEq, Inhabited

/-- What taking a field out of a row gives. -/
inductive Taken where
  /-- The row has no such column. -/
  | absent
  | value (v : Value)
  /-- The column is there, and the row ends before it. -/
  | beyondEnd
  deriving DecidableEq, Inhabited

namespace Row

/-- The position of the last item that equals `name`. -/
def lastIndex? (name : String) : List String → Option Nat
  | [] => none
  | column :: rest =>
    match lastIndex? name rest with
    | some i => some (i + 1)
    | none => if column = name then some 0 else none

/-- The position that a key points to. -/
def indexOf? (row : Row) : ColumnKey → Option Nat
  | .ordinal i => if row.mode.hasOrdinals && i < row.values.length then some i else none
  | .name s => if row.mode.hasNames then lastIndex? s row.columns else none

/-- Whether a key points to a column. -/
def contains (row : Row) (key : ColumnKey) : Bool := (row.indexOf? key).isSome

/-- The value that a key points to. -/
def get? (row : Row) (key : ColumnKey) : Option Value :=
  (row.indexOf? key).bind fun i => row.values[i]?

/-- The value that a key points to, out of a row that is not needed any more. -/
def take (row : Row) (key : ColumnKey) : Taken :=
  match row.indexOf? key with
  | none => .absent
  | some i =>
    match row.values[i]? with
    | some v => .value v
    | none => .beyondEnd

/-- The value that a key points to, if it has the requested kind. -/
def getOfType (row : Row) (key : ColumnKey) (kind : ValueType) : Except SqlError Value :=
  match row.get? key with
  | none => .error (.fieldNotFound key.display)
  | some v => v.convert kind

/-- Fails unless a key points to a column. -/
def require (row : Row) (key : ColumnKey) : Except SqlError Unit :=
  if row.contains key then .ok () else .error (.fieldNotFound key.display)

/-- The columns that have a value, with it. -/
def fields (row : Row) : List (String × Value) := row.columns.zip row.values

/-- The values by column name; of equal names the last one counts. -/
def toMap (row : Row) : OrderedMap Value := OrderedMap.ofList row.fields

/-- The members of the row as a JSON object, sorted by name. -/
def toMembers (row : Row) : List (String × Json) :=
  Json.sortMembers (row.fields.map fun f => (f.1, f.2.toJson))

/-- The row as a JSON object. -/
def toJson (row : Row) : Json := .object row.toMembers

end Row

end SqlLayer
