import SqlLayer.Calendar.Reading
import SqlLayer.Result.Row

/-!
# Stored values

The self-describing JSON form of values, of declared kinds and of the modes of rows. A variant
without content is its name; a variant with content is an object with the name as its only key.

* `Value.serialize`, `Value.deserialize?` — values;
* `SqlKind.deserialize?`, `Addressing.deserialize?` — variants without content.
-/

namespace SqlLayer

namespace Json

/-- The variant that a tree names, with its content where it has one. -/
def variant? : Json → Option (String × Option Json)
  | .text name => some (name, none)
  | .object [(name, content)] => some (name, some content)
  | _ => none

/-- The variant without content that a tree names. An object with `null` names it too. -/
def unitVariant? (tree : Json) : Option String :=
  match tree.variant? with
  | some (name, none) => some name
  | some (name, some .null) => some name
  | _ => none

/-- An integer of 64 bits. -/
def int64? : Json → Option Int64
  | .int n =>
    if Int64.minValue.toInt ≤ n ∧ n ≤ Int64.maxValue.toInt then some (Int64.ofInt n) else none
  | _ => none

/-- A double; an integer counts as the nearest one. -/
def binary64? : Json → Option Binary64
  | .int n => some (Binary64.ofInt n)
  | .float x => some x
  | _ => none

/-- A text. -/
def text? : Json → Option String
  | .text s => some s
  | _ => none

/-- A byte. -/
def byte? : Json → Option UInt8
  | .int n => if 0 ≤ n ∧ n < 256 then some (UInt8.ofNat n.toNat) else none
  | _ => none

/-- A list of bytes. -/
def bytes? : Json → Option (List UInt8)
  | .array items => items.mapM byte?
  | _ => none

end Json

namespace Value

/-- The stored form of a value. -/
def serialize : Value → Json
  | .null => .text "Null"
  | .int n => .object [("Int", .int n.toInt)]
  | .float x => .object [("Float", if x.isFinite then .float x else .null)]
  | .text s => .object [("Text", .text s)]
  | .bytes b => .object [("Bytes", .array (b.map fun x => .int x.toNat))]
  | .date d => .object [("Date", .text d.text)]
  | .time t => .object [("Time", .text t.preciseText)]
  | .dateTime t => .object [("DateTime", .text t.preciseText)]

/-- The value of a stored form. -/
def deserialize? (tree : Json) : Option Value :=
  if tree.unitVariant? = some "Null" then some .null
  else
    match tree.variant? with
    | some (name, some content) =>
      if name = "Int" then content.int64?.map .int
      else if name = "Float" then content.binary64?.map .float
      else if name = "Text" then content.text?.map .text
      else if name = "Bytes" then content.bytes?.map .bytes
      else if name = "Date" then (content.text?.bind Date.read?).map .date
      else if name = "Time" then (content.text?.bind TimeOfDay.read?).map .time
      else if name = "DateTime" then (content.text?.bind DateTime.read?).map .dateTime
      else none
    | _ => none

end Value

/-- The stored form of a declared kind. -/
def SqlKind.serialize (tag : SqlKind) : Json := .text tag.name

/-- The declared kind of a stored form. -/
def SqlKind.deserialize? (tree : Json) : Option SqlKind :=
  tree.unitVariant?.bind SqlKind.ofName?

/-- The stored form of a mode. -/
def Addressing.serialize (mode : Addressing) : Json := .text mode.name

/-- The mode of a stored form. -/
def Addressing.deserialize? (tree : Json) : Option Addressing :=
  tree.unitVariant?.bind Addressing.ofName?

end SqlLayer
