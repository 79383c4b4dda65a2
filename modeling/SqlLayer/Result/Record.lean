import SqlLayer.Result.Row

/-!
# Filling records from rows

A row can fill a record of the application. It comes as the members of a JSON object, sorted by
name; a record has typed fields, in an order of its own.

* `RecordShape.fill` — the fields of a record, in order, or **the first reason against it**: members
  are checked in the order of their names, then fields without a member in the order of the record;
* `FillTarget` — what a caller wants rows turned into.
-/

namespace SqlLayer

/-- The type of a record's field. -/
inductive FieldType where
  | int
  | text
  /-- A field that may be absent. -/
  | optional (t : FieldType)
  deriving DecidableEq

/-- The names of a record's fields with their types, in order. -/
abbrev RecordShape := List (String × FieldType)

/-- A member as the reason against it names it. -/
def Json.describe : Json → String
  | .null => "null"
  | .bool b => "boolean `" ++ Diagnostic.flag b ++ "`"
  | .int n => "integer `" ++ toString n ++ "`"
  | .float x => "floating point `" ++ Binary64.json.text x ++ "`"
  | .text s => "string " ++ Diagnostic.text s
  | .array _ => "sequence"
  | .object _ => "map"

namespace FieldType

/-- The name of a type in reasons. -/
def name : FieldType → String
  | .int => "i64"
  | .text => "a string"
  | .optional t => t.name

/-- A field of this type from a member. -/
def fill : FieldType → Json → Except FillError Json
  | .int, .int n => .ok (.int n)
  | .text, .text s => .ok (.text s)
  | .optional _, .null => .ok .null
  | .optional t, member => t.fill member
  | t, member => .error (.invalidType member.describe t.name)

/-- A field of this type that has no member. -/
def absent (t : FieldType) (name : String) : Except FillError Json :=
  match t with
  | .optional _ => .ok .null
  | _ => .error (.missingField name)

end FieldType

namespace RecordShape

/-- The type of a field. -/
def typeOf? (shape : RecordShape) (name : String) : Option FieldType :=
  (shape.find? fun f => f.1 == name).map Prod.snd

/-- The members that belong to fields, checked. Members of other names are skipped. -/
def fillMembers (shape : RecordShape) :
    List (String × Json) → Except FillError (List (String × Json))
  | [] => .ok []
  | (name, member) :: rest =>
    match shape.typeOf? name with
    | none => shape.fillMembers rest
    | some t => do
      let value ← t.fill member
      let filled ← shape.fillMembers rest
      return (name, value) :: filled

/-- The fields of a record, in order. -/
def fill (shape : RecordShape) (members : List (String × Json)) :
    Except FillError (List Json) := do
  let filled ← shape.fillMembers members
  shape.mapM fun f =>
    match Json.member? f.1 filled with
    | some value => .ok value
    | none => f.2.absent f.1

end RecordShape

/-- What a caller wants rows turned into. -/
inductive FillTarget where
  /-- Any object. -/
  | anyObject
  | record (shape : RecordShape)

/-- The object of a row, or the fields of the record that the row fills. -/
def FillTarget.fill (target : FillTarget) (members : List (String × Json)) :
    Except FillError Json :=
  match target with
  | .anyObject => .ok (.object members)
  | .record shape => (shape.fill members).map .array

end SqlLayer
