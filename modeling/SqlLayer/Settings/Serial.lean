import SqlLayer.Settings
import SqlLayer.Value.Serial

/-!
# Stored settings

Settings as a tree of named fields. The table prefix has a second name, fields that may be absent
are left out when they are, unknown fields are skipped, and a field may not be given twice. A list
of the fields in order is accepted too; what is missing at its end is absent.

* `Settings.serialize` — the fields in order;
* `Settings.deserialize?` — the settings of an object or of a list.
-/

namespace SqlLayer

namespace Json

/-- The one member with one of these names: `none` where there are several, `some none` where there
is no such member. -/
def uniqueMember? (names : List String) (members : List (String × Json)) :
    Option (Option Json) :=
  match members.filter fun m => names.contains m.1 with
  | [] => some none
  | [m] => some (some m.2)
  | _ => none

/-- A value of some type that may be left out or `null`. -/
def optional? {α : Type} (read? : Json → Option α) : Option Json → Option (Option α)
  | none => some none
  | some .null => some none
  | some tree => (read? tree).map some

/-- A port. -/
def port? : Json → Option UInt16
  | .int n => if 0 ≤ n ∧ n < 65536 then some (UInt16.ofNat n.toNat) else none
  | _ => none

/-- A map of texts. -/
def textMap? : Json → Option (OrderedMap String)
  | .object members => do
    let entries ← members.mapM fun m => m.2.text?.map fun s => (m.1, s)
    some (OrderedMap.ofList entries)
  | _ => none

end Json

namespace Settings

/-- The stored form of settings. -/
def serialize (s : Settings) : Json :=
  let text (name : String) (value : Option String) : List (String × Json) :=
    (value.map fun v => (name, Json.text v)).toList
  .object <|
    ("type", .text s.driver) :: ("table_prefix", .text s.tablePrefix) ::
      (text "server" s.server ++ text "username" s.username ++ text "password" s.password ++
        text "database" s.database ++ (s.port.map fun p => ("port", Json.int p.toNat)).toList ++
        if s.options.isEmpty then []
        else [("options", .object (s.options.entries.map fun e => (e.1, .text e.2)))])

/-- Settings from their fields, each of which may be missing. -/
def ofFields? (driver tablePrefix server username password database port options : Option Json) :
    Option Settings := do
  let driver ← (← driver).text?
  let tablePrefix ← match tablePrefix with
    | none => some ""
    | some tree => tree.text?
  let server ← Json.optional? Json.text? server
  let username ← Json.optional? Json.text? username
  let password ← Json.optional? Json.text? password
  let database ← Json.optional? Json.text? database
  let port ← Json.optional? Json.port? port
  let options ← match options with
    | none => some OrderedMap.empty
    | some tree => tree.textMap?
  some { driver, tablePrefix, server, username, password, database, port, options }

/-- The settings of a stored form. -/
def deserialize? : Json → Option Settings
  | .object members => do
    let field (names : List String) := Json.uniqueMember? names members
    ofFields? (← field ["type"]) (← field ["table_prefix", "prefix"]) (← field ["server"])
      (← field ["username"]) (← field ["password"]) (← field ["database"]) (← field ["port"])
      (← field ["options"])
  | .array items =>
    if items.length ≤ 8 then
      ofFields? items[0]? items[1]? items[2]? items[3]? items[4]? items[5]? items[6]? items[7]?
    else none
  | _ => none

end Settings

end SqlLayer
