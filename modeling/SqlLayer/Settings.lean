import SqlLayer.Error
import SqlLayer.OrderedMap
import SqlLayer.Text.Search

/-!
# Connection settings

`Settings` is what an application hands to a connection: the driver, the table prefix and
the parameters of the engine. `Parameters` is the part that the driver sees.

* `Settings.ofEntries` — settings from a flat list of keys and values;
* `Settings.parameters` — the settings without driver name and table prefix;
* `inspect` — settings in diagnostics, **with the password hidden**.
-/

namespace SqlLayer

/-- Settings for opening a connection. -/
structure Settings where
  /-- The name of a registered driver. -/
  driver : String
  /-- What the marker `#__` stands for. -/
  tablePrefix : String
  server : Option String
  username : Option String
  password : Option String
  /-- The name of the database, or its file. -/
  database : Option String
  port : Option UInt16
  /-- Extras for the driver. -/
  options : OrderedMap String
  deriving DecidableEq

/-- The parameters that a driver connects with. -/
structure Parameters where
  server : Option String
  username : Option String
  password : Option String
  database : Option String
  port : Option UInt16
  options : OrderedMap String
  deriving DecidableEq

/-- The fields that connection settings and driver settings share, as diagnostics show them. -/
def inspectParameters (server username password database : Option String) (port : Option UInt16)
    (options : OrderedMap String) : List (String × String) :=
  [("server", Diagnostic.optionalText server),
    ("username", Diagnostic.optionalText username),
    ("password", Diagnostic.optionalText (password.map fun _ => "***")),
    ("database", Diagnostic.optionalText database),
    ("port", Diagnostic.optional (port.map fun p => toString p.toNat)),
    ("options", Diagnostic.mapping
      (options.entries.map fun e => (Diagnostic.text e.1, Diagnostic.text e.2)))]

namespace Parameters

/-- The value of a driver-specific extra. -/
def option? (s : Parameters) (key : String) : Option String := s.options.get? key

/-- Settings in diagnostics. -/
def inspect (s : Parameters) : String :=
  Diagnostic.record "DriverSettings"
    (inspectParameters s.server s.username s.password s.database s.port s.options)

end Parameters

namespace Settings

/-- Settings that name a driver and nothing else. -/
def new (driver : String) : Settings :=
  { driver, tablePrefix := "", server := none, username := none, password := none,
    database := none, port := none, options := OrderedMap.empty }

/-- Settings for a MySQL server. -/
def mysql (server username password database : String) : Settings :=
  { new "mysql" with
    server := some server, username := some username, password := some password,
    database := some database }

/-- Settings for an SQLite file; `:memory:` is a private database in memory. -/
def sqlite (path : String) : Settings := { new "sqlite" with database := some path }

/-- Sets the table prefix. -/
def setTablePrefix (s : Settings) (tablePrefix : String) : Settings :=
  { s with tablePrefix }

/-- Sets the port. -/
def setPort (s : Settings) (port : UInt16) : Settings :=
  { s with port := some port }

/-- Sets a driver-specific extra. -/
def setOption (s : Settings) (key value : String) : Settings :=
  { s with options := s.options.insert key value }

/-- A port as written in a list of entries: digits with an optional plus sign, below 65536. -/
def readPort? (value : String) : Option UInt16 :=
  let digits := match value.toList with
    | '+' :: rest => rest
    | digits => digits
  if digits ≠ [] ∧ Text.allDigits digits ∧ Text.decimal digits < 65536 then
    some (UInt16.ofNat (Text.decimal digits))
  else none

/-- Settings while entries are read: the driver may still be missing. -/
structure Draft where
  driver : Option String
  settings : Settings

/-- Reads one entry. Keys that are no field of the settings are driver-specific extras. -/
def Draft.read (d : Draft) (key value : String) : Except SqlError Draft :=
  let s := d.settings
  if key = "type" then .ok { d with driver := some value }
  else if key = "prefix" ∨ key = "table_prefix" then
    .ok { d with settings := { s with tablePrefix := value } }
  else if key = "server" then .ok { d with settings := { s with server := some value } }
  else if key = "username" then .ok { d with settings := { s with username := some value } }
  else if key = "password" then .ok { d with settings := { s with password := some value } }
  else if key = "database" then .ok { d with settings := { s with database := some value } }
  else if key = "port" then
    match readPort? value with
    | some port => .ok { d with settings := { s with port := some port } }
    | none => .error (.invalidPort value)
  else .ok { d with settings := s.setOption key value }

/-- Settings from a list of entries, of which later ones win. -/
def ofEntries (entries : List (String × String)) : Except SqlError Settings := do
  let draft ← entries.foldlM (fun (d : Draft) e => d.read e.1 e.2) ⟨none, new ""⟩
  match draft.driver with
  | some driver =>
    if driver = "" then .error .missingDriver else .ok { draft.settings with driver }
  | none => .error .missingDriver

/-- The part of the settings that the driver receives. -/
def parameters (s : Settings) : Parameters :=
  { server := s.server, username := s.username, password := s.password,
    database := s.database, port := s.port, options := s.options }

/-- Settings in diagnostics. -/
def inspect (s : Settings) : String :=
  Diagnostic.record "ConnectionSettings"
    (("driver", Diagnostic.text s.driver) :: ("table_prefix", Diagnostic.text s.tablePrefix) ::
      inspectParameters s.server s.username s.password s.database s.port s.options)

/-- Whether two settings are equal up to the order of their extras. -/
def same (a b : Settings) : Bool :=
  a.options.sameEntries b.options && { a with options := b.options } == b

end Settings

end SqlLayer
