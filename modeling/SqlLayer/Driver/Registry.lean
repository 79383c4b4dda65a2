import SqlLayer.Driver.Any

/-!
# The driver registry

Names of drivers, in ascending order, each with the driver that a new connection starts from.
-/

namespace SqlLayer

/-- Drivers by name. -/
structure Registry (δ : Type) where
  /-- Names and fresh drivers, sorted by name. -/
  entries : List (String × δ)

namespace Registry

variable {δ : Type}

/-- A registry without drivers. -/
def empty : Registry δ := ⟨[]⟩

/-- Puts a driver in its place among sorted entries; it replaces one of the same name. -/
def place (name : String) (fresh : δ) : List (String × δ) → List (String × δ)
  | [] => [(name, fresh)]
  | (n, d) :: rest =>
    if n = name then (name, fresh) :: rest
    else if name < n then (name, fresh) :: (n, d) :: rest
    else (n, d) :: place name fresh rest

/-- Registers a driver under a name. -/
def register (r : Registry δ) (name : String) (fresh : δ) : Registry δ :=
  ⟨place name fresh r.entries⟩

/-- The names, in ascending order. -/
def names (r : Registry δ) : List String := r.entries.map Prod.fst

/-- Whether a name is registered. -/
def contains (r : Registry δ) (name : String) : Bool := r.names.contains name

/-- A fresh driver of a name. -/
def create (r : Registry δ) (name : String) : Except SqlError δ :=
  match r.entries.find? fun e => e.1 == name with
  | some e => .ok e.2
  | none => .error (.unknownDriver name)

/-- The registry in diagnostics. -/
def inspect (r : Registry δ) : String := Diagnostic.braced (r.names.map Diagnostic.text)

/-- The drivers that the library brings for engines. -/
def standard : Registry AnyDriver :=
  (empty.register "mysql" (.mysql ⟨⟩)).register "sqlite" (.sqlite SqliteDriver.new)

end Registry

end SqlLayer
