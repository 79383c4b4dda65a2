import SqlLayer.Driver.Registry
import SqlLayer.Fragment

/-!
# Connections

A connection owns at most one driver. It resolves the table prefix, renders fragments with the
driver's way of escaping, and passes statements on.

* `Connection.connect` — a new driver takes the place of the old one **once it has connected**;
* `Connection.runFragment` — a statement that fails is followed by **one attempt to undo** the
  transaction;
* `Connection.close` — the driver is disconnected, and nothing is left to fail.

Drivers that left their place are kept in `retired`, so that what they recorded can be read.
-/

namespace SqlLayer

/-- A connection to drivers of type `δ`. -/
structure Connection (δ : Type) where
  /-- The attached driver. -/
  slot : Option δ
  registry : Registry δ
  tablePrefix : String
  /-- The drivers that were attached before, oldest first. -/
  retired : List δ
  /-- Whether a rendering holds the driver. -/
  lent : Bool
  /-- The present moment, which temporal kinds fall back to. -/
  now : DateTime

namespace Connection

variable {δ α : Type}

/-- A connection without a driver. -/
def new (registry : Registry δ) : Connection δ := ⟨none, registry, "", [], false, default⟩

/-- Takes the driver out of its place for good. -/
def vacate (c : Connection δ) : Connection δ :=
  { c with slot := none, retired := c.retired ++ c.slot.toList }

variable [Driver δ]

/-- Whether there is a connected driver. -/
def isConnected (c : Connection δ) : Bool := c.slot.any Driver.isConnected

/-- The name of the attached driver. -/
def nameOfDriver (c : Connection δ) : Option String := c.slot.map Driver.name

/-- The connection in diagnostics. -/
def inspect (c : Connection δ) : String :=
  Diagnostic.record "Connection" [("driver", Diagnostic.optionalText c.nameOfDriver),
    ("connected", Diagnostic.flag c.isConnected),
    ("table_prefix", Diagnostic.text c.tablePrefix)]

/-! ### Attaching drivers -/

/-- Disconnects and drops the driver. It is dropped also if it fails to disconnect. -/
def disconnect : Op (Connection δ) Unit := fun c =>
  match c.slot with
  | none => (.error .noConnection, c)
  | some driver =>
    Driver.disconnect.onPart driver fun driver =>
      ({ c with slot := some driver } : Connection δ).vacate

/-- Disconnects the driver where it is connected, and drops it; failures do not count. -/
def close (c : Connection δ) : Connection δ := if c.isConnected then (disconnect c).2 else c.vacate

/-- Attaches a driver in place of the one before, which is disconnected. -/
def attach (driver : δ) (c : Connection δ) : Connection δ := { c.close with slot := some driver }

/-- Disconnects the driver where it is connected. -/
def leave : Op (Connection δ) Unit := fun c => if c.isConnected then disconnect c else (.ok (), c)

/-- Connects a fresh driver and puts it in place. Where it fails to connect, the one in place
stays. -/
def install (s : Settings) (driver : δ) : Op (Connection δ) Unit := fun c =>
  match Driver.connect s.parameters driver with
  | (.ok _, driver) => (.ok (), { c.vacate with slot := some driver, tablePrefix := s.tablePrefix })
  | (.error e, driver) => (.error e, { c with retired := c.retired ++ [driver] })

/-- Connects with the driver that the settings name. A connected driver is disconnected first. -/
def connect (s : Settings) : Op (Connection δ) Unit := do
  leave
  let driver ← Op.ask fun c => c.registry.create s.driver
  install s driver

/-! ### Working with the driver -/

/-- An operation of the driver. -/
def useDriver (op : Op δ α) : Op (Connection δ) α := fun c =>
  if c.lent then (.error .alreadyInUse, c)
  else
    match c.slot with
    | none => (.error .noConnection, c)
    | some driver => op.onPart driver fun driver => { c with slot := some driver }

/-- A question to the driver. -/
def askDriver (f : δ → Except SqlError α) : Op (Connection δ) α := useDriver (Op.ask f)

/-- A table name of the application as the engine knows it. -/
def engineName (c : Connection δ) (name : String) : String := resolveMarker c.tablePrefix name

/-- What a rendering with a driver works with. -/
def contextOf (c : Connection δ) (driver : δ) : RenderContext :=
  ⟨Driver.escape driver c.now, c.tablePrefix⟩

/-- What a rendering works with. There has to be a driver, connected or not. -/
def context (c : Connection δ) : Except SqlError RenderContext :=
  match c.slot with
  | none => .error .noConnection
  | some driver => .ok (c.contextOf driver)

/-- A value as SQL. -/
def escape (c : Connection δ) (v : Value) (tag : Option SqlKind) : Except SqlError String :=
  c.context.map fun ctx => ctx.escape v tag

/-- A fragment as SQL. -/
def render (c : Connection δ) (e : Fragment) : Except SqlError String :=
  c.context.map fun ctx => e.render ctx

/-- Runs a statement; after a failure the transaction is undone, and the failure is reported. -/
def runOrUndo (statement : String) : Op δ Handle := fun driver =>
  match Driver.execute statement driver with
  | (.ok h, driver) => (.ok h, driver)
  | (.error e, driver) => (.error e, (Driver.transaction .rollback none driver).2)

/-- Runs a statement as it is. -/
def runStatement (statement : String) : Op (Connection δ) Handle :=
  useDriver (runOrUndo statement)

/-- Renders a fragment and runs it. -/
def runFragment (e : Fragment) : Op (Connection δ) Handle := do
  let statement ← Op.ask fun c => c.render e
  runStatement statement

/-- Runs a statement in the middle of a rendering, which holds the driver. -/
def runWhileRendering (statement : String) : Op (Connection δ) Handle := fun c =>
  match c.context with
  | .error e => (.error e, c)
  | .ok _ =>
    (runStatement statement).onPart { c with lent := true } fun c => { c with lent := false }

/-- An operation on a transaction or a savepoint. -/
def transaction (op : TransactionStep) (savepoint : Option String) : Op (Connection δ) Unit :=
  useDriver (Driver.transaction op savepoint)

/-- The identifier that the last insertion generated. -/
def generatedId (sequence : Option String) : Op (Connection δ) Nat :=
  askDriver fun driver => Driver.generatedId driver sequence

end Connection

end SqlLayer
