import SqlLayer.Dialect
import SqlLayer.Driver
import SqlLayer.Sqlite.Engine

/-!
# The SQLite driver

The driver of a private database in memory. Files are out of its reach, and a failure of the
engine is an error that carries the statement.
-/

namespace SqlLayer

/-- An SQLite driver, with the engine it is connected to. -/
structure SqliteDriver where
  engine : Option Sqlite.Engine
  results : ResultStore
  deriving DecidableEq

namespace SqliteDriver

/-- A driver that is not connected. -/
def new : SqliteDriver := ⟨none, ResultStore.empty⟩

/-- The name of a database in memory. -/
def inMemory : String := ":memory:"

/-- The error of a file that cannot be opened. -/
def cannotOpen : SqlError :=
  .connection "error returned from database: (code: 14) unable to open database file"

/-- The error of a statement that the engine refuses. -/
def engineError (text statement : String) : SqlError := .query (some "1") text statement

/-- Disconnects and gives all results up. -/
def disconnect : Op SqliteDriver Unit := fun d =>
  match d.engine with
  | some _ => (.ok (), { d with engine := none, results := d.results.clear })
  | none => (.error .noConnection, d)

/-- Connects to a fresh database in memory, after leaving the one before. -/
def connect (s : Parameters) : Op SqliteDriver Unit := fun d =>
  let d := (disconnect d).2
  let database := s.database.getD inMemory
  if database = inMemory ∨ database = "" then
    (.ok (), { d with engine := some Sqlite.Engine.new })
  else (.error cannotOpen, d)

/-- Runs a text on the engine: its columns and rows. -/
def run (statement : String) : Op SqliteDriver (List String × List (List Value)) := fun d =>
  match d.engine with
  | none => (.error .noConnection, d)
  | some engine =>
    match engine.run statement with
    | (.ok answer, engine) => (.ok answer, { d with engine := some engine })
    | (.error text, engine) =>
      (.error (engineError text statement), { d with engine := some engine })

/-- Runs a statement and keeps its rows. -/
def execute (statement : String) : Op SqliteDriver Handle := do
  let (columns, rows) ← run statement
  fun d =>
    let (h, results) := d.results.insert (StoredResult.new columns rows 0)
    (.ok h, { d with results })

/-- Whether an error says that there was no transaction to undo. -/
def isIdleRollback : SqlError → Bool
  | .query _ text _ => Text.hasSlice "no transaction is active".toList text.toList
  | _ => false

/-- An operation on a transaction or a savepoint. Undoing a transaction succeeds where none is
open. -/
def transaction (op : TransactionStep) (savepoint : Option String) :
    Op SqliteDriver Unit := fun d =>
  match op.statement savepoint with
  | .error e => (.error e, d)
  | .ok statement =>
    match run statement d with
    | (.ok _, d) => (.ok (), d)
    | (.error e, d) =>
      if op = .rollback ∧ savepoint = none ∧ isIdleRollback e then (.ok (), d) else (.error e, d)

/-- The identifier of the last insertion. There are no tables to insert into. -/
def generatedId (d : SqliteDriver) : Except SqlError Nat :=
  if d.engine.isSome then .ok 0 else .error .noConnection

end SqliteDriver

instance : Driver SqliteDriver where
  name _ := "sqlite"
  isConnected d := d.engine.isSome
  escape _ now v tag := Dialect.sqlite.escape now v tag
  connect := SqliteDriver.connect
  disconnect := SqliteDriver.disconnect
  execute := SqliteDriver.execute
  transaction := SqliteDriver.transaction
  fetch h mode d := (ResultStore.fetch h mode).onPart d.results fun results => { d with results }
  rowCount d h := d.results.rowCount h
  changedRows d h := d.results.changedRows h
  generatedId d _ := d.generatedId
  free h d := (ResultStore.free h).onPart d.results fun results => { d with results }
  seek h row d := (ResultStore.seek h row).onPart d.results fun results => { d with results }

end SqlLayer
