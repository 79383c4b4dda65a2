import SqlLayer.Dialect
import SqlLayer.Driver

/-!
# The recording driver

A driver without an engine. It keeps a log of its calls, answers queries from a queue of prepared
results and fails the statements it was told to fail. It starts out connected.

* `Recorder.execute` — a statement is logged, then it fails or takes the next prepared result;
* `Recorder.transaction` — operations on transactions are logged if the savepoint name is in order.
-/

namespace SqlLayer

/-- A call in the log. -/
inductive LoggedCall where
  | connect
  | disconnect
  | statement (text : String)
  | transaction (op : TransactionStep) (savepoint : Option String)
  | seek (h : Handle) (row : Nat)
  | free (h : Handle)
  deriving DecidableEq

/-- What a recording driver is told beforehand. -/
structure Script where
  /-- The results of the next successful queries; later ones are empty. -/
  responses : List StoredResult
  /-- A statement that contains one of these fails. -/
  failPatterns : List String
  /-- Whether undoing a transaction fails. -/
  failRollback : Bool
  /-- Whether results cannot be moved. -/
  unseekable : Bool
  generatedId : Nat
  deriving DecidableEq

/-- A recording driver. -/
structure Recorder where
  script : Script
  connected : Bool
  results : ResultStore
  /-- The calls so far. -/
  log : List LoggedCall
  deriving DecidableEq

namespace Recorder

/-- A recording driver before its first call. -/
def new (script : Script) : Recorder := ⟨script, true, ResultStore.empty, []⟩

/-- Adds a call to the log. -/
def record (call : LoggedCall) (r : Recorder) : Recorder := { r with log := r.log ++ [call] }

/-- The statements in the log. -/
def statements (r : Recorder) : List String :=
  r.log.filterMap fun
    | .statement text => some text
    | _ => none

/-- Forgets the log. -/
def clearLog (r : Recorder) : Recorder := { r with log := [] }

/-- Whether a statement is one of those that fail. -/
def fails (r : Recorder) (statement : String) : Bool :=
  r.script.failPatterns.any fun p => Text.hasSlice p.toList statement.toList

/-- The error of a statement that fails. -/
def statementError (statement : String) : SqlError :=
  .query (some "1064") "You have an error in your SQL syntax" statement

/-- The error of an undoing that fails. -/
def rollbackError : SqlError := .query (some "2006") "server has gone away" "ROLLBACK"

/-- The error of moving a result that cannot be moved. -/
def seekError : SqlError := .notSupported "Result does not support seeking"

/-- Connects, from whatever state. -/
def connect : Op Recorder Unit := fun r =>
  (.ok (), { r.record .connect with connected := true })

/-- Disconnects and gives all results up. -/
def disconnect : Op Recorder Unit := fun r =>
  if r.connected then
    let r := r.record .disconnect
    (.ok (), { r with connected := false, results := r.results.clear })
  else (.error .noConnection, r)

/-- Runs a statement. -/
def execute (statement : String) : Op Recorder Handle := fun r =>
  if r.connected then
    let r := r.record (.statement statement)
    if r.fails statement then (.error (statementError statement), r)
    else
      let (result, rest) := match r.script.responses with
        | [] => (StoredResult.empty, [])
        | result :: rest => (result, rest)
      let (h, results) := r.results.insert result
      (.ok h, { r with results, script := { r.script with responses := rest } })
  else (.error .noConnection, r)

/-- An operation on a transaction or a savepoint. -/
def transaction (op : TransactionStep) (savepoint : Option String) : Op Recorder Unit := fun r =>
  if r.connected then
    match savepoint.map checkSavepoint with
    | some (.error e) => (.error e, r)
    | _ =>
      let r := r.record (.transaction op savepoint)
      if op = .rollback ∧ r.script.failRollback then (.error rollbackError, r) else (.ok (), r)
  else (.error .noConnection, r)

/-- The next row of a result. -/
def fetch (h : Handle) (mode : Addressing) : Op Recorder (Option Row) := fun r =>
  (ResultStore.fetch h mode).onPart r.results fun results => { r with results }

/-- The identifier that the script names. -/
def generatedId (r : Recorder) : Except SqlError Nat :=
  if r.connected then .ok r.script.generatedId else .error .noConnection

/-- Gives a result up. -/
def free (h : Handle) : Op Recorder Unit := fun r =>
  let r := r.record (.free h)
  (ResultStore.free h).onPart r.results fun results => { r with results }

/-- Moves a result. -/
def seek (h : Handle) (row : Nat) : Op Recorder Bool := fun r =>
  let r := r.record (.seek h row)
  if r.script.unseekable then (.error seekError, r)
  else (ResultStore.seek h row).onPart r.results fun results => { r with results }

end Recorder

instance : Driver Recorder where
  name _ := "recording"
  isConnected r := r.connected
  escape _ now v tag := Dialect.recording.escape now v tag
  connect _ := Recorder.connect
  disconnect := Recorder.disconnect
  execute := Recorder.execute
  transaction := Recorder.transaction
  fetch := Recorder.fetch
  rowCount r h := r.results.rowCount h
  changedRows r h := r.results.changedRows h
  generatedId r _ := r.generatedId
  free := Recorder.free
  seek := Recorder.seek

end SqlLayer
