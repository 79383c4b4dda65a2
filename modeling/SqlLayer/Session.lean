import SqlLayer.Selection.Sql
import SqlLayer.Session.Command

/-!
# Sessions

One connection and its open results, from the first statement to the last.

* `Session.dropAll` — a command that needs the connection for itself **first drops every result**;
* `Session.openIn` — a result in a slot is dropped **once the slot has a new one**;
* `Session.step`, `Session.run`, `Session.finish` — commands, and the end of a session.
-/

namespace SqlLayer

/-- A connection with its open results. -/
structure Session where
  connection : Connection AnyDriver
  /-- Open results by slot, in ascending order. -/
  slots : List (Nat × OpenResult)

namespace Session

/-- A session without results. -/
def new (connection : Connection AnyDriver) : Session := ⟨connection, []⟩

/-- The result in a slot. -/
def result? (slot : Nat) (s : Session) : Option OpenResult :=
  (s.slots.find? fun e => e.1 == slot).map Prod.snd

/-- Puts a result in its place among results sorted by slot. -/
def place (slot : Nat) (r : OpenResult) : List (Nat × OpenResult) → List (Nat × OpenResult)
  | [] => [(slot, r)]
  | (n, old) :: rest =>
    if n = slot then (slot, r) :: rest
    else if slot < n then (slot, r) :: (n, old) :: rest
    else (n, old) :: place slot r rest

/-- Puts a result into a slot. -/
def put (slot : Nat) (r : OpenResult) (s : Session) : Session :=
  { s with slots := place slot r s.slots }

/-- Empties a slot. -/
def vacate (slot : Nat) (s : Session) : Session :=
  { s with slots := s.slots.filter fun e => e.1 != slot }

/-- An operation of the connection. -/
def onConnection {α : Type} (op : Op (Connection AnyDriver) α) : Op Session α := fun s =>
  op.onPart s.connection fun connection => { s with connection }

/-! ### Results in slots -/

/-- An operation on a result, which stays in its slot. -/
def onResult {α : Type} (slot : Nat) (r : OpenResult) (op : Op (Reading AnyDriver) α) :
    Op Session α := fun s =>
  op.onPart ⟨s.connection, r⟩ fun reading =>
    { s with connection := reading.connection }.put slot reading.result

/-- Releases the result in a slot and empties the slot, which stays empty if that fails. -/
def free (slot : Nat) (r : OpenResult) : Op Session Unit := fun s =>
  (Reading.release (δ := AnyDriver)).onPart ⟨s.connection, r⟩ fun reading =>
    { s with connection := reading.connection }.vacate slot

/-- Drops the result in a slot, if there is one. Failures do not count. -/
def drop (slot : Nat) (s : Session) : Session :=
  match s.result? slot with
  | some r => (free slot r s).2
  | none => s

/-- Drops all results, in ascending order of slots. -/
def dropAll (s : Session) : Session := (s.slots.map Prod.fst).foldl (fun s slot => s.drop slot) s

/-- Opens a result in a slot; a result that was there is dropped afterwards. -/
def openIn (slot : Nat) (statement : Op (Connection AnyDriver) Handle) :
    Op Session OpenResult := do
  let h ← onConnection statement
  Op.update fun s => (s.drop slot).put slot (.new h)
  return .new h

/-! ### Recording drivers -/

/-- The recording drivers of the session, in the order in which they were created. -/
def recorders (s : Session) : List Recorder :=
  (s.connection.retired ++ s.connection.slot.toList).filterMap AnyDriver.recorder?

/-- What the recording drivers were called with. -/
def logs (s : Session) : List (List LoggedCall) := s.recorders.map Recorder.log

/-- Forgets all logs. -/
def clearLogs (s : Session) : Session :=
  let clear := AnyDriver.mapRecorder Recorder.clearLog
  { s with
    connection := { s.connection with
      retired := s.connection.retired.map clear
      slot := s.connection.slot.map clear } }

/-! ### Commands -/

/-- Connects with a new connection. The old one is closed once that has succeeded. -/
def openNew (settings : Settings) : Op Session Unit := fun s =>
  match Connection.connect settings (Connection.new Registry.standard) with
  | (.error e, _) => (.error e, s)
  | (.ok _, c) =>
    (.ok (), { s with connection := { c with retired := s.connection.close.retired ++ c.retired } })

/-- The statement of a selection that calls build, up to the first one that fails. -/
def selectionText (calls : List Selection.Call) (c : Connection AnyDriver) :
    Except SqlError String :=
  match Selection.build c.tablePrefix calls Selection.empty with
  | (.error e, _) => .error e
  | (.ok _, s) => c.context.map fun ctx => s.render ctx

/-- Builds a selection and runs it. -/
def runSelection (calls : List Selection.Call) : Op (Connection AnyDriver) Handle := do
  let statement ← Op.ask (selectionText calls)
  Connection.runStatement statement

/-- What a cursor shows. -/
def viewOf (c : Cursor AnyDriver Item) : CursorView := ⟨c.position, c.current⟩

/-- Iterates over a result. -/
def iterate (type : ItemType) (steps : List Cursor.Step) :
    Op (Reading AnyDriver) ReadReply := fun r =>
  match Cursor.start type.reader r with
  | (.error e, r) => (.error e, r)
  | (.ok fresh, _) =>
    let (replies, last) := Cursor.run type.reader steps fresh
    (.ok (.iteration (viewOf fresh) (replies.map fun a => (a.1, viewOf a.2))), last.reading)

/-- What is done with a result. -/
def read : ReadCommand → Op (Reading AnyDriver) ReadReply
  | .item type => .item <$> Reading.nextItem type.reader
  | .items type => .items <$> Reading.remainingItems type.reader
  | .pairs key value => .pairs <$> Reading.pairs key value
  | .field key => .field <$> Reading.oneField key
  | .column key => .column <$> Reading.column key
  | .seek row => .flag <$> Reading.seek row
  | .count => .number <$> Reading.count
  | .changedRows => .number <$> Reading.changedRows
  | .handle => Op.ask fun r => .ok (.handle r.result.handle r.connection.nameOfDriver)
  | .iterate type steps => iterate type steps

/-- Does something with the result in a slot; its failure is part of the answer. -/
def readSlot (slot : Nat) (command : ReadCommand) : Op Session Reply := fun s =>
  match s.result? slot with
  | none => (.ok .emptySlot, s)
  | some r =>
    let (outcome, s) := onResult slot r (read command) s
    (.ok (.read outcome (((s.result? slot).map OpenResult.rowNum).getD 0)), s)

/-- Releases the result in a slot. -/
def freeSlot (slot : Nat) : Op Session Reply := fun s =>
  match s.result? slot with
  | none => (.ok .emptySlot, s)
  | some r => ((fun _ => Reply.done) <$> free slot r) s

/-- Does something with the connection, and answers with the connection afterwards. -/
def exclusively (op : Op Session Unit) : Op Session Reply := do
  op
  Op.ask fun s => .ok (.status s.connection)

/-- Performs a command, once no result is in its way. -/
def perform : Command → Op Session Reply
  | .connect entries => exclusively do
    let settings ← Op.ask fun _ => Settings.ofEntries entries
    onConnection (Connection.connect settings)
  | .openNew entries => exclusively do
    let settings ← Op.ask fun _ => Settings.ofEntries entries
    openNew settings
  | .attach driver => exclusively (onConnection (Op.update fun c => c.attach driver))
  | .disconnect => exclusively (onConnection Connection.disconnect)
  | .setTablePrefix tablePrefix =>
    exclusively (onConnection (Op.update fun c => { c with tablePrefix }))
  | .register name fresh =>
    exclusively (onConnection (Op.update fun c =>
      { c with registry := c.registry.register name fresh }))
  | .state => Op.ask fun s => .ok (.state s.connection)
  | .log => Op.ask fun s => .ok (.logs s.logs)
  | .statements => Op.ask fun s => .ok (.statements (s.recorders.map Recorder.statements))
  | .clearLog => (fun _ => .done) <$> Op.update clearLogs
  | .escape v tag => Op.ask fun s => (s.connection.escape v tag).map .text
  | .render e => Op.ask fun s => (s.connection.render e).map .text
  | .transaction op savepoint =>
    (fun _ => .done) <$> onConnection (Connection.transaction op savepoint)
  | .generatedId sequence => .number <$> onConnection (Connection.generatedId sequence)
  | .runFragment slot e => .opened <$> openIn slot (Connection.runFragment e)
  | .runStatement slot statement => .opened <$> openIn slot (Connection.runStatement statement)
  | .runSelection slot calls => .opened <$> openIn slot (runSelection calls)
  | .runWhileRendering statement =>
    (fun _ => .done) <$> onConnection (Connection.runWhileRendering statement)
  | .free slot => freeSlot slot
  | .drop slot => (fun _ => .done) <$> Op.update fun s => s.drop slot
  | .read slot command => readSlot slot command

/-- Performs a command. -/
def step (command : Command) : Op Session Reply := fun s =>
  perform command (if command.isExclusive then s.dropAll else s)

/-- Performs commands one after another, failed ones included: the answers and the session. -/
def run : List Command → Session → List (Except SqlError Reply) × Session
  | [], s => ([], s)
  | command :: rest, s =>
    let (outcome, s) := step command s
    let (outcomes, s) := run rest s
    (outcome :: outcomes, s)

/-- Drops the results and then the connection. -/
def finish (s : Session) : Session :=
  let s := s.dropAll
  { s with connection := s.connection.close }

end Session

end SqlLayer
