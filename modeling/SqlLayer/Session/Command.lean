import SqlLayer.Result.Cursor
import SqlLayer.Selection

/-!
# What a session is told

Commands and replies of a session as data. A session holds one connection and open results in
numbered slots; `ReadCommand` is what is done with the result in a slot, `Command` everything that
a session can be told.
-/

namespace SqlLayer

/-- An item of a result. -/
inductive Item where
  | row (r : Row)
  /-- The object of a row, or the fields of a record that the row filled. -/
  | tree (t : Json)

/-- Which items of a result are wanted. -/
inductive ItemType where
  | rows (mode : Addressing)
  | records (target : FillTarget)

/-- How items of a kind are fetched. -/
def ItemType.reader : ItemType → RowReader Item
  | .rows mode => ⟨mode, fun row => .ok (.row row)⟩
  | .records target => .records fun members => (target.fill members).map .tree

/-- What is done with a result. -/
inductive ReadCommand where
  | item (type : ItemType)
  | items (type : ItemType)
  | pairs (key value : ColumnKey)
  | field (key : ColumnKey)
  | column (key : ColumnKey)
  | seek (row : Nat)
  | count
  | changedRows
  | handle
  /-- An iteration that is dropped after its steps. -/
  | iterate (type : ItemType) (steps : List Cursor.Step)

/-- What an iteration shows after a step. -/
structure CursorView where
  position : Nat
  current : Option Item

/-- What a result answers. -/
inductive ReadReply where
  | item (i : Option Item)
  | items (is : List Item)
  | pairs (m : OrderedMap Value)
  | field (taken : Taken)
  /-- None where a row ends before the column. -/
  | column (cells : Option (List Value))
  | flag (b : Bool)
  | number (n : Nat)
  | handle (h : Handle) (nameOfDriver : Option String)
  /-- The fresh iteration, and every step's answer with the iteration after it. -/
  | iteration (fresh : CursorView) (steps : List (Cursor.Reply Item × CursorView))

namespace Session

/-- What a session can be told. -/
inductive Command where
  /-- Connects through the registry with the settings of a list of entries. -/
  | connect (entries : List (String × String))
  /-- The same with a new connection, which takes the place of the old one if it succeeds. -/
  | openNew (entries : List (String × String))
  | attach (driver : AnyDriver)
  | disconnect
  | setTablePrefix (tablePrefix : String)
  | register (name : String) (fresh : AnyDriver)
  | state
  | log
  | statements
  | clearLog
  | escape (v : Value) (tag : Option SqlKind)
  | render (e : Fragment)
  | transaction (op : TransactionStep) (savepoint : Option String)
  | generatedId (sequence : Option String)
  | runFragment (slot : Nat) (e : Fragment)
  | runStatement (slot : Nat) (statement : String)
  /-- Builds a selection, up to the first call that fails, and runs it. -/
  | runSelection (slot : Nat) (calls : List Selection.Call)
  | runWhileRendering (statement : String)
  | free (slot : Nat)
  | drop (slot : Nat)
  | read (slot : Nat) (command : ReadCommand)

/-- Whether a command needs the connection for itself, so that no result may be open. -/
def Command.isExclusive : Command → Bool
  | .connect _ | .openNew _ | .attach _ | .disconnect | .setTablePrefix _ | .register .. => true
  | _ => false

/-- What a session answers. -/
inductive Reply where
  | done
  /-- The connection after a command that needed it for itself. -/
  | status (c : Connection AnyDriver)
  /-- The connection in detail. -/
  | state (c : Connection AnyDriver)
  | logs (calls : List (List LoggedCall))
  | statements (texts : List (List String))
  | text (s : String)
  | number (n : Nat)
  | opened (r : OpenResult)
  /-- The answer of a result, and its row number afterwards. -/
  | read (outcome : Except SqlError ReadReply) (rowNum : Nat)
  /-- There is no result in the slot. -/
  | emptySlot

end Session

end SqlLayer
