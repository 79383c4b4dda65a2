import SqlLayer.Op
import SqlLayer.Result.Row

/-!
# Buffered results

A driver reads all rows of a statement before it hands out a handle, and then serves them from
this store. Every result has a cursor of its own, and handles are never used twice.

* `ResultStore.insert` — a new handle;
* `ResultStore.fetch`, `ResultStore.seek` — reading at the cursor and moving it;
* `ResultStore.free`, `ResultStore.clear` — giving results up; their handles stay invalid.
-/

namespace SqlLayer

/-- What a driver calls a result. -/
structure Handle where
  id : Nat
  deriving DecidableEq, Inhabited

/-- A handle as plain text. -/
def Handle.display (h : Handle) : String := "#" ++ toString h.id

/-- A handle in diagnostics. -/
def Handle.inspect (h : Handle) : String :=
  Diagnostic.wrapped "ResultHandle" (toString h.id)

/-- There is no result with this handle. -/
def SqlError.unknownHandle (h : Handle) : SqlError :=
  .usage ("Invalid result handle " ++ h.display)

/-- The rows of one statement. -/
structure StoredResult where
  columns : List String
  rows : List (List Value)
  changedRows : Nat
  /-- The number of the next row. -/
  cursor : Nat
  deriving DecidableEq

/-- A result before its first row. -/
def StoredResult.new (columns : List String) (rows : List (List Value)) (changedRows : Nat) :
    StoredResult := ⟨columns, rows, changedRows, 0⟩

/-- A result without columns and rows. -/
def StoredResult.empty : StoredResult := .new [] [] 0

/-- The results of a driver. -/
structure ResultStore where
  live : List (Handle × StoredResult)
  /-- The number of handles given out so far. -/
  issued : Nat
  deriving DecidableEq

namespace ResultStore

/-- No results, and none given out. -/
def empty : ResultStore := ⟨[], 0⟩

/-- The number of live results. -/
def size (s : ResultStore) : Nat := s.live.length

/-- Whether there is no live result. -/
def isEmpty (s : ResultStore) : Bool := s.live.isEmpty

/-- The result with a handle. -/
def find? (s : ResultStore) (h : Handle) : Option StoredResult :=
  (s.live.find? fun e => e.1 == h).map Prod.snd

/-- The result with a handle, which has to be live. -/
def lookup (s : ResultStore) (h : Handle) : Except SqlError StoredResult :=
  match s.find? h with
  | some r => .ok r
  | none => .error (.unknownHandle h)

/-- Moves the cursor of a result. -/
def moveTo (s : ResultStore) (h : Handle) (row : Nat) : ResultStore :=
  { s with live := s.live.map fun e => if e.1 = h then (e.1, { e.2 with cursor := row }) else e }

/-- Keeps a result under a new handle. -/
def insert (s : ResultStore) (r : StoredResult) : Handle × ResultStore :=
  let h : Handle := ⟨s.issued + 1⟩
  (h, ⟨s.live ++ [(h, r)], s.issued + 1⟩)

/-- The row at the cursor, past which the cursor moves; none at the end. -/
def fetch (h : Handle) (mode : Addressing) : Op ResultStore (Option Row) := fun s =>
  match s.lookup h with
  | .error e => (.error e, s)
  | .ok r =>
    match r.rows[r.cursor]? with
    | none => (.ok none, s)
    | some values => (.ok (some ⟨mode, r.columns, values⟩), s.moveTo h (r.cursor + 1))

/-- The number of rows of a result. -/
def rowCount (s : ResultStore) (h : Handle) : Except SqlError Nat :=
  (s.lookup h).map fun r => r.rows.length

/-- The number of rows that the statement changed. -/
def changedRows (s : ResultStore) (h : Handle) : Except SqlError Nat :=
  (s.lookup h).map StoredResult.changedRows

/-- Moves the cursor to a row, if there is one; to row 0 in any case. -/
def seek (h : Handle) (row : Nat) : Op ResultStore Bool := fun s =>
  match s.lookup h with
  | .error e => (.error e, s)
  | .ok r =>
    if row = 0 ∨ row < r.rows.length then (.ok true, s.moveTo h row) else (.ok false, s)

/-- Gives a result up. -/
def free (h : Handle) : Op ResultStore Unit := fun s =>
  match s.lookup h with
  | .error e => (.error e, s)
  | .ok _ => (.ok (), { s with live := s.live.filter fun e => e.1 != h })

/-- Gives all results up. -/
def clear (s : ResultStore) : ResultStore := { s with live := [] }

end ResultStore

end SqlLayer
