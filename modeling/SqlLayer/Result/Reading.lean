import SqlLayer.Connection
import SqlLayer.Result.Record

/-!
# Reading results

The rows of a statement are pulled from the driver one at a time. An `OpenResult` is the caller's
side of a result: its handle, and the number of the next row. A `Reading` is an open result together
with the connection that it is read from.

* `Reading.nextItem` — the next item of a `RowReader`; **the row is used up even if it cannot be
  decoded**;
* `Reading.remainingItems`, `Reading.pairs`, `Reading.column` — the remaining rows;
* `Reading.seek` — moves the driver and, where that succeeds, the row number.
-/

namespace SqlLayer

/-- The caller's side of a result. -/
structure OpenResult where
  handle : Handle
  /-- The number of the next row. -/
  rowNum : Nat
  deriving DecidableEq, Inhabited

/-- A result before its first row. -/
def OpenResult.new (h : Handle) : OpenResult := ⟨h, 0⟩

/-- A result in diagnostics. -/
def OpenResult.inspect (r : OpenResult) : String :=
  Diagnostic.record "ResultSet" [("handle", Diagnostic.optional (some r.handle.inspect)),
    ("row_num", toString r.rowNum)]

/-- A result with the connection that it is read from. -/
structure Reading (δ : Type) where
  connection : Connection δ
  result : OpenResult

/-- How rows are fetched and what they are turned into. -/
structure RowReader (α : Type) where
  mode : Addressing
  decode : Row → Except SqlError α

namespace RowReader

/-- The rows themselves. -/
def rows (mode : Addressing) : RowReader Row := ⟨mode, .ok⟩

/-- Records that the rows fill. -/
def records {α : Type} (fill : List (String × Json) → Except FillError α) : RowReader α :=
  ⟨.byName, fun row => (fill row.toMembers).mapError .hydration⟩

end RowReader

/-- A field of a row in a column: `NULL` where the row has no such field, and nothing where the
row ends before it. -/
def Row.cell? (row : Row) (key : ColumnKey) : Option Value :=
  match row.take key with
  | .absent => some .null
  | .value v => some v
  | .beyondEnd => none

/-- A row as an entry of a map: the text of one field and the value of another. -/
def Row.pair (row : Row) (key value : ColumnKey) : String × Value :=
  (((row.get? key).map Value.display).getD "", (row.get? value).getD .null)

namespace Reading

variable {δ α : Type} [Driver δ]

/-- An operation of the connection. -/
def onConnection (op : Op (Connection δ) α) : Op (Reading δ) α := fun r =>
  op.onPart r.connection fun connection => { r with connection }

/-- An operation of the driver on the result. -/
def onResult (op : Handle → Op δ α) : Op (Reading δ) α := fun r =>
  onConnection (Connection.useDriver (op r.result.handle)) r

/-- Sets the number of the next row. -/
def setRowNum (n : Nat) (r : Reading δ) : Reading δ :=
  { r with result := { r.result with rowNum := n } }

/-! ### One row -/

/-- The next row; none at the end. -/
def nextRow (mode : Addressing) : Op (Reading δ) (Option Row) := do
  let row ← onResult fun h => Driver.fetch h mode
  if row.isSome then Op.update fun r => r.setRowNum (r.result.rowNum + 1)
  return row

/-- The next item; none at the end. -/
def nextItem (f : RowReader α) : Op (Reading δ) (Option α) := do
  match ← nextRow f.mode with
  | none => return none
  | some row =>
    let item ← Op.ask fun _ => f.decode row
    return some item

/-- A field of the next row. At the end there is none. -/
def oneField (key : ColumnKey) : Op (Reading δ) Taken := do
  match ← nextRow .byEither with
  | none => return .absent
  | some row =>
    Op.ask fun _ => row.require key
    return row.take key

/-! ### The remaining rows -/

/-- The number of rows of the result. -/
def count : Op (Reading δ) Nat :=
  onResult fun h => Op.ask fun driver => Driver.rowCount driver h

/-- The number of rows that the statement changed. -/
def changedRows : Op (Reading δ) Nat :=
  onResult fun h => Op.ask fun driver => Driver.changedRows driver h

/-- The number of rows, where the driver reports it, and zero otherwise. No more rows can be
fetched without moving back. -/
def rowBound (r : Reading δ) : Nat :=
  match (count r).1 with
  | .ok n => n
  | .error _ => 0

/-- At most `limit` items, up to the end. -/
def itemsUpTo (f : RowReader α) : Nat → Op (Reading δ) (List α)
  | 0 => return []
  | limit + 1 => do
    match ← nextItem f with
    | none => return []
    | some item =>
      let rest ← itemsUpTo f limit
      return item :: rest

/-- The remaining items. -/
def remainingItems (f : RowReader α) : Op (Reading δ) (List α) := fun r =>
  itemsUpTo f (r.rowBound + 1) r

/-- The remaining rows as a map from the text of one field to the value of another. The fields are
required of the first row only. -/
def pairs (key value : ColumnKey) : Op (Reading δ) (OrderedMap Value) := do
  match ← nextRow .byEither with
  | none => return OrderedMap.empty
  | some first =>
    Op.ask fun _ => first.require key
    Op.ask fun _ => first.require value
    let rest ← remainingItems (.rows .byEither)
    return OrderedMap.ofList ((first :: rest).map fun row => row.pair key value)

/-- A field of at most `limit` rows, up to the end. A row that ends before the field is the last
one to be fetched. -/
def cellsUpTo (key : ColumnKey) : Nat → Op (Reading δ) (Option (List Value))
  | 0 => return some []
  | limit + 1 => do
    match ← nextRow .byEither with
    | none => return some []
    | some row =>
      match row.cell? key with
      | none => return none
      | some v =>
        let rest ← cellsUpTo key limit
        return rest.map (v :: ·)

/-- A field of the remaining rows, required of the first one; none if some row ends before it. -/
def column (key : ColumnKey) : Op (Reading δ) (Option (List Value)) := do
  match ← nextRow .byEither with
  | none => return some []
  | some first =>
    Op.ask fun _ => first.require key
    match first.cell? key with
    | none => return none
    | some v =>
      let rest ← fun r => cellsUpTo key (r.rowBound + 1) r
      return rest.map (v :: ·)

/-! ### Moving and releasing -/

/-- Moves to a row; false, and nothing moves, where there is no such row. -/
def seek (row : Nat) : Op (Reading δ) Bool := do
  let moved ← onResult fun h => Driver.seek h row
  if moved then Op.update fun r => r.setRowNum row
  return moved

/-- Releases the result. The reading is over. -/
def release : Op (Reading δ) Unit := onResult fun h => Driver.free h

end Reading

end SqlLayer
