import SqlLayer.Result.Reading

/-!
# Iterating over a result

A cursor reads one item ahead: it holds the item under it, and that item's position. Once the items
run out the cursor stays invalid until it is rewound.

* `Cursor.start` — the first item is fetched when the iteration begins;
* `Cursor.advance` — the next item; **a row that fails to decode leaves the item in place**;
* `Cursor.rewind` — back to the first row, by moving the driver, unless the position is zero;
* `Cursor.next` — hands out the item and advances; a failure to advance is handed out next time.
-/

namespace SqlLayer

/-- An iteration over the items of a reading. -/
structure Cursor (δ α : Type) where
  reading : Reading δ
  /-- The position of the current item, or of the last one. -/
  position : Nat
  /-- The item under the cursor. -/
  current : Option α
  /-- A failure that `next` has still to hand out. -/
  pending : Option SqlError

namespace Cursor

variable {δ α : Type}

/-- Whether there is an item under the cursor. -/
def isValid (c : Cursor δ α) : Bool := c.current.isSome

/-- An operation of the reading. -/
def onReading {β : Type} (op : Op (Reading δ) β) : Op (Cursor δ α) β := fun c =>
  op.onPart c.reading fun reading => { c with reading }

variable [Driver δ]

/-- Begins an iteration at the next row. -/
def start (f : RowReader α) (r : Reading δ) : Except SqlError (Cursor δ α) × Reading δ :=
  match Reading.nextItem f r with
  | (.ok item, reading) => (.ok ⟨reading, r.result.rowNum, item, none⟩, reading)
  | (.error e, reading) => (.error e, reading)

/-- Fetches the item under the cursor. -/
def pull (f : RowReader α) : Op (Cursor δ α) Unit := do
  let item ← onReading (Reading.nextItem f)
  Op.update fun c => { c with current := item }

/-- Moves to the next item. -/
def advance (f : RowReader α) : Op (Cursor δ α) Unit := do
  pull f
  Op.update fun c => if c.isValid then { c with position := c.position + 1 } else c

/-- Returns to the first item. -/
def rewind (f : RowReader α) : Op (Cursor δ α) Unit := fun c =>
  if c.position = 0 then (.ok (), c)
  else
    let back : Op (Cursor δ α) Unit := do
      Op.update fun c => { c with position := 0, pending := none }
      let _ ← onReading (Reading.seek 0)
      pull f
    back c

/-- The number of rows of the result. -/
def count : Op (Cursor δ α) Nat := onReading Reading.count

/-- Hands out the current item, or a failure before it, and moves on; none at the end. -/
def next (f : RowReader α) (c : Cursor δ α) : Option (Except SqlError α) × Cursor δ α :=
  match c.pending, c.current with
  | some e, _ => (some (.error e), { c with pending := none })
  | none, none => (none, c)
  | none, some item =>
    match advance f { c with current := none } with
    | (.ok _, c) => (some (.ok item), c)
    | (.error e, c) => (some (.ok item), { c with pending := some e })

/-- At most `limit` items and failures, up to the end. -/
def nextUpTo (f : RowReader α) : Nat → Cursor δ α → List (Except SqlError α) × Cursor δ α
  | 0, c => ([], c)
  | limit + 1, c =>
    match next f c with
    | (none, c) => ([], c)
    | (some item, c) =>
      let (rest, c) := nextUpTo f limit c
      (item :: rest, c)

/-- All items and failures up to the end. There are at most as many as the current item, the rows
and two failures: one that is pending, and one that ends the iteration. -/
def collect (f : RowReader α) (c : Cursor δ α) : List (Except SqlError α) × Cursor δ α :=
  nextUpTo f (c.reading.rowBound + 4) c

/-! ### Steps as data -/

/-- A step of an iteration. -/
inductive Step where
  | advance
  | rewind
  | count
  | next
  | collect
  deriving DecidableEq

/-- What a step answers. -/
inductive Reply (α : Type) where
  | moved (outcome : Except SqlError Unit)
  | counted (outcome : Except SqlError Nat)
  | item (next : Option (Except SqlError α))
  | items (rest : List (Except SqlError α))

/-- Performs a step. -/
def step (f : RowReader α) (c : Cursor δ α) : Step → Reply α × Cursor δ α
  | .advance => let (outcome, c) := advance f c; (.moved outcome, c)
  | .rewind => let (outcome, c) := rewind f c; (.moved outcome, c)
  | .count => let (outcome, c) := count c; (.counted outcome, c)
  | .next => let (item, c) := next f c; (.item item, c)
  | .collect => let (items, c) := collect f c; (.items items, c)

/-- Performs steps one after another: the answer of each, and the cursor after it. -/
def run (f : RowReader α) : List Step → Cursor δ α → List (Reply α × Cursor δ α) × Cursor δ α
  | [], c => ([], c)
  | s :: rest, c =>
    let (reply, c) := step f c s
    let (replies, last) := run f rest c
    ((reply, c) :: replies, last)

end Cursor

end SqlLayer
