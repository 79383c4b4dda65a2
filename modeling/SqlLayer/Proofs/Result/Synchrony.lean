import SqlLayer.Proofs.Result.InStep

/-!
# No row is lost or handed out twice

Whatever was done with an open result before, its row number is the cursor of its driver, and the
next operation works on the row with that number.

* `ReadOp`, `ReadOp.run` — the operations on an open result, as data;
* `ReadOp.inStep_run` — a run of them keeps a reading in step;
* `OpenRows.decoded` — what the rows of a result are turned into, one after another;
* `Reading.InStep.nextItem_cases` — what fetching does to a reading in step;
* `Reading.InStep.itemsUpTo_eq` — **a loop over the remaining rows** gives all of them, or the first
  failure;
* `Reading.Synchronised` — what the next operation does;
* `ReadOp.run_synchronised` — **that, after every run** of operations on a fresh result.
-/

namespace SqlLayer

/-- An operation on an open result. -/
inductive ReadOp : Type 1 where
  /-- The next item, a row or what it is decoded into. -/
  | item {α : Type} (f : RowReader α)
  /-- All items that remain. -/
  | items {α : Type} (f : RowReader α)
  | pairs (key value : ColumnKey)
  | field (key : ColumnKey)
  | column (key : ColumnKey)
  | seek (row : Nat)
  | count
  | changedRows

namespace ReadOp

variable {δ : Type} [Driver δ]

/-- The reading after an operation, whatever its outcome. -/
def after (r : Reading δ) : ReadOp → Reading δ
  | .item f => (Reading.nextItem f r).2
  | .items f => (Reading.remainingItems f r).2
  | .pairs key value => (Reading.pairs key value r).2
  | .field key => (Reading.oneField key r).2
  | .column key => (Reading.column key r).2
  | .seek row => (Reading.seek row r).2
  | .count => (Reading.count r).2
  | .changedRows => (Reading.changedRows r).2

/-- The reading after operations one after another, failed ones included. -/
def run (ops : List ReadOp) (r : Reading δ) : Reading δ := ops.foldl after r

variable [BufferedDriver δ] {t : OpenRows} {r : Reading δ}

/-- **One operation** keeps a reading in step. -/
theorem inStep_after (h : r.InStep t) (op : ReadOp) : (op.after r).InStep t := by
  have hp := Reading.persistent_inStep (δ := δ) (t := t)
  cases op with
  | item f => exact hp.nextItem f r h
  | items f => exact hp.remainingItems f r h
  | pairs key value => exact hp.pairs key value r h
  | field key => exact hp.oneField key r h
  | column key => exact hp.column key r h
  | seek row => exact hp.seek row r h
  | count => exact Reading.keeps_count r h
  | changedRows => exact Reading.keeps_changedRows r h

/-- **A run** of operations keeps a reading in step. -/
theorem inStep_run (ops : List ReadOp) (h : r.InStep t) : (run ops r).InStep t := by
  induction ops generalizing r with
  | nil => exact h
  | cons op ops ih => exact ih (inStep_after h op)

end ReadOp

/-- What the rows of a result are turned into. -/
def OpenRows.decoded {α : Type} (t : OpenRows) (f : RowReader α) : List (Except SqlError α) :=
  t.rows.map fun values => f.decode ⟨f.mode, t.columns, values⟩

/-- Outcomes up to the first failure, which is among them. -/
def untilFailure {α : Type} : List (Except SqlError α) → List (Except SqlError α)
  | [] => []
  | .ok a :: rest => .ok a :: untilFailure rest
  | .error e :: _ => [.error e]

theorem OpenRows.length_decoded {α : Type} (t : OpenRows) (f : RowReader α) :
    (t.decoded f).length = t.rows.length := List.length_map _

theorem OpenRows.drop_decoded_of_end {α : Type} (t : OpenRows) (f : RowReader α) {row : Nat}
    (hend : row = t.rows.length) : (t.decoded f).drop row = [] :=
  List.drop_eq_nil_of_le (by rw [t.length_decoded]; exact Nat.le_of_eq hend.symm)

theorem OpenRows.drop_decoded_of_getElem? {α : Type} {t : OpenRows} {f : RowReader α} {row : Nat}
    {outcome : Except SqlError α} (hrow : (t.decoded f)[row]? = some outcome) :
    (t.decoded f).drop row = outcome :: (t.decoded f).drop (row + 1) := by
  obtain ⟨hlt, hget⟩ := List.getElem?_eq_some_iff.1 hrow
  rw [← hget]
  exact List.drop_eq_getElem_cons hlt

namespace Reading

variable {δ : Type} [Driver δ] [BufferedDriver δ]

/-- The row number is the driver's cursor, and the next operation works on the row with that
number.  What becomes of fields of the remaining rows, and of iterating over them, is told by
`Reading.readsFields` and `Cursor.drains`. -/
structure Synchronised (t : OpenRows) (r : Reading δ) : Prop where
  cursor : r.driverCursor? = some r.result.rowNum
  bound : r.result.rowNum ≤ t.rows.length
  /-- A row is handed out once, also where it cannot be decoded. -/
  item : ∀ {α : Type} (f : RowReader α) (values : List Value),
    t.rows[r.result.rowNum]? = some values →
      (nextItem f r).1 = (f.decode ⟨f.mode, t.columns, values⟩).map some ∧
      (nextItem f r).2.result.rowNum = r.result.rowNum + 1
  itemAtEnd : ∀ {α : Type} (f : RowReader α), r.result.rowNum = t.rows.length →
    nextItem f r = (.ok none, r)
  /-- The same for a single field, also where the row does not have it. -/
  field : ∀ (key : ColumnKey) (values : List Value), t.rows[r.result.rowNum]? = some values →
    (oneField key r).1 = (Row.require ⟨.byEither, t.columns, values⟩ key).map
      (fun _ => Row.take ⟨.byEither, t.columns, values⟩ key) ∧
    (oneField key r).2.result.rowNum = r.result.rowNum + 1
  fieldAtEnd : ∀ key : ColumnKey, r.result.rowNum = t.rows.length →
    oneField key r = (.ok .absent, r)
  /-- All items that remain, or the first failure: behind it no row is used up. -/
  items : ∀ {α : Type} (f : RowReader α),
    (remainingItems f r).1 = ((t.decoded f).drop r.result.rowNum).mapM id ∧
    (remainingItems f r).2.result.rowNum
      = r.result.rowNum + (untilFailure ((t.decoded f).drop r.result.rowNum)).length
  /-- Moving succeeds for the start and for the rows that there are. -/
  seekSucceeds : ∀ row : Nat, (seek row r).1 = .ok true ↔
    t.seekable = true ∧ (row = 0 ∨ row < t.rows.length)
  seekMoves : ∀ row : Nat, (seek row r).1 = .ok true → (seek row r).2.result.rowNum = row
  /-- Every other outcome, failures included, leaves the reading where it is. -/
  seekStays : ∀ row : Nat, (seek row r).1 ≠ .ok true →
    (seek row r).2.result.rowNum = r.result.rowNum
  rowCount : count r = (.ok t.rows.length, r)
  changedCount : changedRows r = (.ok t.changedRows, r)

variable {t : OpenRows} {r : Reading δ}

/-- The next item is that of the row at the row number. -/
theorem InStep.nextItem_of_getElem? {α : Type} (h : r.InStep t) (f : RowReader α)
    {values : List Value} (hrow : t.rows[r.result.rowNum]? = some values) :
    (nextItem f r).1 = (f.decode ⟨f.mode, t.columns, values⟩).map some ∧
      (nextItem f r).2.result.rowNum = r.result.rowNum + 1 := by
  obtain ⟨r', hnext, -, hnum⟩ := h.nextRow_of_getElem? f.mode hrow
  have hform : nextItem f r = ((f.decode ⟨f.mode, t.columns, values⟩).map some, r') := by
    rw [nextItem, Op.bind_apply, hnext]
    show (Op.ask (fun _ => f.decode _) >>= fun item => pure (some item)) r' = _
    rw [Op.bind_apply, Op.ask_apply]
    cases f.decode ⟨f.mode, t.columns, values⟩ <;> rfl
  rw [hform]
  exact ⟨rfl, hnum⟩

/-- At the end of the rows there is no item, and nothing changes. -/
theorem InStep.nextItem_of_end {α : Type} (h : r.InStep t) (f : RowReader α)
    (hend : r.result.rowNum = t.rows.length) : nextItem f r = (.ok none, r) := by
  rw [nextItem, Op.bind_apply, h.nextRow_of_end f.mode hend]
  rfl

/-- The next item comes from the row at the row number, which is used up in any case; at the end of
the rows nothing happens. -/
theorem InStep.nextItem_cases {α : Type} (h : r.InStep t) (f : RowReader α) :
    (r.result.rowNum = t.rows.length ∧ nextItem f r = (.ok none, r)) ∨
    ∃ outcome r', (t.decoded f)[r.result.rowNum]? = some outcome ∧
      nextItem f r = (outcome.map some, r') ∧ r'.InStep t ∧
      r'.result.rowNum = r.result.rowNum + 1 := by
  obtain ⟨values, hrow⟩ | hend := h.row_cases
  · refine .inr ⟨f.decode ⟨f.mode, t.columns, values⟩, (nextItem f r).2, ?_, ?_, ?_, ?_⟩
    · rw [OpenRows.decoded, List.getElem?_map, hrow, Option.map_some]
    · rw [← (h.nextItem_of_getElem? f hrow).1]
    · exact persistent_inStep.nextItem f r h
    · exact (h.nextItem_of_getElem? f hrow).2
  · exact .inl ⟨hend, h.nextItem_of_end f hend⟩

omit [BufferedDriver δ] in
/-- A loop behind an item. -/
theorem itemsUpTo_of_some {α : Type} {f : RowReader α} {item : α} {r' : Reading δ}
    (hnext : nextItem f r = (.ok (some item), r')) (limit : Nat) :
    itemsUpTo f (limit + 1) r
      = ((itemsUpTo f limit r').1.map (item :: ·), (itemsUpTo f limit r').2) := by
  rw [itemsUpTo, Op.bind_of_ok hnext]
  exact Op.map_apply (item :: ·) (itemsUpTo f limit) r'

/-- **A loop over the remaining rows** gives their items, or the first failure, and uses up the rows
that it came to. -/
theorem InStep.itemsUpTo_eq {α : Type} (h : r.InStep t) (f : RowReader α) {limit : Nat}
    (hlimit : t.rows.length < r.result.rowNum + limit) :
    (itemsUpTo f limit r).1 = ((t.decoded f).drop r.result.rowNum).mapM id ∧
    (itemsUpTo f limit r).2.result.rowNum
      = r.result.rowNum + (untilFailure ((t.decoded f).drop r.result.rowNum)).length := by
  induction limit generalizing r with
  | zero => exact absurd h.bound (Nat.not_le_of_lt hlimit)
  | succ limit ih =>
    obtain ⟨hend, hnext⟩ | ⟨outcome, r', hrow, hnext, hr', hnum⟩ := h.nextItem_cases f
    · rw [itemsUpTo, Op.bind_of_ok hnext, t.drop_decoded_of_end f hend]
      exact ⟨rfl, rfl⟩
    · rw [OpenRows.drop_decoded_of_getElem? hrow, ← hnum, List.mapM_cons]
      cases outcome with
      | error e =>
        rw [itemsUpTo, Op.bind_of_error hnext]
        exact ⟨rfl, hnum⟩
      | ok item =>
        obtain ⟨hitems, hused⟩ := ih hr' (by omega)
        rw [itemsUpTo_of_some hnext, hitems, hused]
        refine ⟨?_, ?_⟩
        · cases ((t.decoded f).drop r'.result.rowNum).mapM id <;> rfl
        · rw [untilFailure, List.length_cons, hnum]
          omega

theorem InStep.remainingItems_eq {α : Type} (h : r.InStep t) (f : RowReader α) :
    (remainingItems f r).1 = ((t.decoded f).drop r.result.rowNum).mapM id ∧
    (remainingItems f r).2.result.rowNum
      = r.result.rowNum + (untilFailure ((t.decoded f).drop r.result.rowNum)).length := by
  rw [remainingItems, h.rowBound_eq]
  exact h.itemsUpTo_eq f (by omega)

/-- A single field is taken from the row at the row number. -/
theorem InStep.oneField_of_getElem? (h : r.InStep t) (key : ColumnKey) {values : List Value}
    (hrow : t.rows[r.result.rowNum]? = some values) :
    (oneField key r).1 = (Row.require ⟨.byEither, t.columns, values⟩ key).map
        (fun _ => Row.take ⟨.byEither, t.columns, values⟩ key) ∧
      (oneField key r).2.result.rowNum = r.result.rowNum + 1 := by
  obtain ⟨r', hnext, -, hnum⟩ := h.nextRow_of_getElem? .byEither hrow
  have hform : oneField key r = ((Row.require ⟨.byEither, t.columns, values⟩ key).map
      (fun _ => Row.take ⟨.byEither, t.columns, values⟩ key), r') := by
    rw [oneField, Op.bind_apply, hnext]
    show (Op.ask (fun _ => Row.require _ key) >>= fun _ => pure (Row.take _ key)) r' = _
    rw [Op.bind_apply, Op.ask_apply]
    cases Row.require ⟨.byEither, t.columns, values⟩ key <;> rfl
  rw [hform]
  exact ⟨rfl, hnum⟩

/-- A reading in step is synchronised. -/
theorem InStep.synchronised (h : r.InStep t) : r.Synchronised t where
  cursor := h.driverCursor?_eq
  bound := h.bound
  item f values hrow := h.nextItem_of_getElem? f hrow
  itemAtEnd f hend := h.nextItem_of_end f hend
  items f := h.remainingItems_eq f
  field key values hrow := h.oneField_of_getElem? key hrow
  fieldAtEnd key hend := by
    rw [oneField, Op.bind_apply, h.nextRow_of_end .byEither hend]
    rfl
  seekSucceeds row := by
    constructor
    · intro hmoved
      refine Decidable.byContradiction fun hrow => ?_
      obtain ⟨outcome, r', hform, hne, -⟩ := h.seek_of_outside hrow
      rw [hform] at hmoved
      exact hne hmoved
    · intro hrow
      obtain ⟨r', hform, -⟩ := h.seek_of_inside hrow.1 hrow.2
      rw [hform]
  seekMoves row hmoved := by
    by_cases hrow : t.seekable = true ∧ (row = 0 ∨ row < t.rows.length)
    · obtain ⟨r', hform, -, hnum⟩ := h.seek_of_inside hrow.1 hrow.2
      rw [hform]
      exact hnum
    · obtain ⟨outcome, r', hform, hne, -⟩ := h.seek_of_outside hrow
      rw [hform] at hmoved
      exact absurd hmoved hne
  seekStays row hstays := by
    by_cases hrow : t.seekable = true ∧ (row = 0 ∨ row < t.rows.length)
    · obtain ⟨r', hform, -⟩ := h.seek_of_inside hrow.1 hrow.2
      rw [hform] at hstays
      exact absurd rfl hstays
    · obtain ⟨outcome, r', hform, -, -, hnum⟩ := h.seek_of_outside hrow
      rw [hform]
      exact hnum
  rowCount := h.count_eq
  changedCount := h.changedRows_eq

/-- A fresh result is in step. -/
theorem inStep_new {c : Connection δ} {d : δ} {h : Handle} {columns : List String}
    {rows : List (List Value)} {changed : Nat} (hfree : c.lent = false) (hslot : c.slot = some d)
    (hfound : (BufferedDriver.results d).find? h = some (.new columns rows changed)) :
    Reading.InStep ⟨h, columns, rows, changed, BufferedDriver.seekable d⟩ ⟨c, .new h⟩ :=
  ⟨hfree, rfl, ⟨d, hslot, rfl, hfound⟩, Nat.zero_le _⟩

end Reading

/-- **No row is lost or handed out twice.**  After any operations on a fresh result, failed ones
included, its row number is the cursor of the driver; the next fetch uses up the row with that
number, and at the end nothing; moving goes to a row that there is or leaves everything in place;
and the numbers of rows and of changed rows are what they were. -/
theorem ReadOp.run_synchronised {δ : Type} [Driver δ] [BufferedDriver δ] (c : Connection δ) (d : δ)
    (h : Handle) (columns : List String) (rows : List (List Value)) (changed : Nat)
    (hfree : c.lent = false) (hslot : c.slot = some d)
    (hfound : (BufferedDriver.results d).find? h = some (.new columns rows changed))
    (ops : List ReadOp) :
    (ReadOp.run ops ⟨c, .new h⟩).Synchronised
      ⟨h, columns, rows, changed, BufferedDriver.seekable d⟩ :=
  (ReadOp.inStep_run ops (Reading.inStep_new hfree hslot hfound)).synchronised

/-- A row that fails to decode is used up by the caller and by the driver: both are at the second
row, and moving past the end changes neither. -/
theorem ReadOp.run_synchronised_failing :
    let answer : StoredResult := .new ["n"] [[.int 1], [.int 2]] 0
    let asked := Recorder.execute "SELECT n" (Recorder.new ⟨[answer], [], false, false, 0⟩)
    let c : Connection Recorder := { Connection.new Registry.empty with slot := some asked.2 }
    let ops : List ReadOp :=
      [.item (RowReader.records fun _ => (.error (.missingField "m") : Except FillError Unit)),
        .seek 2, .count]
    c.lent = false ∧ c.slot = some asked.2 ∧
      (BufferedDriver.results asked.2).find? ⟨1⟩ = some answer ∧
      (ReadOp.run ops ⟨c, .new ⟨1⟩⟩).result.rowNum = 1 ∧
      (ReadOp.run ops ⟨c, .new ⟨1⟩⟩).driverCursor? = some 1 := by
  intro answer asked c ops
  have hnum : (ReadOp.run ops ⟨c, .new ⟨1⟩⟩).result.rowNum = 1 := by decide
  refine ⟨rfl, rfl, rfl, hnum, ?_⟩
  rw [(ReadOp.run_synchronised c asked.2 ⟨1⟩ ["n"] [[.int 1], [.int 2]] 0 rfl rfl rfl ops).cursor,
    hnum]

end SqlLayer
