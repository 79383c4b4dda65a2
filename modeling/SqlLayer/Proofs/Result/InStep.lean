import SqlLayer.Proofs.Driver.Buffered
import SqlLayer.Proofs.Result.Persistence

/-!
# Results in step with their drivers

The caller counts the rows that were handed out, and the driver has a cursor of its own.  The two
are moved one after the other, and an operation can fail in between.

* `Reading.InStep` — **the row number is the driver's cursor**, and the rows are still there;
* `Reading.InStep.nextRow_of_getElem?`, `Reading.InStep.nextRow_of_end` — fetching moves both by
  one row, and at the end neither;
* `Reading.InStep.seek_of_inside`, `Reading.InStep.seek_of_outside` — moving sets both, or neither;
* `Reading.InStep.seek_refused` — a driver that cannot move results fails to;
* `Reading.persistent_inStep` — **every operation keeps a reading in step**, also where it fails.
-/

namespace SqlLayer

/-- What does not change about an open result. -/
structure OpenRows where
  handle : Handle
  columns : List String
  rows : List (List Value)
  changedRows : Nat
  /-- Whether the driver can move it. -/
  seekable : Bool

/-- The result as the driver stores it, with its cursor at a row. -/
def OpenRows.storedAt (t : OpenRows) (row : Nat) : StoredResult :=
  ⟨t.columns, t.rows, t.changedRows, row⟩

/-- A stored result after a move. -/
theorem find?_storedAt {s : ResultStore} {t : OpenRows} {row : Nat}
    (h : s.find? t.handle = some (t.storedAt row)) (next : Nat) :
    (s.moveTo t.handle next).find? t.handle = some (t.storedAt next) := by
  rw [ResultStore.find?_moveTo, h, Option.map_some, if_pos rfl]
  rfl

namespace Reading

section

variable {δ α : Type} {r : Reading δ}

/-- A reading with another state of its driver. -/
def withDriver (d : δ) (r : Reading δ) : Reading δ :=
  { r with connection := { r.connection with slot := some d } }

theorem withDriver_eq {d : δ} (hslot : r.connection.slot = some d) : r.withDriver d = r := by
  rw [withDriver, ← hslot]

/-- An operation on the result is one of the driver in the slot. -/
theorem onResult_apply (op : Handle → Op δ α) {d : δ} (hfree : r.connection.lent = false)
    (hslot : r.connection.slot = some d) :
    onResult op r = ((op r.result.handle d).1, r.withDriver (op r.result.handle d).2) := by
  simp only [onResult, onConnection, Connection.useDriver, Op.onPart, hfree, hslot, withDriver,
    Bool.false_eq_true, if_false]

end

variable {δ α : Type} [Driver δ] [BufferedDriver δ] {t : OpenRows} {r : Reading δ}

/-- The driver's cursor for the result. -/
def driverCursor? (r : Reading δ) : Option Nat :=
  r.connection.slot.bind fun d =>
    ((BufferedDriver.results d).find? r.result.handle).map StoredResult.cursor

/-- A reading whose row number is the cursor of its driver. -/
structure InStep (t : OpenRows) (r : Reading δ) : Prop where
  free : r.connection.lent = false
  handle : r.result.handle = t.handle
  driver : ∃ d, r.connection.slot = some d ∧ BufferedDriver.seekable d = t.seekable ∧
    (BufferedDriver.results d).find? t.handle = some (t.storedAt r.result.rowNum)
  bound : r.result.rowNum ≤ t.rows.length

theorem InStep.driverCursor?_eq (h : r.InStep t) : r.driverCursor? = some r.result.rowNum := by
  obtain ⟨d, hslot, -, hfind⟩ := h.driver
  rw [driverCursor?, hslot, Option.bind_some, h.handle, hfind]
  rfl

/-- A reading stays in step where its driver and its row number go to the same row. -/
theorem InStep.moved (h : r.InStep t) {d : δ} {row : Nat}
    (hseekable : BufferedDriver.seekable d = t.seekable)
    (hfind : (BufferedDriver.results d).find? t.handle = some (t.storedAt row))
    (hrow : row ≤ t.rows.length) : ((r.withDriver d).setRowNum row).InStep t :=
  ⟨h.free, h.handle, ⟨d, rfl, hseekable, hfind⟩, hrow⟩

/-- What an operation gives that acts on the store. -/
theorem InStep.onResult_acts (h : r.InStep t) (op : Handle → Op δ α) {store : Op ResultStore α}
    {d : δ} (hslot : r.connection.slot = some d)
    (hacts : ActsOn BufferedDriver.results BufferedDriver.seekable (op t.handle) store d) :
    onResult op r = ((store (BufferedDriver.results d)).1, r.withDriver (op t.handle d).2) := by
  rw [onResult_apply op h.free hslot, h.handle, hacts.outcome]

/-! ### One step -/

/-- The next row in the middle of a result. -/
theorem InStep.nextRow_of_getElem? (h : r.InStep t) (mode : Addressing) {values : List Value}
    (hrow : t.rows[r.result.rowNum]? = some values) :
    ∃ r', nextRow mode r = (.ok (some ⟨mode, t.columns, values⟩), r') ∧ r'.InStep t ∧
      r'.result.rowNum = r.result.rowNum + 1 := by
  obtain ⟨d, hslot, hseekable, hfind⟩ := h.driver
  have hacts := BufferedDriver.fetch t.handle mode d
  have happly := h.onResult_acts (fun k => Driver.fetch k mode) hslot hacts
  have hresults := hacts.results
  rw [ResultStore.fetch_of_getElem? hfind mode hrow] at happly hresults
  have hlt : r.result.rowNum < t.rows.length := (List.getElem?_eq_some_iff.1 hrow).1
  refine ⟨(r.withDriver (Driver.fetch t.handle mode d).2).setRowNum (r.result.rowNum + 1), ?_,
    h.moved (hacts.seekable.trans hseekable) ?_ hlt, rfl⟩
  · rw [nextRow, Op.bind_apply, happly]
    rfl
  · rw [hresults]
    exact find?_storedAt hfind (r.result.rowNum + 1)

/-- At the end there is no row, and nothing changes. -/
theorem InStep.nextRow_of_end (h : r.InStep t) (mode : Addressing)
    (hend : r.result.rowNum = t.rows.length) : nextRow mode r = (.ok none, r) := by
  obtain ⟨d, hslot, -, hfind⟩ := h.driver
  have hrow : (t.storedAt r.result.rowNum).rows[r.result.rowNum]? = none :=
    List.getElem?_eq_none (Nat.le_of_eq hend.symm)
  have hacts := BufferedDriver.fetch t.handle mode d
  have happly := h.onResult_acts (fun k => Driver.fetch k mode) hslot hacts
  have houtcome := hacts.outcome
  rw [ResultStore.fetch_of_end hfind mode hrow] at happly houtcome
  -- a driver that gives no row stays as it is
  rw [BufferedDriver.fetch_none t.handle mode d houtcome, withDriver_eq hslot] at happly
  rw [nextRow, Op.bind_apply, happly]
  rfl

/-- Moving to a row that there is, or to the start. -/
theorem InStep.seek_of_inside (h : r.InStep t) (hmove : t.seekable = true) {row : Nat}
    (hrow : row = 0 ∨ row < t.rows.length) :
    ∃ r', seek row r = (.ok true, r') ∧ r'.InStep t ∧ r'.result.rowNum = row := by
  obtain ⟨d, hslot, hseekable, hfind⟩ := h.driver
  have hacts := BufferedDriver.seek t.handle row d (hseekable.trans hmove)
  have happly := h.onResult_acts (fun k => Driver.seek k row) hslot hacts
  have hresults := hacts.results
  rw [ResultStore.seek_of_inside hfind hrow] at happly hresults
  refine ⟨(r.withDriver (Driver.seek t.handle row d).2).setRowNum row, ?_,
    h.moved (hacts.seekable.trans hseekable) ?_ (by omega), rfl⟩
  · rw [seek, Op.bind_apply, happly]
    rfl
  · rw [hresults]
    exact find?_storedAt hfind row

/-- A driver that cannot move results refuses to, and the reading stays where it is. -/
theorem InStep.seek_refused (h : r.InStep t) (hfixed : t.seekable = false) (row : Nat) :
    ∃ e r', seek row r = (.error e, r') ∧ r'.InStep t ∧ r'.result.rowNum = r.result.rowNum := by
  obtain ⟨d, hslot, hseekable, hfind⟩ := h.driver
  obtain ⟨e, hfail⟩ := BufferedDriver.seek_fails t.handle row d (hseekable.trans hfixed)
  have happly := h.onResult_acts (fun k => Driver.seek k row) hslot hfail
  refine ⟨e, r.withDriver (Driver.seek t.handle row d).2, ?_,
    h.moved (hfail.seekable.trans hseekable) ?_ h.bound, rfl⟩
  · rw [seek, Op.bind_apply, happly]
    rfl
  · rw [hfail.results]
    exact hfind

/-- Moving elsewhere is refused, and the reading stays where it is. -/
theorem InStep.seek_of_outside (h : r.InStep t) {row : Nat}
    (hrow : ¬ (t.seekable = true ∧ (row = 0 ∨ row < t.rows.length))) :
    ∃ outcome r', seek row r = (outcome, r') ∧ outcome ≠ .ok true ∧ r'.InStep t ∧
      r'.result.rowNum = r.result.rowNum := by
  cases hmove : t.seekable with
  | false =>
    obtain ⟨e, r', hform, hr', hnum⟩ := h.seek_refused hmove row
    exact ⟨.error e, r', hform, fun hok => (nomatch hok), hr', hnum⟩
  | true =>
    -- a driver that can move results finds no such row
    obtain ⟨d, hslot, hseekable, hfind⟩ := h.driver
    have hacts := BufferedDriver.seek t.handle row d (hseekable.trans hmove)
    have happly := h.onResult_acts (fun k => Driver.seek k row) hslot hacts
    have hresults := hacts.results
    rw [ResultStore.seek_of_outside hfind fun hinside => hrow ⟨hmove, hinside⟩]
      at happly hresults
    refine ⟨.ok false, r.withDriver (Driver.seek t.handle row d).2, ?_, by simp,
      h.moved (hacts.seekable.trans hseekable) ?_ h.bound, rfl⟩
    · rw [seek, Op.bind_apply, happly]
      rfl
    · rw [hresults]
      exact hfind

theorem InStep.count_eq (h : r.InStep t) : count r = (.ok t.rows.length, r) := by
  obtain ⟨d, hslot, -, hfind⟩ := h.driver
  rw [count, onResult_apply _ h.free hslot, h.handle, Op.ask_apply, withDriver_eq hslot,
    BufferedDriver.rowCount, ResultStore.rowCount_of_find? hfind]
  rfl

theorem InStep.rowBound_eq (h : r.InStep t) : r.rowBound = t.rows.length := by
  rw [rowBound, h.count_eq]

theorem InStep.changedRows_eq (h : r.InStep t) : changedRows r = (.ok t.changedRows, r) := by
  obtain ⟨d, hslot, -, hfind⟩ := h.driver
  rw [changedRows, onResult_apply _ h.free hslot, h.handle, Op.ask_apply, withDriver_eq hslot,
    BufferedDriver.changedRows, ResultStore.changedRows_of_find? hfind]
  rfl

/-- There is a row at the row number, or it is the end. -/
theorem InStep.row_cases (h : r.InStep t) :
    (∃ values, t.rows[r.result.rowNum]? = some values) ∨ r.result.rowNum = t.rows.length := by
  rcases Nat.lt_or_eq_of_le h.bound with hlt | hend
  · exact .inl ⟨_, List.getElem?_eq_getElem hlt⟩
  · exact .inr hend

/-! ### Every operation -/

theorem keeps_nextRow (mode : Addressing) :
    Op.Keeps (InStep t) (nextRow mode : Op (Reading δ) (Option Row)) := by
  intro r h
  obtain ⟨values, hrow⟩ | hend := h.row_cases
  · obtain ⟨r', hnext, hr', -⟩ := h.nextRow_of_getElem? mode hrow
    rw [hnext]
    exact hr'
  · rw [h.nextRow_of_end mode hend]
    exact h

theorem keeps_seek (row : Nat) : Op.Keeps (InStep t) (seek row : Op (Reading δ) Bool) := by
  intro r h
  by_cases hrow : t.seekable = true ∧ (row = 0 ∨ row < t.rows.length)
  · obtain ⟨r', hform, hr', -⟩ := h.seek_of_inside hrow.1 hrow.2
    rw [hform]
    exact hr'
  · obtain ⟨outcome, r', hform, -, hr', -⟩ := h.seek_of_outside hrow
    rw [hform]
    exact hr'

/-- Every operation on a result keeps it in step. -/
theorem persistent_inStep : Persistent (InStep (δ := δ) t) := ⟨keeps_nextRow, keeps_seek⟩

end Reading

end SqlLayer
