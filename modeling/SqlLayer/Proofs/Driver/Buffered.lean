import SqlLayer.Driver.Any

/-!
# Drivers that serve results from a store

Every driver of the library reads all rows of a statement at once and serves them from its
`ResultStore`.  What reading a result does to the store does not depend on the driver, except that
a driver may refuse to move results.

* `ActsOn` — an operation of a driver that does to its results what an operation of the store does;
* `BufferedDriver` — **reading and moving act on the store**, or moving fails and leaves it alone;
* `ResultStore.find?_moveTo` — moving one result leaves the others where they are;
* the recording driver, the SQLite driver and the MySQL driver are buffered, and so is any of them.
-/

namespace SqlLayer

/-! ### The store -/

namespace ResultStore

variable {s : ResultStore} {h : Handle} {r : StoredResult}

/-- The results after one of them was moved. -/
theorem find?_moveTo (s : ResultStore) (h k : Handle) (row : Nat) :
    (s.moveTo h row).find? k
      = (s.find? k).map fun r => if k = h then { r with cursor := row } else r := by
  obtain ⟨live, issued⟩ := s
  simp only [find?, moveTo]
  induction live with
  | nil => rfl
  | cons e live ih =>
    obtain ⟨k', r⟩ := e
    by_cases hk : k' = k
    · subst hk
      by_cases hh : k' = h <;> simp [hh]
    · have hbeq : (k' == k) = false := beq_false_of_ne hk
      by_cases hh : k' = h
      · subst hh
        simpa [hbeq] using ih
      · simpa [hh, hbeq] using ih

theorem lookup_of_find? (hr : s.find? h = some r) : s.lookup h = .ok r := by
  rw [lookup, hr]

/-- Fetching in the middle of a result. -/
theorem fetch_of_getElem? (hr : s.find? h = some r) (mode : Addressing) {values : List Value}
    (hrow : r.rows[r.cursor]? = some values) :
    fetch h mode s = (.ok (some ⟨mode, r.columns, values⟩), s.moveTo h (r.cursor + 1)) := by
  rw [fetch, lookup_of_find? hr]
  simp only [hrow]

/-- Fetching at the end of a result. -/
theorem fetch_of_end (hr : s.find? h = some r) (mode : Addressing)
    (hend : r.rows[r.cursor]? = none) : fetch h mode s = (.ok none, s) := by
  rw [fetch, lookup_of_find? hr]
  simp only [hend]

/-- Moving a result to a row that it has, or to its start. -/
theorem seek_of_inside (hr : s.find? h = some r) {row : Nat}
    (hrow : row = 0 ∨ row < r.rows.length) :
    seek h row s = (.ok true, s.moveTo h row) := by
  rw [seek, lookup_of_find? hr]
  simp only [hrow, if_true]

/-- Moving a result to a row that it does not have. -/
theorem seek_of_outside (hr : s.find? h = some r) {row : Nat}
    (hrow : ¬ (row = 0 ∨ row < r.rows.length)) : seek h row s = (.ok false, s) := by
  rw [seek, lookup_of_find? hr]
  simp only [hrow, if_false]

theorem rowCount_of_find? (hr : s.find? h = some r) : s.rowCount h = .ok r.rows.length := by
  rw [rowCount, lookup_of_find? hr]
  rfl

theorem changedRows_of_find? (hr : s.find? h = some r) : s.changedRows h = .ok r.changedRows := by
  rw [changedRows, lookup_of_find? hr]
  rfl

end ResultStore

/-! ### Drivers -/

/-- In the state `d`, an operation of a driver gives what an operation of the store gives, and does
the same to the results.  Whether results can be moved stays as it is. -/
structure ActsOn {δ α : Type} (results : δ → ResultStore) (seekable : δ → Bool) (op : Op δ α)
    (store : Op ResultStore α) (d : δ) : Prop where
  outcome : (op d).1 = (store (results d)).1
  results : results (op d).2 = (store (results d)).2
  seekable : seekable (op d).2 = seekable d

/-- What an operation does to a driver, it does to a larger one around it. -/
theorem ActsOn.onPart {δ τ α : Type} {results : δ → ResultStore} {seekable : δ → Bool}
    {results' : τ → ResultStore} {seekable' : τ → Bool} {op : Op δ α} {store : Op ResultStore α}
    {d : δ} {whole : Op τ α} {put : δ → τ} (h : ActsOn results seekable op store d)
    (hwhole : whole (put d) = op.onPart d put) (hresults : ∀ d, results' (put d) = results d)
    (hseekable : ∀ d, seekable' (put d) = seekable d) :
    ActsOn results' seekable' whole store (put d) where
  outcome := by
    rw [hwhole, hresults]
    exact h.outcome
  results := by
    rw [hwhole, hresults]
    exact (hresults _).trans h.results
  seekable := by
    rw [hwhole, hseekable]
    exact (hseekable _).trans h.seekable

/-- A driver that serves results from a store. -/
class BufferedDriver (δ : Type) [Driver δ] where
  results : δ → ResultStore
  /-- Whether results can be moved. -/
  seekable : δ → Bool
  fetch : ∀ h mode d, ActsOn results seekable (Driver.fetch h mode) (ResultStore.fetch h mode) d
  /-- At the end of a result nothing happens. -/
  fetch_none : ∀ h mode (d : δ),
    (Driver.fetch h mode d).1 = .ok none → (Driver.fetch h mode d).2 = d
  seek : ∀ h row d, seekable d = true →
    ActsOn results seekable (Driver.seek h row) (ResultStore.seek h row) d
  /-- A driver that cannot move results fails to. -/
  seek_fails : ∀ h row d, seekable d = false →
    ∃ e, ActsOn results seekable (Driver.seek h row) (Op.fail e) d
  rowCount : ∀ (d : δ) h, Driver.rowCount d h = (results d).rowCount h
  changedRows : ∀ (d : δ) h, Driver.changedRows d h = (results d).changedRows h

/-- Where fetching from a store gives no row, the store stays as it is. -/
theorem ResultStore.fetch_none {h : Handle} {mode : Addressing} {s : ResultStore}
    (hnone : (ResultStore.fetch h mode s).1 = .ok none) : (ResultStore.fetch h mode s).2 = s := by
  rw [ResultStore.fetch] at hnone ⊢
  cases hlookup : s.lookup h with
  | error e => rfl
  | ok r =>
    simp only [hlookup] at hnone ⊢
    cases hrow : r.rows[r.cursor]? with
    | none => rfl
    | some values => simp [hrow] at hnone

instance : BufferedDriver Recorder where
  results r := r.results
  seekable r := !r.script.unseekable
  fetch _ _ _ := ⟨rfl, rfl, rfl⟩
  fetch_none h mode r hnone := by
    have hstore : (ResultStore.fetch h mode r.results).2 = r.results :=
      ResultStore.fetch_none hnone
    show { r with results := (ResultStore.fetch h mode r.results).2 } = r
    rw [hstore]
  seek h row r hseekable := by
    have hscript : r.script.unseekable = false := by simpa using hseekable
    have hform : Driver.seek h row r = (ResultStore.seek h row).onPart r.results
        fun results => { r.record (.seek h row) with results } :=
      if_neg (by rw [Recorder.record, hscript]; simp)
    exact ⟨by rw [hform]; rfl, by rw [hform]; rfl, by rw [hform]; rfl⟩
  seek_fails h row r hseekable := by
    have hscript : r.script.unseekable = true := by simpa using hseekable
    have hform : Driver.seek h row r = (.error Recorder.seekError, r.record (.seek h row)) :=
      if_pos hscript
    exact ⟨Recorder.seekError, by rw [hform]; rfl, by rw [hform]; rfl, by rw [hform]; rfl⟩
  rowCount _ _ := rfl
  changedRows _ _ := rfl

instance : BufferedDriver SqliteDriver where
  results d := d.results
  seekable _ := true
  fetch _ _ _ := ⟨rfl, rfl, rfl⟩
  fetch_none h mode d hnone := by
    have hstore : (ResultStore.fetch h mode d.results).2 = d.results :=
      ResultStore.fetch_none hnone
    show { d with results := (ResultStore.fetch h mode d.results).2 } = d
    rw [hstore]
  seek _ _ _ _ := ⟨rfl, rfl, rfl⟩
  seek_fails _ _ _ hseekable := absurd hseekable (by decide)
  rowCount _ _ := rfl
  changedRows _ _ := rfl

/-- It has no connection and so no results. -/
instance : BufferedDriver MySqlDriver where
  results _ := ResultStore.empty
  seekable _ := true
  fetch _ _ _ := ⟨rfl, rfl, rfl⟩
  fetch_none _ _ _ _ := rfl
  seek _ _ _ _ := ⟨rfl, rfl, rfl⟩
  seek_fails _ _ _ hseekable := absurd hseekable (by decide)
  rowCount _ _ := rfl
  changedRows _ _ := rfl

namespace AnyDriver

/-- The results of a driver of any kind. -/
def results : AnyDriver → ResultStore
  | .mysql d => BufferedDriver.results d
  | .sqlite d => BufferedDriver.results d
  | .recording d => BufferedDriver.results d

/-- Whether a driver of any kind can move results. -/
def seekable : AnyDriver → Bool
  | .mysql d => BufferedDriver.seekable d
  | .sqlite d => BufferedDriver.seekable d
  | .recording d => BufferedDriver.seekable d

end AnyDriver

instance : BufferedDriver AnyDriver where
  results := AnyDriver.results
  seekable := AnyDriver.seekable
  fetch h mode
    | .mysql d => (BufferedDriver.fetch h mode d).onPart rfl (fun _ => rfl) fun _ => rfl
    | .sqlite d => (BufferedDriver.fetch h mode d).onPart rfl (fun _ => rfl) fun _ => rfl
    | .recording d => (BufferedDriver.fetch h mode d).onPart rfl (fun _ => rfl) fun _ => rfl
  fetch_none h mode
    | .mysql d => fun hnone => congrArg AnyDriver.mysql (BufferedDriver.fetch_none h mode d hnone)
    | .sqlite d => fun hnone => congrArg AnyDriver.sqlite (BufferedDriver.fetch_none h mode d hnone)
    | .recording d => fun hnone =>
      congrArg AnyDriver.recording (BufferedDriver.fetch_none h mode d hnone)
  seek h row
    | .mysql d => fun hmove =>
      (BufferedDriver.seek h row d hmove).onPart rfl (fun _ => rfl) fun _ => rfl
    | .sqlite d => fun hmove =>
      (BufferedDriver.seek h row d hmove).onPart rfl (fun _ => rfl) fun _ => rfl
    | .recording d => fun hmove =>
      (BufferedDriver.seek h row d hmove).onPart rfl (fun _ => rfl) fun _ => rfl
  seek_fails h row
    | .mysql d => fun hstuck =>
      (BufferedDriver.seek_fails h row d hstuck).imp fun _ hfail =>
        hfail.onPart rfl (fun _ => rfl) fun _ => rfl
    | .sqlite d => fun hstuck =>
      (BufferedDriver.seek_fails h row d hstuck).imp fun _ hfail =>
        hfail.onPart rfl (fun _ => rfl) fun _ => rfl
    | .recording d => fun hstuck =>
      (BufferedDriver.seek_fails h row d hstuck).imp fun _ hfail =>
        hfail.onPart rfl (fun _ => rfl) fun _ => rfl
  rowCount
    | .mysql d => BufferedDriver.rowCount d
    | .sqlite d => BufferedDriver.rowCount d
    | .recording d => BufferedDriver.rowCount d
  changedRows
    | .mysql d => BufferedDriver.changedRows d
    | .sqlite d => BufferedDriver.changedRows d
    | .recording d => BufferedDriver.changedRows d

end SqlLayer
