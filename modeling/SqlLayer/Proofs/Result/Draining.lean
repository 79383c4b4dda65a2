import SqlLayer.Proofs.Result.Iteration
import SqlLayer.Proofs.Result.Store

/-!
# Iterating and draining

A cursor reads one item ahead and keeps a failure back until the item before it is handed out.
Still the items come out as a plain loop over the rows gives them.

* `Reading.rowsLeft` — the rows behind the driver's cursor, **whatever state a reading is in**;
* `Reading.nextItem_cases` — what fetching does: nothing more is there, or one row is used up;
* `Reading.EndsWithin` — how often a loop over the items fetches at the most;
* `Cursor.gather` — an iteration from its beginning to its end or to its first failure;
* `Cursor.gatherUpTo_of_endsWithin` — behind the item under the cursor come **the items that the
  loop gives**, with any driver;
* `Cursor.drains` — iterating gives what draining gives and leaves the same behind; on the way it
  is **one row ahead**; and at its end it stays there.
-/

namespace SqlLayer

namespace Reading

variable {δ α : Type} [Driver δ]

/-! ### Any driver -/

/-- A loop that fetches items comes to the end or to a failure, at the latest with the `n`-th
fetch. -/
def EndsWithin (f : RowReader α) : Nat → Reading δ → Prop
  | 0, _ => False
  | n + 1, r =>
    match nextItem f r with
    | (.ok (some _), r) => EndsWithin f n r
    | _ => True

variable [BufferedDriver δ]

/-! ### The rows that are left -/

/-- The result as the driver stores it, where the driver can be asked. -/
def stored? (r : Reading δ) : Option StoredResult :=
  if r.connection.lent then none
  else r.connection.slot.bind fun d => (BufferedDriver.results d).find? r.result.handle

/-- The number of rows that are still to be fetched. -/
def rowsLeft (r : Reading δ) : Nat :=
  match r.stored? with
  | some s => s.rows.length - s.cursor
  | none => 0

variable {r : Reading δ} {s : StoredResult}

theorem stored?_eq_some : r.stored? = some s ↔ r.connection.lent = false ∧
    ∃ d, r.connection.slot = some d ∧
      (BufferedDriver.results d).find? r.result.handle = some s := by
  unfold stored?
  cases r.connection.lent with
  | true => simp
  | false => simp [Option.bind_eq_some_iff]

theorem rowsLeft_of_none (h : r.stored? = none) : r.rowsLeft = 0 := by
  rw [rowsLeft, h]

theorem rowsLeft_of_some (h : r.stored? = some s) : r.rowsLeft = s.rows.length - s.cursor := by
  rw [rowsLeft, h]

/-- Where the driver cannot be asked, or does not know the result, there is no next row. -/
theorem nextRow_of_not_stored (h : r.stored? = none) (mode : Addressing) :
    ∃ e r', nextRow mode r = (.error e, r') ∧ r'.stored? = none ∧ r'.result = r.result := by
  have hfails : ∃ e r', onResult (fun k => Driver.fetch k mode) r = (.error e, r') ∧
      r'.stored? = none ∧ r'.result = r.result := by
    cases hlent : r.connection.lent with
    | true =>
      refine ⟨.alreadyInUse, r, ?_, h, rfl⟩
      simp only [onResult, onConnection, Connection.useDriver, Op.onPart, hlent, if_true]
    | false =>
      cases hslot : r.connection.slot with
      | none =>
        refine ⟨.noConnection, r, ?_, h, rfl⟩
        simp only [onResult, onConnection, Connection.useDriver, Op.onPart, hlent, hslot,
          Bool.false_eq_true, if_false]
      | some d =>
        have hfind : (BufferedDriver.results d).find? r.result.handle = none := by
          simpa [stored?, hlent, hslot] using h
        have hacts := BufferedDriver.fetch r.result.handle mode d
        have hstore : ResultStore.fetch r.result.handle mode (BufferedDriver.results d)
            = (.error (.unknownHandle r.result.handle), BufferedDriver.results d) := by
          rw [ResultStore.fetch, ResultStore.lookup_of_none hfind]
        refine ⟨.unknownHandle r.result.handle,
          r.withDriver (Driver.fetch r.result.handle mode d).2, ?_, ?_, rfl⟩
        · rw [onResult_apply _ hlent hslot, hacts.outcome, hstore]
        · simp [stored?, withDriver, hlent, hacts.results, hstore, hfind]
  obtain ⟨e, r', hform, hnone, hresult⟩ := hfails
  refine ⟨e, r', ?_, hnone, hresult⟩
  rw [nextRow, Op.bind_apply, hform]

/-- At the end of a stored result there is no row, and nothing changes. -/
theorem nextRow_of_stored_end (h : r.stored? = some s) (mode : Addressing)
    (hend : s.rows[s.cursor]? = none) : nextRow mode r = (.ok none, r) := by
  obtain ⟨hfree, d, hslot, hfind⟩ := stored?_eq_some.1 h
  have hacts := BufferedDriver.fetch r.result.handle mode d
  have houtcome : (Driver.fetch r.result.handle mode d).1 = .ok none := by
    rw [hacts.outcome, ResultStore.fetch_of_end hfind mode hend]
  have hstays : (Driver.fetch r.result.handle mode d).2 = d :=
    BufferedDriver.fetch_none r.result.handle mode d houtcome
  rw [nextRow, Op.bind_apply, onResult_apply _ hfree hslot, houtcome, hstays, withDriver_eq hslot]
  rfl

/-- A row in the middle of a stored result is given, and both the driver and the caller move on. -/
theorem nextRow_of_stored (h : r.stored? = some s) (mode : Addressing) {values : List Value}
    (hrow : s.rows[s.cursor]? = some values) :
    ∃ r', nextRow mode r = (.ok (some ⟨mode, s.columns, values⟩), r') ∧
      r'.stored? = some { s with cursor := s.cursor + 1 } ∧
      r'.result.rowNum = r.result.rowNum + 1 := by
  obtain ⟨hfree, d, hslot, hfind⟩ := stored?_eq_some.1 h
  have hacts := BufferedDriver.fetch r.result.handle mode d
  have houtcome := hacts.outcome
  have hresults := hacts.results
  rw [ResultStore.fetch_of_getElem? hfind mode hrow] at houtcome hresults
  refine ⟨(r.withDriver (Driver.fetch r.result.handle mode d).2).setRowNum (r.result.rowNum + 1),
    ?_, ?_, rfl⟩
  · rw [nextRow, Op.bind_apply, onResult_apply _ hfree hslot, houtcome]
    rfl
  · refine stored?_eq_some.2 ⟨hfree, _, rfl, ?_⟩
    show (BufferedDriver.results (Driver.fetch r.result.handle mode d).2).find? r.result.handle = _
    rw [hresults, ResultStore.find?_moveTo, hfind, Option.map_some, if_pos rfl]

theorem rowBound_of_stored (h : r.stored? = some s) : r.rowBound = s.rows.length := by
  obtain ⟨hfree, d, hslot, hfind⟩ := stored?_eq_some.1 h
  have hcount : (count r).1 = .ok s.rows.length := by
    rw [count, onResult_apply _ hfree hslot, Op.ask_apply, BufferedDriver.rowCount,
      ResultStore.rowCount_of_find? hfind]
  rw [rowBound, hcount]

theorem rowsLeft_le_rowBound (r : Reading δ) : r.rowsLeft ≤ r.rowBound := by
  cases h : r.stored? with
  | none =>
    rw [rowsLeft_of_none h]
    exact Nat.zero_le _
  | some s =>
    rw [rowsLeft_of_some h, rowBound_of_stored h]
    exact Nat.sub_le _ _

/-- Fetching an item: at the end nothing happens; without a live result it fails; and otherwise it
uses up one row, which may fail to decode. -/
theorem nextItem_cases (f : RowReader α) (r : Reading δ) :
    (r.rowsLeft = 0 ∧ nextItem f r = (.ok none, r)) ∨
    (∃ e r', r.rowsLeft = 0 ∧ nextItem f r = (.error e, r') ∧ r'.rowsLeft = 0 ∧
      r'.result.rowNum = r.result.rowNum) ∨
    ∃ outcome r', nextItem f r = (Except.map some outcome, r') ∧ r.rowsLeft = r'.rowsLeft + 1 ∧
      r'.result.rowNum = r.result.rowNum + 1 ∧ r'.rowBound = r.rowBound := by
  cases h : r.stored? with
  | none =>
    obtain ⟨e, r', hnext, hnone, hresult⟩ := nextRow_of_not_stored h f.mode
    refine .inr (.inl ⟨e, r', rowsLeft_of_none h, ?_, rowsLeft_of_none hnone, by rw [hresult]⟩)
    rw [nextItem, Op.bind_apply, hnext]
  | some s =>
    cases hrow : s.rows[s.cursor]? with
    | none =>
      refine .inl ⟨?_, ?_⟩
      · rw [rowsLeft_of_some h]
        exact Nat.sub_eq_zero_of_le (List.getElem?_eq_none_iff.1 hrow)
      · rw [nextItem, Op.bind_apply, nextRow_of_stored_end h f.mode hrow]
        rfl
    | some values =>
      obtain ⟨r', hnext, hstored, hnum⟩ := nextRow_of_stored h f.mode hrow
      have hlt : s.cursor < s.rows.length := (List.getElem?_eq_some_iff.1 hrow).1
      refine .inr (.inr ⟨f.decode ⟨f.mode, s.columns, values⟩, r', ?_, ?_, hnum, ?_⟩)
      · rw [nextItem, Op.bind_apply, hnext]
        show (Op.ask (fun _ => f.decode _) >>= fun item => pure (some item)) r' = _
        rw [Op.bind_apply, Op.ask_apply]
        cases f.decode ⟨f.mode, s.columns, values⟩ <;> rfl
      · rw [rowsLeft_of_some h, rowsLeft_of_some hstored]
        simp only
        omega
      · rw [rowBound_of_stored h, rowBound_of_stored hstored]

/-- A loop over the items fetches the rows that are left, and once more to find the end. -/
theorem endsWithin_rowsLeft (f : RowReader α) {n : Nat} (h : r.rowsLeft < n) :
    r.EndsWithin f n := by
  induction n generalizing r with
  | zero => exact absurd h (Nat.not_lt_zero _)
  | succ n ih =>
    rw [EndsWithin]
    obtain ⟨-, hnext⟩ | ⟨e, r', -, hnext, -⟩ | ⟨outcome, r', hnext, hleft, -⟩ := nextItem_cases f r
    · rw [hnext]
      trivial
    · rw [hnext]
      trivial
    · rw [hnext]
      cases outcome with
      | error e => trivial
      | ok item => exact ih (by omega)

end Reading

namespace Cursor

/-! ### Any driver -/

section

variable {δ α : Type} [Driver δ] {f : RowReader α} {r : Reading δ}

/-- The next item. A failure that is handed out is a failure of the operation. -/
def nextItem (f : RowReader α) : Op (Cursor δ α) (Option α) := fun c =>
  match next f c with
  | (none, c) => (.ok none, c)
  | (some outcome, c) => (outcome.map some, c)

/-- At most `limit` items of an iteration, up to its end or its first failure. -/
def gatherUpTo (f : RowReader α) : Nat → Op (Cursor δ α) (List α)
  | 0 => return []
  | limit + 1 => do
    match ← nextItem f with
    | none => return []
    | some item =>
      let rest ← gatherUpTo f limit
      return item :: rest

/-- An iteration over the rest of a result, from its beginning to its end or its first failure. -/
def gather (f : RowReader α) : Op (Reading δ) (List α) := fun r =>
  match start f r with
  | (.ok c, _) => (gatherUpTo f (c.reading.rowBound + 4) c).map id Cursor.reading
  | (.error e, r) => (.error e, r)

theorem gatherUpTo_of_none (limit position : Nat) :
    gatherUpTo f limit ⟨r, position, none, none⟩ = (.ok [], ⟨r, position, none, none⟩) := by
  cases limit <;> rfl

theorem gatherUpTo_of_pending (limit position : Nat) (e : SqlError) :
    gatherUpTo f (limit + 1) ⟨r, position, none, some e⟩
      = (.error e, ⟨r, position, none, none⟩) := by
  rw [gatherUpTo, Op.bind_apply, nextItem, next_of_pending]
  rfl

/-- A failure that was kept back ends the iteration before anything else is done. -/
theorem of_gatherUpTo_pending {limit position : Nat} {e : SqlError} {items : List α}
    {c : Cursor δ α} (h : gatherUpTo f limit ⟨r, position, none, some e⟩ = (.ok items, c)) :
    items = [] ∧ c.reading = r := by
  cases limit with
  | zero =>
    cases h
    exact ⟨rfl, rfl⟩
  | succ limit =>
    rw [gatherUpTo_of_pending] at h
    cases h

theorem gatherUpTo_of_current (limit position : Nat) (item : α) :
    gatherUpTo f (limit + 1) ⟨r, position, some item, none⟩
      = ((item :: ·) <$> gatherUpTo f limit) (moved position (Reading.nextItem f r)) := by
  rw [gatherUpTo, Op.bind_apply, nextItem, next_of_current]
  rfl

/-- **Behind the item under the cursor** come the items that a loop over the rest gives, or the
failure that ends the loop, and the reading is left where the loop leaves it. -/
theorem gatherUpTo_of_endsWithin {n limit steps : Nat} (h : r.EndsWithin f n) (hlimit : n ≤ limit)
    (hsteps : n < steps) (position : Nat) (item : α) :
    (gatherUpTo f steps ⟨r, position, some item, none⟩).map id Cursor.reading
      = ((item :: ·) <$> Reading.itemsUpTo f limit) r := by
  induction n generalizing r limit steps position item with
  | zero => exact h.elim
  | succ n ih =>
    obtain ⟨limit, rfl⟩ := Nat.exists_eq_succ_of_ne_zero (Nat.ne_zero_of_lt hlimit)
    obtain ⟨steps, rfl⟩ := Nat.exists_eq_succ_of_ne_zero (Nat.ne_zero_of_lt hsteps)
    have hrest : n < steps := Nat.lt_of_succ_lt_succ hsteps
    rw [Reading.EndsWithin] at h
    rw [gatherUpTo_of_current, Op.map_apply, Op.map_apply, Reading.itemsUpTo, Op.bind_apply]
    cases hnext : Reading.nextItem f r with
    | mk outcome r' =>
      cases outcome with
      | error e =>
        obtain ⟨steps, rfl⟩ := Nat.exists_eq_succ_of_ne_zero (Nat.ne_zero_of_lt hrest)
        rw [moved, gatherUpTo_of_pending]
        rfl
      | ok next =>
        cases next with
        | none =>
          rw [moved, gatherUpTo_of_none]
          rfl
        | some item' =>
          rw [hnext] at h
          have hbehind := ih h (Nat.le_of_succ_le_succ hlimit) hrest (position + 1) item'
          show (Except.map (item :: ·) (gatherUpTo f steps ⟨r', position + 1, some item', none⟩).1,
              (gatherUpTo f steps ⟨r', position + 1, some item', none⟩).2.reading)
            = (Except.map (item :: ·) (((item' :: ·) <$> Reading.itemsUpTo f limit) r').1,
              (((item' :: ·) <$> Reading.itemsUpTo f limit) r').2)
          rw [← hbehind]
          rfl

end

/-! ### Drivers with a store -/

variable {δ α : Type} [Driver δ] [BufferedDriver δ] {f : RowReader α} {r : Reading δ}

/-- An iteration gives what draining gives. -/
theorem gather_eq_remainingItems (f : RowReader α) (r : Reading δ) :
    gather f r = Reading.remainingItems f r := by
  rw [gather, start, Reading.remainingItems, Reading.itemsUpTo, Op.bind_apply]
  obtain ⟨-, hnext⟩ | ⟨e, r', -, hnext, -⟩ | ⟨outcome, r', hnext, hleft, -, hbound⟩ :=
    Reading.nextItem_cases f r
  · rw [hnext]
    show Prod.map id reading (gatherUpTo f _ ⟨r, _, none, none⟩) = _
    rw [gatherUpTo_of_none]
    rfl
  · rw [hnext]
  · rw [hnext]
    cases outcome with
    | error e => rfl
    | ok item =>
      have hroom := Reading.rowsLeft_le_rowBound r
      have hends : r'.EndsWithin f r.rowBound := Reading.endsWithin_rowsLeft f (by omega)
      show Prod.map id reading (gatherUpTo f (r'.rowBound + 4) ⟨r', _, some item, none⟩)
        = ((item :: ·) <$> Reading.itemsUpTo f r.rowBound) r'
      exact gatherUpTo_of_endsWithin hends (Nat.le_refl _) (by omega) _ _

/-- Behind the item under the cursor, as many rows are fetched as items are handed out, as long as
there are rows. -/
theorem rowNum_gatherUpTo {limit position : Nat} {item : α} {items : List α} {c : Cursor δ α}
    (h : gatherUpTo f limit ⟨r, position, some item, none⟩ = (.ok items, c)) :
    c.reading.result.rowNum = r.result.rowNum + min items.length r.rowsLeft := by
  induction limit generalizing r position item items with
  | zero =>
    cases h
    exact (Nat.min_eq_left (Nat.zero_le _)) ▸ rfl
  | succ limit ih =>
    rw [gatherUpTo_of_current] at h
    obtain ⟨rest, hrest, rfl⟩ := Op.exists_of_map_eq_ok h
    rw [List.length_cons]
    obtain ⟨hleft, hnext⟩ | ⟨e, r', hleft, hnext, -, hnum⟩ | ⟨outcome, r', hnext, hleft, hnum, -⟩ :=
      Reading.nextItem_cases f r
    · -- at the end nothing more is fetched
      rw [hnext, moved, gatherUpTo_of_none] at hrest
      cases hrest
      rw [hleft]
      rfl
    · rw [hnext, moved] at hrest
      obtain ⟨rfl, hreading⟩ := of_gatherUpTo_pending hrest
      rw [hreading, hnum, hleft]
      rfl
    · rw [hnext] at hrest
      cases outcome with
      | error e =>
        -- a row that fails to decode is used up before the failure is handed out
        obtain ⟨rfl, hreading⟩ := of_gatherUpTo_pending hrest
        rw [hreading, hnum, hleft]
        simp
      | ok item' =>
        rw [ih hrest, hleft, hnum]
        omega

/-- At any time one row more than items handed out is fetched, as long as there are rows. -/
theorem rowNum_ahead {limit : Nat} {items : List α} {c₀ c : Cursor δ α}
    (hstart : (start f r).1 = .ok c₀) (h : gatherUpTo f limit c₀ = (.ok items, c)) :
    c.reading.result.rowNum = r.result.rowNum + min (items.length + 1) r.rowsLeft := by
  rw [start] at hstart
  obtain ⟨hleft, hnext⟩ | ⟨e, r', -, hnext, -⟩ | ⟨outcome, r', hnext, hleft, hnum, -⟩ :=
    Reading.nextItem_cases f r
  · rw [hnext] at hstart
    cases hstart
    rw [gatherUpTo_of_none] at h
    cases h
    rw [hleft]
    rfl
  · rw [hnext] at hstart
    cases hstart
  · rw [hnext] at hstart
    cases outcome with
    | error e => cases hstart
    | ok item =>
      cases hstart
      rw [rowNum_gatherUpTo h, hleft, hnum]
      omega

/-! ### The end of an iteration -/

/-- There is nothing to hand out. -/
def Exhausted (c : Cursor δ α) : Prop := c.current = none ∧ c.pending = none

omit [BufferedDriver δ] in
theorem next_of_exhausted {c : Cursor δ α} (h : c.Exhausted) : next f c = (none, c) := by
  obtain ⟨reading, position, current, pending⟩ := c
  obtain ⟨rfl, rfl⟩ := h
  rfl

omit [BufferedDriver δ] in
theorem exhausted_of_next {c : Cursor δ α} (h : (next f c).1 = none) : c.Exhausted := by
  obtain ⟨reading, position, current, pending⟩ := c
  cases pending with
  | some e =>
    rw [next_of_pending] at h
    cases h
  | none =>
    cases current with
    | none => exact ⟨rfl, rfl⟩
    | some item =>
      rw [next_of_current] at h
      cases h

/-- Of all steps but rewinding, only moving on can find an item again, and only if there is a row
left. -/
theorem exhausted_step {c : Cursor δ α} (h : c.Exhausted) {s : Step} (hrewind : s ≠ .rewind)
    (hadvance : s = .advance → c.reading.rowsLeft = 0) :
    (step f c s).2.Exhausted ∧
      (c.reading.rowsLeft = 0 → (step f c s).2.reading.rowsLeft = 0) := by
  cases s with
  | advance =>
    show (advance f c).2.Exhausted ∧ (_ → (advance f c).2.reading.rowsLeft = 0)
    rw [advance_apply]
    obtain ⟨hleft, hnext⟩ | ⟨e, r', -, hnext, hleft, -⟩ | ⟨outcome, r', -, hleft, -⟩ :=
      Reading.nextItem_cases f c.reading
    · rw [hnext]
      exact ⟨⟨rfl, h.2⟩, fun _ => hleft⟩
    · rw [hnext]
      exact ⟨h, fun _ => hleft⟩
    · rw [hadvance rfl] at hleft
      cases hleft
  | rewind => exact absurd rfl hrewind
  | count =>
    show (count c).2.Exhausted ∧ (_ → (count c).2.reading.rowsLeft = 0)
    rw [count_snd]
    exact ⟨h, id⟩
  | next =>
    show (next f c).2.Exhausted ∧ (_ → (next f c).2.reading.rowsLeft = 0)
    rw [next_of_exhausted h]
    exact ⟨h, id⟩
  | collect =>
    have hsame : (collect f c).2 = c := by
      rw [collect, nextUpTo, next_of_exhausted h]
    show (collect f c).2.Exhausted ∧ (_ → (collect f c).2.reading.rowsLeft = 0)
    rw [hsame]
    exact ⟨h, id⟩

theorem exhausted_run {c : Cursor δ α} (h : c.Exhausted) {steps : List Step}
    (hsteps : ∀ s ∈ steps, s ≠ .rewind ∧ (s = .advance → c.reading.rowsLeft = 0)) :
    (run f steps c).2.Exhausted := by
  induction steps generalizing c with
  | nil => exact h
  | cons s steps ih =>
    obtain ⟨hrewind, hadvance⟩ := hsteps s List.mem_cons_self
    obtain ⟨hstep, hleft⟩ := exhausted_step (f := f) h hrewind hadvance
    refine ih hstep fun s' hs' => ?_
    obtain ⟨hrewind', hadvance'⟩ := hsteps s' (List.mem_cons_of_mem s hs')
    exact ⟨hrewind', fun hs => hleft (hadvance' hs)⟩

/-! ### The main statement -/

/-- Iterating over the rest of a result is draining it. -/
structure Drains (f : RowReader α) (r : Reading δ) : Prop where
  /-- The items, or the first failure in their place, and the result that is left behind. -/
  drained : gather f r = Reading.remainingItems f r
  /-- As long as there are rows, one row more than items handed out is fetched. -/
  ahead : ∀ {c₀ c : Cursor δ α} {limit : Nat} {items : List α}, (start f r).1 = .ok c₀ →
    gatherUpTo f limit c₀ = (.ok items, c) →
    c.reading.result.rowNum = r.result.rowNum + min (items.length + 1) r.rowsLeft
  /-- Once there is nothing to hand out, there never is again without rewinding.  Where a failure
  came before the end, moving on may still find a row behind it. -/
  final : ∀ {c₀ : Cursor δ α} {steps later : List Step}, (start f r).1 = .ok c₀ →
    (next f (run f steps c₀).2).1 = none →
    (∀ s ∈ later, s ≠ .rewind ∧
      (s = .advance → (next f (run f steps c₀).2).2.reading.rowsLeft = 0)) →
    (next f (run f later (next f (run f steps c₀).2).2).2).1 = none

/-- **Iterating equals draining.**  From whatever state, an iteration up to its first failure gives
the items or the failure that fetching all remaining rows gives, and leaves the same result and
connection behind.  On the way it has fetched one row more than it has handed out, and at the end it
stays there. -/
theorem drains (f : RowReader α) (r : Reading δ) : Drains f r where
  drained := gather_eq_remainingItems f r
  ahead hstart hitems := rowNum_ahead hstart hitems
  final _ hnone hlater := by
    have hend := exhausted_of_next hnone
    rw [next_of_exhausted hend] at hlater ⊢
    rw [next_of_exhausted (exhausted_run hend hlater)]

end Cursor

end SqlLayer
