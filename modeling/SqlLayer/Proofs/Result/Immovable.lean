import SqlLayer.Proofs.Result.Rewinding

/-!
# Rewinding a result that cannot be moved

Rewinding resets the position and drops a failure that is waiting before it asks the driver to move.
A driver that refuses leaves the result where it is, and the cursor on its item, but the position
and the failure are gone.

* `Cursor.Alike` — two cursors on one row that count from different numbers;
* `Cursor.Alike.run` — they give **the same answers to the same steps**, short of rewinding;
* `Cursor.rewind_of_immovable` — what a refusal leaves behind;
* `Cursor.rewind_refused` — rewinding is refused away from position zero, **never leaves the
  position as it was** and is not refused again; the items to come are the same unless a failure was
  waiting;
* `Cursor.rewind_refused_once` — a cursor on the second row that is said to be on the first.
-/

namespace SqlLayer

/-- Readings on the same row fetch the same item, and are on the same row afterwards. -/
theorem Reading.InStep.nextItem_congr {δ α : Type} [Driver δ] [BufferedDriver δ] {t : OpenRows}
    {r r' : Reading δ} (h : r.InStep t) (h' : r'.InStep t)
    (hnum : r'.result.rowNum = r.result.rowNum) (f : RowReader α) :
    (nextItem f r').1 = (nextItem f r).1 ∧
      (nextItem f r').2.result.rowNum = (nextItem f r).2.result.rowNum := by
  obtain ⟨values, hrow⟩ | hend := h.row_cases
  · obtain ⟨hitem, hnext⟩ := h.nextItem_of_getElem? f hrow
    obtain ⟨hitem', hnext'⟩ := h'.nextItem_of_getElem? f (hnum ▸ hrow)
    exact ⟨hitem'.trans hitem.symm, by rw [hnext', hnext, hnum]⟩
  · rw [h.synchronised.itemAtEnd f hend, h'.synchronised.itemAtEnd f (hnum.trans hend)]
    exact ⟨rfl, hnum⟩

namespace Cursor

variable {δ α : Type} [Driver δ] [BufferedDriver δ] {t : OpenRows} {f : RowReader α}
  {r : Reading δ} {c c' : Cursor δ α} {lost : Nat}

/-! ### Two cursors on one row -/

/-- Two cursors on one row of a result, of which the second one counts from a smaller number. -/
structure Alike (t : OpenRows) (lost : Nat) (c c' : Cursor δ α) : Prop where
  reading : c.reading.InStep t
  reading' : c'.reading.InStep t
  rowNum : c'.reading.result.rowNum = c.reading.result.rowNum
  position : c.position = c'.position + lost
  current : c'.current = c.current
  pending : c'.pending = c.pending

theorem Alike.advance (h : Alike t lost c c') :
    (advance f c').1 = (advance f c).1 ∧ Alike t lost (advance f c).2 (advance f c').2 := by
  obtain ⟨houtcome, hnum⟩ := h.reading.nextItem_congr h.reading' h.rowNum f
  have hr := Reading.persistent_inStep.nextItem f c.reading h.reading
  have hr' := Reading.persistent_inStep.nextItem f c'.reading h.reading'
  rw [advance_apply, advance_apply]
  cases hnext : Reading.nextItem f c.reading with
  | mk outcome r =>
    cases hnext' : Reading.nextItem f c'.reading with
    | mk outcome' r' =>
      rw [hnext, hnext'] at houtcome hnum
      rw [hnext] at hr
      rw [hnext'] at hr'
      obtain rfl : outcome' = outcome := houtcome
      cases outcome' with
      | error e => exact ⟨rfl, hr, hr', hnum, h.position, h.current, h.pending⟩
      | ok item =>
        cases item with
        | none => exact ⟨rfl, hr, hr', hnum, h.position, rfl, h.pending⟩
        | some item =>
          refine ⟨rfl, hr, hr', hnum, ?_, rfl, h.pending⟩
          show c.position + 1 = c'.position + 1 + lost
          rw [h.position]
          exact Nat.add_right_comm _ _ _

theorem Alike.next (h : Alike t lost c c') :
    (next f c').1 = (next f c).1 ∧ Alike t lost (next f c).2 (next f c').2 := by
  obtain ⟨r, position, current, pending⟩ := c
  obtain ⟨r', position', current', pending'⟩ := c'
  obtain ⟨hr, hr', hnum, hposition, rfl, rfl⟩ := h
  cases pending' with
  | some e =>
    rw [next_of_pending, next_of_pending]
    exact ⟨rfl, hr, hr', hnum, hposition, rfl, rfl⟩
  | none =>
    cases current' with
    | none => exact ⟨rfl, hr, hr', hnum, hposition, rfl, rfl⟩
    | some item =>
      have htaken : Alike (α := α) t lost ⟨r, position, none, none⟩ ⟨r', position', none, none⟩ :=
        ⟨hr, hr', hnum, hposition, rfl, rfl⟩
      obtain ⟨houtcome, hmoved⟩ := htaken.advance (f := f)
      rw [Cursor.next, Cursor.next]
      dsimp only
      cases hform : Cursor.advance f ⟨r, position, none, none⟩ with
      | mk outcome d =>
        cases hform' : Cursor.advance f ⟨r', position', none, none⟩ with
        | mk outcome' d' =>
          rw [hform, hform'] at houtcome hmoved
          obtain rfl : outcome' = outcome := houtcome
          cases outcome' with
          | ok _ => exact ⟨rfl, hmoved⟩
          | error e =>
            exact ⟨rfl, hmoved.reading, hmoved.reading', hmoved.rowNum, hmoved.position,
              hmoved.current, rfl⟩

theorem Alike.nextUpTo (limit : Nat) (h : Alike t lost c c') :
    (nextUpTo f limit c').1 = (nextUpTo f limit c).1 ∧
      Alike t lost (nextUpTo f limit c).2 (nextUpTo f limit c').2 := by
  induction limit generalizing c c' with
  | zero => exact ⟨rfl, h⟩
  | succ limit ih =>
    obtain ⟨houtcome, hmoved⟩ := h.next (f := f)
    rw [Cursor.nextUpTo, Cursor.nextUpTo]
    cases hform : Cursor.next f c with
    | mk outcome d =>
      cases hform' : Cursor.next f c' with
      | mk outcome' d' =>
        rw [hform, hform'] at houtcome hmoved
        obtain rfl : outcome' = outcome := houtcome
        cases outcome' with
        | none => exact ⟨rfl, hmoved⟩
        | some item =>
          obtain ⟨hrest, hlast⟩ := ih hmoved
          exact ⟨congrArg (List.cons item) hrest, hlast⟩

theorem Alike.step (h : Alike t lost c c') {s : Step} (hs : s ≠ .rewind) :
    (step f c' s).1 = (step f c s).1 ∧ Alike t lost (step f c s).2 (step f c' s).2 := by
  cases s with
  | advance =>
    obtain ⟨houtcome, hmoved⟩ := h.advance (f := f)
    exact ⟨congrArg Reply.moved houtcome, hmoved⟩
  | rewind => exact absurd rfl hs
  | count =>
    have hform : ∀ c : Cursor δ α, c.reading.InStep t → count c = (.ok t.rows.length, c) := by
      intro c hc
      rw [count, onReading, Op.onPart, hc.count_eq]
    show Reply.counted (count c').1 = Reply.counted (count c).1 ∧
      Alike t lost (count c).2 (count c').2
    rw [hform c h.reading, hform c' h.reading']
    exact ⟨rfl, h⟩
  | next =>
    obtain ⟨hitem, hmoved⟩ := h.next (f := f)
    exact ⟨congrArg Reply.item hitem, hmoved⟩
  | collect =>
    have hbound : c'.reading.rowBound = c.reading.rowBound := by
      rw [h.reading'.rowBound_eq, h.reading.rowBound_eq]
    show Reply.items (collect f c').1 = Reply.items (collect f c).1 ∧
      Alike t lost (collect f c).2 (collect f c').2
    rw [collect, collect, hbound]
    obtain ⟨hitems, hmoved⟩ := h.nextUpTo (f := f) (c.reading.rowBound + 4)
    exact ⟨congrArg Reply.items hitems, hmoved⟩

/-- What can be seen of a step apart from the position: the answer, whether the cursor is valid, and
the item under it. -/
def seen (entry : Reply α × Cursor δ α) : Reply α × Bool × Option α :=
  (entry.1, entry.2.isValid, entry.2.current)

/-- **The same answers to the same steps**, and the same items under the cursor. -/
theorem Alike.run (h : Alike t lost c c') {steps : List Step} (hsteps : ∀ s ∈ steps, s ≠ .rewind) :
    (run f steps c').1.map seen = (run f steps c).1.map seen ∧
      Alike t lost (run f steps c).2 (run f steps c').2 := by
  induction steps generalizing c c' with
  | nil => exact ⟨rfl, h⟩
  | cons s steps ih =>
    obtain ⟨hreply, hmoved⟩ := h.step (f := f) (hsteps s List.mem_cons_self)
    obtain ⟨hrest, hlast⟩ := ih hmoved fun s' hs' => hsteps s' (List.mem_cons_of_mem s hs')
    have hseen : seen (Cursor.step f c' s) = seen (Cursor.step f c s) := by
      rw [seen, seen, hreply, isValid, isValid, hmoved.current]
    exact ⟨List.cons_eq_cons.2 ⟨hseen, hrest⟩, hlast⟩

/-! ### A refusal -/

/-- A refusal leaves the result and the item in place, while the position and a failure that was
waiting are gone. -/
theorem rewind_of_immovable (hc : c.reading.InStep t) (hfixed : t.seekable = false)
    (f : RowReader α) (hposition : c.position ≠ 0) :
    ∃ e r, rewind f c = (.error e, ⟨r, 0, c.current, none⟩) ∧ r.InStep t ∧
      r.result.rowNum = c.reading.result.rowNum := by
  obtain ⟨e, r, hseek, hr, hnum⟩ := hc.seek_refused hfixed 0
  refine ⟨e, r, ?_, hr, hnum⟩
  rw [rewind, if_neg hposition]
  show (onReading (Reading.seek 0) >>= fun _ => pull f)
    { c with position := 0, pending := none } = _
  rw [Op.bind_apply, onReading, Op.onPart, hseek]

/-- What a refused rewinding makes of a cursor. -/
structure Refused (f : RowReader α) (c c' : Cursor δ α) : Prop where
  /-- The position is another one. -/
  position : c.position ≠ 0 ∧ c'.position = 0
  valid : c'.isValid = c.isValid
  current : c'.current = c.current
  /-- Rewinding is not refused again. -/
  again : rewind f c' = (.ok (), c')
  /-- Where no failure was waiting, all that is to come is the same, apart from the positions. -/
  later : c.pending = none → ∀ steps : List Step, (∀ s ∈ steps, s ≠ .rewind) →
    (run f steps c').1.map seen = (run f steps c).1.map seen ∧
      (run f steps c).2.position = (run f steps c').2.position + c.position
  /-- A failure that was waiting is never handed out. -/
  dropped : ∀ e, c.pending = some e →
    (next f c).1 = some (.error e) ∧ (next f c').1 = c.current.map .ok

/-! ### The main statement -/

/-- **What a failed rewinding does.**  On a driver that cannot move results, and after any steps,
rewinding fails away from position zero.  There the cursor stays valid or not and keeps its item,
but not its position, nor a failure that is waiting, and rewinding it again does not fail. -/
theorem rewind_refused (hr : r.InStep t) (hfixed : t.seekable = false) {c₀ : Cursor δ α}
    (hstart : (start f r).1 = .ok c₀) (steps : List Step) :
    ((rewind f (run f steps c₀).2).1 = .ok () ↔ (run f steps c₀).2.position = 0) ∧
      ((rewind f (run f steps c₀).2).1 ≠ .ok () →
        Refused f (run f steps c₀).2 (rewind f (run f steps c₀).2).2) := by
  have hbegun : c₀.reading.InStep t := (reading_start Reading.persistent_inStep hr).2 c₀ hstart
  have hc : (run f steps c₀).2.reading.InStep t :=
    reading_run Reading.persistent_inStep steps hbegun
  generalize (run f steps c₀).2 = c at hc
  by_cases hzero : c.position = 0
  · rw [rewind_of_eq_zero hzero]
    exact ⟨⟨fun _ => hzero, fun _ => rfl⟩, fun hfails => absurd rfl hfails⟩
  · obtain ⟨e, r', hform, hr', hnum⟩ := rewind_of_immovable hc hfixed f hzero
    rw [hform]
    refine ⟨⟨fun hok => (nomatch hok), fun hpos => absurd hpos hzero⟩, fun _ => ?_⟩
    exact
      { position := ⟨hzero, rfl⟩
        valid := rfl
        current := rfl
        again := rewind_of_eq_zero rfl
        later := fun hnone steps hsteps => by
          have halike : Alike t c.position c ⟨r', 0, c.current, none⟩ :=
            ⟨hc, hr', hnum, (Nat.zero_add _).symm, rfl, hnone.symm⟩
          obtain ⟨hseen, hlast⟩ := halike.run (f := f) hsteps
          exact ⟨hseen, hlast.position⟩
        dropped := fun e' hpending => by
          obtain ⟨reading, position, current, pending⟩ := c
          cases hpending
          rw [next_of_pending]
          cases current with
          | none => exact ⟨rfl, rfl⟩
          | some item =>
            rw [next_of_current]
            exact ⟨rfl, rfl⟩ }

/-- The fresh result of a statement whose results cannot be moved. -/
def immovable (columns : List String) (rows : List (List Value)) : Reading Recorder :=
  let script : Script := ⟨[.new columns rows 0], [], false, true, 0⟩
  ⟨{ Connection.new Registry.empty with
      slot := some (Recorder.execute "SELECT" (Recorder.new script)).2 }, .new ⟨1⟩⟩

theorem inStep_immovable (columns : List String) (rows : List (List Value)) :
    (immovable columns rows).InStep ⟨⟨1⟩, columns, rows, 0, false⟩ :=
  Reading.inStep_new (d := (Recorder.execute "SELECT"
    (Recorder.new ⟨[.new columns rows 0], [], false, true, 0⟩)).2) rfl rfl rfl

/-- On the second of three rows a refusal leaves the cursor at position zero, from where the items
that are handed out are still the second row and the third. -/
theorem rewind_refused_second_row :
    let t : OpenRows := ⟨⟨1⟩, ["n"], [[.int 10], [.int 20], [.int 30]], 0, false⟩
    let f := RowReader.rows .byOrdinal
    let r := immovable ["n"] [[.int 10], [.int 20], [.int 30]]
    r.InStep t ∧ t.seekable = false ∧ ∃ c₀, (start f r).1 = .ok c₀ ∧
      (rewind f (run f [.advance] c₀).2).1 ≠ .ok () ∧
      Refused f (run f [.advance] c₀).2 (rewind f (run f [.advance] c₀).2).2 := by
  intro t f r
  have hr : r.InStep t := inStep_immovable _ _
  refine ⟨hr, rfl, _, rfl, fun hok => (nomatch hok), ?_⟩
  exact (rewind_refused (f := f) hr rfl rfl [.advance]).2 fun hok => (nomatch hok)

/-- A cursor on the second row: rewinding it fails, after which it is said to be on the first row,
and rewinding it again succeeds. -/
theorem rewind_refused_once :
    let t : OpenRows := ⟨⟨1⟩, ["n"], [[.int 10], [.int 20]], 0, false⟩
    let f := RowReader.rows .byOrdinal
    let r := immovable ["n"] [[.int 10], [.int 20]]
    r.InStep t ∧ ∃ c₀, (start f r).1 = .ok c₀ ∧
      let c := (run f [.advance] c₀).2
      (rewind f c).1 = .error Recorder.seekError ∧ (rewind f c).2.position ≠ c.position ∧
        (rewind f (rewind f c).2).1 = .ok () :=
  ⟨inStep_immovable _ _, _, rfl, rfl, by decide, rfl⟩

end Cursor

end SqlLayer
