import SqlLayer.Proofs.Op
import SqlLayer.Result.Cursor

/-!
# What reading leaves in place

All that is done with an open result comes down to fetching the next row and to moving.  A property
of readings that **these two** keep is kept by every operation on a result and by every iteration
over it, also where they fail in the middle.

* `Reading.Persistent` — a property that fetching and moving keep;
* `Reading.Persistent.nextItem`, …, `Reading.Persistent.changedRows` — the operations on a result;
* `Cursor.Lasting` — the same for a property of a whole cursor that is not rewound;
* `Cursor.reading_run` — an iteration, whatever its steps.
-/

namespace SqlLayer

namespace Reading

variable {δ α : Type} [Driver δ] {p : Reading δ → Prop}

/-- A property that fetching the next row and moving leave in place, whatever their outcome. -/
structure Persistent (p : Reading δ → Prop) : Prop where
  nextRow : ∀ mode, Op.Keeps p (nextRow mode)
  seek : ∀ row, Op.Keeps p (seek row)

omit [Driver δ] in
/-- A question to the driver changes nothing. -/
theorem onResult_ask (f : Handle → δ → Except SqlError α) (r : Reading δ) :
    (onResult (fun h => Op.ask (f h)) r).2 = r := by
  obtain ⟨⟨slot, registry, tablePrefix, retired, lent, now⟩, result⟩ := r
  cases lent with
  | true => rfl
  | false => cases slot <;> rfl

/-- A property that the driver keeps, whatever the number of the next row. -/
theorem persistent_of_onResult
    (hfetch : ∀ mode, Op.Keeps p (onResult fun h => Driver.fetch h mode))
    (hseek : ∀ row, Op.Keeps p (onResult fun h => Driver.seek h row))
    (hnumber : ∀ n r, p r → p (r.setRowNum n)) : Persistent p where
  nextRow mode := (hfetch mode).bind fun row => by
    cases row with
    | none => exact (Op.keeps_pure ()).bind fun _ => Op.keeps_pure none
    | some row =>
      refine Op.Keeps.bind (fun r hr => ?_) fun _ => Op.keeps_pure (some row)
      exact hnumber (r.result.rowNum + 1) r hr
  seek row := (hseek row).bind fun moved => by
    cases moved with
    | false => exact (Op.keeps_pure ()).bind fun _ => Op.keeps_pure false
    | true =>
      refine Op.Keeps.bind (fun r hr => ?_) fun _ => Op.keeps_pure true
      exact hnumber row r hr

namespace Persistent

theorem nextItem (hp : Persistent p) (f : RowReader α) :
    Op.Keeps p (Reading.nextItem f : Op (Reading δ) (Option α)) := by
  refine Op.Keeps.bind (hp.nextRow f.mode) fun row => ?_
  cases row with
  | none => exact Op.keeps_pure none
  | some row => exact (Op.keeps_ask _).bind fun item => Op.keeps_pure (some item)

theorem oneField (hp : Persistent p) (key : ColumnKey) :
    Op.Keeps p (Reading.oneField key : Op (Reading δ) Taken) := by
  refine Op.Keeps.bind (hp.nextRow .byEither) fun row => ?_
  cases row with
  | none => exact Op.keeps_pure _
  | some row => exact (Op.keeps_ask _).bind fun _ => Op.keeps_pure _

theorem itemsUpTo (hp : Persistent p) (f : RowReader α) (limit : Nat) :
    Op.Keeps p (Reading.itemsUpTo f limit : Op (Reading δ) (List α)) := by
  induction limit with
  | zero => exact Op.keeps_pure []
  | succ limit ih =>
    refine Op.Keeps.bind (hp.nextItem f) fun item => ?_
    cases item with
    | none => exact Op.keeps_pure []
    | some item => exact ih.bind fun rest => Op.keeps_pure (item :: rest)

theorem remainingItems (hp : Persistent p) (f : RowReader α) :
    Op.Keeps p (Reading.remainingItems f : Op (Reading δ) (List α)) := fun r =>
  hp.itemsUpTo f (r.rowBound + 1) r

theorem pairs (hp : Persistent p) (key value : ColumnKey) :
    Op.Keeps p (Reading.pairs key value : Op (Reading δ) (OrderedMap Value)) := by
  refine Op.Keeps.bind (hp.nextRow .byEither) fun row => ?_
  cases row with
  | none => exact Op.keeps_pure _
  | some first =>
    refine (Op.keeps_ask _).bind fun _ => (Op.keeps_ask _).bind fun _ => ?_
    exact (hp.remainingItems (.rows .byEither)).bind fun rest => Op.keeps_pure _

theorem cellsUpTo (hp : Persistent p) (key : ColumnKey) (limit : Nat) :
    Op.Keeps p (Reading.cellsUpTo key limit : Op (Reading δ) (Option (List Value))) := by
  induction limit with
  | zero => exact Op.keeps_pure _
  | succ limit ih =>
    refine Op.Keeps.bind (hp.nextRow .byEither) fun row => ?_
    cases row with
    | none => exact Op.keeps_pure _
    | some row =>
      dsimp only
      cases row.cell? key with
      | none => exact Op.keeps_pure _
      | some v => exact ih.bind fun rest => Op.keeps_pure _

theorem column (hp : Persistent p) (key : ColumnKey) :
    Op.Keeps p (Reading.column key : Op (Reading δ) (Option (List Value))) := by
  refine Op.Keeps.bind (hp.nextRow .byEither) fun row => ?_
  cases row with
  | none => exact Op.keeps_pure _
  | some first =>
    refine (Op.keeps_ask _).bind fun _ => ?_
    cases first.cell? key with
    | none => exact Op.keeps_pure _
    | some v =>
      exact Op.Keeps.bind (fun r => hp.cellsUpTo key (r.rowBound + 1) r) fun rest =>
        Op.keeps_pure _

end Persistent

theorem keeps_count : Op.Keeps p (count : Op (Reading δ) Nat) := fun r hr => by
  rw [count, onResult_ask]
  exact hr

theorem keeps_changedRows : Op.Keeps p (changedRows : Op (Reading δ) Nat) := fun r hr => by
  rw [changedRows, onResult_ask]
  exact hr

end Reading

/-! ### Iterations -/

namespace Cursor

variable {δ α β : Type} [Driver δ] {p : Reading δ → Prop} {f : RowReader α}

omit [Driver δ] in
theorem keeps_onReading {op : Op (Reading δ) β} (hop : Op.Keeps p op) :
    Op.Keeps (fun c : Cursor δ α => p c.reading) (onReading op) := fun c hc => hop c.reading hc

/-- Asking for the number of rows changes nothing. -/
theorem count_snd (c : Cursor δ α) : (count c).2 = c := by
  have hreading : (Reading.count c.reading).2 = c.reading := by
    rw [Reading.count, Reading.onResult_ask]
  show { c with reading := (Reading.count c.reading).2 } = c
  rw [hreading]

theorem keeps_pull (hp : Reading.Persistent p) :
    Op.Keeps (fun c : Cursor δ α => p c.reading) (pull f) :=
  (keeps_onReading (hp.nextItem f)).bind fun _ _ hc => hc

theorem keeps_advance (hp : Reading.Persistent p) :
    Op.Keeps (fun c : Cursor δ α => p c.reading) (advance f) := by
  refine (keeps_pull hp).bind fun _ c hc => ?_
  show p (if c.isValid then { c with position := c.position + 1 } else c).reading
  split
  · exact hc
  · exact hc

theorem keeps_rewind (hp : Reading.Persistent p) :
    Op.Keeps (fun c : Cursor δ α => p c.reading) (rewind f) := by
  intro c hc
  rw [rewind]
  split
  · exact hc
  · refine Op.Keeps.bind (p := fun c : Cursor δ α => p c.reading) (fun c hc => hc)
      (fun _ => ?_) c hc
    exact (keeps_onReading (hp.seek 0)).bind fun _ => keeps_pull hp

/-- Handing an item out keeps what reading keeps. -/
theorem reading_next (hp : Reading.Persistent p) {c : Cursor δ α} (hc : p c.reading) :
    p (next f c).2.reading := by
  rw [next]
  split
  · exact hc
  · exact hc
  · have hadvance := keeps_advance (f := f) hp { c with current := none } hc
    split <;> rename_i hform <;> rw [hform] at hadvance <;> exact hadvance

/-- A property of cursors that moving on and handing out leave in place, whatever their outcome. -/
structure Lasting (f : RowReader α) (p : Cursor δ α → Prop) : Prop where
  advance : ∀ c, p c → p (advance f c).2
  next : ∀ c, p c → p (next f c).2

namespace Lasting

variable {p : Cursor δ α → Prop} {c : Cursor δ α}

theorem nextUpTo (hp : Lasting f p) (limit : Nat) (hc : p c) : p (nextUpTo f limit c).2 := by
  induction limit generalizing c with
  | zero => exact hc
  | succ limit ih =>
    have hnext := hp.next c hc
    rw [Cursor.nextUpTo]
    split <;> rename_i hform <;> rw [hform] at hnext
    · exact hnext
    · exact ih hnext

/-- **Every step** but rewinding comes down to moving on and handing out. -/
theorem step (hp : Lasting f p) {s : Step} (hs : s ≠ .rewind) (hc : p c) : p (step f c s).2 := by
  cases s with
  | advance => exact hp.advance c hc
  | rewind => exact absurd rfl hs
  | count =>
    show p (count c).2
    rw [count_snd]
    exact hc
  | next => exact hp.next c hc
  | collect => exact hp.nextUpTo (c.reading.rowBound + 4) hc

theorem run (hp : Lasting f p) {steps : List Step} (hsteps : ∀ s ∈ steps, s ≠ .rewind)
    (hc : p c) : p (run f steps c).2 := by
  induction steps generalizing c with
  | nil => exact hc
  | cons s steps ih =>
    exact ih (fun s' hs' => hsteps s' (List.mem_cons_of_mem s hs'))
      (hp.step (hsteps s List.mem_cons_self) hc)

end Lasting

theorem reading_step (hp : Reading.Persistent p) (s : Step) {c : Cursor δ α} (hc : p c.reading) :
    p (step f c s).2.reading := by
  have hlasting : Lasting f fun c : Cursor δ α => p c.reading :=
    ⟨keeps_advance hp, fun _ => reading_next hp⟩
  by_cases hs : s = .rewind
  · subst hs
    exact keeps_rewind hp c hc
  · exact hlasting.step hs hc

/-- **An iteration** keeps what reading keeps. -/
theorem reading_run (hp : Reading.Persistent p) (steps : List Step) {c : Cursor δ α}
    (hc : p c.reading) : p (run f steps c).2.reading := by
  induction steps generalizing c with
  | nil => exact hc
  | cons s steps ih => exact ih (reading_step hp s hc)

theorem reading_start (hp : Reading.Persistent p) {r : Reading δ} (hr : p r) :
    p (start f r).2 ∧ ∀ c, (start f r).1 = .ok c → p c.reading := by
  have hnext := hp.nextItem f r hr
  rw [start]
  split <;> rename_i hform <;> rw [hform] at hnext
  · refine ⟨hnext, fun c hc => ?_⟩
    cases hc
    exact hnext
  · exact ⟨hnext, fun c hc => nomatch hc⟩

end Cursor

end SqlLayer
