import SqlLayer.Proofs.Result.Rewinding

/-!
# The position of a cursor

A cursor counts the items that were put under it, while a row that fails to decode is used up
without an item.  From there on the position falls behind the number of the row.

* `OpenRows.skipped` — the rows of a stretch that cannot be decoded;
* `Cursor.Placed` — the position and those rows **together** make up the number of the row;
* `Cursor.key_run` — the item under the cursor is that of the row behind the position by the rows
  that were skipped, **so that the position is its row only where none was**;
* `Cursor.key_behind_failure` — a row in the middle that cannot be decoded.
-/

namespace SqlLayer

/-- The outcomes of the rows from one number up to another. -/
def OpenRows.stretch {α : Type} (t : OpenRows) (f : RowReader α) (first row : Nat) :
    List (Except SqlError α) := ((t.decoded f).take row).drop first

/-- The number of rows among them that cannot be decoded. -/
def OpenRows.skipped {α : Type} (t : OpenRows) (f : RowReader α) (first row : Nat) : Nat :=
  (t.stretch f first row).countP fun outcome => !outcome.isOk

section

variable {α : Type} {t : OpenRows} {f : RowReader α}

theorem OpenRows.skipped_self (t : OpenRows) (f : RowReader α) (first : Nat) :
    t.skipped f first first = 0 := by
  have hnone : t.stretch f first first = [] :=
    List.drop_eq_nil_of_le (List.length_take_le first (t.decoded f))
  rw [OpenRows.skipped, hnone]
  rfl

theorem OpenRows.skipped_succ {first row : Nat} (hfirst : first ≤ row)
    {outcome : Except SqlError α} (hrow : (t.decoded f)[row]? = some outcome) :
    t.skipped f first (row + 1) = t.skipped f first row + if outcome.isOk then 0 else 1 := by
  obtain ⟨hlt, -⟩ := List.getElem?_eq_some_iff.1 hrow
  have hlength : first ≤ ((t.decoded f).take row).length := by
    rw [List.length_take_of_le (Nat.le_of_lt hlt)]
    exact hfirst
  rw [OpenRows.skipped, OpenRows.stretch, List.take_add_one, hrow, Option.toList_some,
    List.drop_append_of_le_length hlength, List.countP_append]
  cases outcome <;> rfl

/-- No row of a stretch is skipped exactly where all of them can be decoded. -/
theorem OpenRows.skipped_eq_zero_iff {first row : Nat} :
    t.skipped f first row = 0 ↔ ∀ outcome ∈ t.stretch f first row, outcome.isOk = true := by
  rw [OpenRows.skipped, List.countP_eq_zero]
  simp

end

namespace Cursor

variable {δ α : Type} [Driver δ] [BufferedDriver δ] {t : OpenRows} {f : RowReader α}
  {r : Reading δ} {c : Cursor δ α} {first : Nat}

/-- Where a cursor stands that began at the row `first`. -/
structure Placed (t : OpenRows) (f : RowReader α) (first : Nat) (c : Cursor δ α) : Prop where
  reading : c.reading.InStep t
  begun : first ≤ c.reading.result.rowNum
  /-- The rows that were fetched are those before the item, the item's own, and those that were
  skipped, unless the rows have run out. -/
  counted : (c.current = none ∧ c.reading.result.rowNum = t.rows.length) ∨
    c.position + 1 + t.skipped f first c.reading.result.rowNum = c.reading.result.rowNum
  shown : ∀ item, c.current = some item → ∃ row, (t.decoded f)[row]? = some (.ok item) ∧
    c.position + t.skipped f first row = row

theorem placed_start (hr : r.InStep t) (hstart : (start f r).1 = .ok c) :
    c.Placed t f r.result.rowNum := by
  obtain ⟨hend, rfl⟩ | ⟨item, r', hrow, hr', hnum, rfl⟩ := start_cases hr hstart
  · exact ⟨hr, Nat.le_refl _, .inl ⟨rfl, hend⟩, fun item hitem => nomatch hitem⟩
  · have hself := t.skipped_self f r.result.rowNum
    refine ⟨hr', Nat.le_of_lt (Nat.lt_of_succ_le (Nat.le_of_eq hnum.symm)), .inr ?_, ?_⟩
    · simp only
      rw [hnum, OpenRows.skipped_succ (Nat.le_refl _) hrow, hself]
      rfl
    · intro item' hitem
      cases hitem
      exact ⟨r.result.rowNum, hrow, by rw [hself]; rfl⟩

/-- Taking the item out leaves the count in place. -/
theorem Placed.taken (h : c.Placed t f first) : Placed t f first { c with current := none } :=
  ⟨h.reading, h.begun, h.counted.imp_left fun hend => ⟨rfl, hend.2⟩, fun _ hitem => nomatch hitem⟩

/-- A failure that is kept back, or handed out, has no place of its own. -/
theorem Placed.withPending (h : c.Placed t f first) (pending : Option SqlError) :
    Placed t f first { c with pending } :=
  ⟨h.reading, h.begun, h.counted, h.shown⟩

theorem Placed.advance (h : c.Placed t f first) : (advance f c).2.Placed t f first := by
  obtain ⟨hend, hform⟩ | ⟨outcome, r, hrow, hr, hnum, hform⟩ := advance_cases h.reading f
  · rw [hform]
    exact ⟨h.reading, h.begun, .inl ⟨rfl, hend⟩, fun item hitem => nomatch hitem⟩
  · obtain ⟨hlt, -⟩ := List.getElem?_eq_some_iff.1 hrow
    rw [t.length_decoded] at hlt
    have hcounted : c.position + 1 + t.skipped f first c.reading.result.rowNum
        = c.reading.result.rowNum :=
      h.counted.resolve_left fun hend => Nat.ne_of_lt hlt hend.2
    have hskipped := OpenRows.skipped_succ h.begun hrow
    have hbegun : first ≤ r.result.rowNum := hnum ▸ Nat.le_succ_of_le h.begun
    rw [← hnum] at hskipped
    rw [hform]
    cases outcome with
    | ok item =>
      refine ⟨hr, hbegun, .inr ?_, ?_⟩
      · simp only [Except.isOk, Except.toBool, if_true] at hskipped ⊢
        omega
      · intro item' hitem
        cases hitem
        exact ⟨c.reading.result.rowNum, hrow, hcounted⟩
    | error e =>
      refine ⟨hr, hbegun, .inr ?_, h.shown⟩
      simp only [Except.isOk, Except.toBool, Bool.false_eq_true, if_false] at hskipped ⊢
      omega

theorem Placed.next (h : c.Placed t f first) : (next f c).2.Placed t f first := by
  rw [Cursor.next]
  split
  · exact h.withPending none
  · exact h
  · have hmoved := h.taken.advance
    split <;> rename_i hform <;> rw [hform] at hmoved
    · exact hmoved
    · exact hmoved.withPending _

/-- **Whatever was done** with a cursor, short of rewinding it. -/
theorem Placed.run {steps : List Step} (hsteps : ∀ s ∈ steps, s ≠ .rewind)
    (h : c.Placed t f first) : (run f steps c).2.Placed t f first := by
  have hlasting : Lasting f (Placed (δ := δ) t f first) :=
    ⟨fun _ => Placed.advance, fun _ => Placed.next⟩
  exact hlasting.run hsteps h

/-! ### The main statement -/

/-- **Which row is under the cursor.**  After any steps but rewinding, the item under a cursor is
that of the row whose number is the position and the number of rows that were skipped since the
iteration began.  The position is the number of that row exactly where none was skipped. -/
theorem key_run (hr : r.InStep t) {c₀ : Cursor δ α} (hstart : (start f r).1 = .ok c₀)
    {steps : List Step} (hsteps : ∀ s ∈ steps, s ≠ .rewind) {item : α}
    (hitem : (run f steps c₀).2.current = some item) :
    ∃ row, (t.decoded f)[row]? = some (.ok item) ∧
      row = (run f steps c₀).2.position + t.skipped f r.result.rowNum row ∧
      ((run f steps c₀).2.position = row ↔
        ∀ outcome ∈ t.stretch f r.result.rowNum row, outcome.isOk = true) := by
  obtain ⟨row, hrow, hplace⟩ := ((placed_start hr hstart).run hsteps).shown item hitem
  refine ⟨row, hrow, hplace.symm, ?_⟩
  rw [← OpenRows.skipped_eq_zero_iff]
  omega

/-- Two rows in the middle cannot be decoded, one while moving on and one while handing out: the
cursor that has passed both is on the row with the number 3, at the position 1. -/
theorem key_run_two_failures :
    let t : OpenRows := ⟨⟨1⟩, ["n"], [[.int 1], [.text "x"], [.text "y"], [.int 4]], 0, true⟩
    let f := RowReader.records (FillTarget.record [("n", .int)]).fill
    let r := recorded ["n"] [[.int 1], [.text "x"], [.text "y"], [.int 4]]
    let steps : List Step := [.advance, .next, .next, .advance]
    r.InStep t ∧ ∃ c₀, (start f r).1 = .ok c₀ ∧ (∀ s ∈ steps, s ≠ .rewind) ∧
      (run f steps c₀).2.current = some (.array [.int 4]) ∧
      ∃ row, (t.decoded f)[row]? = some (.ok (.array [.int 4])) ∧
        row = 1 + t.skipped f 0 row := by
  intro t f r steps
  have hr : r.InStep t := inStep_recorded _ _
  have hsteps : ∀ s ∈ steps, s ≠ .rewind := by decide
  refine ⟨hr, _, rfl, hsteps, rfl, ?_⟩
  obtain ⟨row, hrow, hplace, -⟩ := key_run (f := f) hr rfl hsteps rfl
  exact ⟨row, hrow, hplace⟩

/-- A row in the middle that cannot be decoded: behind it the cursor is valid, and its position is
the number of the row that failed. -/
theorem key_behind_failure :
    let t : OpenRows := ⟨⟨1⟩, ["n"], [[.int 1], [.text "x"], [.int 3]], 0, true⟩
    let f := RowReader.records (FillTarget.record [("n", .int)]).fill
    let r := recorded ["n"] [[.int 1], [.text "x"], [.int 3]]
    r.InStep t ∧ ∃ c₀, (start f r).1 = .ok c₀ ∧
      (run f [.advance, .advance] c₀).2.isValid = true ∧
      ¬ ∃ item, (run f [.advance, .advance] c₀).2.current = some item ∧
        (t.decoded f)[(run f [.advance, .advance] c₀).2.position]? = some (.ok item) := by
  intro t f r
  refine ⟨inStep_recorded _ _, _, rfl, rfl, ?_⟩
  rintro ⟨item, -, hrow⟩
  obtain ⟨e, hfails⟩ : ∃ e, (t.decoded f)[1]? = some (.error e) := ⟨_, rfl⟩
  cases hfails.symm.trans hrow

end Cursor

end SqlLayer
