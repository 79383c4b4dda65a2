import SqlLayer.Proofs.Result.Iteration

/-!
# Rewinding an iteration

A cursor that is rewound moves its driver to the first row and fetches it again, unless its position
is zero.  A position of zero does not say that the first row is under the cursor: it may have been
handed out already, or the row after it may have been used up.

* `Cursor.Restarted` — the first row is under the cursor, and all rows are handed out from there;
* `Cursor.rewind_of_ne_zero` — away from position zero, rewinding **begins anew** at the first row;
* `Cursor.underway_run` — what is known of a cursor that was not rewound, whatever was done with it;
* `Cursor.rewind_restarts_iff` — rewinding restarts the iteration **unless the position is zero and
  the cursor is not where it began**;
* `Cursor.rewind_past_only_row` — a result of one row stays at its end.
-/

namespace SqlLayer

namespace Cursor

variable {δ α : Type} [Driver δ] [BufferedDriver δ] {t : OpenRows} {f : RowReader α}
  {r : Reading δ} {c : Cursor δ α}

/-- The first row is under the cursor, the second one is the next to be read, and what is handed out
from there are the items of all rows, up to the first one that cannot be decoded. -/
structure Restarted (t : OpenRows) (f : RowReader α) (c : Cursor δ α) : Prop where
  valid : c.isValid = true
  position : c.position = 0
  current : ∃ item, c.current = some item ∧ (t.decoded f).head? = some (.ok item)
  settled : c.pending = none
  reading : c.reading.InStep t
  rowNum : c.reading.result.rowNum = 1
  items : (collect f c).1 = untilFailure (t.decoded f)
  /-- Where every row can be decoded, every row is handed out. -/
  everyRow : (∀ outcome ∈ t.decoded f, outcome.isOk = true) → (collect f c).1 = t.decoded f

/-- An iteration that has just begun at the first row. -/
def BegunAtFirst (t : OpenRows) (f : RowReader α) (c : Cursor δ α) : Prop :=
  ∃ r : Reading δ, r.InStep t ∧ r.result.rowNum = 0 ∧ (start f r).1 = .ok c

/-- A fresh cursor is at the end of the rows, or on the row that it began at. -/
theorem start_cases (hr : r.InStep t) (hstart : (start f r).1 = .ok c) :
    (r.result.rowNum = t.rows.length ∧ c = ⟨r, r.result.rowNum, none, none⟩) ∨
    ∃ item r', (t.decoded f)[r.result.rowNum]? = some (.ok item) ∧ r'.InStep t ∧
      r'.result.rowNum = r.result.rowNum + 1 ∧ c = ⟨r', r.result.rowNum, some item, none⟩ := by
  obtain ⟨hend, hnext⟩ | ⟨outcome, r', hrow, hnext, hr', hnum⟩ := hr.nextItem_cases f
  · rw [start, hnext] at hstart
    exact .inl ⟨hend, (Except.ok.inj hstart).symm⟩
  · rw [start, hnext] at hstart
    cases outcome with
    | ok item =>
      exact .inr ⟨item, r', hrow, hr', hnum, (Except.ok.inj hstart).symm⟩
    | error e => cases hstart

/-- Where the first row can be decoded, an iteration that begins there is restarted. -/
theorem BegunAtFirst.restarted (h : c.BegunAtFirst t f) (hrows : t.rows ≠ []) :
    c.Restarted t f := by
  obtain ⟨r, hr, hzero, hstart⟩ := h
  obtain ⟨hend, -⟩ | ⟨item, r', hrow, hr', hnum, rfl⟩ := start_cases hr hstart
  · rw [hzero] at hend
    exact absurd (List.length_eq_zero_iff.1 hend.symm) hrows
  · rw [hzero] at hrow hnum
    have hfirst : t.decoded f = .ok item :: (t.decoded f).drop 1 :=
      OpenRows.drop_decoded_of_getElem? hrow
    have hbound := hr'.rowBound_eq
    have hitems : (collect f ⟨r', r.result.rowNum, some item, none⟩).1
        = untilFailure (t.decoded f) := by
      rw [collect, nextUpTo_of_current hr' item (by rw [hbound]; omega), hnum, hfirst]
      rfl
    exact
      { valid := rfl
        position := hzero
        current := ⟨item, rfl, by rw [hfirst]; rfl⟩
        settled := rfl
        reading := hr'
        rowNum := hnum
        items := hitems
        everyRow := fun hall => hitems.trans (untilFailure_of_isOk hall) }

/-! ### Rewinding -/

omit [BufferedDriver δ] in
theorem rewind_of_eq_zero (hzero : c.position = 0) : rewind f c = (.ok (), c) := if_pos hzero

/-- Away from position zero the iteration begins anew at the first row, and fails if that row cannot
be decoded. -/
theorem rewind_of_ne_zero (hc : c.reading.InStep t) (hmove : t.seekable = true)
    (hrows : t.rows ≠ []) (f : RowReader α) (hpos : c.position ≠ 0) :
    (∃ item c', (t.decoded f).head? = some (.ok item) ∧ rewind f c = (.ok (), c') ∧
      c'.BegunAtFirst t f) ∨
    ∃ e c', (t.decoded f).head? = some (.error e) ∧ rewind f c = (.error e, c') := by
  obtain ⟨r, hseek, hr, hnum⟩ := hc.seek_of_inside hmove (.inl rfl)
  have hform : rewind f c = pull f ⟨r, 0, c.current, none⟩ := by
    rw [rewind, if_neg hpos]
    show (onReading (Reading.seek 0) >>= fun _ => pull f)
      { c with position := 0, pending := none } = _
    rw [Op.bind_apply, onReading, Op.onPart, hseek]
  obtain ⟨hend, -⟩ | ⟨outcome, r', hrow, hnext, -, -⟩ := hr.nextItem_cases f
  · rw [hnum] at hend
    exact absurd (List.length_eq_zero_iff.1 hend.symm) hrows
  · rw [hnum, ← List.head?_eq_getElem?] at hrow
    rw [pull_apply, hnext] at hform
    cases outcome with
    | ok item =>
      refine .inl ⟨item, ⟨r', 0, some item, none⟩, hrow, hform, r, hr, hnum, ?_⟩
      rw [start, hnext, hnum]
      rfl
    | error e => exact .inr ⟨e, _, hrow, hform⟩

/-! ### Iterations that were not rewound -/

/-- What is known of a cursor that was not rewound: a row has been read, and either nothing was done
with the cursor since it began at the first row, or its position, its item or its reading tell that
it was moved. -/
structure Underway (t : OpenRows) (f : RowReader α) (c : Cursor δ α) : Prop where
  reading : c.reading.InStep t
  begun : 0 < c.reading.result.rowNum
  place : c.BegunAtFirst t f ∨
    c.position ≠ 0 ∨ c.isValid = false ∨ 1 < c.reading.result.rowNum

theorem underway_start (hr : r.InStep t) (hrows : t.rows ≠ []) (hstart : (start f r).1 = .ok c) :
    c.Underway t f := by
  have hlength : 0 < t.rows.length := List.length_pos_iff.2 hrows
  obtain ⟨hend, rfl⟩ | ⟨item, r', -, hr', hnum, rfl⟩ := start_cases hr hstart
  · have hbegun : 0 < r.result.rowNum := hend ▸ hlength
    exact ⟨hr, hbegun, .inr (.inr (.inl rfl))⟩
  · refine ⟨hr', Nat.lt_of_lt_of_eq (Nat.succ_pos _) hnum.symm, ?_⟩
    by_cases hzero : r.result.rowNum = 0
    · exact .inl ⟨r, hr, hzero, hstart⟩
    · exact .inr (.inl hzero)

theorem underway_advance (hc : c.reading.InStep t) (hbegun : 0 < c.reading.result.rowNum) :
    (advance f c).2.Underway t f := by
  obtain ⟨-, hform⟩ | ⟨outcome, r, -, hr, hnum, hform⟩ := advance_cases hc f
  · rw [hform]
    exact ⟨hc, hbegun, .inr (.inr (.inl rfl))⟩
  · have hmoved : 1 < r.result.rowNum := by omega
    rw [hform]
    cases outcome with
    | ok item => exact ⟨hr, Nat.lt_of_succ_lt hmoved, .inr (.inl (Nat.succ_ne_zero _))⟩
    | error e => exact ⟨hr, Nat.lt_of_succ_lt hmoved, .inr (.inr (.inr hmoved))⟩

theorem underway_next (h : c.Underway t f) : (next f c).2.Underway t f := by
  obtain ⟨r, position, current, pending⟩ := c
  cases pending with
  | some e =>
    rw [next_of_pending]
    refine ⟨h.reading, h.begun, h.place.imp_left ?_⟩
    rintro ⟨r₀, hr₀, -, hstart⟩
    -- a fresh cursor has no failure to hand out
    obtain ⟨-, hfresh⟩ | ⟨item, r', -, -, -, hfresh⟩ := start_cases hr₀ hstart
    · exact nomatch (congrArg Cursor.pending hfresh)
    · exact nomatch (congrArg Cursor.pending hfresh)
  | none =>
    cases current with
    | none => exact h
    | some item =>
      have htaken : (⟨r, position, none, none⟩ : Cursor δ α).reading.InStep t := h.reading
      rw [next]
      obtain ⟨-, hform⟩ | ⟨outcome, r', -, hr', hnum, hform⟩ := advance_cases htaken f
      · rw [hform]
        exact ⟨h.reading, h.begun, .inr (.inr (.inl rfl))⟩
      · have hbegun : 0 < r'.result.rowNum := Nat.lt_of_lt_of_eq (Nat.succ_pos _) hnum.symm
        rw [hform]
        cases outcome with
        | ok item' => exact ⟨hr', hbegun, .inr (.inl (Nat.succ_ne_zero _))⟩
        | error e => exact ⟨hr', hbegun, .inr (.inr (.inl rfl))⟩

/-- **Whatever was done** with a cursor, short of rewinding it. -/
theorem underway_run {steps : List Step} (hsteps : ∀ s ∈ steps, s ≠ .rewind)
    (h : c.Underway t f) : (run f steps c).2.Underway t f := by
  have hlasting : Lasting f (Underway (δ := δ) t f) :=
    ⟨fun _ hc => underway_advance hc.reading hc.begun, fun _ => underway_next⟩
  exact hlasting.run hsteps h

/-! ### The main statement -/

/-- **When rewinding restarts an iteration.**  For a cursor that began at any row of a result with
at least one row, and after any steps but rewinding: rewinding succeeds where the position is zero
or the first row can be decoded; and where it succeeds it restarts the iteration, unless the
position is zero and either the item under the cursor is gone or a row after the first one is used
up. -/
theorem rewind_restarts_iff (hr : r.InStep t) (hmove : t.seekable = true) (hrows : t.rows ≠ [])
    {c₀ : Cursor δ α} (hstart : (start f r).1 = .ok c₀) {steps : List Step}
    (hsteps : ∀ s ∈ steps, s ≠ .rewind) :
    let c := (run f steps c₀).2
    ((rewind f c).1 = .ok () ↔
      c.position = 0 ∨ ∃ item, (t.decoded f).head? = some (.ok item)) ∧
    (((rewind f c).1 = .ok () → (rewind f c).2.Restarted t f) ↔
      (c.position = 0 → c.isValid = true ∧ c.reading.result.rowNum = 1)) := by
  intro c
  have h : c.Underway t f := underway_run hsteps (underway_start hr hrows hstart)
  by_cases hzero : c.position = 0
  · rw [rewind_of_eq_zero hzero]
    refine ⟨⟨fun _ => .inl hzero, fun _ => rfl⟩, fun hrestarted _ => ?_, fun hplace _ => ?_⟩
    · exact ⟨(hrestarted rfl).valid, (hrestarted rfl).rowNum⟩
    · obtain ⟨hvalid, hnum⟩ := hplace hzero
      obtain hbegun | hpos | hinvalid | hmoved := h.place
      · exact hbegun.restarted hrows
      · exact absurd hzero hpos
      · exact absurd (hvalid.symm.trans hinvalid) (by decide)
      · exact absurd hnum (Nat.ne_of_gt hmoved)
  · obtain ⟨item, c', hfirst, hform, hbegun⟩ | ⟨e, c', hfirst, hform⟩ :=
      rewind_of_ne_zero h.reading hmove hrows f hzero
    · rw [hform]
      refine ⟨⟨fun _ => .inr ⟨item, hfirst⟩, fun _ => rfl⟩, fun _ hpos => absurd hpos hzero, ?_⟩
      exact fun _ _ => hbegun.restarted hrows
    · rw [hform]
      refine ⟨⟨fun hok => (nomatch hok), ?_⟩, fun _ hpos => absurd hpos hzero, ?_⟩
      · rintro (hpos | ⟨item, hitem⟩)
        · exact absurd hpos hzero
        · exact nomatch hfirst.symm.trans hitem
      · exact fun _ hok => (nomatch hok)

/-- A recording driver that has answered a statement with some rows. -/
def answering (columns : List String) (rows : List (List Value)) : Recorder :=
  (Recorder.execute "SELECT" (Recorder.new ⟨[.new columns rows 0], [], false, false, 0⟩)).2

/-- The fresh result of that statement. -/
def recorded (columns : List String) (rows : List (List Value)) : Reading Recorder :=
  ⟨{ Connection.new Registry.empty with slot := some (answering columns rows) }, .new ⟨1⟩⟩

theorem inStep_recorded (columns : List String) (rows : List (List Value)) :
    (recorded columns rows).InStep ⟨⟨1⟩, columns, rows, 0, true⟩ :=
  Reading.inStep_new (d := answering columns rows) rfl rfl rfl

/-- A result of two rows, of which the first was skipped and the second was handed out. -/
theorem rewind_restarts_two_rows :
    let t : OpenRows := ⟨⟨1⟩, ["n"], [[.int 10], [.int 20]], 0, true⟩
    let f := RowReader.rows .byOrdinal
    let r := recorded ["n"] [[.int 10], [.int 20]]
    r.InStep t ∧ t.seekable = true ∧ t.rows ≠ [] ∧
      ∃ c₀, (start f r).1 = .ok c₀ ∧ (∀ s ∈ [Step.advance, .next], s ≠ .rewind) ∧
        (rewind f (run f [.advance, .next] c₀).2).1 = .ok () ∧
        (rewind f (run f [.advance, .next] c₀).2).2.Restarted t f := by
  intro t f r
  have hr : r.InStep t := inStep_recorded _ _
  have hrows : t.rows ≠ [] := by decide
  have hsteps : ∀ s ∈ [Step.advance, .next], s ≠ .rewind := by decide
  refine ⟨hr, rfl, hrows, _, rfl, hsteps, rfl, ?_⟩
  exact (rewind_restarts_iff (f := f) hr rfl hrows rfl hsteps).2.2 (fun hzero => nomatch hzero) rfl

/-- A result of one row, which was handed out: the position is still zero, so that rewinding
succeeds and does nothing, and the cursor stays at the end. -/
theorem rewind_past_only_row :
    let t : OpenRows := ⟨⟨1⟩, ["n"], [[.int 10]], 0, true⟩
    let f := RowReader.rows .byOrdinal
    let r := recorded ["n"] [[.int 10]]
    r.InStep t ∧ t.seekable = true ∧ t.rows ≠ [] ∧
      ∃ c₀, (start f r).1 = .ok c₀ ∧ (rewind f (run f [.next] c₀).2).1 = .ok () ∧
        (rewind f (run f [.next] c₀).2).2.isValid = false ∧
        (collect f (rewind f (run f [.next] c₀).2).2).1 = [] :=
  ⟨inStep_recorded _ _, rfl, by decide, _, rfl, rfl, rfl, rfl⟩

end Cursor

end SqlLayer
