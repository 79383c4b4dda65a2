import SqlLayer.Proofs.Result.Synchrony

/-!
# Iterating over a result

An iteration fetches one item ahead, so that the item under the cursor has already been read when it
is handed out, and a failure to fetch the next one has to wait for its turn.

* `Cursor.advance_apply`, `Cursor.next_of_current` — moving on and handing out, by what fetching the
  next item does, with any driver;
* `Cursor.advance_cases` — the end of the rows, a row that can be decoded, or one that cannot;
* `Cursor.nextUpTo_of_current` — **what is handed out from a valid cursor on**: the item under it
  and the items after it, up to the first row that cannot be decoded.
-/

namespace SqlLayer

theorem untilFailure_of_isOk {α : Type} {outcomes : List (Except SqlError α)}
    (h : ∀ outcome ∈ outcomes, outcome.isOk = true) : untilFailure outcomes = outcomes := by
  induction outcomes with
  | nil => rfl
  | cons outcome outcomes ih =>
    have hrest := ih fun o ho => h o (List.mem_cons_of_mem outcome ho)
    cases outcome with
    | ok a => exact congrArg (List.cons _) hrest
    | error e => exact nomatch h _ List.mem_cons_self

variable {δ α : Type} [Driver δ] [BufferedDriver δ] {t : OpenRows} {f : RowReader α}

namespace Cursor

omit [BufferedDriver δ] in
/-- Fetching the item under the cursor: a failure leaves the old one there. -/
theorem pull_apply (f : RowReader α) (c : Cursor δ α) :
    pull f c = match Reading.nextItem f c.reading with
      | (.ok item, r) => (.ok (), { c with reading := r, current := item })
      | (.error e, r) => (.error e, { c with reading := r }) := by
  rw [pull, Op.bind_apply]
  simp only [onReading, Op.onPart]
  cases Reading.nextItem f c.reading with
  | mk outcome r => cases outcome <;> rfl

omit [BufferedDriver δ] in
/-- Moving to the next item: what the cursor becomes is up to what is fetched. -/
theorem advance_apply (f : RowReader α) (c : Cursor δ α) :
    advance f c = match Reading.nextItem f c.reading with
      | (.ok none, r) => (.ok (), ⟨r, c.position, none, c.pending⟩)
      | (.ok (some item), r) => (.ok (), ⟨r, c.position + 1, some item, c.pending⟩)
      | (.error e, r) => (.error e, { c with reading := r }) := by
  rw [advance, Op.bind_apply, pull_apply]
  cases Reading.nextItem f c.reading with
  | mk outcome r =>
    cases outcome with
    | error e => rfl
    | ok item => cases item <;> rfl

/-- Moving to the next item: past the end the cursor is not valid any more; a row that can be
decoded is the new item; and one that cannot be is used up, with the old item still in place. -/
theorem advance_cases {c : Cursor δ α} (hc : c.reading.InStep t) (f : RowReader α) :
    (c.reading.result.rowNum = t.rows.length ∧
      advance f c = (.ok (), { c with current := none })) ∨
    ∃ outcome r, (t.decoded f)[c.reading.result.rowNum]? = some outcome ∧ r.InStep t ∧
      r.result.rowNum = c.reading.result.rowNum + 1 ∧
      advance f c = match outcome with
        | .ok item => (.ok (), ⟨r, c.position + 1, some item, c.pending⟩)
        | .error e => (.error e, { c with reading := r }) := by
  obtain ⟨hend, hnext⟩ | ⟨outcome, r, hrow, hnext, hr, hnum⟩ := hc.nextItem_cases f
  · refine .inl ⟨hend, ?_⟩
    rw [advance_apply, hnext]
  · refine .inr ⟨outcome, r, hrow, hr, hnum, ?_⟩
    rw [advance_apply, hnext]
    cases outcome <;> rfl

/-! ### Handing items out -/

variable {r : Reading δ} {position : Nat}

omit [BufferedDriver δ] in
theorem next_of_pending (item : Option α) (e : SqlError) :
    next f ⟨r, position, item, some e⟩ = (some (.error e), ⟨r, position, item, none⟩) := by
  cases item <;> rfl

/-- Where a cursor goes whose item was handed out: to the next item, to the end, or nowhere, with a
failure that is kept back. -/
def moved (position : Nat) : Except SqlError (Option α) × Reading δ → Cursor δ α
  | (.ok none, r) => ⟨r, position, none, none⟩
  | (.ok (some item), r) => ⟨r, position + 1, some item, none⟩
  | (.error e, r) => ⟨r, position, none, some e⟩

omit [BufferedDriver δ] in
/-- The item under the cursor is handed out, whatever becomes of the next one. -/
theorem next_of_current (position : Nat) (item : α) :
    next f ⟨r, position, some item, none⟩
      = (some (.ok item), moved position (Reading.nextItem f r)) := by
  rw [next, advance_apply]
  cases Reading.nextItem f r with
  | mk outcome r' =>
    cases outcome with
    | error e => rfl
    | ok item' => cases item' <;> rfl

omit [BufferedDriver δ] in
theorem nextUpTo_of_none (limit : Nat) : (nextUpTo f limit ⟨r, position, none, none⟩).1 = [] := by
  cases limit <;> rfl

omit [BufferedDriver δ] in
theorem nextUpTo_of_pending (e : SqlError) (limit : Nat) :
    (nextUpTo f (limit + 1) ⟨r, position, none, some e⟩).1 = [.error e] := by
  rw [nextUpTo, next_of_pending]
  exact congrArg (List.cons _) (nextUpTo_of_none limit)

/-- **From a valid cursor on**, the item under it is handed out and then the items of the rows that
were not read yet, up to the first failure. -/
theorem nextUpTo_of_current (hr : r.InStep t) (item : α) {limit : Nat}
    (hlimit : t.rows.length - r.result.rowNum < limit) :
    (nextUpTo f limit ⟨r, position, some item, none⟩).1
      = .ok item :: untilFailure ((t.decoded f).drop r.result.rowNum) := by
  induction limit generalizing r position item with
  | zero => exact absurd hlimit (Nat.not_lt_zero _)
  | succ limit ih =>
    -- the item is taken out before the cursor moves on
    have htaken : (⟨r, position, none, none⟩ : Cursor δ α).reading.InStep t := hr
    obtain ⟨hend, hadvance⟩ | ⟨outcome, r', hrow, hr', hnum, hadvance⟩ := advance_cases htaken f
    · rw [t.drop_decoded_of_end f hend, nextUpTo, next, hadvance]
      exact congrArg (List.cons _) (nextUpTo_of_none limit)
    · have hlt : r.result.rowNum < (t.decoded f).length := (List.getElem?_eq_some_iff.1 hrow).1
      rw [t.length_decoded] at hlt
      have hnum : r'.result.rowNum = r.result.rowNum + 1 := hnum
      have hrest : t.rows.length - r'.result.rowNum < limit := by omega
      rw [OpenRows.drop_decoded_of_getElem? hrow, nextUpTo, next, hadvance, ← hnum]
      cases outcome with
      | ok item' => exact congrArg (List.cons _) (ih hr' item' hrest)
      | error e =>
        obtain ⟨limit, rfl⟩ := Nat.exists_eq_succ_of_ne_zero (Nat.ne_zero_of_lt hrest)
        exact congrArg (List.cons _) (nextUpTo_of_pending e limit)

end Cursor

end SqlLayer
