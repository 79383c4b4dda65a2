import SqlLayer.Proofs.Op
import SqlLayer.Proofs.Result.Store

/-!
# A result on its own

Seen from its handle, a result is a record of rows and a cursor, and the store around it does not
show.

* `StoredResult.perform`, `CursorOp.alone` — a result **without a store around it**;
* `ResultStore.Acts` — what an operation on one handle does to a store: the handle finds something
  else, and **the other handles find what they found**;
* `CursorOp.perform_of_find?` — an operation on a live result answers what the result on its own
  answers, and acts on its handle only;
* `CursorOp.perform_of_none` — an operation on any other handle is refused.
-/

namespace SqlLayer

/-- An operation on a result. -/
inductive CursorOp where
  | fetch (mode : Addressing)
  | seek (row : Nat)
  | rowCount
  | changedRows
  | free

/-- What a store answers. -/
inductive StoreReply where
  | inserted (h : Handle)
  | row (r : Option Row)
  | moved (b : Bool)
  | number (n : Nat)
  | done

/-! ### A result on its own -/

/-- What a record of rows and a cursor answers, and the record afterwards; none once it is given
up. -/
def StoredResult.perform (r : StoredResult) : CursorOp → StoreReply × Option StoredResult
  | .fetch mode =>
    match r.rows[r.cursor]? with
    | some values => (.row (some ⟨mode, r.columns, values⟩), some { r with cursor := r.cursor + 1 })
    | none => (.row none, some r)
  | .seek row =>
    if row = 0 ∨ row < r.rows.length then (.moved true, some { r with cursor := row })
    else (.moved false, some r)
  | .rowCount => (.number r.rows.length, some r)
  | .changedRows => (.number r.changedRows, some r)
  | .free => (.done, none)

namespace CursorOp

/-- What a result answers to one operation after another. Once it is given up, its handle `h` is
unknown. -/
def alone (h : Handle) : Option StoredResult → List CursorOp → List (Except SqlError StoreReply)
  | _, [] => []
  | none, _ :: ops => .error (.unknownHandle h) :: alone h none ops
  | some r, op :: ops => .ok (r.perform op).1 :: alone h (r.perform op).2 ops

/-- Performs an operation on the result with a handle. -/
def perform (h : Handle) : CursorOp → Op ResultStore StoreReply
  | .fetch mode => .row <$> ResultStore.fetch h mode
  | .seek row => .moved <$> ResultStore.seek h row
  | .rowCount => .number <$> Op.ask fun s => s.rowCount h
  | .changedRows => .number <$> Op.ask fun s => s.changedRows h
  | .free => (fun _ => .done) <$> ResultStore.free h

end CursorOp

/-! ### Operations on one handle -/

namespace ResultStore

/-- After an operation, the handle `h` finds `r?`, and everything else is as before. -/
structure Acts (h : Handle) (r? : Option StoredResult) (s s' : ResultStore) : Prop where
  found : ∀ k, s'.find? k = if k = h then r? else s.find? k
  issued : s'.issued = s.issued
  handles : s'.handles = if r?.isSome then s.handles else s.handles.filter (· != h)
  numbered : s.Numbered → s'.Numbered

variable {s : ResultStore} {h : Handle} {r : StoredResult}

theorem acts_refl (hr : s.find? h = some r) : s.Acts h (some r) s where
  found k := by
    by_cases hk : k = h
    · rw [if_pos hk, hk, hr]
    · rw [if_neg hk]
  issued := rfl
  handles := rfl
  numbered := id

theorem acts_moveTo (hr : s.find? h = some r) (row : Nat) :
    s.Acts h (some { r with cursor := row }) (s.moveTo h row) where
  found k := by
    rw [find?_moveTo]
    by_cases hk : k = h
    · rw [if_pos hk, hk, hr, Option.map_some, if_pos rfl]
    · simp only [if_neg hk, Option.map_id']
  issued := rfl
  handles := handles_moveTo s h row
  numbered hs := hs.moveTo h row

theorem acts_without (s : ResultStore) (h : Handle) : s.Acts h none (s.without h) where
  found := find?_without s h
  issued := rfl
  handles := handles_without s h
  numbered hs := hs.without h

end ResultStore

namespace CursorOp

variable {s : ResultStore} {h : Handle} {r : StoredResult}

/-- An operation on a handle that finds nothing. -/
theorem perform_of_none (hnone : s.find? h = none) (op : CursorOp) :
    op.perform h s = (.error (.unknownHandle h), s) := by
  have hlookup := ResultStore.lookup_of_none hnone
  cases op with
  | fetch mode =>
    show (StoreReply.row <$> ResultStore.fetch h mode) s = _
    rw [Op.map_apply, ResultStore.fetch, hlookup]
    rfl
  | seek row =>
    show (StoreReply.moved <$> ResultStore.seek h row) s = _
    rw [Op.map_apply, ResultStore.seek, hlookup]
    rfl
  | rowCount =>
    show (StoreReply.number <$> Op.ask fun s => s.rowCount h) s = _
    rw [Op.map_apply, Op.ask_apply, ResultStore.rowCount, hlookup]
    rfl
  | changedRows =>
    show (StoreReply.number <$> Op.ask fun s => s.changedRows h) s = _
    rw [Op.map_apply, Op.ask_apply, ResultStore.changedRows, hlookup]
    rfl
  | free =>
    show ((fun _ => StoreReply.done) <$> ResultStore.free h) s = _
    rw [Op.map_apply, ResultStore.free_of_none hnone]
    rfl

/-- **An operation on a live result** answers what the result on its own answers, and changes
nothing else. -/
theorem perform_of_find? (hr : s.find? h = some r) (op : CursorOp) :
    ∃ s', op.perform h s = (.ok (r.perform op).1, s') ∧ s.Acts h (r.perform op).2 s' := by
  cases op with
  | fetch mode =>
    show ∃ s', (StoreReply.row <$> ResultStore.fetch h mode) s = _ ∧ _
    rw [StoredResult.perform, Op.map_apply]
    cases hrow : r.rows[r.cursor]? with
    | none =>
      rw [ResultStore.fetch_of_end hr mode hrow]
      exact ⟨s, rfl, ResultStore.acts_refl hr⟩
    | some values =>
      rw [ResultStore.fetch_of_getElem? hr mode hrow]
      exact ⟨_, rfl, ResultStore.acts_moveTo hr _⟩
  | seek row =>
    show ∃ s', (StoreReply.moved <$> ResultStore.seek h row) s = _ ∧ _
    rw [StoredResult.perform, Op.map_apply]
    by_cases hrow : row = 0 ∨ row < r.rows.length
    · rw [ResultStore.seek_of_inside hr hrow, if_pos hrow]
      exact ⟨_, rfl, ResultStore.acts_moveTo hr row⟩
    · rw [ResultStore.seek_of_outside hr hrow, if_neg hrow]
      exact ⟨s, rfl, ResultStore.acts_refl hr⟩
  | rowCount =>
    refine ⟨s, ?_, ResultStore.acts_refl hr⟩
    show (StoreReply.number <$> Op.ask fun s => s.rowCount h) s = _
    rw [Op.map_apply, Op.ask_apply, ResultStore.rowCount_of_find? hr]
    rfl
  | changedRows =>
    refine ⟨s, ?_, ResultStore.acts_refl hr⟩
    show (StoreReply.number <$> Op.ask fun s => s.changedRows h) s = _
    rw [Op.map_apply, Op.ask_apply, ResultStore.changedRows_of_find? hr]
    rfl
  | free =>
    refine ⟨s.without h, ?_, ResultStore.acts_without s h⟩
    show ((fun _ => StoreReply.done) <$> ResultStore.free h) s = _
    rw [Op.map_apply, ResultStore.free_of_mem (ResultStore.mem_handles_of_find? hr)]
    rfl

/-- The stored result with a handle, after an operation on any handle. -/
theorem find?_perform (op : CursorOp) (s : ResultStore) (k h : Handle) (hne : h ≠ k) :
    (op.perform k s).2.find? h = s.find? h := by
  cases hr : s.find? k with
  | none => rw [perform_of_none hr]
  | some r =>
    obtain ⟨s', hform, hacts⟩ := perform_of_find? hr op
    rw [hform, hacts.found, if_neg hne]

theorem issued_perform (op : CursorOp) (h : Handle) (s : ResultStore) :
    (op.perform h s).2.issued = s.issued := by
  cases hr : s.find? h with
  | none => rw [perform_of_none hr]
  | some r =>
    obtain ⟨s', hform, hacts⟩ := perform_of_find? hr op
    rw [hform]
    exact hacts.issued

theorem numbered_perform (op : CursorOp) (h : Handle) (hs : s.Numbered) :
    (op.perform h s).2.Numbered := by
  cases hr : s.find? h with
  | none =>
    rw [perform_of_none hr]
    exact hs
  | some r =>
    obtain ⟨s', hform, hacts⟩ := perform_of_find? hr op
    rw [hform]
    exact hacts.numbered hs

/-- Only a result that is given up loses its handle. -/
theorem perform_isSome_iff (r : StoredResult) (op : CursorOp) :
    (r.perform op).2.isSome = true ↔ op ≠ .free := by
  cases op with
  | fetch mode =>
    rw [StoredResult.perform]
    cases r.rows[r.cursor]? <;> simp
  | seek row =>
    rw [StoredResult.perform]
    split <;> simp
  | rowCount => simp [StoredResult.perform]
  | changedRows => simp [StoredResult.perform]
  | free => simp [StoredResult.perform]

end CursorOp

end SqlLayer
