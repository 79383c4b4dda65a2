import SqlLayer.Proofs.Driver.Buffered

/-!
# What a store holds

A store is seen through the handles of its live results, and through the result that each handle
finds.  Every operation is described by what it does to both.

* `ResultStore.Numbered` — live handles are distinct, and all of them have been given out;
* `ResultStore.find?_insert`, `ResultStore.find?_without`, `ResultStore.find?_clear` — what the
  handles find afterwards (for moving see `ResultStore.find?_moveTo`);
* `ResultStore.handles_insert`, … — which handles are live afterwards;
* `ResultStore.fetch_eq`, `ResultStore.seek_eq` — reading **moves the result, if it does anything**.
-/

namespace SqlLayer.ResultStore

variable {s : ResultStore} {h k : Handle} {r : StoredResult}

/-- The handles of the live results. -/
def handles (s : ResultStore) : List Handle := s.live.map Prod.fst

/-- The handle that the next result gets. -/
def nextHandle (s : ResultStore) : Handle := ⟨s.issued + 1⟩

/-- The store without one of its results. -/
def without (s : ResultStore) (h : Handle) : ResultStore :=
  { s with live := s.live.filter fun e => e.1 != h }

/-- Live handles are distinct, and all of them have been given out. -/
structure Numbered (s : ResultStore) : Prop where
  nodup : s.handles.Nodup
  bound : ∀ h ∈ s.handles, h.id ≤ s.issued

theorem length_handles (s : ResultStore) : s.handles.length = s.size := List.length_map _

theorem find?_eq_none_iff : s.find? h = none ↔ h ∉ s.handles := by
  simp only [find?, handles, Option.map_eq_none_iff, List.find?_eq_none, beq_iff_eq, List.mem_map,
    not_exists, not_and]

theorem mem_handles_of_find? (hr : s.find? h = some r) : h ∈ s.handles := by
  refine Decidable.byContradiction fun hnot => ?_
  rw [find?_eq_none_iff.2 hnot] at hr
  cases hr

theorem exists_of_mem_handles (hh : h ∈ s.handles) : ∃ r, s.find? h = some r := by
  rw [← Option.isSome_iff_exists, Option.isSome_iff_ne_none]
  exact fun hnone => find?_eq_none_iff.1 hnone hh

theorem lookup_of_none (hnone : s.find? h = none) : s.lookup h = .error (.unknownHandle h) := by
  rw [lookup, hnone]

/-! ### What handles find -/

theorem Numbered.nextHandle_not_mem (hs : s.Numbered) : s.nextHandle ∉ s.handles := by
  intro hmem
  have hle : s.issued + 1 ≤ s.issued := hs.bound _ hmem
  omega

/-- A new result is found under its handle, and the others are found as before. -/
theorem find?_insert (hs : s.Numbered) (r : StoredResult) (k : Handle) :
    (s.insert r).2.find? k = if k = s.nextHandle then some r else s.find? k := by
  have hlive : (s.insert r).2.live = s.live ++ [(s.nextHandle, r)] := rfl
  rw [find?, hlive, List.find?_append]
  by_cases hk : k = s.nextHandle
  · have hnone : s.live.find? (fun e => e.1 == k) = none := by
      rw [← Option.map_eq_none_iff (f := Prod.snd)]
      exact find?_eq_none_iff.2 (hk ▸ hs.nextHandle_not_mem)
    rw [hnone, if_pos hk, hk]
    simp
  · have hne : (s.nextHandle == k) = false := beq_false_of_ne (Ne.symm hk)
    rw [if_neg hk, find?]
    simp [hne]

/-- The other results are found as before. -/
theorem find?_without (s : ResultStore) (h k : Handle) :
    (s.without h).find? k = if k = h then none else s.find? k := by
  rw [find?, without, List.find?_filter]
  by_cases hk : k = h
  · rw [if_pos hk, Option.map_eq_none_iff, List.find?_eq_none]
    intro e _
    simp [hk]
  · rw [if_neg hk, find?]
    congr 2
    funext e
    by_cases he : e.1 = k
    · simp [he, hk]
    · simp [he]

theorem find?_clear (s : ResultStore) (k : Handle) : s.clear.find? k = none := rfl

/-! ### Which handles are live -/

@[simp] theorem handles_moveTo (s : ResultStore) (h : Handle) (row : Nat) :
    (s.moveTo h row).handles = s.handles := by
  rw [handles, moveTo, List.map_map]
  apply List.map_congr_left
  intro e _
  show (if e.1 = h then (e.1, _) else e).1 = e.1
  split <;> rfl

theorem handles_insert (s : ResultStore) (r : StoredResult) :
    (s.insert r).2.handles = s.handles ++ [s.nextHandle] := List.map_append

theorem handles_without (s : ResultStore) (h : Handle) :
    (s.without h).handles = s.handles.filter (· != h) := by
  rw [handles, without, handles, List.filter_map]
  rfl

@[simp] theorem handles_clear (s : ResultStore) : s.clear.handles = [] := rfl

/-! ### The operations -/

/-- Fetching leaves the store alone or moves one result. -/
theorem fetch_eq (h : Handle) (mode : Addressing) (s : ResultStore) :
    (fetch h mode s).2 = s ∨ ∃ row, (fetch h mode s).2 = s.moveTo h row := by
  cases hr : s.find? h with
  | none =>
    rw [fetch, lookup_of_none hr]
    exact .inl rfl
  | some r =>
    cases hrow : r.rows[r.cursor]? with
    | none =>
      rw [fetch_of_end hr mode hrow]
      exact .inl rfl
    | some values =>
      rw [fetch_of_getElem? hr mode hrow]
      exact .inr ⟨_, rfl⟩

/-- Moving leaves the store alone or moves one result. -/
theorem seek_eq (h : Handle) (row : Nat) (s : ResultStore) :
    (seek h row s).2 = s ∨ (seek h row s).2 = s.moveTo h row := by
  cases hr : s.find? h with
  | none =>
    rw [seek, lookup_of_none hr]
    exact .inl rfl
  | some r =>
    by_cases hrow : row = 0 ∨ row < r.rows.length
    · rw [seek_of_inside hr hrow]
      exact .inr rfl
    · rw [seek_of_outside hr hrow]
      exact .inl rfl

/-- A live result can be given up. -/
theorem free_of_mem (hh : h ∈ s.handles) : free h s = (.ok (), s.without h) := by
  obtain ⟨r, hr⟩ := exists_of_mem_handles hh
  rw [free, lookup_of_find? hr]
  rfl

/-- No other result can. -/
theorem free_of_none (hnone : s.find? h = none) :
    free h s = (.error (.unknownHandle h), s) := by
  rw [free, lookup_of_none hnone]

/-! ### Numbers -/

theorem numbered_empty : empty.Numbered := ⟨List.nodup_nil, by simp [handles, empty]⟩

theorem Numbered.moveTo (hs : s.Numbered) (h : Handle) (row : Nat) : (s.moveTo h row).Numbered :=
  ⟨by rw [handles_moveTo]; exact hs.nodup, by rw [handles_moveTo]; exact hs.bound⟩

theorem Numbered.insert (hs : s.Numbered) (r : StoredResult) : (s.insert r).2.Numbered where
  nodup := by
    rw [handles_insert, (List.perm_append_singleton _ _).nodup_iff, List.nodup_cons]
    exact ⟨hs.nextHandle_not_mem, hs.nodup⟩
  bound := by
    rw [handles_insert]
    intro k hk
    rcases List.mem_append.1 hk with hold | hnew
    · exact Nat.le_succ_of_le (hs.bound k hold)
    · rw [List.mem_singleton.1 hnew]
      exact Nat.le_refl _

theorem Numbered.without (hs : s.Numbered) (h : Handle) : (s.without h).Numbered where
  nodup := by
    rw [handles_without]
    exact hs.nodup.filter _
  bound := by
    rw [handles_without]
    exact fun k hk => hs.bound k (List.mem_filter.1 hk).1

theorem Numbered.clear (s : ResultStore) : s.clear.Numbered :=
  ⟨by simp, by simp⟩

end SqlLayer.ResultStore
