import SqlLayer.Proofs.Result.Alone

/-!
# The results of a store do not influence each other

A store serves many results at a time, and operations on them come in any order, also with handles
that were given up or were never given out.

* `StoreOp.answersOn_trace` — whatever is done in between, the answers on a handle are those of its
  result on its own;
* `StoreOp.answersOn_trace_of_none` — a handle that was given up is **refused ever after**;
* `StoreOp.issued_trace` — handles are numbered from one on, **also across `free` and `clear`**;
* `StoreOp.run_independent` — all of it, for every run that starts from the empty store;
* `StoreOp.run_independent_interleaved` — the same of a run on three results in turn, where one is
  given up and the others are cleared.
-/

namespace SqlLayer

/-- An operation on a store. -/
inductive StoreOp where
  | insert (columns : List String) (rows : List (List Value)) (changedRows : Nat)
  | on (h : Handle) (op : CursorOp)
  | clear

namespace StoreOp

/-- Performs an operation on a store. -/
def perform : StoreOp → Op ResultStore StoreReply
  | .insert columns rows changedRows => fun s =>
    (.ok (.inserted (s.insert (.new columns rows changedRows)).1),
      (s.insert (.new columns rows changedRows)).2)
  | .on h op => op.perform h
  | .clear => (fun _ => .done) <$> Op.update ResultStore.clear

/-- The store after operations one after another, failed ones included. -/
def after (ops : List StoreOp) (s : ResultStore) : ResultStore :=
  ops.foldl (fun s op => (op.perform s).2) s

/-- Operations one after another, each with its answer. -/
def trace : List StoreOp → ResultStore → List (StoreOp × Except SqlError StoreReply)
  | [], _ => []
  | op :: ops, s => (op, (op.perform s).1) :: trace ops (op.perform s).2

/-- The operations on a handle among others. -/
def opsOn (h : Handle) (ops : List StoreOp) : List CursorOp :=
  ops.filterMap fun
    | .on k op => if k = h then some op else none
    | _ => none

/-- The answers on a handle among others. -/
def answersOn (h : Handle) (entries : List (StoreOp × Except SqlError StoreReply)) :
    List (Except SqlError StoreReply) :=
  entries.filterMap fun
    | (.on k _, answer) => if k = h then some answer else none
    | _ => none

/-- The handles that were given out, in order. -/
def issued (entries : List (StoreOp × Except SqlError StoreReply)) : List Handle :=
  entries.filterMap fun
    | (.insert .., .ok (.inserted h)) => some h
    | _ => none

/-- The handles that are live after one more answer. -/
def keepLive (live : List Handle) : StoreOp × Except SqlError StoreReply → List Handle
  | (.insert .., .ok (.inserted h)) => live ++ [h]
  | (.on h .free, .ok _) => live.filter (· != h)
  | (.clear, _) => []
  | _ => live

/-- The handles that were given out and not given up. -/
def liveHandles (entries : List (StoreOp × Except SqlError StoreReply)) : List Handle :=
  entries.foldl keepLive []

/-- Whether an operation gives a handle out. -/
def isInsert : StoreOp → Bool
  | .insert .. => true
  | _ => false

variable {s : ResultStore} {h : Handle}

/-! ### One step -/

theorem numbered_perform (op : StoreOp) (hs : s.Numbered) : (op.perform s).2.Numbered := by
  cases op with
  | insert columns rows changedRows => exact hs.insert _
  | on k op => exact op.numbered_perform k hs
  | clear => exact ResultStore.Numbered.clear s

theorem numbered_after (ops : List StoreOp) (hs : s.Numbered) : (after ops s).Numbered := by
  induction ops generalizing s with
  | nil => exact hs
  | cons op ops ih => exact ih (numbered_perform op hs)

theorem issued_le_perform (op : StoreOp) (s : ResultStore) :
    s.issued ≤ (op.perform s).2.issued := by
  cases op with
  | insert columns rows changedRows => exact Nat.le_succ _
  | on k op => exact Nat.le_of_eq (op.issued_perform k s).symm
  | clear => exact Nat.le_refl _

/-- **A failure changes nothing.** -/
theorem perform_of_error {op : StoreOp} {e : SqlError} (hfail : (op.perform s).1 = .error e) :
    (op.perform s).2 = s := by
  cases op with
  | insert columns rows changedRows => cases hfail
  | clear => cases hfail
  | on k op =>
    show (op.perform k s).2 = s
    cases hr : s.find? k with
    | none => rw [CursorOp.perform_of_none hr]
    | some r =>
      obtain ⟨s', hform, -⟩ := CursorOp.perform_of_find? hr op
      have hok : (op.perform k s).1 = .error e := hfail
      rw [hform] at hok
      cases hok

/-- A handle that was given out finds the same after an insertion. -/
theorem find?_insert_of_le (hs : s.Numbered) (hle : h.id ≤ s.issued) (r : StoredResult) :
    (s.insert r).2.find? h = s.find? h := by
  rw [ResultStore.find?_insert hs, if_neg]
  intro heq
  have hid : h.id = s.issued + 1 := congrArg Handle.id heq
  omega

/-- A handle that was given out and finds nothing finds nothing after any operation. -/
theorem find?_perform_of_none (hs : s.Numbered) (hle : h.id ≤ s.issued) (hnone : s.find? h = none)
    (op : StoreOp) : (op.perform s).2.find? h = none := by
  cases op with
  | insert columns rows changedRows => exact (find?_insert_of_le hs hle _).trans hnone
  | clear => rfl
  | on k op =>
    show (op.perform k s).2.find? h = none
    by_cases hk : h = k
    · rw [← hk, CursorOp.perform_of_none hnone]
      exact hnone
    · rw [CursorOp.find?_perform op s k h hk]
      exact hnone

/-! ### Whole runs -/

/-- **The answers on a handle are those of its result on its own**, as long as the store is not
cleared. -/
theorem answersOn_trace (ops : List StoreOp) (hclear : clear ∉ ops) (hs : s.Numbered)
    (hle : h.id ≤ s.issued) :
    answersOn h (trace ops s) = CursorOp.alone h (s.find? h) (opsOn h ops) := by
  induction ops generalizing s with
  | nil => cases s.find? h <;> rfl
  | cons op ops ih =>
    have hrest : clear ∉ ops := fun hmem => hclear (List.mem_cons_of_mem _ hmem)
    have hstep := ih hrest (numbered_perform op hs) (Nat.le_trans hle (issued_le_perform op s))
    cases op with
    | insert columns rows changedRows =>
      rw [show (StoreOp.perform (.insert columns rows changedRows) s).2.find? h = s.find? h from
        find?_insert_of_le hs hle _] at hstep
      exact hstep
    | clear => exact absurd (List.mem_cons_self ..) hclear
    | on k op =>
      by_cases hk : k = h
      · subst hk
        have hops : opsOn k (.on k op :: ops) = op :: opsOn k ops := by simp [opsOn]
        have hanswers : answersOn k (trace (.on k op :: ops) s)
            = (op.perform k s).1 :: answersOn k (trace ops (op.perform k s).2) := by
          simp [answersOn, trace, perform]
        rw [hops, hanswers, show answersOn k (trace ops (op.perform k s).2) = _ from hstep]
        cases hr : s.find? k with
        | none =>
          rw [show (StoreOp.perform (.on k op) s).2.find? k = none from
            find?_perform_of_none hs hle hr _, CursorOp.perform_of_none hr]
          rfl
        | some r =>
          obtain ⟨s', hform, hacts⟩ := CursorOp.perform_of_find? hr op
          show (op.perform k s).1 :: CursorOp.alone k ((op.perform k s).2.find? k) _ = _
          rw [hform, hacts.found, if_pos rfl]
          rfl
      · have hops : opsOn h (.on k op :: ops) = opsOn h ops := by simp [opsOn, hk]
        have hanswers : answersOn h (trace (.on k op :: ops) s)
            = answersOn h (trace ops (op.perform k s).2) := by
          simp [answersOn, trace, perform, hk]
        rw [hops, hanswers, show answersOn h (trace ops (op.perform k s).2) = _ from hstep,
          show (StoreOp.perform (.on k op) s).2.find? h = s.find? h from
            CursorOp.find?_perform op s k h (Ne.symm hk)]

/-- A handle that was given out and finds nothing is **refused ever after**. -/
theorem answersOn_trace_of_none (ops : List StoreOp) (hs : s.Numbered) (hle : h.id ≤ s.issued)
    (hnone : s.find? h = none) :
    ∀ answer ∈ answersOn h (trace ops s), answer = .error (.unknownHandle h) := by
  induction ops generalizing s with
  | nil => simp [trace, answersOn]
  | cons op ops ih =>
    have hstep := ih (numbered_perform op hs) (Nat.le_trans hle (issued_le_perform op s))
      (find?_perform_of_none hs hle hnone op)
    cases op with
    | insert columns rows changedRows => exact hstep
    | clear => exact hstep
    | on k op =>
      by_cases hk : k = h
      · subst hk
        intro answer hanswer
        have hcons : answersOn k (trace (.on k op :: ops) s)
            = (op.perform k s).1 :: answersOn k (trace ops (op.perform k s).2) := by
          simp [answersOn, trace, perform]
        rw [hcons] at hanswer
        rcases List.mem_cons.1 hanswer with hfirst | hlater
        · rw [hfirst, CursorOp.perform_of_none hnone]
        · exact hstep answer hlater
      · have hskip : answersOn h (trace (.on k op :: ops) s)
            = answersOn h (trace ops (op.perform k s).2) := by
          simp [answersOn, trace, perform, hk]
        rw [hskip]
        exact hstep

/-- **Handles are numbered one after another**, whatever is given up in between. -/
theorem issued_trace (ops : List StoreOp) (s : ResultStore) :
    issued (trace ops s)
        = (List.range' (s.issued + 1) (ops.countP isInsert)).map Handle.mk ∧
      (after ops s).issued = s.issued + ops.countP isInsert := by
  induction ops generalizing s with
  | nil => exact ⟨rfl, rfl⟩
  | cons op ops ih =>
    obtain ⟨hissued, hafter⟩ := ih (op.perform s).2
    cases op with
    | insert columns rows changedRows =>
      have hcount : (StoreOp.insert columns rows changedRows :: ops).countP isInsert
          = ops.countP isInsert + 1 := List.countP_cons_of_pos rfl
      refine ⟨?_, ?_⟩
      · rw [hcount, List.range'_succ, List.map_cons]
        exact congrArg (Handle.mk (s.issued + 1) :: ·) hissued
      · rw [hcount]
        refine hafter.trans ?_
        show s.issued + 1 + ops.countP isInsert = _
        omega
    | clear => exact ⟨hissued, hafter⟩
    | on k op =>
      have hsame : (StoreOp.perform (.on k op) s).2.issued = s.issued := op.issued_perform k s
      rw [hsame] at hissued hafter
      exact ⟨hissued, hafter⟩

/-- **The live handles are those that were given out and not given up.** -/
theorem handles_after (ops : List StoreOp) (s : ResultStore) :
    (after ops s).handles = (trace ops s).foldl keepLive s.handles := by
  induction ops generalizing s with
  | nil => rfl
  | cons op ops ih =>
    have hstep : keepLive s.handles (op, (op.perform s).1) = (op.perform s).2.handles := by
      cases op with
      | insert columns rows changedRows => exact (ResultStore.handles_insert s _).symm
      | clear => rfl
      | on k op =>
        show keepLive s.handles (.on k op, (op.perform k s).1) = (op.perform k s).2.handles
        cases hr : s.find? k with
        | none =>
          rw [CursorOp.perform_of_none hr]
          cases op <;> rfl
        | some r =>
          obtain ⟨s', hform, hacts⟩ := CursorOp.perform_of_find? hr op
          rw [hform]
          show _ = s'.handles
          rw [hacts.handles]
          by_cases hop : op = .free
          · subst hop
            rfl
          · rw [if_pos ((CursorOp.perform_isSome_iff r op).2 hop)]
            cases op with
            | free => exact absurd rfl hop
            | _ => rfl
    show (after ops (op.perform s).2).handles = _
    rw [ih, trace, List.foldl_cons, hstep]

/-- What holds of a run that starts from the empty store. -/
structure Independent (ops : List StoreOp) : Prop where
  /-- Every insertion is answered with a handle, and with one that was not given out before. -/
  fresh : ∀ (before rest : List StoreOp) (columns : List String) (rows : List (List Value))
    (changedRows : Nat), ops = before ++ .insert columns rows changedRows :: rest →
    ∃ h, ((StoreOp.insert columns rows changedRows).perform (after before .empty)).1
        = .ok (.inserted h) ∧
      h ∉ issued (trace before .empty) ∧ h ∈ issued (trace ops .empty)
  /-- No handle is given out twice, whatever was given up before. -/
  distinct : (issued (trace ops .empty)).Nodup
  /-- Fewer than 2 ^ 64 insertions need no larger number. -/
  bounded : ∀ h ∈ issued (trace ops .empty), h.id ≤ ops.countP isInsert
  /-- From its insertion on, a result answers what it would answer on its own to the operations on
  its handle, whatever comes between them. -/
  alone : ∀ (before live rest : List StoreOp) (columns : List String) (rows : List (List Value))
    (changedRows : Nat) (h : Handle),
    ops = before ++ .insert columns rows changedRows :: (live ++ rest) → clear ∉ live →
    ((StoreOp.insert columns rows changedRows).perform (after before .empty)).1
      = .ok (.inserted h) →
    answersOn h (trace live (after (before ++ [.insert columns rows changedRows]) .empty))
      = CursorOp.alone h (some (.new columns rows changedRows)) (opsOn h live)
  /-- Once it is given up, with or without the others, its handle is refused. -/
  gone : ∀ (before rest : List StoreOp) (op : StoreOp) (h : Handle), ops = before ++ op :: rest →
    h ∈ issued (trace before .empty) → op = clear ∨ op = .on h .free →
    ∀ answer ∈ answersOn h (trace rest (after (before ++ [op]) .empty)),
      answer = .error (.unknownHandle h)
  /-- So is every handle that is not live, also one that was never given out. -/
  unknown : ∀ h, h ∉ liveHandles (trace ops .empty) → ∀ op : CursorOp,
    op.perform h (after ops .empty) = (.error (.unknownHandle h), after ops .empty)
  /-- What fails changes nothing. -/
  refused : ∀ (before rest : List StoreOp) (op : StoreOp) (e : SqlError),
    ops = before ++ op :: rest → (op.perform (after before .empty)).1 = .error e →
    (op.perform (after before .empty)).2 = after before .empty
  size : (after ops .empty).size = (liveHandles (trace ops .empty)).length

theorem after_concat (ops : List StoreOp) (op : StoreOp) (s : ResultStore) :
    after (ops ++ [op]) s = (op.perform (after ops s)).2 := List.foldl_append

theorem trace_append (ops later : List StoreOp) (s : ResultStore) :
    trace (ops ++ later) s = trace ops s ++ trace later (after ops s) := by
  induction ops generalizing s with
  | nil => rfl
  | cons op ops ih => exact congrArg _ (ih (op.perform s).2)

theorem id_le_of_mem_issued (ops : List StoreOp) :
    ∀ h ∈ issued (trace ops .empty), h.id ≤ (after ops .empty).issued := by
  intro h hh
  obtain ⟨hissued, hafter⟩ := issued_trace ops .empty
  rw [hissued] at hh
  obtain ⟨n, hn, rfl⟩ := List.mem_map.1 hh
  have hrange := List.mem_range'_1.1 hn
  rw [hafter]
  show n ≤ _
  omega

/-- **Results do not influence each other, and handles are never used twice.**  In every run on an
empty store, with any handles and in any order: every insertion gives out a handle that is new; the
answers on a live handle are those of its rows and its cursor on their own; a handle that was given
up is refused ever after; what fails changes nothing; and the size of the store is the number of
handles that were given out and not given up. -/
theorem run_independent (ops : List StoreOp) : Independent ops where
  fresh before rest columns rows changedRows hops := by
    refine ⟨(after before .empty).nextHandle, rfl, fun hbefore => ?_, ?_⟩
    · have hle : (after before .empty).issued + 1 ≤ (after before .empty).issued :=
        id_le_of_mem_issued before _ hbefore
      omega
    · rw [hops, trace_append, issued, List.filterMap_append]
      exact List.mem_append_right _ List.mem_cons_self
  distinct := by
    rw [(issued_trace ops .empty).1]
    exact List.Pairwise.map Handle.mk (fun i j hne heq => hne (congrArg Handle.id heq))
      List.nodup_range'
  bounded h hh := by
    refine Nat.le_trans (id_le_of_mem_issued ops h hh) (Nat.le_of_eq ?_)
    rw [(issued_trace ops .empty).2]
    exact Nat.zero_add _
  alone before live rest columns rows changedRows h _ hclear hinserted := by
    have hs := numbered_after before ResultStore.numbered_empty
    have hh : (after before .empty).nextHandle = h := by
      injection hinserted with hreply
      injection hreply
    rw [after_concat, answersOn_trace live hclear (numbered_perform _ hs)]
    · show CursorOp.alone h (((after before .empty).insert _).2.find? h) _ = _
      rw [ResultStore.find?_insert hs, if_pos hh.symm]
    · rw [← hh]
      exact Nat.le_refl _
  gone before rest op h _ hh hop := by
    have hs := numbered_after before ResultStore.numbered_empty
    have hle := id_le_of_mem_issued before h hh
    rw [after_concat]
    refine answersOn_trace_of_none rest (numbered_perform op hs)
      (Nat.le_trans hle (issued_le_perform op _)) ?_
    rcases hop with rfl | rfl
    · exact ResultStore.find?_clear _ h
    · show (CursorOp.free.perform h (after before .empty)).2.find? h = none
      cases hr : (after before .empty).find? h with
      | none => rw [CursorOp.perform_of_none hr, hr]
      | some r =>
        obtain ⟨s', hform, hacts⟩ := CursorOp.perform_of_find? hr .free
        rw [hform, hacts.found, if_pos rfl]
        rfl
  unknown h hnot op := by
    have hhandles : (after ops .empty).handles = liveHandles (trace ops .empty) :=
      handles_after ops .empty
    refine CursorOp.perform_of_none (ResultStore.find?_eq_none_iff.2 ?_) op
    rwa [hhandles]
  refused before rest op e _ hfail := perform_of_error hfail
  size := by
    rw [← ResultStore.length_handles, handles_after]
    rfl

/-- Two results in turn.  The first is given up after a row, and the third that comes then gets a
new handle; the second gives its row twice, as if it were alone; after all are cleared, the third
is refused and a fourth is the only one. -/
theorem run_independent_interleaved :
    let first : StoreOp := .insert ["n"] [[.int 1], [.int 2]] 0
    let second : StoreOp := .insert ["s"] [[.text "a"]] 0
    let fetches : List StoreOp := [.on ⟨1⟩ (.fetch .byName), .on ⟨2⟩ (.fetch .byName)]
    let afterFree : List StoreOp :=
      [.insert [] [] 3, .on ⟨1⟩ .rowCount, .on ⟨2⟩ (.seek 0), .on ⟨3⟩ .changedRows,
        .on ⟨2⟩ (.fetch .byName)]
    let afterClear : List StoreOp := [.insert [] [] 0, .on ⟨3⟩ .rowCount]
    let freed : List StoreOp := first :: second :: fetches ++ [.on ⟨1⟩ .free]
    let cleared : List StoreOp := freed ++ afterFree ++ [.clear]
    let ops : List StoreOp := cleared ++ afterClear
    issued (trace ops .empty) = [⟨1⟩, ⟨2⟩, ⟨3⟩, ⟨4⟩] ∧ (issued (trace ops .empty)).Nodup ∧
    (∃ h, ((StoreOp.insert [] [] 3).perform (after freed .empty)).1 = .ok (.inserted h) ∧
      h ∉ issued (trace freed .empty) ∧ h ∈ issued (trace ops .empty)) ∧
    answersOn ⟨2⟩ (trace (fetches ++ .on ⟨1⟩ .free :: afterFree) (after [first, second] .empty))
      = [.ok (.row (some ⟨.byName, ["s"], [.text "a"]⟩)), .ok (.moved true),
        .ok (.row (some ⟨.byName, ["s"], [.text "a"]⟩))] ∧
    (∀ answer ∈ answersOn ⟨1⟩ (trace (afterFree ++ .clear :: afterClear) (after freed .empty)),
      answer = .error (.unknownHandle ⟨1⟩)) ∧
    (∀ answer ∈ answersOn ⟨3⟩ (trace afterClear (after cleared .empty)),
      answer = .error (.unknownHandle ⟨3⟩)) ∧
    liveHandles (trace ops .empty) = [⟨4⟩] ∧ (after ops .empty).size = 1 := by
  intro first second fetches afterFree afterClear freed cleared ops
  have h := run_independent ops
  have hclear : clear ∉ fetches ++ .on ⟨1⟩ .free :: afterFree := by simp [fetches, afterFree]
  have hissued : issued (trace ops .empty) = [⟨1⟩, ⟨2⟩, ⟨3⟩, ⟨4⟩] := by decide
  have hlive : liveHandles (trace ops .empty) = [⟨4⟩] := by decide
  refine ⟨hissued, h.distinct, h.fresh freed _ [] [] 3 rfl, ?_, ?_, ?_, hlive, ?_⟩
  · exact h.alone [first] _ (.clear :: afterClear) ["s"] [[.text "a"]] 0 ⟨2⟩ rfl hclear rfl
  · have hfirst : (⟨1⟩ : Handle) ∈ issued (trace (first :: second :: fetches) .empty) := by decide
    exact h.gone (first :: second :: fetches) _ (.on ⟨1⟩ .free) ⟨1⟩ rfl hfirst (.inr rfl)
  · have hthird : (⟨3⟩ : Handle) ∈ issued (trace (freed ++ afterFree) .empty) := by decide
    exact h.gone (freed ++ afterFree) afterClear .clear ⟨3⟩ rfl hthird (.inl rfl)
  · rw [h.size, hlive]
    rfl

end StoreOp

end SqlLayer
