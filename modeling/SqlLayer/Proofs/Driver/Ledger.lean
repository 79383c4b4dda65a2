import SqlLayer.Proofs.Driver.Log
import SqlLayer.Proofs.Result.Store
import SqlLayer.Proofs.Transaction

/-!
# The books of a recording driver

What the callers of a recording driver were told, and what its log says, are two accounts of the
same calls.

* `Recorder.Accounted` — a log that agrees with a ledger of answered statements and explicit
  undoings: every handle that was given out is **released once or still live**;
* `Recorder.Held` — a driver at work: accounted for, connected, with certain results live;
* `Recorder.Settled` — a driver that was left: nothing is live, and the log **ends with the only
  disconnection**;
* `Recorder.Held.fetch`, …, `Recorder.Held.disconnect` — what every operation makes of it.
-/

namespace SqlLayer

open LoggedCall

/-! ### Ledgers -/

/-- What the callers of a driver were told. -/
structure Ledger where
  /-- The statements that were answered, each with the handle of its result. -/
  answered : List (String × Handle)
  /-- What was to be undone apart from failing statements. -/
  undone : List (Option String)

/-- A ledger without entries. -/
def Ledger.blank : Ledger := ⟨[], []⟩

/-- A ledger with one more answer. -/
def Ledger.answer (l : Ledger) (text : String) (h : Handle) : Ledger :=
  { l with answered := l.answered ++ [(text, h)] }

/-- A ledger with one more undoing. -/
def Ledger.undo (l : Ledger) (savepoint : Option String) : Ledger :=
  { l with undone := l.undone ++ [savepoint] }

/-- Whether a savepoint is absent or has a valid name. -/
def isSavepoint (savepoint : Option String) : Bool :=
  savepoint.all fun name => (savepointFault? name).isNone

theorem isSavepoint_iff {savepoint : Option String} :
    isSavepoint savepoint = true ↔ IsSavepointName savepoint := by
  cases savepoint with
  | none => exact ⟨fun _ _ hname => (nomatch hname), fun _ => rfl⟩
  | some name =>
    rw [isSavepoint, Option.all_some, Option.isNone_iff_eq_none, savepointFault?_eq_none_iff]
    exact ⟨fun h _ heq => Option.some.inj heq ▸ h, fun h => h name rfl⟩

/-- A ledger after an operation on a transaction. -/
def Ledger.enterStep (l : Ledger) : TransactionStep → Option String → Ledger
  | .rollback, savepoint => if isSavepoint savepoint then l.undo savepoint else l
  | _, _ => l

namespace Recorder

variable {l : Ledger} {hs : List Handle} {r r' : Recorder}

/-- A driver whose log agrees with a ledger. -/
structure Accounted (l : Ledger) (r : Recorder) : Prop where
  undoing : Undoing r.fails r.log l.undone
  answered : (texts r.log).filter (fun text => !r.fails text) = l.answered.map Prod.fst
  /-- Handles are numbered in the order of the answers. -/
  numbers : l.answered.map Prod.snd = (List.range' 1 r.results.issued).map Handle.mk
  /-- Every handle was released once or is live. -/
  released : (freed r.log ++ r.results.handles).Perm (l.answered.map Prod.snd)
  order : r.log.Pairwise MayPrecede

/-- The same driver later: its log goes on. -/
structure Continues (r r' : Recorder) : Prop where
  patterns : r'.script.failPatterns = r.script.failPatterns
  log : r.log <+: r'.log

theorem continues_refl (r : Recorder) : r.Continues r := ⟨rfl, List.prefix_refl _⟩

theorem Continues.trans {r'' : Recorder} (h : r.Continues r') (h' : r'.Continues r'') :
    r.Continues r'' := ⟨h'.patterns.trans h.patterns, h.log.trans h'.log⟩

/-- A driver at work, with the results that its callers hold. -/
structure Held (l : Ledger) (hs : List Handle) (r : Recorder) : Prop where
  accounted : r.Accounted l
  connected : r.connected = true
  undisconnected : LoggedCall.disconnect ∉ r.log
  handles : r.results.handles.Perm hs

/-- A driver that was left. -/
structure Settled (l : Ledger) (r : Recorder) : Prop where
  accounted : r.Accounted l
  unconnected : r.connected = false
  /-- The log ends with the only disconnection. -/
  last : ∃ calls, r.log = calls ++ [LoggedCall.disconnect] ∧ LoggedCall.disconnect ∉ calls
  empty : r.results.live = []

/-! ### What the books say -/

theorem Accounted.nodup (h : r.Accounted l) : (l.answered.map Prod.snd).Nodup := by
  rw [h.numbers]
  exact List.Pairwise.map Handle.mk (fun i j hne heq => hne (congrArg Handle.id heq))
    List.nodup_range'

theorem Accounted.nodup_released (h : r.Accounted l) :
    (freed r.log ++ r.results.handles).Nodup := h.released.nodup_iff.2 h.nodup

/-- A live result was not released. -/
theorem Accounted.not_freed (h : r.Accounted l) {k : Handle} (hk : k ∈ r.results.handles) :
    k ∉ freed r.log := fun hfreed =>
  (List.nodup_append.1 h.nodup_released).2.2 k hfreed k hk rfl

theorem Accounted.numbered (h : r.Accounted l) : r.results.Numbered where
  nodup := (List.nodup_append.1 h.nodup_released).2.1
  bound k hk := by
    have hmem : k ∈ l.answered.map Prod.snd :=
      h.released.mem_iff.1 (List.mem_append_right _ hk)
    rw [h.numbers] at hmem
    obtain ⟨n, hn, rfl⟩ := List.mem_map.1 hmem
    have hrange := List.mem_range'_1.1 hn
    show n ≤ _
    omega

/-- A call at the end of a log that is in order. -/
theorem Accounted.order_concat (h : r.Accounted l) (call : LoggedCall)
    (hcall : ∀ k row, call = .seek k row → k ∈ r.results.handles) :
    (r.log ++ [call]).Pairwise MayPrecede := by
  rw [List.pairwise_append]
  refine ⟨h.order, List.pairwise_singleton _ _, fun earlier hearlier later hlater => ?_⟩
  rw [List.mem_singleton.1 hlater]
  cases earlier with
  | free k =>
    cases call with
    | seek k' row =>
      intro heq
      refine h.not_freed (hcall k' row rfl) (List.mem_filterMap.2 ⟨.free k, hearlier, ?_⟩)
      exact congrArg some heq
    | _ => trivial
  | _ => trivial

/-- Books in which no statement was answered in the meantime. -/
theorem Accounted.extend (h : r.Accounted l) (r' : Recorder) (calls : List LoggedCall)
    {undone : List (Option String)}
    (hpatterns : r'.script.failPatterns = r.script.failPatterns)
    (hlog : r'.log = r.log ++ calls) (hundoing : Undoing r.fails calls undone)
    (htexts : (texts calls).filter (fun text => !r.fails text) = [])
    (hissued : r'.results.issued = r.results.issued)
    (hreleased : (freed calls ++ r'.results.handles).Perm r.results.handles)
    (horder : r'.log.Pairwise MayPrecede) :
    r'.Accounted { l with undone := l.undone ++ undone } := by
  have hfails : r'.fails = r.fails := by
    funext text
    rw [Recorder.fails, Recorder.fails, hpatterns]
  refine ⟨?_, ?_, ?_, ?_, horder⟩
  · rw [hfails, hlog]
    exact h.undoing.append hundoing
  · rw [hfails, hlog, texts, List.filterMap_append, List.filter_append]
    show List.filter _ (texts r.log) ++ List.filter _ (texts calls) = _
    rw [htexts, List.append_nil]
    exact h.answered
  · rw [hissued]
    exact h.numbers
  · rw [hlog, freed, List.filterMap_append, List.append_assoc]
    exact (hreleased.append_left (freed r.log)).trans h.released

/-! ### Drivers at work -/

theorem Held.mem_handles (h : r.Held l hs) {k : Handle} (hk : k ∈ hs) : k ∈ r.results.handles :=
  h.handles.mem_iff.2 hk

/-- A driver at work after calls that answered no statement. -/
theorem Held.extend {hs' : List Handle} (h : r.Held l hs) (r' : Recorder)
    (calls : List LoggedCall) {undone : List (Option String)}
    (hpatterns : r'.script.failPatterns = r.script.failPatterns)
    (hconnected : r'.connected = r.connected) (hlog : r'.log = r.log ++ calls)
    (hundoing : Undoing r.fails calls undone)
    (htexts : (texts calls).filter (fun text => !r.fails text) = [])
    (hissued : r'.results.issued = r.results.issued)
    (hreleased : (freed calls ++ r'.results.handles).Perm r.results.handles)
    (horder : r'.log.Pairwise MayPrecede) (hstays : LoggedCall.disconnect ∉ calls)
    (hhandles : r'.results.handles.Perm hs') :
    r'.Held { l with undone := l.undone ++ undone } hs' ∧ r.Continues r' := by
  refine ⟨⟨?_, hconnected.trans h.connected, ?_, hhandles⟩, hpatterns, ?_⟩
  · exact h.accounted.extend r' calls hpatterns hlog hundoing htexts hissued hreleased horder
  · rw [hlog, List.mem_append, not_or]
    exact ⟨h.undisconnected, hstays⟩
  · rw [hlog]
    exact List.prefix_append _ _

/-- A driver at work after one call that has to do with no statement and undoes nothing. -/
theorem Held.neutral {hs' : List Handle} (h : r.Held l hs) {call : LoggedCall}
    {results : ResultStore} (hcall : call.isNeutral = true) (hstays : call ≠ .disconnect)
    (hseek : ∀ k row, call = .seek k row → k ∈ hs) (hissued : results.issued = r.results.issued)
    (hreleased : (freed [call] ++ results.handles).Perm r.results.handles)
    (hhandles : results.handles.Perm hs') :
    ({ r.record call with results } : Recorder).Held l hs' ∧
      r.Continues { r.record call with results } := by
  have htexts : texts [call] = [] := by
    cases call with
    | statement text => cases hcall
    | _ => rfl
  have hanswered : (texts [call]).filter (fun text => !r.fails text) = [] := by
    rw [htexts]
    rfl
  have horder : (r.log ++ [call]).Pairwise MayPrecede :=
    h.accounted.order_concat call fun k row hk => h.mem_handles (hseek k row hk)
  have hnot : LoggedCall.disconnect ∉ [call] := fun hmem => hstays (List.mem_singleton.1 hmem).symm
  have hextend := h.extend { r.record call with results } [call] rfl rfl rfl (.neutral hcall .nil)
    hanswered hissued hreleased horder hnot hhandles
  rwa [List.append_nil] at hextend

/-- A driver at work after a neutral call on no result: only its log is longer. -/
theorem Held.record (h : r.Held l hs) {call : LoggedCall} (hcall : call.isNeutral = true)
    (hstays : call ≠ .disconnect) (hseek : ∀ k row, call ≠ .seek k row)
    (hfreed : freed [call] = []) :
    (r.record call).Held l hs ∧ r.Continues (r.record call) := by
  have hreleased : (freed [call] ++ r.results.handles).Perm r.results.handles := by
    rw [hfreed]
    exact .refl _
  exact h.neutral hcall hstays (fun k row heq => absurd heq (hseek k row)) rfl hreleased h.handles

/-- Fetching keeps the books as they are. -/
theorem Held.fetch (h : r.Held l hs) (k : Handle) (mode : Addressing) :
    (Recorder.fetch k mode r).2.Held l hs ∧ r.Continues (Recorder.fetch k mode r).2 := by
  obtain ⟨hkept, hissued⟩ : (ResultStore.fetch k mode r.results).2.handles = r.results.handles ∧
      (ResultStore.fetch k mode r.results).2.issued = r.results.issued := by
    obtain hfetch | ⟨row, hfetch⟩ := ResultStore.fetch_eq k mode r.results <;> rw [hfetch]
    · exact ⟨rfl, rfl⟩
    · exact ⟨ResultStore.handles_moveTo _ _ _, rfl⟩
  have hhandles : (ResultStore.fetch k mode r.results).2.handles.Perm hs := by
    rw [hkept]
    exact h.handles
  have hreleased : (freed [] ++ (ResultStore.fetch k mode r.results).2.handles).Perm
      r.results.handles := by
    rw [hkept]
    exact .refl _
  have hextend := h.extend { r with results := (ResultStore.fetch k mode r.results).2 } [] rfl rfl
    (List.append_nil _).symm .nil rfl hissued hreleased h.accounted.order List.not_mem_nil hhandles
  rwa [List.append_nil] at hextend

/-- Moving a live result is logged, also where it is refused. -/
theorem Held.seek (h : r.Held l hs) {k : Handle} (hk : k ∈ hs) (row : Nat) :
    (Recorder.seek k row r).2.Held l hs ∧ r.Continues (Recorder.seek k row r).2 := by
  obtain ⟨results, hform, hhandles, hissued⟩ : ∃ results : ResultStore,
      (Recorder.seek k row r).2 = { r.record (.seek k row) with results } ∧
      results.handles = r.results.handles ∧ results.issued = r.results.issued := by
    rw [Recorder.seek]
    split
    · exact ⟨r.results, rfl, rfl, rfl⟩
    · refine ⟨(ResultStore.seek k row r.results).2, rfl, ?_⟩
      obtain hseek | hseek := ResultStore.seek_eq k row r.results <;> rw [hseek]
      · exact ⟨rfl, rfl⟩
      · exact ⟨ResultStore.handles_moveTo _ _ _, rfl⟩
  rw [hform]
  refine h.neutral rfl (by simp) ?_ hissued ?_ ?_
  · intro k' row' hcall
    injection hcall with hk' _
    exact hk' ▸ hk
  · show results.handles.Perm r.results.handles
    rw [hhandles]
  · show results.handles.Perm hs
    rw [hhandles]
    exact h.handles

/-- Releasing a live result. -/
theorem Held.free {k : Handle} {hs : List Handle} (h : r.Held l (k :: hs)) :
    (Recorder.free k r).2.Held l hs ∧ r.Continues (Recorder.free k r).2 := by
  have hmem : k ∈ r.results.handles := h.mem_handles (List.mem_cons_self ..)
  have hnodup : (k :: hs).Nodup := h.handles.nodup_iff.1 h.accounted.numbered.nodup
  have hform : (Recorder.free k r).2
      = { r.record (.free k) with results := r.results.without k } := by
    show ({ r.record (.free k) with results := (ResultStore.free k r.results).2 } : Recorder) = _
    rw [ResultStore.free_of_mem hmem]
  have hhandles : (r.results.without k).handles.Perm hs := by
    have hrest : (k :: hs).filter (· != k) = hs := by
      rw [List.filter_cons_of_neg (by simp), List.filter_eq_self]
      intro k' hk'
      have hne : k' ≠ k := fun heq => (List.nodup_cons.1 hnodup).1 (heq ▸ hk')
      simp [hne]
    have hperm := h.handles.filter (· != k)
    rwa [hrest, ← ResultStore.handles_without] at hperm
  rw [hform]
  have hreleased : (k :: (r.results.without k).handles).Perm r.results.handles :=
    (hhandles.cons k).trans h.handles.symm
  exact h.neutral rfl (by simp) (by simp) rfl hreleased hhandles

theorem execute_of_fails {text : String} (hconnected : r.connected = true)
    (hfail : r.fails text = true) :
    Recorder.execute text r = (.error (statementError text), r.record (.statement text)) := by
  have hfail' : (r.record (.statement text)).fails text = true := hfail
  rw [Recorder.execute, if_pos hconnected]
  exact if_pos hfail'

/-- A statement that does not fail takes the next response. -/
theorem execute_of_not_fails {text : String} (hconnected : r.connected = true)
    (hok : r.fails text = false) :
    ∃ (result : StoredResult) (responses : List StoredResult),
      Recorder.execute text r = (.ok r.results.nextHandle, { r.record (.statement text) with
        results := (r.results.insert result).2, script := { r.script with responses } }) := by
  have hok' : ¬ (r.record (.statement text)).fails text = true := by
    show ¬ r.fails text = true
    rw [hok]
    exact Bool.false_ne_true
  rw [Recorder.execute, if_pos hconnected]
  exact ⟨_, _, (if_neg hok').trans rfl⟩

/-- A statement that fails, and the attempt to undo the transaction. -/
theorem Held.failed (h : r.Held l hs) {text : String} (hfail : r.fails text = true) :
    ((r.record (.statement text)).record (.transaction .rollback none)).Held l hs ∧
      r.Continues ((r.record (.statement text)).record (.transaction .rollback none)) := by
  have hlog : (r.log ++ [LoggedCall.statement text]) ++ [.transaction .rollback none]
      = r.log ++ [.statement text, .transaction .rollback none] := List.append_assoc _ _ _
  have hanswered : (texts [.statement text, .transaction .rollback none]).filter
      (fun text => !r.fails text) = [] := by simp [texts, hfail]
  have horder : ((r.log ++ [LoggedCall.statement text]) ++
      [LoggedCall.transaction .rollback none]).Pairwise MayPrecede := by
    have hfirst := h.accounted.order_concat (.statement text) (by simp)
    rw [List.pairwise_append]
    refine ⟨hfirst, List.pairwise_singleton _ _, fun earlier _ later hlater => ?_⟩
    rw [List.mem_singleton.1 hlater]
    cases earlier <;> trivial
  have hextend := h.extend ((r.record (.statement text)).record (.transaction .rollback none))
    _ rfl rfl hlog (.failed hfail .nil) hanswered rfl (.refl _) horder (by simp) h.handles
  rwa [List.append_nil] at hextend

/-- A statement that is answered: one more result is live. -/
theorem Held.answered (h : r.Held l hs) {text : String} (hok : r.fails text = false)
    (result : StoredResult) (responses : List StoredResult) :
    let after : Recorder := { r.record (.statement text) with
      results := (r.results.insert result).2, script := { r.script with responses } }
    after.Held (l.answer text r.results.nextHandle) (r.results.nextHandle :: hs) ∧
      r.Continues after := by
  intro after
  have hfails : after.fails = r.fails := rfl
  have hlog : after.log = r.log ++ [.statement text] := rfl
  have hhandles : after.results.handles = r.results.handles ++ [r.results.nextHandle] :=
    ResultStore.handles_insert _ _
  have haccounted : after.Accounted (l.answer text r.results.nextHandle) := by
    refine ⟨?_, ?_, ?_, ?_, ?_⟩
    · have hundoing := h.accounted.undoing.append (.answered hok .nil)
      rwa [List.append_nil] at hundoing
    · rw [hfails, hlog, texts, List.filterMap_append, List.filter_append]
      show List.filter _ (texts r.log) ++ List.filter _ [text] = _
      rw [h.accounted.answered, List.filter_cons_of_pos (by simp [hok]), Ledger.answer,
        List.map_append]
      rfl
    · show (l.answered ++ [(text, r.results.nextHandle)]).map Prod.snd
        = (List.range' 1 (r.results.issued + 1)).map Handle.mk
      rw [List.map_append, h.accounted.numbers, List.range'_concat, List.map_append]
      show _ = _ ++ [Handle.mk (1 + 1 * r.results.issued)]
      rw [Nat.one_mul, Nat.add_comm 1]
      rfl
    · rw [hlog, hhandles, freed, List.filterMap_append]
      show ((freed r.log ++ []) ++ (r.results.handles ++ [r.results.nextHandle])).Perm
        ((l.answered ++ [(text, r.results.nextHandle)]).map Prod.snd)
      rw [List.append_nil, ← List.append_assoc, List.map_append]
      exact h.accounted.released.append_right _
    · exact h.accounted.order_concat (.statement text) (by simp)
  refine ⟨⟨haccounted, h.connected, ?_, ?_⟩, rfl, List.prefix_append _ _⟩
  · rw [hlog, List.mem_append, not_or]
    exact ⟨h.undisconnected, by simp⟩
  · rw [hhandles]
    exact (List.perm_append_singleton _ _).trans (h.handles.cons _)

theorem transaction_of_isSavepoint (hconnected : r.connected = true) {savepoint : Option String}
    (hname : isSavepoint savepoint = true) (op : TransactionStep) :
    (Recorder.transaction op savepoint r).2 = r.record (.transaction op savepoint) := by
  rw [transaction_of_isSavepointName hconnected (isSavepoint_iff.1 hname)]

theorem transaction_of_not_isSavepoint (hconnected : r.connected = true)
    {savepoint : Option String} (hname : ¬ isSavepoint savepoint = true) (op : TransactionStep) :
    (Recorder.transaction op savepoint r).2 = r := by
  obtain ⟨reason, hrefused⟩ := exists_checkSavepoint_eq_error (mt isSavepoint_iff.2 hname)
  rw [transaction_of_refused hconnected hrefused]

/-- An operation on a transaction: what is undone is entered, unless the savepoint has no valid
name. -/
theorem Held.transaction (h : r.Held l hs) (op : TransactionStep) (savepoint : Option String) :
    (Recorder.transaction op savepoint r).2.Held (l.enterStep op savepoint) hs ∧
      r.Continues (Recorder.transaction op savepoint r).2 := by
  by_cases hname : isSavepoint savepoint = true
  · rw [transaction_of_isSavepoint h.connected hname]
    cases op with
    | rollback =>
      have hundoing : Undoing r.fails [.transaction .rollback savepoint] [savepoint] :=
        .explicit savepoint .nil
      have horder := h.accounted.order_concat (.transaction .rollback savepoint) (by simp)
      have hstays : LoggedCall.disconnect ∉ [.transaction .rollback savepoint] := by simp
      have hextend := h.extend (r.record (.transaction .rollback savepoint)) _ rfl rfl rfl hundoing
        rfl rfl (.refl _) horder hstays h.handles
      rwa [show l.enterStep .rollback savepoint = l.undo savepoint from if_pos hname]
    | begin => exact h.record rfl (by simp) (by simp) rfl
    | commit => exact h.record rfl (by simp) (by simp) rfl
  · rw [transaction_of_not_isSavepoint h.connected hname]
    have hsame : l.enterStep op savepoint = l := by
      cases op with
      | rollback => exact if_neg hname
      | _ => rfl
    rw [hsame]
    exact ⟨h, continues_refl r⟩

/-- A driver is left when nothing is live any more. -/
theorem Held.disconnect (h : r.Held l []) : (Recorder.disconnect r).1 = .ok () ∧
    (Recorder.disconnect r).2.Settled l ∧ r.Continues (Recorder.disconnect r).2 := by
  have hform : Recorder.disconnect r = (.ok (), { r.record .disconnect with
      connected := false, results := r.results.clear }) := if_pos h.connected
  rw [hform]
  have hnone : r.results.handles = [] := h.handles.eq_nil
  have hreleased : (freed [.disconnect] ++ r.results.clear.handles).Perm r.results.handles := by
    rw [hnone]
    exact .refl _
  have horder := h.accounted.order_concat .disconnect (by simp)
  have haccounted := h.accounted.extend
    { r.record .disconnect with connected := false, results := r.results.clear } [.disconnect]
    rfl rfl (.neutral rfl .nil) rfl rfl hreleased horder
  rw [List.append_nil] at haccounted
  exact ⟨rfl, ⟨haccounted, rfl, ⟨r.log, rfl, h.undisconnected⟩, rfl⟩, rfl, List.prefix_append _ _⟩

/-! ### Fresh drivers -/

/-- A driver before its first call. -/
theorem held_new (script : Script) : (Recorder.new script).Held .blank [] where
  accounted := ⟨.nil, rfl, rfl, .refl _, .nil⟩
  connected := rfl
  undisconnected := List.not_mem_nil
  handles := .refl _

/-- A driver whose first call connects it. -/
theorem held_connect (script : Script) :
    (Recorder.connect (Recorder.new script)).1 = .ok () ∧
      (Recorder.connect (Recorder.new script)).2.Held .blank [] := by
  have hform : Recorder.connect (Recorder.new script)
      = (.ok (), (Recorder.new script).record .connect) := rfl
  have hneutral : LoggedCall.connect.isNeutral = true := rfl
  rw [hform]
  exact ⟨rfl, ((held_new script).record hneutral (by simp) (by simp) rfl).1⟩

end Recorder

end SqlLayer
