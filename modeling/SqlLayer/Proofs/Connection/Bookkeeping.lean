import Mathlib.Data.List.Forall2
import SqlLayer.Connection
import SqlLayer.Proofs.Driver.Ledger

/-!
# The recording drivers of a connection

A connection works with one driver at a time, and keeps those that it left.  Recording drivers are
numbered in the order in which they were attached.

* `Books` — the drivers as they were attached, and a ledger for each;
* `Connection.Orderly` — **every driver agrees with its ledger**: those that were left are settled,
  the one in the slot is at work, and its live results are those that the callers hold;
* `Connection.Orderly.useDriver` — an operation of the driver, by what it does to a recording one;
* `Connection.Orderly.runStatement` — a statement: a new result, or **an undoing and no result**.

What happens when a driver is attached or left is in `SqlLayer.Proofs.Connection.Attaching`.
-/

namespace SqlLayer

/-! ### Fresh drivers -/

/-- A driver that a recording driver is part of only before its first call. -/
def AnyDriver.IsFresh (d : AnyDriver) : Prop := ∀ r, d.recorder? = some r → r = .new r.script

theorem AnyDriver.isFresh_recording (script : Script) : IsFresh (.recording (.new script)) := by
  intro r hr
  cases hr
  rfl

/-- A registry of fresh drivers. -/
def Registry.IsFresh (g : Registry AnyDriver) : Prop := ∀ e ∈ g.entries, AnyDriver.IsFresh e.2

namespace Registry

theorem isFresh_empty : IsFresh empty := fun _ he => nomatch he

theorem mem_place {name : String} {d : AnyDriver} {entries : List (String × AnyDriver)}
    {e : String × AnyDriver} (he : e ∈ place name d entries) : e = (name, d) ∨ e ∈ entries := by
  induction entries with
  | nil => exact .inl (List.mem_singleton.1 he)
  | cons first rest ih =>
    obtain ⟨n, old⟩ := first
    rw [place] at he
    split at he
    · rcases List.mem_cons.1 he with hnew | hrest
      · exact .inl hnew
      · exact .inr (List.mem_cons_of_mem _ hrest)
    split at he
    · rcases List.mem_cons.1 he with hnew | hold
      · exact .inl hnew
      · exact .inr hold
    · rcases List.mem_cons.1 he with hfirst | hlater
      · exact .inr (hfirst ▸ List.mem_cons_self ..)
      · exact (ih hlater).imp_right (List.mem_cons_of_mem _)

theorem IsFresh.register {g : Registry AnyDriver} (hg : g.IsFresh) {d : AnyDriver}
    (hd : d.IsFresh) (name : String) : (g.register name d).IsFresh := by
  intro e he
  rcases mem_place he with rfl | hold
  · exact hd
  · exact hg e hold

theorem isFresh_standard : IsFresh standard :=
  (isFresh_empty.register (d := .mysql ⟨⟩) (fun _ hr => nomatch hr) "mysql").register
    (d := .sqlite .new) (fun _ hr => nomatch hr) "sqlite"

/-- What a registry of fresh drivers creates is fresh. -/
theorem IsFresh.create {g : Registry AnyDriver} (hg : g.IsFresh) {name : String} {d : AnyDriver}
    (hd : g.create name = .ok d) : d.IsFresh := by
  rw [Registry.create] at hd
  split at hd
  · rename_i e hfind
    cases hd
    exact hg e (List.mem_of_find?_eq_some hfind)
  · cases hd

end Registry

/-! ### Drivers of any kind -/

namespace AnyDriver

theorem eq_recording_of_recorder? {d : AnyDriver} {r : Recorder} (hr : d.recorder? = some r) :
    d = .recording r := by
  cases d with
  | recording r' =>
    cases hr
    rfl
  | mysql d => cases hr
  | sqlite d => cases hr

/-- An operation leaves a driver of the kind that it is. -/
theorem recorder?_perform {α : Type} {mysql : Op MySqlDriver α} {sqlite : Op SqliteDriver α}
    {recording : Op Recorder α} {d : AnyDriver} (hd : d.recorder? = none) :
    (perform mysql sqlite recording d).2.recorder? = none := by
  cases d with
  | recording r => cases hd
  | mysql d => rfl
  | sqlite d => rfl

/-- After an attempt to disconnect no driver is connected. -/
theorem isConnected_disconnect (d : AnyDriver) :
    Driver.isConnected (Driver.disconnect d).2 = false := by
  cases d with
  | mysql d => rfl
  | sqlite d =>
    obtain ⟨engine, results⟩ := d
    cases engine <;> rfl
  | recording r =>
    show (Recorder.disconnect r).2.connected = false
    rw [Recorder.disconnect]
    split
    · rfl
    · simpa using ‹¬ r.connected = true›

/-- A driver that fails to connect is not connected, and it is no recording one. -/
theorem connect_error {d : AnyDriver} {s : Parameters} {e : SqlError}
    (hfail : (Driver.connect s d).1 = .error e) :
    (Driver.connect s d).2.recorder? = none ∧
      Driver.isConnected (Driver.connect s d).2 = false := by
  cases d with
  | mysql d => exact ⟨rfl, rfl⟩
  | recording r => cases hfail
  | sqlite d =>
    have hsqlite : (SqliteDriver.connect s d).1 = .error e := hfail
    refine ⟨rfl, ?_⟩
    show (SqliteDriver.connect s d).2.engine.isSome = false
    rw [SqliteDriver.connect] at hsqlite ⊢
    split
    · rw [if_pos ‹_›] at hsqlite
      cases hsqlite
    · obtain ⟨engine, results⟩ := d
      cases engine <;> rfl

end AnyDriver

/-! ### Books -/

/-- What is known about the recording drivers of a connection, by their numbers. -/
structure Books where
  /-- The drivers as they were attached. -/
  installed : List Recorder
  ledger : Nat → Ledger

/-- Books without entries. -/
def Books.blank : Books := ⟨[], fun _ => .blank⟩

/-- Books with an entry in the ledger of one driver, if it is numbered. -/
def Books.update (b : Books) (number : Option Nat) (entry : Ledger → Ledger) : Books :=
  { b with ledger := fun k => if number = some k then entry (b.ledger k) else b.ledger k }

/-- Books with one more driver, if it is a recording one. -/
def Books.install (b : Books) (r? : Option Recorder) : Books :=
  { b with installed := b.installed ++ r?.toList }

theorem Books.install_none (b : Books) : b.install none = b := by
  rw [Books.install, Option.toList_none, List.append_nil]

theorem Books.update_id (b : Books) (number : Option Nat) : b.update number id = b := by
  obtain ⟨installed, ledger⟩ := b
  rw [update, Books.mk.injEq]
  refine ⟨rfl, funext fun k => ?_⟩
  split <;> rfl

theorem Books.update_none (b : Books) (entry : Ledger → Ledger) : b.update none entry = b := rfl

namespace Connection

variable {b : Books} {hs hs' : List Handle} {c : Connection AnyDriver} {r r' : Recorder}
  {α : Type}

/-- The recording driver in the slot. -/
def recorder? (c : Connection AnyDriver) : Option Recorder := c.slot.bind AnyDriver.recorder?

/-- The recording drivers that were left. -/
def former (c : Connection AnyDriver) : List Recorder := c.retired.filterMap AnyDriver.recorder?

/-- All recording drivers, in the order in which they were attached. -/
def recorders (c : Connection AnyDriver) : List Recorder := c.former ++ c.recorder?.toList

/-- The number of the recording driver in the slot. -/
def current? (c : Connection AnyDriver) : Option Nat := c.recorder?.map fun _ => c.former.length

theorem recorder?_of_empty (hslot : c.slot = none) : c.recorder? = none := by
  rw [recorder?, hslot]
  rfl

theorem slot_of_recorder? (hr : c.recorder? = some r) : c.slot = some (.recording r) := by
  obtain ⟨d, hslot, hd⟩ := Option.bind_eq_some_iff.1 hr
  rw [hslot, AnyDriver.eq_recording_of_recorder? hd]

/-- Every recording driver agrees with its ledger, and no result is unaccounted for. -/
structure Orderly (b : Books) (hs : List Handle) (c : Connection AnyDriver) : Prop where
  lent : c.lent = false
  registry : c.registry.IsFresh
  unconnected : ∀ d ∈ c.retired, Driver.isConnected d = false
  settled : ∀ (k : Nat) (r : Recorder), c.former[k]? = some r → r.Settled (b.ledger k)
  held : ∀ r : Recorder, c.recorder? = some r → r.Held (b.ledger c.former.length) hs
  /-- Drivers to come have no entries yet. -/
  blank : ∀ k, c.recorders.length ≤ k → b.ledger k = .blank
  installed : List.Forall₂ Recorder.Continues b.installed c.recorders

theorem Orderly.install_none (h : c.Orderly b hs) : c.Orderly (b.install none) hs :=
  b.install_none.symm ▸ h

theorem orderly_new {g : Registry AnyDriver} (hg : g.IsFresh) : (new g).Orderly .blank [] where
  lent := rfl
  registry := hg
  unconnected := fun _ hd => nomatch hd
  settled := fun _ _ hr => nomatch hr
  held := fun _ hr => nomatch hr
  blank := fun _ _ => rfl
  installed := .nil

/-- What continues a continuation continues the beginning. -/
theorem continues_trans {rs rs' rs'' : List Recorder}
    (h : List.Forall₂ Recorder.Continues rs rs') (h' : List.Forall₂ Recorder.Continues rs' rs'') :
    List.Forall₂ Recorder.Continues rs rs'' := by
  induction h generalizing rs'' with
  | nil => exact h'
  | cons hfirst _ ih =>
    cases h' with
    | cons hfirst' hrest' => exact .cons (hfirst.trans hfirst') (ih hrest')

/-- The last of the recording drivers, later. -/
theorem continues_concat (rs : List Recorder) (hr : r.Continues r') :
    List.Forall₂ Recorder.Continues (rs ++ [r]) (rs ++ [r']) :=
  List.rel_append (List.forall₂_same.2 fun r _ => Recorder.continues_refl r) (.cons hr .nil)

theorem recorders_of_recorder? (hr : c.recorder? = some r) : c.recorders = c.former ++ [r] := by
  rw [recorders, hr]
  rfl

theorem recorders_of_none (hr : c.recorder? = none) : c.recorders = c.former := by
  rw [recorders, hr]
  exact List.append_nil _

/-- Drivers that are put away behind those that were left. -/
theorem former_of_retired {c' : Connection AnyDriver} {ds : List AnyDriver}
    (hretired : c'.retired = c.retired ++ ds) :
    c'.former = c.former ++ ds.filterMap AnyDriver.recorder? := by
  rw [former, hretired, List.filterMap_append]
  rfl

/-- A number belongs to one of the drivers before, or to the last one. -/
theorem getElem?_concat {rs : List Recorder} {k : Nat} (hk : (rs ++ [r])[k]? = some r') :
    rs[k]? = some r' ∨ k = rs.length ∧ r = r' := by
  rcases Nat.lt_or_ge k rs.length with hlt | hge
  · rw [List.getElem?_append_left hlt] at hk
    exact .inl hk
  · rw [List.getElem?_append_right hge, List.getElem?_singleton] at hk
    split at hk
    · exact .inr ⟨by omega, Option.some.inj hk⟩
    · cases hk

/-! ### The driver at work -/

/-- The recording driver in the slot goes on, and its ledger gets an entry. -/
theorem Orderly.update (h : c.Orderly b hs) (hr : c.recorder? = some r)
    {entry : Ledger → Ledger} (hheld : r'.Held (entry (b.ledger c.former.length)) hs')
    (hcontinues : r.Continues r') :
    ({ c with slot := some (.recording r') } : Connection AnyDriver).Orderly
      (b.update c.current? entry) hs' := by
  have hcurrent : c.current? = some c.former.length := by rw [current?, hr]; rfl
  have hlength : c.former.length < c.recorders.length := by
    rw [recorders_of_recorder? hr, List.length_append]
    exact Nat.lt_succ_self _
  have hother : ∀ k, k ≠ c.former.length → (b.update c.current? entry).ledger k = b.ledger k := by
    intro k hk
    rw [hcurrent]
    exact if_neg fun heq => hk (Option.some.inj heq).symm
  refine ⟨h.lent, h.registry, h.unconnected, ?_, ?_, ?_, ?_⟩
  · intro k r'' hk
    have hlt : k < c.former.length := (List.getElem?_eq_some_iff.1 hk).1
    rw [hother k (Nat.ne_of_lt hlt)]
    exact h.settled k r'' hk
  · intro r'' hr''
    cases hr''
    show r'.Held ((b.update c.current? entry).ledger c.former.length) hs'
    rw [hcurrent]
    show r'.Held (if some c.former.length = some c.former.length then _ else _) hs'
    rw [if_pos rfl]
    exact hheld
  · intro k hk
    have hlen : c.recorders.length ≤ k := by
      have hlater : (c.former ++ [r']).length ≤ k := hk
      rw [List.length_append] at hlater
      rw [recorders_of_recorder? hr, List.length_append]
      exact hlater
    rw [hother k (Nat.ne_of_gt (Nat.lt_of_lt_of_le hlength hlen))]
    exact h.blank k hlen
  · refine continues_trans h.installed ?_
    rw [recorders_of_recorder? hr]
    exact continues_concat c.former hcontinues

/-- A driver that does not record has no ledger. -/
theorem Orderly.update_other (h : c.Orderly b hs) (hr : c.recorder? = none)
    {d? : Option AnyDriver} (hd : d?.bind AnyDriver.recorder? = none) :
    ({ c with slot := d? } : Connection AnyDriver).Orderly b hs' := by
  have hsame : ({ c with slot := d? } : Connection AnyDriver).recorders = c.recorders := by
    rw [recorders_of_none hr, recorders_of_none (c := { c with slot := d? }) hd]
    rfl
  refine ⟨h.lent, h.registry, h.unconnected, h.settled, ?_, ?_, ?_⟩
  · intro r' hr'
    rw [show ({ c with slot := d? } : Connection AnyDriver).recorder? = none from hd] at hr'
    cases hr'
  · rw [hsame]
    exact h.blank
  · rw [hsame]
    exact h.installed

theorem current?_of_none (hr : c.recorder? = none) : c.current? = none := by rw [current?, hr]; rfl

/-- An operation of the driver in the slot. -/
theorem useDriver_eq (hlent : c.lent = false) {d : AnyDriver} (hslot : c.slot = some d)
    (op : Op AnyDriver α) :
    Connection.useDriver op c = ((op d).1, { c with slot := some (op d).2 }) := by
  rw [Connection.useDriver, hlent, if_neg (by simp), hslot]
  rfl

theorem useDriver_of_none (hlent : c.lent = false) (hslot : c.slot = none) (op : Op AnyDriver α) :
    Connection.useDriver op c = (.error .noConnection, c) := by
  rw [Connection.useDriver, hlent, if_neg (by simp), hslot]

/-- **An operation of the driver**, by what it does to a recording one. -/
theorem Orderly.useDriver (h : c.Orderly b hs) {op : Op AnyDriver α} {entry : Ledger → Ledger}
    (hother : ∀ d, d.recorder? = none → (op d).2.recorder? = none)
    (hop : ∀ r l, r.Held l hs →
      ∃ r', (op (.recording r)).2 = .recording r' ∧ r'.Held (entry l) hs' ∧ r.Continues r') :
    (Connection.useDriver op c).2.Orderly (b.update c.current? entry) hs' := by
  cases hr : c.recorder? with
  | some r =>
    obtain ⟨r', hform, hheld, hcontinues⟩ := hop r _ (h.held r hr)
    rw [useDriver_eq h.lent (slot_of_recorder? hr), hform]
    exact h.update hr hheld hcontinues
  | none =>
    rw [current?_of_none hr, Books.update_none]
    cases hslot : c.slot with
    | none =>
      rw [useDriver_of_none h.lent hslot]
      have hstays : ({ c with slot := none } : Connection AnyDriver).Orderly b hs' :=
        h.update_other hr rfl
      rwa [← hslot] at hstays
    | some d =>
      rw [useDriver_eq h.lent hslot]
      refine h.update_other hr (hother d ?_)
      rwa [Connection.recorder?, hslot] at hr

/-- An operation without an entry. -/
theorem Orderly.useDriver_quiet (h : c.Orderly b hs) {op : Op AnyDriver α}
    (hother : ∀ d, d.recorder? = none → (op d).2.recorder? = none)
    (hop : ∀ r l, r.Held l hs →
      ∃ r', (op (.recording r)).2 = .recording r' ∧ r'.Held l hs' ∧ r.Continues r') :
    (Connection.useDriver op c).2.Orderly b hs' := by
  have huse : (Connection.useDriver op c).2.Orderly (b.update c.current? id) hs' :=
    h.useDriver hother hop
  rwa [Books.update_id] at huse

theorem Orderly.fetch (h : c.Orderly b hs) (k : Handle) (mode : Addressing) :
    (Connection.useDriver (Driver.fetch k mode) c).2.Orderly b hs :=
  h.useDriver_quiet (fun _ => AnyDriver.recorder?_perform) fun _ _ hheld =>
    ⟨_, rfl, hheld.fetch k mode⟩

theorem Orderly.seek (h : c.Orderly b hs) {k : Handle} (hk : k ∈ hs) (row : Nat) :
    (Connection.useDriver (Driver.seek k row) c).2.Orderly b hs :=
  h.useDriver_quiet (fun _ => AnyDriver.recorder?_perform) fun _ _ hheld =>
    ⟨_, rfl, hheld.seek hk row⟩

/-- A result is released. -/
theorem Orderly.free {k : Handle} (h : c.Orderly b (k :: hs)) :
    (Connection.useDriver (Driver.free k) c).2.Orderly b hs :=
  h.useDriver_quiet (fun _ => AnyDriver.recorder?_perform) fun _ _ hheld =>
    ⟨_, rfl, hheld.free⟩

theorem Orderly.transaction (h : c.Orderly b hs) (op : TransactionStep)
    (savepoint : Option String) :
    (Connection.transaction op savepoint c).2.Orderly
      (b.update c.current? fun l => l.enterStep op savepoint) hs :=
  h.useDriver (fun _ => AnyDriver.recorder?_perform) fun _ _ hheld =>
    ⟨_, rfl, hheld.transaction op savepoint⟩

/-! ### Statements -/

/-- The driver after a statement that fails: the transaction is undone, as far as that succeeds. -/
def undone (text : String) (r : Recorder) : Recorder :=
  (r.record (.statement text)).record (.transaction .rollback none)

theorem runOrUndo_of_fails {text : String} (hconnected : r.connected = true)
    (hfail : r.fails text = true) :
    runOrUndo text (AnyDriver.recording r)
      = (.error (Recorder.statementError text), .recording (undone text r)) := by
  have hdriver : Driver.execute text (AnyDriver.recording r)
      = (.error (Recorder.statementError text), .recording (r.record (.statement text))) := by
    show (Recorder.execute text).onPart r AnyDriver.recording = _
    rw [Op.onPart, Recorder.execute_of_fails hconnected hfail]
  have hrecorded : (r.record (.statement text)).connected = true := hconnected
  have hundo : (Recorder.transaction .rollback none (r.record (.statement text))).2
      = undone text r := Recorder.transaction_of_isSavepoint hrecorded rfl .rollback
  rw [runOrUndo, hdriver]
  show (_, AnyDriver.recording
    (Recorder.transaction .rollback none (r.record (.statement text))).2) = _
  rw [hundo]

theorem runOrUndo_of_not_fails {text : String} (hconnected : r.connected = true)
    (hok : r.fails text = false) :
    ∃ (result : StoredResult) (responses : List StoredResult),
      runOrUndo text (AnyDriver.recording r)
        = (.ok r.results.nextHandle, .recording { r.record (.statement text) with
            results := (r.results.insert result).2, script := { r.script with responses } }) := by
  obtain ⟨result, responses, hexecute⟩ := Recorder.execute_of_not_fails hconnected hok
  have hdriver : Driver.execute text (AnyDriver.recording r)
      = (Recorder.execute text).onPart r AnyDriver.recording := rfl
  refine ⟨result, responses, ?_⟩
  rw [runOrUndo, hdriver, Op.onPart, hexecute]

theorem recorder?_runOrUndo {text : String} {d : AnyDriver} (hd : d.recorder? = none) :
    (runOrUndo text d).2.recorder? = none := by
  have hexecute : (Driver.execute text d).2.recorder? = none := AnyDriver.recorder?_perform hd
  rw [runOrUndo]
  split <;> rename_i hform <;> rw [hform] at hexecute
  · exact hexecute
  · exact AnyDriver.recorder?_perform hexecute

/-- A statement on a recording driver that fails. -/
theorem runStatement_of_fails (h : c.Orderly b hs) (hr : c.recorder? = some r) {text : String}
    (hfail : r.fails text = true) :
    runStatement text c = (.error (Recorder.statementError text),
      { c with slot := some (.recording (undone text r)) }) := by
  rw [runStatement, useDriver_eq h.lent (slot_of_recorder? hr),
    runOrUndo_of_fails (h.held r hr).connected hfail]

/-- **A statement** gives a new result, which has to be released, or fails and opens none. -/
theorem Orderly.runStatement (h : c.Orderly b hs) (text : String) :
    match Connection.runStatement text c with
    | (.ok k, c') => c'.Orderly (b.update c.current? fun l => l.answer text k) (k :: hs)
    | (.error _, c') => c'.Orderly b hs := by
  cases hr : c.recorder? with
  | some r =>
    have hheld := h.held r hr
    cases hfail : r.fails text with
    | true =>
      rw [runStatement_of_fails h hr hfail]
      have hfailed := hheld.failed hfail
      have hupdate : ({ c with slot := some (.recording (undone text r)) } :
          Connection AnyDriver).Orderly (b.update c.current? id) hs :=
        h.update hr hfailed.1 hfailed.2
      rwa [Books.update_id] at hupdate
    | false =>
      obtain ⟨result, responses, hform⟩ := runOrUndo_of_not_fails hheld.connected hfail
      have hanswered := hheld.answered hfail result responses
      rw [Connection.runStatement, useDriver_eq h.lent (slot_of_recorder? hr), hform]
      exact h.update hr hanswered.1 hanswered.2
  | none =>
    rw [current?_of_none hr]
    cases hslot : c.slot with
    | none =>
      rw [Connection.runStatement, useDriver_of_none h.lent hslot]
      exact h
    | some d =>
      have hd : (runOrUndo text d).2.recorder? = none := by
        refine recorder?_runOrUndo ?_
        rwa [Connection.recorder?, hslot] at hr
      rw [Connection.runStatement, useDriver_eq h.lent hslot]
      cases (runOrUndo text d).1 with
      | ok k => exact h.update_other hr hd
      | error e => exact h.update_other hr hd

/-- Questions to the driver change nothing. -/
theorem askDriver_snd (f : AnyDriver → Except SqlError α) (c : Connection AnyDriver) :
    (askDriver f c).2 = c := by
  obtain ⟨slot, registry, tablePrefix, retired, lent, now⟩ := c
  cases lent with
  | true => rfl
  | false => cases slot <;> rfl

/-- Every driver agrees with its ledger, whether it was left or is at work. -/
theorem Orderly.accounted (h : c.Orderly b hs) {k : Nat} (hr : c.recorders[k]? = some r) :
    r.Accounted (b.ledger k) := by
  cases hslot : c.recorder? with
  | none =>
    rw [recorders_of_none hslot] at hr
    exact (h.settled k r hr).accounted
  | some r' =>
    rw [recorders_of_recorder? hslot] at hr
    rcases getElem?_concat hr with hformer | ⟨rfl, rfl⟩
    · exact (h.settled k r hformer).accounted
    · exact (h.held r' hslot).accounted

/-- Results are held in any order. -/
theorem Orderly.perm (h : c.Orderly b hs) (hperm : hs.Perm hs') : c.Orderly b hs' :=
  { h with held := fun r hr =>
      { h.held r hr with handles := (h.held r hr).handles.trans hperm } }

end Connection

end SqlLayer
