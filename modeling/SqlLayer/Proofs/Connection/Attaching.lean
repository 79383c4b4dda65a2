import SqlLayer.Proofs.Connection.Bookkeeping
import SqlLayer.Proofs.Op

/-!
# Attaching and leaving drivers

A driver leaves its place on four ways: another one is attached or connects, the connection is
asked to disconnect, or it is dropped.  **On each of them** a connected driver is disconnected once,
and nothing of it is used any more.

* `Connection.Orderly.retire` — a driver that was disconnected is put away;
* `Connection.Orderly.place` — a driver is put into the empty slot, and gets a number of its own;
* `Connection.Orderly.disconnect`, `Connection.Orderly.close` — the slot is empty afterwards;
* `Connection.Orderly.attach`, `Connection.Orderly.connect` — a driver takes the place.
-/

namespace SqlLayer.Connection

variable {b : Books} {c : Connection AnyDriver}

/-! ### Leaving -/

/-- A driver that is not connected any more is put away. -/
theorem Orderly.retire (h : c.Orderly b []) {d : AnyDriver}
    (hunconnected : Driver.isConnected d = false)
    (hsettled : ∀ r, c.recorder? = some r → ∃ r', d = .recording r' ∧
      r'.Settled (b.ledger c.former.length) ∧ r.Continues r')
    (hother : c.recorder? = none → d.recorder? = none) :
    ({ c with slot := some d } : Connection AnyDriver).vacate.Orderly b [] := by
  have hformer : ({ c with slot := some d } : Connection AnyDriver).vacate.former
      = c.former ++ d.recorder?.toList := by
    have happend : ({ c with slot := some d } : Connection AnyDriver).vacate.former
        = c.former ++ [d].filterMap AnyDriver.recorder? := former_of_retired rfl
    rw [happend]
    cases d <;> rfl
  have hrecorders : ({ c with slot := some d } : Connection AnyDriver).vacate.recorders
      = c.former ++ d.recorder?.toList := (recorders_of_none rfl).trans hformer
  have hunconnected' : ∀ d' ∈ c.retired ++ [d], Driver.isConnected d' = false := by
    intro d' hd'
    rcases List.mem_append.1 hd' with hold | hnew
    · exact h.unconnected d' hold
    · rw [List.mem_singleton.1 hnew]
      exact hunconnected
  cases hr : c.recorder? with
  | none =>
    have hsame : c.former ++ d.recorder?.toList = c.recorders := by
      rw [hother hr, recorders_of_none hr]
      exact List.append_nil _
    rw [hsame] at hformer hrecorders
    refine ⟨h.lent, h.registry, hunconnected', ?_, (fun _ hr' => nomatch hr'), ?_, ?_⟩
    · rw [hformer, recorders_of_none hr]
      exact h.settled
    · rw [hrecorders]
      exact h.blank
    · rw [hrecorders]
      exact h.installed
  | some r =>
    obtain ⟨r', rfl, hsettled', hcontinues⟩ := hsettled r hr
    have hlength : c.recorders.length = (c.former ++ [r']).length := by
      rw [recorders_of_recorder? hr, List.length_append, List.length_append]
      rfl
    refine ⟨h.lent, h.registry, hunconnected', ?_, (fun _ hr' => nomatch hr'), ?_, ?_⟩
    · intro k r'' hk
      rw [hformer] at hk
      rcases getElem?_concat hk with hold | ⟨rfl, rfl⟩
      · exact h.settled k r'' hold
      · exact hsettled'
    · rw [hrecorders]
      intro k hk
      exact h.blank k (hlength ▸ hk)
    · rw [hrecorders]
      refine continues_trans h.installed ?_
      rw [recorders_of_recorder? hr]
      exact continues_concat c.former hcontinues

/-- Leaving a driver by disconnecting it. -/
theorem Orderly.disconnect (h : c.Orderly b []) :
    (Connection.disconnect c).2.Orderly b [] ∧ (Connection.disconnect c).2.slot = none := by
  rw [Connection.disconnect]
  cases hslot : c.slot with
  | none => exact ⟨h, hslot⟩
  | some d =>
    refine ⟨h.retire (AnyDriver.isConnected_disconnect d) (fun r hr => ?_) fun hr => ?_, rfl⟩
    · have hd : d = .recording r := Option.some.inj (hslot.symm.trans (slot_of_recorder? hr))
      subst hd
      have hleft := (h.held r hr).disconnect
      exact ⟨_, rfl, hleft.2.1, hleft.2.2⟩
    · rw [Connection.recorder?, hslot] at hr
      exact AnyDriver.recorder?_perform hr

/-- A driver that is not connected is left as it is; it is no recording one. -/
theorem Orderly.vacate (h : c.Orderly b []) (hidle : c.isConnected = false) :
    c.vacate.Orderly b [] := by
  have hr : c.recorder? = none := by
    cases hr : c.recorder? with
    | none => rfl
    | some r =>
      have hconnected : c.isConnected = true := by
        rw [isConnected, slot_of_recorder? hr]
        exact (h.held r hr).connected
      rw [hconnected] at hidle
      cases hidle
  obtain ⟨slot, registry, tablePrefix, retired, lent, now⟩ := c
  cases slot with
  | none =>
    have hsame : (⟨none, registry, tablePrefix, retired, lent, now⟩ :
        Connection AnyDriver).vacate = ⟨none, registry, tablePrefix, retired, lent, now⟩ := by
      rw [Connection.vacate, Connection.mk.injEq]
      exact ⟨rfl, rfl, rfl, List.append_nil _, rfl, rfl⟩
    rw [hsame]
    exact h
  | some d =>
    exact h.retire (d := d) hidle (fun r hr' => nomatch hr.symm.trans hr') fun _ => hr

/-- **However a connection leaves its driver**, the books stay in order and the slot is empty. -/
theorem Orderly.close (h : c.Orderly b []) : c.close.Orderly b [] ∧ c.close.slot = none := by
  rw [Connection.close]
  split
  · exact h.disconnect
  · exact ⟨h.vacate (Bool.eq_false_iff.2 ‹_›), rfl⟩

/-! ### Attaching -/

/-- A driver is put into the empty slot. -/
theorem Orderly.place (h : c.Orderly b []) (hslot : c.slot = none) {d : AnyDriver}
    (hfresh : ∀ r, d.recorder? = some r → r.Held .blank []) :
    ({ c with slot := some d } : Connection AnyDriver).Orderly (b.install d.recorder?) [] := by
  have hrecorders := recorders_of_none (recorder?_of_empty hslot)
  refine ⟨h.lent, h.registry, h.unconnected, h.settled, ?_, ?_, ?_⟩
  · intro r hr
    show r.Held (b.ledger c.former.length) []
    rw [h.blank _ (Nat.le_of_eq (congrArg List.length hrecorders))]
    exact hfresh r hr
  · intro k hk
    refine h.blank k (Nat.le_trans ?_ hk)
    rw [hrecorders]
    show c.former.length ≤ (c.former ++ _).length
    rw [List.length_append]
    exact Nat.le_add_right _ _
  · show List.Forall₂ Recorder.Continues (b.installed ++ d.recorder?.toList)
      (c.former ++ d.recorder?.toList)
    rw [← hrecorders]
    exact List.rel_append h.installed (List.forall₂_same.2 fun r _ => Recorder.continues_refl r)

theorem isFresh_held {d : AnyDriver} (hd : d.IsFresh) :
    ∀ r, d.recorder? = some r → r.Held .blank [] := fun r hr => by
  rw [hd r hr]
  exact Recorder.held_new r.script

/-- A driver is attached in place of the one before. -/
theorem Orderly.attach (h : c.Orderly b []) {d : AnyDriver} (hd : d.IsFresh) :
    (c.attach d).Orderly (b.install d.recorder?) [] :=
  h.close.1.place h.close.2 (isFresh_held hd)

theorem Orderly.leave (h : c.Orderly b []) :
    (Connection.leave c).2.Orderly b [] ∧ (Connection.leave c).2.isConnected = false := by
  rw [Connection.leave]
  split
  · obtain ⟨horderly, hslot⟩ := h.disconnect
    refine ⟨horderly, ?_⟩
    rw [isConnected, hslot]
    rfl
  · exact ⟨h, Bool.eq_false_iff.2 ‹_›⟩

/-- A fresh driver that connects is at work with empty books. -/
theorem held_of_connect {s : Parameters} {d d' : AnyDriver} {outcome : Except SqlError Unit}
    (hd : d.IsFresh) (hform : Driver.connect s d = (outcome, d')) :
    ∀ r, d'.recorder? = some r → r.Held .blank [] := by
  intro r hr
  have hsnd : (Driver.connect s d).2 = .recording r := by
    rw [hform]
    exact AnyDriver.eq_recording_of_recorder? hr
  cases d with
  | mysql d => cases hsnd
  | sqlite d => cases hsnd
  | recording fresh =>
    have hconnect : (Recorder.connect fresh).2 = r := by injection hsnd
    rw [← hconnect, hd fresh rfl]
    exact (Recorder.held_connect fresh.script).2

/-- A driver that is put away without having been in the slot. -/
theorem Orderly.discard {hs : List Handle} (h : c.Orderly b hs) {d : AnyDriver}
    (hunconnected : Driver.isConnected d = false) (hother : d.recorder? = none) :
    ({ c with retired := c.retired ++ [d] } : Connection AnyDriver).Orderly b hs := by
  have hformer : ({ c with retired := c.retired ++ [d] } : Connection AnyDriver).former
      = c.former := by
    rw [former_of_retired rfl, List.filterMap_cons_none hother]
    exact List.append_nil _
  have hrecorders : ({ c with retired := c.retired ++ [d] } : Connection AnyDriver).recorders
      = c.recorders := by
    rw [recorders, hformer]
    rfl
  refine ⟨h.lent, h.registry, fun d' hd' => ?_, ?_, ?_, ?_, ?_⟩
  · rcases List.mem_append.1 hd' with hold | hnew
    · exact h.unconnected d' hold
    · rw [List.mem_singleton.1 hnew]
      exact hunconnected
  · rw [hformer]
    exact h.settled
  · rw [hformer]
    exact h.held
  · rw [hrecorders]
    exact h.blank
  · rw [hrecorders]
    exact h.installed

/-- Another prefix or another registry of fresh drivers makes no difference to the books. -/
theorem Orderly.reconfigure {hs : List Handle} (h : c.Orderly b hs) (tablePrefix : String)
    {g : Registry AnyDriver} (hg : g.IsFresh) :
    ({ c with tablePrefix, registry := g } : Connection AnyDriver).Orderly b hs :=
  ⟨h.lent, hg, h.unconnected, h.settled, h.held, h.blank, h.installed⟩

/-- A fresh driver takes the place once it has connected. -/
theorem Orderly.install (h : c.Orderly b []) (hidle : c.isConnected = false) (s : Settings)
    {d : AnyDriver} (hd : d.IsFresh) :
    match Connection.install s d c with
    | (.ok _, c') => c'.Orderly (b.install c'.recorder?) []
    | (.error _, c') => c'.Orderly b [] := by
  rw [Connection.install]
  cases hform : Driver.connect s.parameters d with
  | mk outcome d' =>
    cases outcome with
    | ok u =>
      have hvacate := (h.vacate hidle).reconfigure s.tablePrefix h.registry
      exact hvacate.place rfl (held_of_connect hd hform)
    | error e =>
      have hfailed := AnyDriver.connect_error (s := s.parameters) (d := d) (e := e)
        (by rw [hform])
      rw [hform] at hfailed
      exact h.discard hfailed.2 hfailed.1

/-- **Connecting**: the driver before is left, and a new one takes its place if it connects. -/
theorem Orderly.connect (h : c.Orderly b []) (s : Settings) :
    match Connection.connect s c with
    | (.ok _, c') => c'.Orderly (b.install c'.recorder?) []
    | (.error _, c') => c'.Orderly b [] := by
  obtain ⟨hleft, hidle⟩ := h.leave
  rw [Connection.connect, Op.bind_apply]
  cases hform : Connection.leave c with
  | mk outcome c' =>
    rw [hform] at hleft hidle
    cases outcome with
    | error e => exact hleft
    | ok u =>
      show match (Op.ask (fun c : Connection AnyDriver => c.registry.create s.driver) >>=
        fun d => Connection.install s d) c' with
        | (.ok _, c') => c'.Orderly (b.install c'.recorder?) []
        | (.error _, c') => c'.Orderly b []
      rw [Op.bind_apply, Op.ask_apply]
      cases hcreate : c'.registry.create s.driver with
      | error e => exact hleft
      | ok d => exact hleft.install hidle s (hleft.registry.create hcreate)

/-- A connection that was closed is superseded by a new one, which has left no driver yet. -/
theorem Orderly.supersede (h : c.Orderly b []) (hslot : c.slot = none) {c' : Connection AnyDriver}
    (hnew : c'.Orderly (Books.blank.install c'.recorder?) []) :
    ({ c' with retired := c.retired ++ c'.retired } : Connection AnyDriver).Orderly
      (b.install c'.recorder?) [] := by
  have hnone : c'.former = [] := by
    have hlength := hnew.installed.length_eq
    cases hr : c'.recorder? with
    | none =>
      rw [recorders_of_none hr, hr] at hlength
      exact List.eq_nil_of_length_eq_zero hlength.symm
    | some r =>
      rw [recorders_of_recorder? hr, hr, List.length_append] at hlength
      exact List.eq_nil_of_length_eq_zero (Nat.succ.inj hlength).symm
  have hformer : ({ c' with retired := c.retired ++ c'.retired } : Connection AnyDriver).former
      = c.former := by
    have happend : ({ c' with retired := c.retired ++ c'.retired } :
        Connection AnyDriver).former = c.former ++ c'.former := former_of_retired rfl
    rw [happend, hnone, List.append_nil]
  have hrecorders : c.recorders = c.former := recorders_of_none (recorder?_of_empty hslot)
  refine ⟨hnew.lent, hnew.registry, fun d hd => ?_, ?_, fun r hr => ?_, fun k hk => ?_, ?_⟩
  · rcases List.mem_append.1 hd with hold | hfresh
    · exact h.unconnected d hold
    · exact hnew.unconnected d hfresh
  · rw [hformer]
    exact h.settled
  · rw [hformer]
    show r.Held (b.ledger c.former.length) []
    rw [h.blank _ (Nat.le_of_eq (congrArg List.length hrecorders))]
    exact hnew.held r hr
  · refine h.blank k (Nat.le_trans ?_ hk)
    rw [hrecorders, recorders, hformer, List.length_append]
    exact Nat.le_add_right _ _
  · rw [recorders, hformer, ← hrecorders]
    exact List.rel_append h.installed (List.forall₂_same.2 fun r _ => Recorder.continues_refl r)

end SqlLayer.Connection
