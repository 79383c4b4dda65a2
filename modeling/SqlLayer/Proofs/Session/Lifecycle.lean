import SqlLayer.Proofs.Session.History

/-!
# The life of a driver

A driver comes into the slot of the connection when it is attached, and leaves it when another one
is attached or connected, on demand, and with the connection.

* `Session.Attended` — **no driver but the one in the slot is connected**, and no driver that was
  attached gets lost;
* `Recorder.IsLeft` — a log with **one disconnection, at its end**;
* `Session.run_attends` — every run of commands leaves a session like that, and when it is finished
  every driver was left.
-/

namespace SqlLayer

open LoggedCall

/-- A driver that was disconnected once, and that was its last call. -/
structure Recorder.IsLeft (r : Recorder) : Prop where
  once : r.log.count .disconnect = 1
  last : r.log.getLast? = some .disconnect
  unconnected : r.connected = false

theorem Recorder.Settled.isLeft {l : Ledger} {r : Recorder} (h : r.Settled l) : r.IsLeft := by
  obtain ⟨calls, hlog, hstays⟩ := h.last
  refine ⟨?_, ?_, h.unconnected⟩
  · rw [hlog, List.count_append, List.count_eq_zero_of_not_mem hstays]
    rfl
  · rw [hlog, List.getLast?_concat]

namespace Session

/-- A session whose drivers were left one after another, apart from the one in the slot. -/
structure Attended (es : List Event) (s : Session) : Prop where
  /-- Of all drivers, at most the one in the slot is connected. -/
  unconnected : ∀ d ∈ s.connection.retired, Driver.isConnected d = false
  /-- A recording driver in the slot is connected, and was never disconnected. -/
  connected : ∀ r, s.connection.recorder? = some r → r.connected = true ∧ .disconnect ∉ r.log
  left : ∀ r ∈ s.connection.former, r.IsLeft
  /-- All drivers that were attached are still there, each with a log that goes on. -/
  installed : List.Forall₂ Recorder.Continues (installedIn es) s.recorders

variable {b : Books} {hs : List Handle} {es : List Event} {s : Session}

theorem isLeft_of_mem_former {c : Connection AnyDriver} (h : c.Orderly b hs) {r : Recorder}
    (hr : r ∈ c.former) : r.IsLeft := by
  obtain ⟨k, hk⟩ := List.mem_iff_getElem?.1 hr
  exact (h.settled k r hk).isLeft

theorem attended_of_orderly (h : s.connection.Orderly (booksOf es) hs) : s.Attended es where
  unconnected := h.unconnected
  connected r hr := ⟨(h.held r hr).connected, (h.held r hr).undisconnected⟩
  left _ hr := isLeft_of_mem_former h hr
  installed := by
    rw [recorders_eq]
    exact h.installed

/-- **Every driver is disconnected exactly once, and then it is not called any more.**  In every run
of commands at most the driver in the slot is connected; and when the session is finished the slot
is empty, and each driver that was ever attached has one disconnection in its log, as the last
call. -/
theorem run_attends {g : Registry AnyDriver} (hg : g.IsFresh) (commands : List Command)
    (hregular : ∀ command ∈ commands, command.IsRegular) :
    let es := events commands (start g)
    let s := (run commands (start g)).2
    s.Attended es ∧ (finish s).Attended es ∧ (finish s).connection.slot = none ∧
      ∀ r ∈ (finish s).recorders, r.IsLeft := by
  intro es s
  have h := orderly_of_start hg commands hregular
  obtain ⟨hfinished, hslot⟩ := orderly_finish h
  refine ⟨attended_of_orderly h.connection, attended_of_orderly hfinished, hslot, ?_⟩
  intro r hr
  rw [recorders_finish h] at hr
  exact isLeft_of_mem_former hfinished hr

/-- Four drivers leave the slot on four ways: another one is connected, one cannot be, the
connection is told to, and it is given up. -/
theorem run_attends_four :
    let d : AnyDriver := .recording (.new ⟨[], ["BROKEN"], false, false, 0⟩)
    let commands : List Command := [.attach d, .runStatement 0 "SELECT 1", .register "mock" d,
      .connect [("type", "mock")], .connect [("type", "nowhere")], .attach d,
      .setTablePrefix "p_", .disconnect, .attach d, .transaction .begin none,
      .runStatement 0 "BROKEN"]
    let s := (run commands (start Registry.empty)).2
    Registry.empty.IsFresh ∧ (∀ command ∈ commands, command.IsRegular) ∧
      (finish s).recorders.map Recorder.log = [
        [.statement "SELECT 1", .free ⟨1⟩, .disconnect],
        [.connect, .disconnect],
        [.disconnect],
        [.transaction .begin none, .statement "BROKEN", .transaction .rollback none,
          .disconnect]] ∧
      ∀ r ∈ (finish s).recorders, r.IsLeft := by
  intro d commands s
  have hregular : ∀ command ∈ commands, command.IsRegular := by
    simp [commands, d, Command.IsRegular, AnyDriver.isFresh_recording]
  exact ⟨Registry.isFresh_empty, hregular, by decide,
    (run_attends Registry.isFresh_empty commands hregular).2.2.2⟩

end Session

end SqlLayer
