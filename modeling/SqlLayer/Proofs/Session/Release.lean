import SqlLayer.Proofs.Session.History

/-!
# Releasing the results of a session

A result is released on demand, when another one takes its slot, when it is dropped, and when the
connection is needed for something else.  Whichever comes first, it is released once.

* `Recorder.Released` — the releases in a log are those of the answered statements, **one each**, no
  result is moved after its release, and **nothing comes after the driver was left**;
* `Session.finish_releases` — when a session is finished, that is so of each of its drivers.
-/

namespace SqlLayer

open LoggedCall

variable {l : Ledger} {r : Recorder}

/-- A driver that has nothing left to release, by the statements that it answered and the handles
that the answers gave out. -/
structure Recorder.Released (answers : List (String × Handle)) (r : Recorder) : Prop where
  /-- Answered was every statement in the log that does not fail. -/
  answered : r.statements.filter (fun text => !r.fails text) = answers.map Prod.fst
  released : (freed r.log).Perm (answers.map Prod.snd)
  once : (freed r.log).Nodup
  /-- A result is not moved any more once it was released. -/
  unmoved : ∀ (before rest : List LoggedCall) (h : Handle) (row : Nat),
    r.log = before ++ .seek h row :: rest → .free h ∉ before
  /-- All releases come before the only disconnection. -/
  last : ∃ calls, r.log = calls ++ [.disconnect] ∧ .disconnect ∉ calls ∧
    ∀ h, .free h ∈ r.log → .free h ∈ calls
  empty : r.results.live = []

/-- In a log that is in order no result is moved after its release. -/
theorem Recorder.Accounted.not_freed_of_seek (hr : r.Accounted l) {before rest : List LoggedCall}
    {h : Handle} {row : Nat} (hlog : r.log = before ++ .seek h row :: rest) : .free h ∉ before := by
  intro hfreed
  have horder := hr.order
  rw [hlog, List.pairwise_append] at horder
  exact horder.2.2 (.free h) hfreed (.seek h row) (List.mem_cons_self ..) rfl

/-- A driver that was left has released all it gave out. -/
theorem Recorder.Settled.released (hr : r.Settled l) : r.Released l.answered := by
  have hhandles : r.results.handles = [] := by
    rw [ResultStore.handles, hr.empty]
    rfl
  obtain ⟨calls, hlog, hstays⟩ := hr.last
  refine ⟨hr.accounted.answered, ?_, ?_, ?_, ⟨calls, hlog, hstays, ?_⟩, hr.empty⟩
  · have hreleased := hr.accounted.released
    rwa [hhandles, List.append_nil] at hreleased
  · have hnodup := hr.accounted.nodup_released
    rwa [hhandles, List.append_nil] at hnodup
  · intro before rest h row hseek
    exact hr.accounted.not_freed_of_seek hseek
  · intro h hfreed
    rw [hlog] at hfreed
    rcases List.mem_append.1 hfreed with hcalls | hlast
    · exact hcalls
    · cases List.mem_singleton.1 hlast

namespace Session

/-- **Every result is released exactly once, before its driver is left.**  However many results are
open at once, and however they are read, replaced, released or dropped: when the session is
finished, every driver has in its log one release for each statement that it answered, with the
handle that the answer gave out, and holds no result any more. -/
theorem finish_releases {g : Registry AnyDriver} (hg : g.IsFresh) (commands : List Command)
    (hregular : ∀ command ∈ commands, command.IsRegular) (k : Nat) (r : Recorder)
    (hr : (finish (run commands (start g)).2).recorders[k]? = some r) :
    r.Released (answersOf k (events commands (start g))) := by
  have h := orderly_of_start hg commands hregular
  rw [recorders_finish h] at hr
  exact ((orderly_finish h).1.settled k r hr).released

/-- Two results at once, one of them released and one replaced by a third, and a driver that is
left in the middle. -/
theorem finish_releases_replaced :
    let d : AnyDriver := .recording (.new ⟨[], ["BROKEN"], false, false, 0⟩)
    let commands : List Command := [.attach d, .runStatement 0 "SELECT 1",
      .runStatement 1 "SELECT 2", .read 1 (.seek 0), .free 0, .runStatement 0 "BROKEN",
      .runStatement 1 "SELECT 3", .disconnect]
    let s := (run commands (start Registry.empty)).2
    Registry.empty.IsFresh ∧ (∀ command ∈ commands, command.IsRegular) ∧
      ∃ r, (finish s).recorders[0]? = some r ∧ freed r.log = [⟨1⟩, ⟨2⟩, ⟨3⟩] ∧
        r.Released [("SELECT 1", ⟨1⟩), ("SELECT 2", ⟨2⟩), ("SELECT 3", ⟨3⟩)] := by
  intro d commands s
  have hregular : ∀ command ∈ commands, command.IsRegular := by
    simp [commands, d, Command.IsRegular, AnyDriver.isFresh_recording]
  have hanswers : answersOf 0 (events commands (start Registry.empty))
      = [("SELECT 1", ⟨1⟩), ("SELECT 2", ⟨2⟩), ("SELECT 3", ⟨3⟩)] := by decide
  have hfreed : (finish s).recorders[0]?.map (fun r => freed r.log) = some [⟨1⟩, ⟨2⟩, ⟨3⟩] := by
    decide
  obtain ⟨r, hr, hlog⟩ := Option.map_eq_some_iff.1 hfreed
  refine ⟨Registry.isFresh_empty, hregular, r, hr, hlog, ?_⟩
  rw [← hanswers]
  exact finish_releases Registry.isFresh_empty commands hregular 0 r hr

end Session

end SqlLayer
