import SqlLayer.Proofs.Connection.Bookkeeping
import SqlLayer.Session

/-!
# What happens in a session

A run of commands is a list of events: each command with the recording driver that the connection
works with, the statement that it sends, and its outcome.  From the events alone one can tell what
the callers of every driver were told.

* `Session.Event`, `Session.events` — the events of a run;
* `Session.answersOf`, `Session.undoneOf` — what a driver was asked for, and what it answered;
* `Session.booksOf` — the drivers that were attached, and **the ledger of each**;
* `Session.booksOf_concat` — one more event is one more entry.
-/

namespace SqlLayer.Session

/-! ### Events -/

/-- Commands that leave the logs alone and bring in fresh drivers only. -/
def Command.IsRegular : Command → Prop
  | .clearLog => False
  | .attach d => d.IsFresh
  | .register _ d => d.IsFresh
  | _ => True

/-- The slot for the result of a statement, and the statement. -/
def Command.sent? : Command → Option (Nat × (Connection AnyDriver → Except SqlError String))
  | .runFragment slot e => some (slot, fun c => c.render e)
  | .runStatement slot text => some (slot, fun _ => .ok text)
  | .runSelection slot calls => some (slot, selectionText calls)
  | _ => none

/-- The statement that a command sends, unless it cannot be built. -/
def Command.text? (c : Connection AnyDriver) (command : Command) : Option String :=
  command.sent?.bind fun e => (e.2 c).toOption

/-- What a command asks to be undone, unless the savepoint has no valid name. -/
def Command.undone? : Command → Option (Option String)
  | .transaction .rollback savepoint => if isSavepoint savepoint then some savepoint else none
  | _ => none

/-- The recording driver that a command attaches, as the connection has it afterwards. -/
def Command.installed? (c : Connection AnyDriver) : Command → Option Recorder
  | .attach _ | .connect _ | .openNew _ => c.recorder?
  | _ => none

/-- A command and its outcome. -/
structure Event where
  /-- The number of the recording driver that the connection works with. -/
  driver : Option Nat
  command : Command
  /-- The statement that the command sends. -/
  text : Option String
  outcome : Except SqlError Reply

namespace Event

/-- The statement that was answered, and the handle of its result. -/
def answered? (e : Event) : Option (String × Handle) :=
  match e.text, e.outcome with
  | some text, .ok (.opened o) => some (text, o.handle)
  | _, _ => none

/-- The driver that was attached. -/
def installed? (e : Event) : Option Recorder :=
  match e.outcome with
  | .ok (.status c) => e.command.installed? c
  | _ => none

/-- What an event adds to the ledger of its driver. -/
def enter (e : Event) (l : Ledger) : Ledger :=
  ⟨l.answered ++ e.answered?.toList, l.undone ++ e.command.undone?.toList⟩

end Event

/-- The event of a command. -/
def eventOf (command : Command) (s : Session) : Event :=
  ⟨s.connection.current?, command, command.text? s.connection, (step command s).1⟩

/-- The events of commands one after another. -/
def events : List Command → Session → List Event
  | [], _ => []
  | command :: commands, s => eventOf command s :: events commands (step command s).2

/-- The statements that a driver answered, each with the handle of its result. -/
def answersOf (k : Nat) (es : List Event) : List (String × Handle) :=
  es.filterMap fun e => if e.driver = some k then e.answered? else none

/-- What a driver was asked to undo, apart from failing statements. -/
def undoneOf (k : Nat) (es : List Event) : List (Option String) :=
  es.filterMap fun e => if e.driver = some k then e.command.undone? else none

/-- The recording drivers that were attached, as they were then. -/
def installedIn (es : List Event) : List Recorder := es.filterMap Event.installed?

/-- What the events of a run tell about every driver. -/
def booksOf (es : List Event) : Books := ⟨installedIn es, fun k => ⟨answersOf k es, undoneOf k es⟩⟩

/-- One more event. -/
theorem booksOf_concat (past : List Event) (e : Event) :
    booksOf (past ++ [e]) = ((booksOf past).update e.driver e.enter).install e.installed? := by
  rw [booksOf, Books.install, Books.mk.injEq]
  refine ⟨?_, funext fun k => ?_⟩
  · show (past ++ [e]).filterMap Event.installed? = past.filterMap Event.installed? ++ _
    rw [List.filterMap_append]
    cases hinstalled : e.installed? <;> simp [hinstalled]
  · show Ledger.mk (answersOf k (past ++ [e])) (undoneOf k (past ++ [e]))
      = if e.driver = some k then e.enter ⟨answersOf k past, undoneOf k past⟩
        else ⟨answersOf k past, undoneOf k past⟩
    rw [answersOf, undoneOf, List.filterMap_append, List.filterMap_append]
    by_cases hk : e.driver = some k
    · rw [if_pos hk]
      cases hanswered : e.answered? <;> cases hundone : e.command.undone? <;>
        simp [hk, hanswered, hundone, Event.enter, answersOf, undoneOf]
    · rw [if_neg hk]
      simp [hk, answersOf, undoneOf]

/-- An event that no ledger mentions. -/
theorem booksOf_concat_of_quiet {past : List Event} {e : Event} (hanswered : e.answered? = none)
    (hundone : e.command.undone? = none) :
    booksOf (past ++ [e]) = (booksOf past).install e.installed? := by
  have henter : e.enter = id := by
    funext l
    rw [Event.enter, hanswered, hundone]
    show Ledger.mk (l.answered ++ []) (l.undone ++ []) = l
    rw [List.append_nil, List.append_nil]
  rw [booksOf_concat, henter, Books.update_id]

end SqlLayer.Session
