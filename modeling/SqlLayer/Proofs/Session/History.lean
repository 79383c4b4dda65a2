import SqlLayer.Proofs.Connection.Attaching
import SqlLayer.Proofs.Session.Events
import SqlLayer.Proofs.Session.Slots

/-!
# The books of a session

Whatever a session is told, its drivers agree with the ledgers that the events so far amount to.

* `Session.orderly_exclusively`, `Session.orderly_transaction`, `Session.orderly_sent` — the kinds
  of commands that make entries;
* `Session.orderly_step` — after a command **the books agree with the events so far**;
* `Session.orderly_run` — and so after **any run** of commands;
* `Session.orderly_finish` — at the end every driver has been left.
-/

namespace SqlLayer.Session

/-! ### Commands that need the connection for themselves -/

variable {past : List Event} {b : Books} {s : Session} {command : Command}

theorem step_of_not_isExclusive (h : command.isExclusive = false) (s : Session) :
    step command s = perform command s := by rw [step, h]; rfl

theorem step_of_isExclusive (h : command.isExclusive = true) (s : Session) :
    step command s = perform command s.dropAll := by rw [step, h]; rfl

theorem exclusively_apply (op : Op Session Unit) (s : Session) :
    exclusively op s =
      match op s with
      | (.ok _, s') => (.ok (.status s'.connection), s')
      | (.error e, s') => (.error e, s') := by
  rw [exclusively, Op.bind_apply]
  cases op s with
  | mk outcome s' => cases outcome <;> rfl

/-- Where no slot is taken, a session is in order if its connection is. -/
theorem orderly_of_slots (hslots : s.slots = []) (h : s.connection.Orderly b []) :
    s.Orderly b [] where
  sorted := by rw [hslots]; exact .nil
  connection := by rw [hslots]; exact h

theorem Orderly.connection_of_slots (h : s.Orderly b []) (hslots : s.slots = []) :
    s.connection.Orderly b [] := by
  have hconnection := h.connection
  rw [hslots] at hconnection
  exact hconnection

/-- A command that sends nothing is not answered. -/
theorem answered?_of_not_sent (hsent : command.sent? = none) :
    (eventOf command s).answered? = none := by
  rw [Event.answered?, eventOf, Command.text?, hsent]
  rfl

/-- Only commands on the whole connection attach a driver. -/
theorem installed?_of_not_isExclusive (hexclusive : command.isExclusive = false) :
    (eventOf command s).installed? = none := by
  have hcommand : ∀ c, command.installed? c = none := by
    intro c
    cases command <;> simp_all [Command.isExclusive, Command.installed?]
  rw [Event.installed?]
  split
  · exact hcommand _
  · rfl

/-- An outcome with books in order: a success may have attached a driver, a failure has not. -/
def Enters (b : Books) (installed? : Connection AnyDriver → Option Recorder) :
    Except SqlError Unit × Session → Prop
  | (.ok _, s) => s.Orderly (b.install (installed? s.connection)) []
  | (.error _, s) => s.Orderly b []

/-- A command on the whole connection, by what it does once the results are dropped. -/
theorem orderly_exclusively (hexclusive : command.isExclusive = true) {op : Op Session Unit}
    (hform : perform command = exclusively op)
    (hop : Enters (booksOf past) (fun c => command.installed? c) (op s.dropAll)) :
    (step command s).2.Orderly (booksOf (past ++ [eventOf command s])) [] := by
  have hsent : command.sent? = none := by
    cases command <;> simp_all [Command.isExclusive, Command.sent?]
  have hundone : command.undone? = none := by
    cases command <;> simp_all [Command.isExclusive, Command.undone?]
  have hstep : step command s = exclusively op s.dropAll := by
    rw [step_of_isExclusive hexclusive, hform]
  rw [booksOf_concat_of_quiet (answered?_of_not_sent hsent) hundone]
  rw [exclusively_apply] at hstep
  cases houtcome : op s.dropAll with
  | mk outcome s' =>
    rw [houtcome] at hop hstep
    cases outcome with
    | ok u =>
      have hinstalled : (eventOf command s).installed? = command.installed? s'.connection := by
        rw [Event.installed?, eventOf, hstep]
      rw [hinstalled, hstep]
      exact hop
    | error e =>
      have hinstalled : (eventOf command s).installed? = none := by
        rw [Event.installed?, eventOf, hstep]
      rw [hinstalled, Books.install_none, hstep]
      exact hop

/-- A new connection takes the place of the old one, which is closed. -/
theorem orderly_openNew (h : s.Orderly b []) (hslots : s.slots = []) (settings : Settings) :
    Enters b Connection.recorder? (openNew settings s) := by
  have hnew := (Connection.orderly_new Registry.isFresh_standard).connect settings
  rw [openNew]
  cases hform : Connection.connect settings (Connection.new Registry.standard) with
  | mk outcome c =>
    rw [hform] at hnew
    cases outcome with
    | error e => exact h
    | ok u =>
      obtain ⟨hclosed, hslot⟩ := (h.connection_of_slots hslots).close
      exact orderly_of_slots (s := ⟨_, s.slots⟩) hslots (hclosed.supersede hslot hnew)

/-- A command on the connection alone, once the results are dropped. -/
theorem orderly_onConnection (hslots : s.slots = []) {op : Op (Connection AnyDriver) Unit}
    {installed? : Connection AnyDriver → Option Recorder}
    (hop : match op s.connection with
      | (.ok _, c) => c.Orderly (b.install (installed? c)) []
      | (.error _, c) => c.Orderly b []) :
    Enters b installed? (onConnection op s) := by
  rw [onConnection, Op.onPart]
  cases hform : op s.connection with
  | mk outcome c =>
    rw [hform] at hop
    cases outcome with
    | ok u => exact orderly_of_slots (s := ⟨c, s.slots⟩) hslots hop
    | error e => exact orderly_of_slots (s := ⟨c, s.slots⟩) hslots hop

/-- Settings come first. -/
theorem orderly_withSettings (h : s.Orderly b []) (entries : List (String × String))
    {next : Settings → Op Session Unit} {installed? : Connection AnyDriver → Option Recorder}
    (hnext : ∀ settings, Enters b installed? (next settings s)) :
    Enters b installed? (((Op.ask fun _ => Settings.ofEntries entries) >>= next) s) := by
  rw [Op.bind_apply, Op.ask_apply]
  cases Settings.ofEntries entries with
  | error e => exact h
  | ok settings => exact hnext settings

/-! ### Commands beside open results -/

/-- A command of which no ledger takes note. -/
theorem orderly_quiet (hexclusive : command.isExclusive = false) (hsent : command.sent? = none)
    (hundone : command.undone? = none)
    (hperform : (perform command s).2.Orderly (booksOf past) []) :
    (step command s).2.Orderly (booksOf (past ++ [eventOf command s])) [] := by
  rw [booksOf_concat_of_quiet (answered?_of_not_sent hsent) hundone,
    installed?_of_not_isExclusive hexclusive, Books.install_none,
    step_of_not_isExclusive hexclusive]
  exact hperform

/-- A statement in the middle of a rendering does not get to the driver. -/
theorem runWhileRendering_eq {c : Connection AnyDriver} (hlent : c.lent = false) (text : String) :
    Connection.runWhileRendering text c
      = (.error (if c.slot.isSome then .alreadyInUse else .noConnection), c) := by
  obtain ⟨slot, registry, tablePrefix, retired, lent, now⟩ := c
  cases hlent
  cases slot <;> rfl

/-- An operation on a transaction, with its entry. -/
theorem orderly_transaction (h : s.Orderly (booksOf past) []) (op : TransactionStep)
    (savepoint : Option String) :
    (step (.transaction op savepoint) s).2.Orderly
      (booksOf (past ++ [eventOf (.transaction op savepoint) s])) [] := by
  have hstep : (step (.transaction op savepoint) s).2
      = ⟨(Connection.transaction op savepoint s.connection).2, s.slots⟩ := by
    rw [step_of_not_isExclusive rfl]
    show (((fun _ => Reply.done) <$> onConnection (Connection.transaction op savepoint) :
      Op Session Reply) s).2 = _
    rw [Op.map_snd]
    rfl
  have henter : (eventOf (.transaction op savepoint) s).enter
      = fun l => l.enterStep op savepoint := by
    funext l
    show Ledger.mk (l.answered ++ []) (l.undone ++ _) = _
    cases op with
    | rollback =>
      by_cases hname : isSavepoint savepoint = true
      · simp [eventOf, Command.undone?, Ledger.enterStep, Ledger.undo, hname]
      · simp [eventOf, Command.undone?, Ledger.enterStep, hname]
    | begin => simp [eventOf, Command.undone?, Ledger.enterStep]
    | commit => simp [eventOf, Command.undone?, Ledger.enterStep]
  rw [booksOf_concat, installed?_of_not_isExclusive rfl, Books.install_none, henter, hstep]
  exact ⟨h.sorted, h.connection.transaction op savepoint⟩

/-- What a command does that sends a statement. -/
theorem perform_of_sent {slot : Nat} {text : Connection AnyDriver → Except SqlError String}
    (hsent : command.sent? = some (slot, text)) :
    perform command = Reply.opened <$> openIn slot (Op.ask text >>= Connection.runStatement) := by
  cases command with
  | runFragment slot e =>
    cases hsent
    rfl
  | runStatement slot text =>
    cases hsent
    rfl
  | runSelection slot calls =>
    cases hsent
    rfl
  | _ => cases hsent

theorem isExclusive_of_sent {sent : Nat × (Connection AnyDriver → Except SqlError String)}
    (hsent : command.sent? = some sent) : command.isExclusive = false := by
  cases command <;> simp_all [Command.isExclusive, Command.sent?]

/-- A command that sends a statement that can be built. -/
theorem step_of_text {slot : Nat} {text : Connection AnyDriver → Except SqlError String}
    (hsent : command.sent? = some (slot, text)) {statement : String}
    (htext : text s.connection = .ok statement) :
    step command s = (Reply.opened <$> openIn slot (Connection.runStatement statement)) s := by
  rw [step_of_not_isExclusive (isExclusive_of_sent hsent), perform_of_sent hsent, Op.map_apply,
    Op.map_apply, openIn_apply, openIn_apply, Op.bind_apply, Op.ask_apply, htext]

/-- **A statement**: its answer is entered, and a failure is not. -/
theorem orderly_sent (h : s.Orderly (booksOf past) []) {slot : Nat}
    {text : Connection AnyDriver → Except SqlError String}
    (hsent : command.sent? = some (slot, text)) :
    (step command s).2.Orderly (booksOf (past ++ [eventOf command s])) [] := by
  have hundone : (eventOf command s).command.undone? = none := by
    show command.undone? = none
    cases command <;> simp_all [Command.sent?, Command.undone?]
  have hexclusive := isExclusive_of_sent hsent
  have hinstalled := installed?_of_not_isExclusive (s := s) hexclusive
  have htext? : command.text? s.connection = (text s.connection).toOption := by
    rw [Command.text?, hsent]
    rfl
  cases htext : text s.connection with
  | error e =>
    have hanswered : (eventOf command s).answered? = none := by
      rw [Event.answered?, eventOf, htext?, htext]
      rfl
    rw [booksOf_concat_of_quiet hanswered hundone, hinstalled, Books.install_none,
      step_of_not_isExclusive hexclusive, perform_of_sent hsent, Op.map_snd, openIn_apply,
      Op.bind_apply, Op.ask_apply, htext]
    exact h
  | ok statement =>
    have hstep := step_of_text hsent htext
    rw [Op.map_apply] at hstep
    have hopen := h.openIn
      (fun k => (booksOf past).update s.connection.current? fun l => l.answer statement k) slot
      (h.connection.runStatement statement)
    cases hform : openIn slot (Connection.runStatement statement) s with
    | mk outcome s' =>
      rw [hform] at hstep hopen
      cases outcome with
      | error e =>
        have hanswered : (eventOf command s).answered? = none := by
          rw [Event.answered?, eventOf, htext?, htext, hstep]
          rfl
        rw [booksOf_concat_of_quiet hanswered hundone, hinstalled, Books.install_none, hstep]
        exact hopen
      | ok o =>
        have henter : (eventOf command s).enter = fun l => l.answer statement o.handle := by
          have hanswered : (eventOf command s).answered? = some (statement, o.handle) := by
            rw [Event.answered?, eventOf, htext?, htext, hstep]
            rfl
          funext l
          rw [Event.enter, hanswered, hundone]
          show Ledger.mk _ (l.undone ++ []) = _
          rw [List.append_nil]
          rfl
        rw [booksOf_concat, hinstalled, Books.install_none, henter, hstep]
        exact hopen

/-! ### Runs -/

/-- **After a command the books agree with the events so far.** -/
theorem orderly_step (h : s.Orderly (booksOf past) []) (hregular : command.IsRegular) :
    (step command s).2.Orderly (booksOf (past ++ [eventOf command s])) [] := by
  have hslots := slots_dropAll s
  have hdropped := h.dropAll
  have hidle := hdropped.connection_of_slots hslots
  cases command with
  | connect entries =>
    refine orderly_exclusively rfl rfl (orderly_withSettings hdropped entries fun settings => ?_)
    exact orderly_onConnection hslots (hidle.connect settings)
  | openNew entries =>
    refine orderly_exclusively rfl rfl (orderly_withSettings hdropped entries fun settings => ?_)
    exact orderly_openNew hdropped hslots settings
  | attach d =>
    exact orderly_exclusively rfl rfl (orderly_onConnection hslots (hidle.attach hregular))
  | disconnect =>
    refine orderly_exclusively rfl rfl (orderly_onConnection hslots ?_)
    have hleft := hidle.disconnect.1
    cases hform : Connection.disconnect s.dropAll.connection with
    | mk outcome c =>
      rw [hform] at hleft
      cases outcome with
      | ok u => exact hleft.install_none
      | error e => exact hleft
  | setTablePrefix tablePrefix =>
    refine orderly_exclusively rfl rfl (orderly_onConnection hslots ?_)
    exact (hidle.reconfigure tablePrefix hidle.registry).install_none
  | register name fresh =>
    refine orderly_exclusively rfl rfl (orderly_onConnection hslots ?_)
    exact (hidle.reconfigure s.dropAll.connection.tablePrefix
      (hidle.registry.register hregular name)).install_none
  | state => exact orderly_quiet rfl rfl rfl h
  | log => exact orderly_quiet rfl rfl rfl h
  | statements => exact orderly_quiet rfl rfl rfl h
  | clearLog => exact absurd hregular id
  | escape v tag => exact orderly_quiet rfl rfl rfl h
  | render e => exact orderly_quiet rfl rfl rfl h
  | transaction op savepoint => exact orderly_transaction h op savepoint
  | generatedId sequence =>
    refine orderly_quiet rfl rfl rfl ?_
    show ((Reply.number <$> onConnection (Connection.generatedId sequence) : Op Session Reply)
      s).2.Orderly _ _
    rw [Op.map_snd]
    show (⟨(Connection.askDriver _ s.connection).2, s.slots⟩ : Session).Orderly _ _
    rw [Connection.askDriver_snd]
    exact h
  | runFragment slot e => exact orderly_sent h rfl
  | runStatement slot text => exact orderly_sent h rfl
  | runSelection slot calls => exact orderly_sent h rfl
  | runWhileRendering text =>
    refine orderly_quiet rfl rfl rfl ?_
    show (((fun _ => Reply.done) <$> onConnection (Connection.runWhileRendering text) :
      Op Session Reply) s).2.Orderly _ _
    rw [Op.map_snd]
    show (⟨(Connection.runWhileRendering text s.connection).2, s.slots⟩ : Session).Orderly _ _
    rw [runWhileRendering_eq h.connection.lent]
    exact h
  | free slot =>
    refine orderly_quiet rfl rfl rfl ?_
    show (freeSlot slot s).2.Orderly _ _
    rw [freeSlot]
    split
    · exact h
    · rw [Op.map_snd]
      exact h.free ‹_›
  | drop slot => exact orderly_quiet rfl rfl rfl (h.drop slot)
  | read slot command =>
    refine orderly_quiet rfl rfl rfl ?_
    show (readSlot slot command s).2.Orderly _ _
    rw [readSlot]
    split
    · exact h
    · exact h.read ‹_› command

/-- **After any run of commands the books agree with its events.** -/
theorem orderly_run (commands : List Command) (hregular : ∀ command ∈ commands, command.IsRegular)
    (h : s.Orderly (booksOf past) []) :
    (run commands s).2.Orderly (booksOf (past ++ events commands s)) [] := by
  induction commands generalizing past s with
  | nil =>
    rw [events, List.append_nil]
    exact h
  | cons command commands ih =>
    have hstep := orderly_step h (hregular command (List.mem_cons_self ..))
    have hrest := ih (fun c hc => hregular c (List.mem_cons_of_mem _ hc)) hstep
    rw [List.append_assoc] at hrest
    exact hrest

/-- A session before its first command. -/
def start (g : Registry AnyDriver) : Session := Session.new (Connection.new g)

/-- The books of a run from the first command on. -/
theorem orderly_of_start {g : Registry AnyDriver} (hg : g.IsFresh) (commands : List Command)
    (hregular : ∀ command ∈ commands, command.IsRegular) :
    (run commands (start g)).2.Orderly (booksOf (events commands (start g))) [] := by
  have hstart : (start g).Orderly (booksOf []) [] :=
    orderly_of_slots rfl (Connection.orderly_new hg)
  exact orderly_run commands hregular hstart

/-- **At the end every driver has been left.** -/
theorem orderly_finish (h : s.Orderly b []) :
    (finish s).connection.Orderly b [] ∧ (finish s).connection.slot = none :=
  (h.dropAll.connection_of_slots (slots_dropAll s)).close

/-- The drivers of a session are those of its connection. -/
theorem recorders_eq (s : Session) : s.recorders = s.connection.recorders := by
  rw [Session.recorders, List.filterMap_append, Connection.recorders, Connection.former]
  congr 1
  rw [Connection.recorder?]
  cases s.connection.slot with
  | none => rfl
  | some d => cases d <;> rfl

/-- At the end all drivers have been left. -/
theorem recorders_finish (h : s.Orderly b []) :
    (finish s).recorders = (finish s).connection.former := by
  rw [recorders_eq]
  exact Connection.recorders_of_none (Connection.recorder?_of_empty (orderly_finish h).2)

end SqlLayer.Session
