import SqlLayer.Proofs.Outcome
import SqlLayer.Settings

/-!
# The password stays out of diagnostics

Hiding the passwords among the entries and hiding the password of the settings that are read from
them come to the same, and diagnostics show the settings as if it were hidden.  So **two lists of
entries that differ in passwords only cannot be told apart** by errors or diagnostics.

* `Settings.Draft.read_hide` — one entry, with the passwords hidden before or behind it;
* `Settings.ofEntries_hide` — a whole list of entries;
* `Settings.inspect_hidePassword` — diagnostics of settings with a hidden password;
* `Settings.Indistinct`, `Settings.ofEntries_indistinct` — **the statement about two lists**.
-/

namespace SqlLayer.Settings

/-- What stands for a password. -/
def hiddenPassword : String := "***"

/-- Settings of which is only told whether there is a password. -/
def hidePassword (s : Settings) : Settings :=
  { s with password := s.password.map fun _ => hiddenPassword }

/-- An entry without its password. -/
def hideEntry (e : String × String) : String × String :=
  if e.1 = "password" then (e.1, hiddenPassword) else e

/-- A draft without its password. -/
def Draft.hide (d : Draft) : Draft := { d with settings := d.settings.hidePassword }

/-! ### Reading -/

/-- **Reading an entry commutes with hiding the passwords**: no other field and no error depends on
them. -/
theorem Draft.read_hide (d : Draft) (e : String × String) :
    (d.read e.1 e.2).map Draft.hide = d.hide.read (hideEntry e).1 (hideEntry e).2 := by
  obtain ⟨key, value⟩ := e
  by_cases hpassword : key = "password"
  · subst hpassword
    rfl
  · rw [show hideEntry (key, value) = (key, value) from if_neg hpassword]
    by_cases hport : key = "port"
    · subst hport
      cases hread : readPort? value with
      | none => simp [Draft.read, hread, Except.map]
      | some port => simp [Draft.read, hread, Except.map, Draft.hide, hidePassword]
    · simp only [Draft.read, hpassword, hport, if_false]
      split_ifs <;> rfl

theorem ofEntries_hide (entries : List (String × String)) :
    (ofEntries entries).map hidePassword = ofEntries (entries.map hideEntry) := by
  have hrun : (entries.foldlM (fun (d : Draft) e => d.read e.1 e.2) ⟨none, new ""⟩).map Draft.hide
      = (entries.map hideEntry).foldlM (fun (d : Draft) e => d.read e.1 e.2) ⟨none, new ""⟩ :=
    map_foldlM Draft.read_hide entries (Draft.mk none (new ""))
  rw [ofEntries, ofEntries, ← hrun]
  cases entries.foldlM (fun (d : Draft) e => d.read e.1 e.2) ⟨none, new ""⟩ with
  | error e => rfl
  | ok d =>
    obtain ⟨driver, settings⟩ := d
    cases driver with
    | none => rfl
    | some driver =>
      by_cases hempty : driver = ""
      · simp [bind, Except.bind, Except.map, Draft.hide, hempty]
      · simp [bind, Except.bind, Except.map, Draft.hide, hempty, hidePassword]

/-! ### Diagnostics -/

/-- A password shows as three asterisks, whatever it is. -/
theorem inspectParameters_hide (server username password database : Option String)
    (port : Option UInt16) (options : OrderedMap String) :
    inspectParameters server username (password.map fun _ => hiddenPassword) database port options
      = inspectParameters server username password database port options := by
  cases password <;> rfl

theorem inspect_hidePassword (s : Settings) : s.hidePassword.inspect = s.inspect := by
  rw [inspect, inspect, hidePassword, inspectParameters_hide]

theorem inspect_parameters_hidePassword (s : Settings) :
    s.hidePassword.parameters.inspect = s.parameters.inspect := by
  rw [Parameters.inspect, Parameters.inspect, parameters, parameters, hidePassword,
    inspectParameters_hide]

/-! ### Two lists of entries -/

/-- Entries with one key, and with one value unless that is a password. -/
def SameButPassword (e e' : String × String) : Prop :=
  e.1 = e'.1 ∧ (e.1 ≠ "password" → e.2 = e'.2)

/-- Outcomes that no error text and no diagnostics tell apart. -/
inductive Indistinct : Except SqlError Settings → Except SqlError Settings → Prop
  | error (e : SqlError) : Indistinct (.error e) (.error e)
  | settings {s t : Settings} (connection : s.inspect = t.inspect)
      (driver : s.parameters.inspect = t.parameters.inspect)
      (fields : { s with password := t.password } = t) : Indistinct (.ok s) (.ok t)

theorem hideEntry_congr {e e' : String × String} (h : SameButPassword e e') :
    hideEntry e = hideEntry e' := by
  obtain ⟨key, value⟩ := e
  obtain ⟨key', value'⟩ := e'
  obtain ⟨rfl : key = key', hvalue⟩ := h
  by_cases hpassword : key = "password"
  · rw [hideEntry, hideEntry, if_pos hpassword, if_pos hpassword]
  · rw [hideEntry, hideEntry, if_neg hpassword, if_neg hpassword,
      show value = value' from hvalue hpassword]

theorem map_hideEntry_congr {entries entries' : List (String × String)}
    (h : List.Forall₂ SameButPassword entries entries') :
    entries.map hideEntry = entries'.map hideEntry := by
  induction h with
  | nil => rfl
  | cons hfirst _ ih => rw [List.map_cons, List.map_cons, hideEntry_congr hfirst, ih]

/-- Settings that are the same with their passwords hidden. -/
theorem indistinct_of_hidePassword {s t : Settings} (h : s.hidePassword = t.hidePassword) :
    Indistinct (.ok s) (.ok t) := by
  refine .settings ?_ ?_ ?_
  · rw [← inspect_hidePassword, h, inspect_hidePassword]
  · rw [← inspect_parameters_hidePassword, h, inspect_parameters_hidePassword]
  · have hfields := congrArg (fun s : Settings => { s with password := t.password }) h
    exact hfields

/-- **Lists of entries that differ in passwords only cannot be told apart** by what reading them
reports or by the diagnostics of what is read. -/
theorem ofEntries_indistinct {entries entries' : List (String × String)}
    (h : List.Forall₂ SameButPassword entries entries') :
    Indistinct (ofEntries entries) (ofEntries entries') := by
  have hhidden : (ofEntries entries).map hidePassword = (ofEntries entries').map hidePassword := by
    rw [ofEntries_hide, ofEntries_hide, map_hideEntry_congr h]
  cases hfirst : ofEntries entries with
  | error e =>
    rw [hfirst] at hhidden
    cases hsecond : ofEntries entries' with
    | error e' =>
      rw [hsecond] at hhidden
      obtain rfl := Except.error.inj hhidden
      exact .error e
    | ok t =>
      rw [hsecond] at hhidden
      exact nomatch hhidden
  | ok s =>
    rw [hfirst] at hhidden
    cases hsecond : ofEntries entries' with
    | error e' =>
      rw [hsecond] at hhidden
      exact nomatch hhidden
    | ok t =>
      rw [hsecond] at hhidden
      exact indistinct_of_hidePassword (Except.ok.inj hhidden)

/-- Two passwords, the first of which is replaced by a later entry. -/
theorem ofEntries_indistinct_replaced :
    let entries := [("password", "a"), ("type", "mysql"), ("password", "hunter2")]
    let entries' := [("password", "b"), ("type", "mysql"), ("password", "letmein")]
    List.Forall₂ SameButPassword entries entries' ∧
      Indistinct (ofEntries entries) (ofEntries entries') ∧
      (ofEntries entries).map password = .ok (some "hunter2") ∧
      (ofEntries entries').map password = .ok (some "letmein") := by
  intro entries entries'
  have hsame : List.Forall₂ SameButPassword entries entries' :=
    .cons ⟨rfl, by decide⟩ (.cons ⟨rfl, fun _ => rfl⟩ (.cons ⟨rfl, by decide⟩ .nil))
  exact ⟨hsame, ofEntries_indistinct hsame, rfl, rfl⟩

end SqlLayer.Settings
