import SqlLayer.Connection
import SqlLayer.Proofs.Op

/-!
# Connecting

A connection connects in three steps, each of which may fail: the driver in place is disconnected
where it is connected, a fresh one is created, and the fresh one connects.  A failure of a later
step does not take back what an earlier one did.

* `Connection.Leaves` — what leaving the driver in place can do;
* `Connection.Places` — what creating and connecting a fresh driver can do;
* `Connection.FailedToConnect`, `Connection.Connected` — how the connection stands afterwards;
* `Connection.connect_outcome` — **it stands in one of these two ways**, whatever the drivers do.
-/

namespace SqlLayer.Connection

variable {δ : Type} [Driver δ] {s : Settings} {c c₁ c' : Connection δ}

/-! ### Leaving the driver in place -/

/-- Leaving the driver in place: one that is not connected stays, a connected one is disconnected
and put away, also where it fails to disconnect. -/
inductive Leaves (c : Connection δ) : Except SqlError Unit → Connection δ → Prop
  | idle : c.isConnected = false → Leaves c (.ok ()) c
  | left (driver : δ) : c.slot = some driver → Driver.isConnected driver = true →
      Leaves c (Driver.disconnect driver).1
        { c with slot := none, retired := c.retired ++ [(Driver.disconnect driver).2] }

theorem isConnected_of_slot {driver : δ} (hslot : c.slot = some driver) :
    c.isConnected = Driver.isConnected driver := by
  rw [isConnected, hslot]
  rfl

theorem isConnected_of_empty (hslot : c.slot = none) : c.isConnected = false := by
  rw [isConnected, hslot]
  rfl

theorem leaves_leave (c : Connection δ) : Leaves c (leave c).1 (leave c).2 := by
  cases hconnected : c.isConnected with
  | false =>
    rw [leave, hconnected]
    exact .idle hconnected
  | true =>
    cases hslot : c.slot with
    | none =>
      rw [isConnected_of_empty hslot] at hconnected
      cases hconnected
    | some driver =>
      rw [leave, hconnected, if_pos rfl, disconnect, hslot]
      exact .left driver hslot (isConnected_of_slot hslot ▸ hconnected)

section

variable {outcome : Except SqlError Unit}

theorem Leaves.registry (h : Leaves c outcome c₁) : c₁.registry = c.registry := by
  cases h <;> rfl

theorem Leaves.tablePrefix (h : Leaves c outcome c₁) : c₁.tablePrefix = c.tablePrefix := by
  cases h <;> rfl

/-- Either way no connected driver is left. -/
theorem Leaves.isConnected (h : Leaves c outcome c₁) : c₁.isConnected = false := by
  cases h with
  | idle hidle => exact hidle
  | left driver hslot hconnected => exact isConnected_of_empty rfl

theorem Leaves.eq_of_idle (h : Leaves c outcome c₁) (hidle : c.isConnected = false) :
    outcome = .ok () ∧ c₁ = c := by
  cases h with
  | idle => exact ⟨rfl, rfl⟩
  | left driver hslot hconnected =>
    rw [isConnected_of_slot hslot, hconnected] at hidle
    cases hidle

/-- A connected driver is disconnected once and put away. -/
theorem Leaves.of_connected (h : Leaves c outcome c₁) {driver : δ} (hslot : c.slot = some driver)
    (hconnected : Driver.isConnected driver = true) :
    outcome = (Driver.disconnect driver).1 ∧ c₁.slot = none ∧
      c₁.retired = c.retired ++ [(Driver.disconnect driver).2] := by
  cases h with
  | idle hidle =>
    rw [isConnected_of_slot hslot, hconnected] at hidle
    cases hidle
  | left driver' hslot' hconnected' =>
    obtain rfl : driver = driver' := Option.some.inj (hslot.symm.trans hslot')
    exact ⟨rfl, rfl, rfl⟩

end

/-! ### A fresh driver -/

/-- Creating a fresh driver and connecting it: only one that has connected gets the place. -/
inductive Places (s : Settings) (c : Connection δ) : Except SqlError Unit → Connection δ → Prop
  | unknown (e : SqlError) : c.registry.create s.driver = .error e → Places s c (.error e) c
  | refused (fresh tried : δ) (e : SqlError) : c.registry.create s.driver = .ok fresh →
      Driver.connect s.parameters fresh = (.error e, tried) →
      Places s c (.error e) { c with retired := c.retired ++ [tried] }
  | placed (fresh new : δ) : c.registry.create s.driver = .ok fresh →
      Driver.connect s.parameters fresh = (.ok (), new) →
      Places s c (.ok ()) { c.vacate with slot := some new, tablePrefix := s.tablePrefix }

/-- The steps behind the leaving. -/
def place (s : Settings) : Op (Connection δ) Unit :=
  Op.ask (fun c => c.registry.create s.driver) >>= install s

theorem connect_eq (s : Settings) :
    (connect s : Op (Connection δ) Unit) = leave >>= fun _ => place s := rfl

theorem places_place (s : Settings) (c : Connection δ) :
    Places s c (place s c).1 (place s c).2 := by
  rw [place, Op.bind_apply, Op.ask_apply]
  cases hcreate : c.registry.create s.driver with
  | error e => exact .unknown e hcreate
  | ok fresh =>
    simp only [install]
    cases hconnect : Driver.connect s.parameters fresh with
    | mk outcome driver =>
      cases outcome with
      | error e => exact .refused fresh driver e hcreate hconnect
      | ok _ => exact .placed fresh driver hcreate hconnect

/-- A fresh driver that does not connect leaves everything else as it is. -/
theorem Places.of_error {e : SqlError} (h : Places s c (.error e) c') :
    c'.slot = c.slot ∧ c'.registry = c.registry ∧ c'.tablePrefix = c.tablePrefix ∧
      ∃ tried : List δ, c'.retired = c.retired ++ tried := by
  cases h with
  | unknown => exact ⟨rfl, rfl, rfl, [], (List.append_nil _).symm⟩
  | refused fresh tried => exact ⟨rfl, rfl, rfl, [tried], rfl⟩

/-! ### How the connection stands afterwards -/

/-- How a connection stands that failed to connect. -/
structure FailedToConnect (c c' : Connection δ) : Prop where
  tablePrefix : c'.tablePrefix = c.tablePrefix
  registry : c'.registry = c.registry
  unconnected : c'.isConnected = false
  /-- A connected driver was disconnected once, and its place is empty.  Behind it there may be a
  fresh driver that did not connect. -/
  emptied : ∀ driver, c.slot = some driver → Driver.isConnected driver = true →
    c'.slot = none ∧
      ∃ tried : List δ, c'.retired = c.retired ++ (Driver.disconnect driver).2 :: tried
  /-- A driver that was not connected is still in its place, as it was. -/
  kept : c.isConnected = false → c'.slot = c.slot

/-- How a connection stands that connected. -/
structure Connected (s : Settings) (c c₁ : Connection δ) (fresh new : δ) (c' : Connection δ) :
    Prop where
  /-- First the driver in place was left. -/
  left : leave c = (.ok (), c₁)
  disconnected : ∀ driver, c.slot = some driver → Driver.isConnected driver = true →
    (Driver.disconnect driver).1 = .ok () ∧ c₁.slot = none ∧
      c₁.retired = c.retired ++ [(Driver.disconnect driver).2]
  idle : c.isConnected = false → c₁ = c
  /-- Then the fresh driver was created, and connected with the parameters of the settings. -/
  created : c₁.registry.create s.driver = .ok fresh
  connected : Driver.connect s.parameters fresh = (.ok (), new)
  slot : c'.slot = some new
  retired : c'.retired = c₁.retired ++ c₁.slot.toList
  tablePrefix : c'.tablePrefix = s.tablePrefix
  registry : c'.registry = c.registry

/-- A connection that could not leave its driver. -/
theorem Leaves.failedToConnect {e : SqlError} (h : Leaves c (.error e) c') :
    FailedToConnect c c' where
  tablePrefix := h.tablePrefix
  registry := h.registry
  unconnected := h.isConnected
  emptied driver hslot hconnected := by
    obtain ⟨-, hempty, hretired⟩ := h.of_connected hslot hconnected
    exact ⟨hempty, [], hretired⟩
  kept hidle := by rw [(h.eq_of_idle hidle).2]

/-- A connection that left its driver and found no other one. -/
theorem Places.failedToConnect {e : SqlError} (hleft : Leaves c (.ok ()) c₁)
    (h : Places s c₁ (.error e) c') : FailedToConnect c c' := by
  obtain ⟨hslot, hregistry, hnames, tried, hretired⟩ := h.of_error
  refine ⟨hnames.trans hleft.tablePrefix, hregistry.trans hleft.registry, ?_, ?_, ?_⟩
  · rw [isConnected, hslot]
    exact hleft.isConnected
  · intro driver hdriver hconnected
    obtain ⟨-, hempty, hput⟩ := hleft.of_connected hdriver hconnected
    refine ⟨hslot.trans hempty, tried, ?_⟩
    rw [hretired, hput, List.append_assoc]
    rfl
  · intro hidle
    rw [hslot, (hleft.eq_of_idle hidle).2]

/-- A connection whose fresh driver got the place. -/
theorem Places.connected (hleave : leave c = (.ok (), c₁)) (hleft : Leaves c (.ok ()) c₁)
    (h : Places s c₁ (.ok ()) c') : ∃ fresh new, Connected s c c₁ fresh new c' := by
  cases h with
  | placed fresh new hcreate hconnect =>
    refine ⟨fresh, new, hleave, fun driver hslot hconnected => ?_,
      fun hidle => (hleft.eq_of_idle hidle).2, hcreate, hconnect, rfl, rfl, rfl, hleft.registry⟩
    obtain ⟨hok, hrest⟩ := hleft.of_connected hslot hconnected
    exact ⟨hok.symm, hrest⟩

/-- **A connection that is to connect stands well afterwards**, whichever of the steps fails and
whatever was in place before. -/
theorem connect_outcome (s : Settings) (c : Connection δ) :
    (∀ e c', connect s c = (.error e, c') → FailedToConnect c c') ∧
      ∀ c', connect s c = (.ok (), c') → ∃ c₁ fresh new, Connected s c c₁ fresh new c' := by
  have hleft := leaves_leave c
  rw [connect_eq]
  cases hleave : leave c with
  | mk outcome c₁ =>
    rw [hleave] at hleft
    cases outcome with
    | error e =>
      rw [Op.bind_of_error hleave]
      refine ⟨fun e' c' h => ?_, fun c' h => nomatch h⟩
      obtain ⟨-, rfl⟩ := Prod.mk.inj h
      exact hleft.failedToConnect
    | ok _ =>
      rw [Op.bind_of_ok hleave]
      have hplaced := places_place s c₁
      refine ⟨fun e c' h => ?_, fun c' h => ?_⟩
      · rw [h] at hplaced
        exact hplaced.failedToConnect hleft
      · rw [h] at hplaced
        exact ⟨c₁, hplaced.connected hleave hleft⟩

/-- No driver has the name that is asked for, and the one in place was connected. -/
theorem connect_outcome_unknown :
    let driver := AnyDriver.recording (Recorder.new ⟨[], [], false, false, 0⟩)
    let c : Connection AnyDriver := { new Registry.standard with slot := some driver }
    Driver.isConnected driver = true ∧
      (connect (Settings.new "other") c).1 = .error (.unknownDriver "other") ∧
      (connect (Settings.new "other") c).2.slot = none ∧
      ∃ tried : List AnyDriver, (connect (Settings.new "other") c).2.retired
        = (Driver.disconnect driver).2 :: tried := by
  intro driver c
  have hconnected : Driver.isConnected driver = true := rfl
  have herror : (connect (Settings.new "other") c).1 = .error (.unknownDriver "other") := by rfl
  have hfailed : FailedToConnect c (connect (Settings.new "other") c).2 :=
    (connect_outcome (Settings.new "other") c).1 _ _ (Prod.ext herror rfl)
  exact ⟨hconnected, herror, hfailed.emptied driver rfl hconnected⟩

end SqlLayer.Connection
