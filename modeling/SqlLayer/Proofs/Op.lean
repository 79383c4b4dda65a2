import SqlLayer.Op

/-!
# Operations that keep a property of the state

An operation `Keeps` a property if it holds of the state afterwards whenever it held before, **also
where the operation fails**.  What is composed of such operations is one itself.
-/

namespace SqlLayer.Op

variable {σ α β : Type} {p : σ → Prop}

/-- Behind an operation that succeeds. -/
theorem bind_of_ok {op : Op σ α} {next : α → Op σ β} {s s' : σ} {a : α} (h : op s = (.ok a, s')) :
    (op >>= next) s = next a s' := by
  rw [bind_apply, h]

/-- Behind an operation that fails nothing is done. -/
theorem bind_of_error {op : Op σ α} {next : α → Op σ β} {s s' : σ} {e : SqlError}
    (h : op s = (.error e, s')) : (op >>= next) s = (.error e, s') := by
  rw [bind_apply, h]

/-- What an operation gives, turned into something else. -/
theorem map_apply (f : α → β) (op : Op σ α) (s : σ) :
    (f <$> op) s = ((op s).1.map f, (op s).2) := by
  show (op >>= fun a => pure (f a)) s = _
  rw [bind_apply]
  cases op s with
  | mk outcome s' => cases outcome <;> rfl

theorem map_snd (f : α → β) (op : Op σ α) (s : σ) : ((f <$> op) s).2 = (op s).2 := by
  rw [map_apply]

/-- Where an operation succeeds behind which its value is turned into something else. -/
theorem exists_of_map_eq_ok {f : α → β} {op : Op σ α} {s s' : σ} {b : β}
    (h : (f <$> op) s = (.ok b, s')) : ∃ a, op s = (.ok a, s') ∧ f a = b := by
  rw [map_apply] at h
  cases hop : op s with
  | mk outcome s'' =>
    rw [hop] at h
    cases outcome with
    | error e => cases h
    | ok a =>
      cases h
      exact ⟨a, rfl, rfl⟩

/-- An operation after which a property still holds, whatever the outcome. -/
def Keeps (p : σ → Prop) (op : Op σ α) : Prop := ∀ s, p s → p (op s).2

theorem keeps_pure (a : α) : Keeps p (pure a : Op σ α) := fun _ hs => hs

theorem keeps_ask (f : σ → Except SqlError α) : Keeps p (ask f) := fun _ hs => hs

theorem Keeps.map {op : Op σ α} (hop : Keeps p op) (f : α → β) : Keeps p (f <$> op) := by
  intro s hs
  rw [map_snd]
  exact hop s hs

/-- One operation after another. -/
theorem Keeps.bind {op : Op σ α} {next : α → Op σ β} (hop : Keeps p op)
    (hnext : ∀ a, Keeps p (next a)) : Keeps p (op >>= next) := by
  intro s hs
  have hfirst := hop s hs
  rw [bind_apply]
  cases hform : op s with
  | mk outcome s' =>
    rw [hform] at hfirst
    cases outcome with
    | error e => exact hfirst
    | ok a => exact hnext a s' hfirst

end SqlLayer.Op
