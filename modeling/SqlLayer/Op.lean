import SqlLayer.Error

/-!
# Operations on a state

An operation takes a state to an outcome and the state after it. A failed operation leaves a state
too, and the next one goes on from there.
-/

namespace SqlLayer

/-- An operation on states of type `σ` that gives an `α` or fails. -/
def Op (σ α : Type) : Type := σ → Except SqlError α × σ

namespace Op

variable {σ τ α β : Type}

/-- Gives a value and changes nothing. -/
def done (a : α) : Op σ α := fun s => (.ok a, s)

/-- Fails and changes nothing. -/
def fail (e : SqlError) : Op σ α := fun s => (.error e, s)

/-- One operation after another; the second one starts only if the first one succeeds. -/
def andThen (op : Op σ α) (next : α → Op σ β) : Op σ β := fun s =>
  match op s with
  | (.ok a, s) => next a s
  | (.error e, s) => (.error e, s)

instance : Monad (Op σ) where
  pure := done
  bind := andThen

@[simp] theorem pure_apply (a : α) (s : σ) : (pure a : Op σ α) s = (.ok a, s) := rfl

@[simp] theorem fail_apply (e : SqlError) (s : σ) : (fail e : Op σ α) s = (.error e, s) := rfl

theorem bind_apply (op : Op σ α) (next : α → Op σ β) (s : σ) :
    (op >>= next) s =
      match op s with
      | (.ok a, s) => next a s
      | (.error e, s) => (.error e, s) := rfl

/-- Answers from the state without changing it. -/
def ask (f : σ → Except SqlError α) : Op σ α := fun s => (f s, s)

@[simp] theorem ask_apply (f : σ → Except SqlError α) (s : σ) : ask f s = (f s, s) := rfl

/-- Changes the state. -/
def update (f : σ → σ) : Op σ Unit := fun s => (.ok (), f s)

@[simp] theorem update_apply (f : σ → σ) (s : σ) : update f s = (.ok (), f s) := rfl

/-- An operation on a part of a state: `put` is the state with the part after the operation. -/
def onPart (op : Op σ α) (part : σ) (put : σ → τ) : Except SqlError α × τ :=
  let (outcome, part) := op part
  (outcome, put part)

end Op

end SqlLayer
