import Mathlib.Data.List.Forall2

/-!
# Steps that may fail, one after another

What the success of a composition says about its steps.

* `exists_of_bind_eq_ok` — both steps succeeded, the second one on what the first one gave;
* `mapM_eq_ok_iff` — a traversal succeeds **item by item**;
* `map_foldlM` — what commutes with one step of a run commutes with the run.
-/

namespace SqlLayer

variable {ε α β : Type}

theorem exists_of_bind_eq_ok {step : Except ε α} {next : α → Except ε β} {b : β}
    (h : step >>= next = .ok b) : ∃ a, step = .ok a ∧ next a = .ok b := by
  cases step with
  | error e => exact nomatch h
  | ok a => exact ⟨a, rfl, h⟩

theorem mapM_eq_ok_iff {f : α → Except ε β} {items : List α} {results : List β} :
    items.mapM f = .ok results ↔ List.Forall₂ (fun a b => f a = .ok b) items results := by
  constructor
  · intro h
    induction items generalizing results with
    | nil =>
      obtain rfl := Except.ok.inj h
      exact .nil
    | cons a rest ih =>
      rw [List.mapM_cons] at h
      obtain ⟨b, hfirst, h⟩ := exists_of_bind_eq_ok h
      obtain ⟨bs, hrest, h⟩ := exists_of_bind_eq_ok h
      obtain rfl := Except.ok.inj h
      exact .cons hfirst (ih hrest)
  · intro h
    induction h with
    | nil => rfl
    | cons hfirst _ ih =>
      rw [List.mapM_cons, hfirst, ih]
      rfl

/-- Every item of a traversal that succeeds has its result. -/
theorem exists_of_mapM_eq_ok {f : α → Except ε β} {items : List α} {results : List β}
    (h : items.mapM f = .ok results) {a : α} (ha : a ∈ items) : ∃ b, f a = .ok b := by
  have hall := mapM_eq_ok_iff.1 h
  clear h
  induction hall with
  | nil => exact absurd ha List.not_mem_nil
  | cons hfirst _ ih =>
    obtain rfl | hrest := List.mem_cons.1 ha
    · exact ⟨_, hfirst⟩
    · exact ih hrest

/-- A traversal depends on what is done with its items only. -/
theorem mapM_congr {f g : α → Except ε β} {items : List α} (h : ∀ a ∈ items, f a = g a) :
    items.mapM f = items.mapM g := by
  induction items with
  | nil => rfl
  | cons a rest ih =>
    rw [List.mapM_cons, List.mapM_cons, h a List.mem_cons_self,
      ih fun b hb => h b (List.mem_cons_of_mem a hb)]

/-- A view of the state under which every step is a step on a view of its item. -/
theorem map_foldlM {σ τ : Type} {f : σ → α → Except ε σ} {g : τ → β → Except ε τ} {state : σ → τ}
    {item : α → β} (h : ∀ s a, (f s a).map state = g (state s) (item a)) (items : List α) (s : σ) :
    (items.foldlM f s).map state = (items.map item).foldlM g (state s) := by
  induction items generalizing s with
  | nil => rfl
  | cons a rest ih =>
    rw [List.foldlM_cons, List.map_cons, List.foldlM_cons, ← h]
    cases hstep : f s a with
    | error e => rfl
    | ok s' => exact ih s'

end SqlLayer
