import SqlLayer.Proofs.Selection.Aliases
import SqlLayer.Selection.Sql

/-!
# Calls about different clauses

Every call is about one clause of the statement.  It neither reads nor changes the others, so calls
about different clauses may be made in any order.

* `Call.clause`, `Selection.part` — the clause of a call, and a selection cut down to one clause;
* `Selection.apply_part` — **a call sees its own clause only**;
* `Selection.part_apply_of_ne` — and leaves the others alone;
* `Selection.history_filter`, `Selection.part_run` — what becomes of a clause in a run **is what the
  calls about it make of it**, as if there were no others;
* `Selection.run_orderFree` — the order of calls about different clauses does not matter.
-/

namespace SqlLayer

namespace Selection

/-- The clauses of a statement that calls are about. The tables come with their fields. -/
inductive Clause where
  | tables
  | conditions
  | having
  | group
  | order
  | limit
  | distinct
  deriving DecidableEq

/-- The clause that a call is about. -/
def Call.clause : Call → Clause
  | .source .. | .join .. | .column _ => .tables
  | .condition _ => .conditions
  | .having _ => .having
  | .group _ => .group
  | .order _ => .order
  | .limit .. => .limit
  | .distinct => .distinct

/-- A selection cut down to one clause. -/
def part (c : Clause) (s : Selection) : Selection :=
  match c with
  | .tables =>
    { empty with
      tables := s.tables
      aliases := s.aliases
      namedTables := s.namedTables
      nextField := s.nextField }
  | .conditions => { empty with conditions := s.conditions }
  | .having => { empty with having := s.having }
  | .group => { empty with group := s.group }
  | .order => { empty with order := s.order }
  | .limit => { empty with limit := s.limit }
  | .distinct => { empty with distinct := s.distinct }

variable {tablePrefix : String} {s t : Selection}

@[simp] theorem part_empty (c : Clause) : empty.part c = empty := by
  cases c <;> rfl

/-- A selection is known from its clauses. -/
theorem eq_of_part (h : ∀ c, s.part c = t.part c) : s = t := by
  have htables := h .tables
  have hconditions := h .conditions
  have hhaving := h .having
  have hgroup := h .group
  have horder := h .order
  have hlimit := h .limit
  have hdistinct := h .distinct
  cases s
  cases t
  simp_all [part]

/-! ### Tables -/

theorem placeFor_part (name tableAlias : String) (role : TablePart) (s : Selection) :
    (s.part .tables).placeFor name tableAlias role
      = ((s.placeFor name tableAlias role).1,
          (s.placeFor name tableAlias role).2.part .tables) := by
  have haliases : (s.part .tables).aliases = s.aliases := rfl
  simp only [placeFor, haliases]
  cases s.aliases.get? tableAlias <;> rfl

theorem includeFields_part (index : Nat) (specs : List OutputColumn) (s : Selection) :
    (s.part .tables).includeFields index specs = (s.includeFields index specs).part .tables := by
  induction specs generalizing s with
  | nil => rfl
  | cons spec specs ih => exact ih (s.includeField index spec)

theorem declare_part (table : TableRef) (role : TablePart) (fields : List OutputColumn)
    (s : Selection) :
    declare tablePrefix table role fields (s.part .tables)
      = ((declare tablePrefix table role fields s).1,
          (declare tablePrefix table role fields s).2.part .tables) := by
  have hconflicts : ∀ name tableAlias,
      (s.part .tables).conflicts name tableAlias = s.conflicts name tableAlias := fun _ _ => rfl
  unfold declare
  cases table.resolve with
  | error e => rfl
  | ok spec =>
    simp only [declareTable, hconflicts, placeFor_part, includeFields_part]
    split <;> rfl

/-- What does not touch the other clauses leaves every part but the tables as it is. -/
theorem part_of_clauses (h : s.clauses = t.clauses) {c : Clause} (hc : c ≠ .tables) :
    s.part c = t.part c := by
  simp only [clauses, SelectClauses.mk.injEq] at h
  cases c <;> simp_all [part]

/-! ### One call -/

/-- **A call sees its own clause only**: without the other clauses it comes to the same. -/
theorem apply_part (tablePrefix : String) (call : Call) (s : Selection) :
    apply tablePrefix call (s.part call.clause)
      = ((apply tablePrefix call s).1, (apply tablePrefix call s).2.part call.clause) := by
  cases call with
  | source table fields => exact declare_part table _ _ s
  | join kind table predicate fields => exact declare_part table _ fields s
  | column fields =>
    show (Except.ok (), includeDetached fields (s.part .tables)) = _
    simp only [includeDetached, placeFor_part, includeFields_part]
    rfl
  | distinct => rfl
  | condition e => rfl
  | having e => rfl
  | group fields => rfl
  | order fields => rfl
  | limit count offset => rfl

/-- A call leaves the other clauses alone. -/
theorem part_apply_of_ne (tablePrefix : String) {call : Call} {c : Clause} (h : call.clause ≠ c)
    (s : Selection) : (apply tablePrefix call s).2.part c = s.part c := by
  have htables : call.clause = .tables →
      (apply tablePrefix call s).2.clauses = s.clauses →
        (apply tablePrefix call s).2.part c = s.part c := fun hclause hsame =>
    part_of_clauses hsame fun hc => h (hclause.trans hc.symm)
  cases call with
  | source table fields => exact htables rfl (clauses_declare tablePrefix table _ _ s)
  | join kind table predicate fields =>
    exact htables rfl (clauses_declare tablePrefix table _ fields s)
  | column fields =>
    refine htables rfl ?_
    show (includeDetached fields s).clauses = s.clauses
    rw [includeDetached, clauses_includeFields, clauses_placeFor]
  | _ => cases c <;> first | rfl | exact absurd rfl h

/-! ### Runs -/

/-- The calls about a clause, with their outcomes. -/
def madeAbout (c : Clause) (past : List (Call × Except SqlError Unit)) :
    List (Call × Except SqlError Unit) :=
  past.filter fun made => made.1.clause = c

/-- The calls about a clause. -/
def callsAbout (c : Clause) (calls : List Call) : List Call :=
  calls.filter fun call => call.clause = c

theorem history_cons (call : Call) (rest : List Call) (s : Selection) :
    history tablePrefix (call :: rest) s
      = (call, (apply tablePrefix call s).1)
          :: history tablePrefix rest (apply tablePrefix call s).2 := rfl

/-- **The outcomes of the calls about a clause** are those of the same calls without the others. -/
theorem history_filter (c : Clause) (calls : List Call) (s : Selection) :
    madeAbout c (history tablePrefix calls s)
      = history tablePrefix (callsAbout c calls) (s.part c) := by
  induction calls generalizing s with
  | nil => rfl
  | cons call rest ih =>
    rw [history_cons, madeAbout, callsAbout, List.filter_cons, List.filter_cons]
    by_cases hclause : call.clause = c
    · subst hclause
      simp only [decide_true, if_true]
      rw [history_cons, apply_part]
      exact congrArg _ (ih _)
    · simp only [hclause, decide_false, Bool.false_eq_true, if_false]
      rw [← part_apply_of_ne tablePrefix hclause s]
      exact ih _

/-- **A clause after a run** is what the calls about it make of it. -/
theorem part_run (c : Clause) (calls : List Call) (s : Selection) :
    (run tablePrefix calls s).2.part c = (run tablePrefix (callsAbout c calls) (s.part c)).2 := by
  induction calls generalizing s with
  | nil => rfl
  | cons call rest ih =>
    rw [run_cons, callsAbout, List.filter_cons]
    by_cases hclause : call.clause = c
    · subst hclause
      simp only [decide_true, if_true]
      rw [run_cons, apply_part]
      exact ih _
    · simp only [hclause, decide_false, Bool.false_eq_true, if_false]
      rw [← part_apply_of_ne tablePrefix hclause s]
      exact ih _

/-- What a run leaves of a clause depends on that clause only. -/
theorem part_run_congr {c : Clause} (h : s.part c = t.part c) (calls : List Call) :
    (run tablePrefix calls s).2.part c = (run tablePrefix calls t).2.part c := by
  rw [part_run, part_run, h]

/-- Whether calls fail depends on the tables only. -/
theorem outcomes_congr (h : s.part .tables = t.part .tables) (calls : List Call) :
    (run tablePrefix calls s).1 = (run tablePrefix calls t).1 := by
  induction calls generalizing s t with
  | nil => rfl
  | cons call rest ih =>
    have hstep : (apply tablePrefix call s).1 = (apply tablePrefix call t).1 := by
      by_cases hclause : call.clause = .tables
      · have hs := apply_part tablePrefix call s
        have ht := apply_part tablePrefix call t
        rw [hclause] at hs ht
        rw [h] at hs
        exact (Prod.mk.inj (hs.symm.trans ht)).1
      · -- every other call succeeds
        cases call <;> first | rfl | exact absurd rfl hclause
    have hrest : (apply tablePrefix call s).2.part .tables
        = (apply tablePrefix call t).2.part .tables := part_run_congr h [call]
    rw [run_cons, run_cons, hstep, ih hrest]

/-! ### Repeated and overridden calls -/

/-- Once wanted, distinct rows stay wanted. -/
theorem distinct_run (h : s.distinct = true) (calls : List Call) :
    (run tablePrefix calls s).2.distinct = true := by
  induction calls generalizing s with
  | nil => exact h
  | cons call rest ih =>
    rw [run_cons]
    apply ih
    by_cases hclause : call.clause = .distinct
    · cases call <;> first | rfl | exact nomatch hclause
    · have hkept := congrArg Selection.distinct (part_apply_of_ne tablePrefix hclause s)
      exact hkept.trans h

theorem distinct_of_mem (tablePrefix : String) {calls : List Call} (h : Call.distinct ∈ calls)
    (s : Selection) : (run tablePrefix calls s).2.distinct = true := by
  obtain ⟨before, later, rfl⟩ := List.append_of_mem h
  rw [run_append, run_cons]
  exact distinct_run rfl later

/-- The last bounds count, whatever they were before. -/
theorem limit_of_mem {calls : List Call} {count : Nat} {offset : Option Nat}
    (h : Call.limit count offset ∈ calls) (s t : Selection) :
    (run tablePrefix calls s).2.part .limit = (run tablePrefix calls t).2.part .limit := by
  obtain ⟨before, later, rfl⟩ := List.append_of_mem h
  simp only [run_append, run_cons]
  have hset : (apply tablePrefix (.limit count offset) (run tablePrefix before s).2).2.part .limit
      = (apply tablePrefix (.limit count offset) (run tablePrefix before t).2).2.part .limit := rfl
  exact part_run_congr hset later

/-- Without one of its calls a run has the same other outcomes and ends in the same selection, if
the call is not about tables and the selection in the end does not tell. -/
theorem run_without {before later : List Call} {call : Call} (hclause : call.clause ≠ .tables)
    (hend : (run tablePrefix (before ++ later) s).2.part call.clause
      = (run tablePrefix (before ++ call :: later) s).2.part call.clause) :
    run tablePrefix (before ++ later) s
      = ((run tablePrefix (before ++ call :: later) s).1.eraseIdx before.length,
          (run tablePrefix (before ++ call :: later) s).2) := by
  have htables : (run tablePrefix before s).2.part .tables
      = (apply tablePrefix call (run tablePrefix before s).2).2.part .tables :=
    (part_apply_of_ne tablePrefix hclause _).symm
  refine Prod.ext ?_ (eq_of_part fun c => ?_)
  · rw [run_append, run_append, run_cons, outcomes_congr htables,
      List.eraseIdx_append_of_length_le (Nat.le_of_eq (length_run before s)), length_run,
      Nat.sub_self, List.eraseIdx_cons_zero]
  · by_cases hc : call.clause = c
    · rw [← hc]
      exact hend
    · have hcalls : callsAbout c (before ++ call :: later) = callsAbout c (before ++ later) := by
        simp [callsAbout, hc]
      rw [part_run, part_run, hcalls]

/-- What may be relied on where calls are made in another order. -/
structure OrderFree (tablePrefix : String) : Prop where
  /-- With the same calls about every clause, each call has the same outcome. -/
  outcomes : ∀ first second, (∀ c, callsAbout c first = callsAbout c second) →
    ∀ c, madeAbout c (history tablePrefix first empty)
      = madeAbout c (history tablePrefix second empty)
  /-- The statement is the same, too. -/
  statement : ∀ first second, (∀ c, callsAbout c first = callsAbout c second) →
    ∀ ctx, (run tablePrefix first empty).2.render ctx = (run tablePrefix second empty).2.render ctx
  /-- Asking for distinct rows again changes neither the other outcomes nor the selection. -/
  repeated : ∀ before later, Call.distinct ∈ before →
    run tablePrefix (before ++ later) empty
      = ((run tablePrefix (before ++ .distinct :: later) empty).1.eraseIdx before.length,
          (run tablePrefix (before ++ .distinct :: later) empty).2)
  /-- Nor do bounds that are overridden later. -/
  overridden : ∀ before later count offset count' offset', Call.limit count' offset' ∈ later →
    run tablePrefix (before ++ later) empty
      = ((run tablePrefix (before ++ .limit count offset :: later) empty).1.eraseIdx before.length,
          (run tablePrefix (before ++ .limit count offset :: later) empty).2)

/-- **The order of calls about different clauses** does not matter, failed calls included. -/
theorem run_orderFree (tablePrefix : String) : OrderFree tablePrefix := by
  refine ⟨fun first second hcalls c => ?_, fun first second hcalls ctx => ?_,
    fun before later hmem => ?_, fun before later count offset count' offset' hmem => ?_⟩
  · rw [history_filter, history_filter, hcalls]
  · have hsame : (run tablePrefix first empty).2 = (run tablePrefix second empty).2 :=
      eq_of_part fun c => by rw [part_run, part_run, hcalls]
    rw [hsame]
  · refine run_without (by decide) ?_
    have hwithout := distinct_of_mem tablePrefix (List.mem_append_left later hmem) empty
    have hwith := distinct_of_mem tablePrefix
      (List.mem_append_left (Call.distinct :: later) hmem) empty
    simp only [Call.clause, part, hwithout, hwith]
  · refine run_without (by simp [Call.clause]) ?_
    simp only [run_append, run_cons]
    exact limit_of_mem hmem _ _

end Selection

end SqlLayer
