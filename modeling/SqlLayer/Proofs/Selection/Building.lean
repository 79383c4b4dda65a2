import SqlLayer.Selection

/-!
# What a building call changes

A call either declares a table, which touches the tables and their numbering only, or changes one
of the other clauses and leaves the tables alone.

* `Selection.clauses` — the clauses apart from the tables;
* `Selection.declare_cases` — a declaration **changes nothing, or adds its fields** to the table at
  the place of its alias;
* `Selection.forall_tables_declare` — what a new table has, and fields put in it keep, every table
  has after a declaration;
* `Selection.run_induction` — what every call keeps, a run keeps.
-/

namespace SqlLayer

/-- The clauses of a selection that hold no table. -/
structure SelectClauses where
  distinct : Bool
  conditions : List Fragment
  group : List ColumnRef
  having : List Fragment
  order : List SortKey
  limit : Option (Nat × Option Nat)

namespace Selection

/-- The clauses apart from the tables. -/
def clauses (s : Selection) : SelectClauses :=
  ⟨s.distinct, s.conditions, s.group, s.having, s.order, s.limit⟩

/-- The entry that a field is put into a table as. -/
def entryOf (number : Nat) (spec : OutputColumn) : FieldEntry :=
  ⟨number, spec.field, spec.outputAlias⟩

/-! ### The other clauses -/

theorem clauses_placeFor (name tableAlias : String) (role : TablePart) (s : Selection) :
    (s.placeFor name tableAlias role).2.clauses = s.clauses := by
  unfold placeFor
  split <;> rfl

theorem clauses_includeFields (index : Nat) (specs : List OutputColumn) (s : Selection) :
    (s.includeFields index specs).clauses = s.clauses := by
  induction specs generalizing s with
  | nil => rfl
  | cons spec specs ih => exact ih (s.includeField index spec)

/-! ### The tables -/

/-- A field in a table was there before, or is the one that was put there. -/
theorem mem_putField {entry f : FieldEntry} {fields : List FieldEntry}
    (h : f ∈ putField entry fields) : f = entry ∨ f ∈ fields := by
  unfold putField at h
  split at h
  · simpa [or_comm] using h
  · split at h
    · exact (List.mem_or_eq_of_mem_set h).symm
    · simpa [or_comm] using h

variable {p : TableEntry → Prop} {s : Selection}

theorem forall_tables_placeFor {name tableAlias : String} {role : TablePart}
    (h : ∀ t ∈ s.tables, p t) (hnew : p ⟨name, tableAlias, role, []⟩) :
    ∀ t ∈ (s.placeFor name tableAlias role).2.tables, p t := by
  unfold placeFor
  split
  · exact h
  · intro t ht
    obtain ht | ht := List.mem_append.1 ht
    · exact h t ht
    · rw [List.mem_singleton.1 ht]
      exact hnew

theorem forall_tables_includeField {index : Nat} {spec : OutputColumn} (h : ∀ t ∈ s.tables, p t)
    (hput : ∀ t, p t → p { t with fields := putField (entryOf s.nextField spec) t.fields }) :
    ∀ t ∈ (s.includeField index spec).tables, p t := by
  intro t ht
  obtain ⟨i, hi, rfl⟩ := List.getElem_of_mem ht
  have hlength : i < s.tables.length := by
    rw [includeField, List.length_modify] at hi
    exact hi
  have hold : p s.tables[i] := h _ (List.getElem_mem hlength)
  simp only [includeField, List.getElem_modify]
  split
  · exact hput _ hold
  · exact hold

theorem forall_tables_includeFields {index : Nat} {specs : List OutputColumn}
    (h : ∀ t ∈ s.tables, p t)
    (hput : ∀ spec ∈ specs, ∀ number t, p t →
      p { t with fields := putField (entryOf number spec) t.fields }) :
    ∀ t ∈ (s.includeFields index specs).tables, p t := by
  induction specs generalizing s with
  | nil => exact h
  | cons spec specs ih =>
    have hfirst : ∀ t ∈ (s.includeField index spec).tables, p t :=
      forall_tables_includeField h (hput spec List.mem_cons_self s.nextField)
    exact ih hfirst fun spec' hmem => hput spec' (List.mem_cons_of_mem spec hmem)

/-! ### Declarations -/

/-- The name under which the engine knows a table. -/
def engineNameOf (tablePrefix : String) (table : NamedTable) : String :=
  resolveMarker tablePrefix table.name

/-- The alias that a declaration binds. -/
def boundAlias (tablePrefix : String) (table : NamedTable) : String :=
  table.tableAlias.getD (engineNameOf tablePrefix table)

/-- A declaration fails and changes nothing, where the table is not named or its alias stands for
another one; or it finds a place for its table and puts its fields there. -/
theorem declare_cases (tablePrefix : String) (table : TableRef) (role : TablePart)
    (fields : List OutputColumn) (s : Selection) :
    (∃ e, table.resolve = .error e ∧ declare tablePrefix table role fields s = (.error e, s)) ∨
    ∃ spec, table.resolve = .ok spec ∧
      ((s.conflicts (engineNameOf tablePrefix spec) (boundAlias tablePrefix spec) = true ∧
          declare tablePrefix table role fields s =
            (.error (.aliasTaken (boundAlias tablePrefix spec)), s)) ∨
        (s.conflicts (engineNameOf tablePrefix spec) (boundAlias tablePrefix spec) = false ∧
          declare tablePrefix table role fields s =
            (.ok (),
              (s.placeFor (engineNameOf tablePrefix spec) (boundAlias tablePrefix spec) role).2
                |>.includeFields
                  (s.placeFor (engineNameOf tablePrefix spec) (boundAlias tablePrefix spec) role).1
                  fields))) := by
  cases hresolve : table.resolve with
  | error e => exact .inl ⟨e, rfl, by rw [declare, hresolve]; rfl⟩
  | ok spec =>
    refine .inr ⟨spec, rfl, ?_⟩
    have hform : declare tablePrefix table role fields s =
        declareTable tablePrefix spec role fields s := by rw [declare, hresolve]
    rw [hform]
    cases hconflict : s.conflicts (engineNameOf tablePrefix spec) (boundAlias tablePrefix spec) with
    | true => exact .inl ⟨rfl, if_pos hconflict⟩
    | false => exact .inr ⟨rfl, if_neg (by rw [← Bool.not_eq_true] at hconflict; exact hconflict)⟩

/-- The state after a declaration: the one before, or the one with the fields in place. -/
theorem declare_state (tablePrefix : String) (table : TableRef) (role : TablePart)
    (fields : List OutputColumn) (s : Selection) :
    (declare tablePrefix table role fields s).2 = s ∨
    ∃ name tableAlias, (declare tablePrefix table role fields s).2 =
      (s.placeFor name tableAlias role).2.includeFields (s.placeFor name tableAlias role).1
        fields := by
  obtain ⟨e, -, h⟩ | ⟨spec, -, ⟨-, h⟩ | ⟨-, h⟩⟩ := declare_cases tablePrefix table role fields s
  · exact .inl (by rw [h])
  · exact .inl (by rw [h])
  · exact .inr ⟨_, _, by rw [h]⟩

theorem clauses_declare (tablePrefix : String) (table : TableRef) (role : TablePart)
    (fields : List OutputColumn) (s : Selection) :
    (declare tablePrefix table role fields s).2.clauses = s.clauses := by
  obtain h | ⟨name, tableAlias, h⟩ := declare_state tablePrefix table role fields s
  · rw [h]
  · rw [h, clauses_includeFields, clauses_placeFor]

theorem forall_tables_declare {tablePrefix : String} {table : TableRef} {role : TablePart}
    {fields : List OutputColumn} (h : ∀ t ∈ s.tables, p t)
    (hnew : ∀ name tableAlias, p ⟨name, tableAlias, role, []⟩)
    (hput : ∀ spec ∈ fields, ∀ number t, p t →
      p { t with fields := putField (entryOf number spec) t.fields }) :
    ∀ t ∈ (declare tablePrefix table role fields s).2.tables, p t := by
  obtain hform | ⟨name, tableAlias, hform⟩ := declare_state tablePrefix table role fields s
  · rw [hform]
    exact h
  · rw [hform]
    exact forall_tables_includeFields (forall_tables_placeFor h (hnew name tableAlias)) hput

/-! ### Runs -/

/-- What every call of a run keeps, the run keeps, whether or not its calls succeed. -/
theorem run_induction {q : Selection → Prop} {tablePrefix : String} {calls : List Call}
    (hstep : ∀ call ∈ calls, ∀ s, q s → q (apply tablePrefix call s).2) (hs : q s) :
    q (run tablePrefix calls s).2 := by
  induction calls generalizing s with
  | nil => exact hs
  | cons call rest ih =>
    have hfirst := hstep call List.mem_cons_self s hs
    exact ih (fun call' hmem => hstep call' (List.mem_cons_of_mem call hmem)) hfirst

end Selection

end SqlLayer
