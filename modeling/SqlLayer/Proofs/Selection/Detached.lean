import SqlLayer.Proofs.Selection.Declared
import SqlLayer.Proofs.Selection.Qualification

/-!
# Fields that belong to no table

Fields that are added without table are kept like those of a table whose alias is empty.  A table
may be declared under that alias, too.  **Whichever came first**, the other one goes with it: a
table that comes second is refused or not declared by the statement, and fields that come second are
fields of the table.

* `Selection.made_withoutColumns`, `Selection.made_columnBefore` — which of the other calls fail,
  told from a run without calls for such fields, or with one of them at its beginning;
* `Selection.declaredTables_run` — what the fields without table take away from the tables;
* `Selection.columns_apart_iff` — **when they leave the tables as they are**;
* `Selection.column_takes_alias` — a table that is refused because of them.
-/

namespace SqlLayer

namespace Selection

/-- Whether a call adds fields without table. -/
def Call.isColumn : Call → Bool
  | .column _ => true
  | _ => false

/-- The calls but those that add fields without table. -/
def withoutColumns (calls : List Call) : List Call := calls.filter fun call => !call.isColumn

/-- The other calls with what they come to. -/
def madeForTables (tablePrefix : String) (calls : List Call) : List (Call × Except SqlError Unit) :=
  (history tablePrefix calls empty).filter fun made => !made.1.isColumn

/-- A call declares a table under the empty alias. -/
def DeclaresEmpty (tablePrefix : String) (calls : List Call) : Prop :=
  ∃ call ∈ calls, ∃ name, call.declaration? tablePrefix = some ("", name)

/-- Fields without table came with the empty alias first, and a table is declared under it. -/
def ColumnFirst (tablePrefix : String) (calls : List Call) : Prop :=
  isTableless (additions tablePrefix calls) "" = true ∧ DeclaresEmpty tablePrefix calls

/-- A table came with the empty alias first. -/
def TableFirst (tablePrefix : String) (calls : List Call) : Prop :=
  ∃ m, maker? (additions tablePrefix calls) "" = some m ∧ m.role ≠ .detached

variable {tablePrefix : String} {calls other : List Call} {call : Call} {s r : Selection}

theorem withoutColumns_concat (calls : List Call) (call : Call) :
    withoutColumns (calls ++ [call])
      = withoutColumns calls ++ if call.isColumn then [] else [call] := by
  rw [withoutColumns, List.filter_append, List.filter_singleton]
  cases call.isColumn <;> rfl

theorem isTableless_iff {ds : List Addition} {tableAlias : String} :
    isTableless ds tableAlias = true ↔
      ∃ m, maker? ds tableAlias = some m ∧ m.role = .detached := by
  rw [isTableless, Option.any_eq_true]
  simp

/-! ### What the calls add -/

/-- The fields without table are those that are added to none, under the empty alias. -/
theorem Call.role_of_addition? {d : Addition} (h : call.addition? tablePrefix = some d) :
    (d.role != .detached) = !call.isColumn ∧
      (call.isColumn = true → d.tableAlias = "" ∧ d.name = "") := by
  cases call with
  | column fields =>
    obtain rfl := Option.some.inj h
    exact ⟨rfl, fun _ => ⟨rfl, rfl⟩⟩
  | source table fields =>
    obtain ⟨spec, -, rfl⟩ := Addition.ofTable?_eq_some.1 h
    exact ⟨rfl, fun hcolumn => nomatch hcolumn⟩
  | join kind table predicate fields =>
    obtain ⟨spec, -, rfl⟩ := Addition.ofTable?_eq_some.1 h
    exact ⟨rfl, fun hcolumn => nomatch hcolumn⟩
  | _ => cases h

/-- Every addition came with a call. -/
theorem exists_call_of_mem_additions {d : Addition} (hd : d ∈ additions tablePrefix calls) :
    ∃ call ∈ calls, call.addition? tablePrefix = some d := by
  obtain ⟨⟨call, outcome⟩, hmade, hadd⟩ := List.mem_filterMap.1 hd
  exact ⟨call, (List.of_mem_zip hmade).1, additionOf?_eq_some hadd⟩

theorem empty_of_detached {d : Addition} (hd : d ∈ additions tablePrefix calls)
    (hrole : d.role = .detached) : d.tableAlias = "" ∧ d.name = "" := by
  obtain ⟨call, -, hadd⟩ := exists_call_of_mem_additions hd
  obtain ⟨hcolumn, hempty⟩ := Call.role_of_addition? hadd
  rw [hrole] at hcolumn
  exact hempty (by simpa using hcolumn.symm)

/-- Only the empty alias can be had first by fields without table. -/
theorem alias_of_maker? {a : String} {m : Addition}
    (hm : maker? (additions tablePrefix calls) a = some m) (hrole : m.role = .detached) :
    a = "" := by
  obtain ⟨hmem, halias⟩ := maker?_eq_some hm
  exact halias.symm.trans (empty_of_detached hmem hrole).1

/-- What declares a table comes with the other calls. -/
theorem attached_additions (tablePrefix : String) (calls : List Call) :
    attached (additions tablePrefix calls)
      = (madeForTables tablePrefix calls).filterMap (additionOf? tablePrefix) := by
  rw [madeForTables, List.filterMap_filter, attached, additions, List.filter_filterMap]
  congr 1
  funext made
  cases hmade : additionOf? tablePrefix made with
  | none => simp
  | some d =>
    obtain ⟨hcolumn, -⟩ := Call.role_of_addition? (additionOf?_eq_some hmade)
    rw [Option.filter_some, hcolumn]

theorem attached_congr (h : madeForTables tablePrefix calls = madeForTables tablePrefix other) :
    attached (additions tablePrefix calls) = attached (additions tablePrefix other) := by
  rw [attached_additions, attached_additions, h]

/-- The first addition with an alias stays the first one. -/
theorem maker?_concat {a : String} {m : Addition}
    (h : maker? (additions tablePrefix calls) a = some m) (call : Call) :
    maker? (additions tablePrefix (calls ++ [call])) a = some m := by
  rw [additions_concat, maker?_append, h, Option.some_or]

/-- An alias that is declared stands for something afterwards, whether or not the call fails. -/
theorem isSome_nameOf?_of_declaration (h : s.WellFormed) {a n : String}
    (hdeclaration : call.declaration? tablePrefix = some (a, n)) :
    ((apply tablePrefix call s).2.nameOf? a).isSome := by
  rw [nameOf?_apply h, apply_of_declaration hdeclaration]
  by_cases hconflict : s.conflicts n a = true
  · obtain ⟨other, hother, -⟩ := conflicts_iff.1 hconflict
    rw [hother, Option.some_or]
    rfl
  · rw [if_neg hconflict, bindingOf?, Call.binding?_of_declaration? hdeclaration]
    cases s.nameOf? a <;> simp [Option.filter]

theorem exists_maker_of_declaration (hcall : call ∈ calls) {a n : String}
    (hdeclaration : call.declaration? tablePrefix = some (a, n)) :
    ∃ m, maker? (additions tablePrefix calls) a = some m := by
  induction calls using List.reverseRecOn with
  | nil => cases hcall
  | append_singleton calls last ih =>
    obtain hcall | hcall := List.mem_append.1 hcall
    · obtain ⟨m, hm⟩ := ih hcall
      exact ⟨m, maker?_concat hm last⟩
    · obtain rfl := List.mem_singleton.1 hcall
      have hknown := isSome_nameOf?_of_declaration (wellFormed_run tablePrefix calls) hdeclaration
      have hrun : (run tablePrefix (calls ++ [call]) empty).2
          = (apply tablePrefix call (run tablePrefix calls empty).2).2 := by
        rw [run_append]
        rfl
      rw [← hrun, nameOf?_additions, Option.isSome_map] at hknown
      exact Option.isSome_iff_exists.1 hknown

/-! ### Outcomes -/

theorem outcome_declare_congr {table : TableRef} (h : ∀ spec, table.resolve ≠ .ok spec)
    (role : TablePart) (fields : List OutputColumn) :
    (declare tablePrefix table role fields s).1 = (declare tablePrefix table role fields r).1 := by
  cases hresolve : table.resolve with
  | ok spec => exact absurd hresolve (h spec)
  | error e =>
    rw [declare, hresolve]
    rfl

/-- A call comes to the same where the alias that it declares stands for the same. -/
theorem outcome_congr
    (h : ∀ a n, call.declaration? tablePrefix = some (a, n) → s.nameOf? a = r.nameOf? a) :
    (apply tablePrefix call s).1 = (apply tablePrefix call r).1 := by
  cases hdeclaration : call.declaration? tablePrefix with
  | some declared =>
    obtain ⟨a, n⟩ := declared
    have hconflicts : s.conflicts n a = r.conflicts n a := by
      rw [Bool.eq_iff_iff, conflicts_iff, conflicts_iff, h a n hdeclaration]
    rw [apply_of_declaration hdeclaration, apply_of_declaration hdeclaration, hconflicts]
  | none =>
    cases call with
    | source table fields =>
      refine outcome_declare_congr (fun spec hresolve => ?_) _ _
      simp [Call.declaration?, hresolve] at hdeclaration
    | join kind table predicate fields =>
      refine outcome_declare_congr (fun spec hresolve => ?_) _ _
      simp [Call.declaration?, hresolve] at hdeclaration
    | _ => rfl

theorem made_concat (tablePrefix : String) (calls : List Call) (call : Call) :
    madeForTables tablePrefix (calls ++ [call]) = madeForTables tablePrefix calls
      ++ if call.isColumn then []
        else [(call, (apply tablePrefix call (run tablePrefix calls empty).2).1)] := by
  have hcall : history tablePrefix [call] (run tablePrefix calls empty).2
      = [(call, (apply tablePrefix call (run tablePrefix calls empty).2).1)] := rfl
  rw [madeForTables, history_append, List.filter_append, hcall, List.filter_singleton]
  cases call.isColumn <;> rfl

/-- A call for fields without table is not among the others. -/
theorem made_concat_of_isColumn (hcolumn : call.isColumn = true) :
    madeForTables tablePrefix (calls ++ [call]) = madeForTables tablePrefix calls := by
  rw [made_concat, if_pos hcolumn, List.append_nil]

theorem made_concat_congr
    (h : madeForTables tablePrefix calls = madeForTables tablePrefix other)
    (hnames : ∀ a n, call.declaration? tablePrefix = some (a, n) →
      (run tablePrefix calls empty).2.nameOf? a = (run tablePrefix other empty).2.nameOf? a) :
    madeForTables tablePrefix (calls ++ [call]) = madeForTables tablePrefix (other ++ [call]) := by
  rw [made_concat, made_concat, h, outcome_congr hnames]

/-- An alias that no fields without table have first stands for what the other calls made it. -/
theorem nameOf?_congr (h : madeForTables tablePrefix calls = madeForTables tablePrefix other)
    {a : String}
    (hcalls : ∀ m, maker? (additions tablePrefix calls) a = some m → m.role ≠ .detached)
    (hother : ∀ m, maker? (additions tablePrefix other) a = some m → m.role ≠ .detached) :
    (run tablePrefix calls empty).2.nameOf? a = (run tablePrefix other empty).2.nameOf? a := by
  rw [nameOf?_additions, nameOf?_additions, ← maker?_attached hcalls, ← maker?_attached hother,
    attached_congr h]

theorem ColumnFirst.concat (h : ColumnFirst tablePrefix calls) (call : Call) :
    ColumnFirst tablePrefix (calls ++ [call]) := by
  obtain ⟨htableless, declared, hdeclared, hname⟩ := h
  obtain ⟨m, hm, hrole⟩ := isTableless_iff.1 htableless
  exact ⟨isTableless_iff.2 ⟨m, maker?_concat hm call, hrole⟩, declared,
    List.mem_append_left _ hdeclared, hname⟩

/-- In a run without them no alias is had first by fields without table. -/
theorem role_of_maker?_withoutColumns {a : String} {m : Addition}
    (hm : maker? (additions tablePrefix (withoutColumns calls)) a = some m) :
    m.role ≠ .detached := by
  obtain ⟨call, hcall, hadd⟩ := exists_call_of_mem_additions (maker?_eq_some hm).1
  have hcolumn := (List.mem_filter.1 hcall).2
  rw [← (Call.role_of_addition? hadd).1] at hcolumn
  simpa using hcolumn

theorem not_columnFirst_withoutColumns (tablePrefix : String) (calls : List Call) :
    ¬ ColumnFirst tablePrefix (withoutColumns calls) := by
  rintro ⟨htableless, -⟩
  obtain ⟨m, hm, hrole⟩ := isTableless_iff.1 htableless
  exact role_of_maker?_withoutColumns hm hrole

/-- **Which calls fail** is told from the run without fields that belong to no table, unless those
have the empty alias first. -/
theorem made_withoutColumns (h : ¬ ColumnFirst tablePrefix calls) :
    madeForTables tablePrefix calls = madeForTables tablePrefix (withoutColumns calls) := by
  induction calls using List.reverseRecOn with
  | nil => rfl
  | append_singleton calls call ih =>
    have hbefore := ih fun hfirst => h (hfirst.concat call)
    rw [withoutColumns_concat]
    cases hcolumn : call.isColumn with
    | true => rw [made_concat_of_isColumn hcolumn, if_pos rfl, List.append_nil, hbefore]
    | false =>
      rw [if_neg Bool.false_ne_true]
      refine made_concat_congr hbefore fun a n hdeclaration =>
        nameOf?_congr hbefore (fun m hm hrole => ?_) fun m hm => role_of_maker?_withoutColumns hm
      -- fields without table that came first have the alias that is declared
      obtain rfl : a = "" := alias_of_maker? hm hrole
      exact h ⟨isTableless_iff.2 ⟨m, maker?_concat hm call, hrole⟩, call, by simp, n, hdeclaration⟩

theorem additions_columnBefore (tablePrefix : String) (calls : List Call) :
    ∃ ds, additions tablePrefix (.column [] :: calls) = ⟨"", "", .detached, []⟩ :: ds := by
  rw [additions, history_cons]
  exact ⟨_, rfl⟩

/-- An empty alias that no table has first stands for no name where it is declared. -/
theorem nameOf?_of_not_tableFirst (h : ¬ TableFirst tablePrefix (calls ++ [call])) {n : String}
    (hdeclaration : call.declaration? tablePrefix = some ("", n)) :
    (run tablePrefix calls empty).2.nameOf? "" = some "" := by
  have hmem : call ∈ calls ++ [call] := by simp
  obtain ⟨m, hm⟩ := exists_maker_of_declaration hmem hdeclaration
  have hrole : m.role = .detached := Decidable.byContradiction fun hrole => h ⟨m, hm, hrole⟩
  rw [additions_concat, maker?_append, Option.or_eq_some_iff] at hm
  obtain hm | ⟨-, hm⟩ := hm
  · rw [nameOf?_additions, hm, Option.map_some, (empty_of_detached (maker?_eq_some hm).1 hrole).2]
  · -- the call itself adds a table
    have hadd := additionOf?_eq_some (Option.mem_toList.1 (maker?_eq_some hm).1)
    have hcolumn := (Call.role_of_addition? hadd).1
    rw [hrole] at hcolumn
    cases call with
    | column fields => cases hdeclaration
    | _ => cases hcolumn

/-- **Which calls fail** is told from the run with fields that belong to no table at its beginning,
unless a table has the empty alias first. -/
theorem made_columnBefore (h : ¬ TableFirst tablePrefix calls) :
    madeForTables tablePrefix calls
      = madeForTables tablePrefix (.column [] :: withoutColumns calls) := by
  induction calls using List.reverseRecOn with
  | nil => rfl
  | append_singleton calls call ih =>
    have hbefore := ih fun ⟨m, hm, hrole⟩ => h ⟨m, maker?_concat hm call, hrole⟩
    rw [withoutColumns_concat]
    cases hcolumn : call.isColumn with
    | true => rw [made_concat_of_isColumn hcolumn, if_pos rfl, List.append_nil, hbefore]
    | false =>
      rw [if_neg Bool.false_ne_true, ← List.cons_append]
      refine made_concat_congr hbefore fun a n hdeclaration => ?_
      by_cases ha : a = ""
      · subst ha
        obtain ⟨ds, hds⟩ := additions_columnBefore tablePrefix (withoutColumns calls)
        rw [nameOf?_of_not_tableFirst h hdeclaration, nameOf?_additions, hds]
        rfl
      · exact nameOf?_congr hbefore (fun m hm hrole => ha (alias_of_maker? hm hrole))
          fun m hm hrole => ha (alias_of_maker? hm hrole)

/-! ### Tables -/

theorem isTableless_of_ne {a : String} (ha : a ≠ "") :
    isTableless (additions tablePrefix calls) a = false := by
  rw [Bool.eq_false_iff, Ne, isTableless_iff]
  rintro ⟨m, hm, hrole⟩
  exact ha (alias_of_maker? hm hrole)

/-- The table of an alias that it came with first is declared. -/
theorem exists_declaredTable {ds : List Addition} {a : String} {m : Addition}
    (hm : maker? ds a = some m) (hrole : m.role ≠ .detached) :
    ∃ t ∈ (built ds).declaredTables, t.tableAlias = a := by
  obtain ⟨t, ht, halias, hbare⟩ := exists_table hm
  have hsame : m.role = t.role := congrArg TableEntry.role hbare
  exact ⟨t.bare, mem_declaredTables.2 ⟨⟨t, ht, rfl⟩, hsame ▸ hrole⟩, halias⟩

/-- A declared table came with its alias first. -/
theorem maker?_of_mem_declaredTables {ds : List Addition} {t : TableEntry}
    (ht : t ∈ (built ds).declaredTables) :
    ∃ m, maker? ds t.tableAlias = some m ∧ m.role ≠ .detached := by
  obtain ⟨⟨u, hu, rfl⟩, hrole⟩ := mem_declaredTables.1 ht
  obtain ⟨m, hm, hbare⟩ := maker?_of_mem hu
  have hsame : m.role = u.role := congrArg TableEntry.role hbare
  exact ⟨m, hm, hsame ▸ hrole⟩

theorem isTableless_of_mem_declaredTables {ds : List Addition} {t : TableEntry}
    (ht : t ∈ (built ds).declaredTables) : isTableless ds t.tableAlias = false := by
  obtain ⟨m, hm, hrole⟩ := maker?_of_mem_declaredTables ht
  rw [isTableless, hm, Option.any_some, decide_eq_false hrole]

theorem declaredTables_eq_built (tablePrefix : String) (calls : List Call) :
    (run tablePrefix calls empty).2.declaredTables
      = (built (additions tablePrefix calls)).declaredTables := by
  rw [← tables_run]
  rfl

/-- **What the fields without table take away** from the tables that the other calls declare is the
table of the alias that they have first. -/
theorem declaredTables_run (tablePrefix : String) (calls : List Call) :
    (run tablePrefix calls empty).2.declaredTables
      = (built (attached (additions tablePrefix calls))).declaredTables.filter fun t =>
          !isTableless (additions tablePrefix calls) t.tableAlias := by
  have hkept : (built (additions tablePrefix calls)).declaredTables.filter
        (fun t => !isTableless (additions tablePrefix calls) t.tableAlias)
      = (built (additions tablePrefix calls)).declaredTables :=
    List.filter_eq_self.2 fun t ht => by rw [isTableless_of_mem_declaredTables ht]; rfl
  rw [declaredTables_eq_built, ← hkept]
  refine filter_declaredTables (fun a => !isTableless _ a) fun a ha m hm hrole => ?_
  rw [isTableless_iff.2 ⟨m, hm, hrole⟩] at ha
  cases ha

/-- A table of the empty alias was declared by a call. -/
theorem declaresEmpty_of_mem {t : TableEntry}
    (ht : t ∈ (built (attached (additions tablePrefix calls))).declaredTables)
    (halias : t.tableAlias = "") : DeclaresEmpty tablePrefix calls := by
  obtain ⟨m, hm, hrole⟩ := maker?_of_mem_declaredTables ht
  obtain ⟨hmem, hsame⟩ := maker?_eq_some hm
  obtain ⟨call, hcall, hadd⟩ := exists_call_of_mem_additions (List.mem_filter.1 hmem).1
  refine ⟨call, hcall, m.name, ?_⟩
  rw [halias] at hsame
  cases call with
  | column fields =>
    obtain rfl := Option.some.inj hadd
    exact absurd rfl hrole
  | source table fields =>
    obtain ⟨spec, hresolve, rfl⟩ := Addition.ofTable?_eq_some.1 hadd
    simpa [Call.declaration?, hresolve] using hsame
  | join kind table predicate fields =>
    obtain ⟨spec, hresolve, rfl⟩ := Addition.ofTable?_eq_some.1 hadd
    simpa [Call.declaration?, hresolve] using hsame
  | _ => cases hadd

/-- Two runs differ in nothing but the fields without table. -/
structure TablesAgree (tablePrefix : String) (calls other : List Call) : Prop where
  /-- The other calls come to the same. -/
  outcomes : madeForTables tablePrefix calls = madeForTables tablePrefix other
  /-- The statements declare the same tables. -/
  sources : ∀ ctx, (run tablePrefix calls empty).2.sourcesClause ctx
    = (run tablePrefix other empty).2.sourcesClause ctx
  joins : ∀ ctx, (run tablePrefix calls empty).2.joinsClause ctx
    = (run tablePrefix other empty).2.joinsClause ctx

theorem TablesAgree.symm (h : TablesAgree tablePrefix calls other) :
    TablesAgree tablePrefix other calls :=
  ⟨h.outcomes.symm, fun ctx => (h.sources ctx).symm, fun ctx => (h.joins ctx).symm⟩

/-- Where the other calls come to the same, the tables are the same, if only the empty alias went to
the same kind of fields first. -/
theorem tablesAgree_of_made (h : madeForTables tablePrefix calls = madeForTables tablePrefix other)
    (hfirst : DeclaresEmpty tablePrefix calls →
      isTableless (additions tablePrefix calls) "" = isTableless (additions tablePrefix other) "") :
    TablesAgree tablePrefix calls other := by
  have hdeclared : (run tablePrefix calls empty).2.declaredTables
      = (run tablePrefix other empty).2.declaredTables := by
    rw [declaredTables_run, declaredTables_run, ← attached_congr h]
    refine List.filter_congr fun t ht => congrArg not ?_
    by_cases halias : t.tableAlias = ""
    · rw [halias]
      exact hfirst (declaresEmpty_of_mem ht halias)
    · rw [isTableless_of_ne halias, isTableless_of_ne halias]
  exact ⟨h, fun ctx => (clauses_congr hdeclared ctx).1, fun ctx => (clauses_congr hdeclared ctx).2⟩

/-- The same tables are declared in two runs that differ in fields without table only. -/
theorem declaresEmpty_congr (h : withoutColumns calls = withoutColumns other) :
    DeclaresEmpty tablePrefix calls ↔ DeclaresEmpty tablePrefix other := by
  have herase : ∀ calls : List Call, DeclaresEmpty tablePrefix calls ↔
      DeclaresEmpty tablePrefix (withoutColumns calls) := by
    intro calls
    refine exists_congr fun call => ?_
    rw [withoutColumns, List.mem_filter]
    refine ⟨fun ⟨hcall, name, hdeclaration⟩ => ⟨⟨hcall, ?_⟩, name, hdeclaration⟩,
      fun ⟨⟨hcall, _⟩, hname⟩ => ⟨hcall, hname⟩⟩
    cases call with
    | column fields => cases hdeclaration
    | _ => rfl
  rw [herase calls, herase other, h]

theorem ColumnFirst.not_tableFirst (h : ColumnFirst tablePrefix calls) :
    ¬ TableFirst tablePrefix calls := by
  rintro ⟨m, hm, hrole⟩
  obtain ⟨m', hm', hdetached⟩ := isTableless_iff.1 h.1
  obtain rfl : m = m' := Option.some.inj (hm.symm.trans hm')
  exact hrole hdetached

/-- **A table less** is declared where fields without table have its alias first. -/
theorem not_tablesAgree (hcalls : ColumnFirst tablePrefix calls)
    (hother : ¬ ColumnFirst tablePrefix other)
    (herase : withoutColumns calls = withoutColumns other) :
    ¬ TablesAgree tablePrefix calls other := by
  intro hagree
  obtain ⟨htableless, hdeclares⟩ := hcalls
  have hdeclares := (declaresEmpty_congr herase).1 hdeclares
  have hattached : isTableless (additions tablePrefix other) "" = false :=
    Bool.eq_false_iff.2 fun htrue => hother ⟨htrue, hdeclares⟩
  -- in the other run the table of the empty alias is declared
  obtain ⟨call, hcall, name, hdeclaration⟩ := hdeclares
  obtain ⟨m, hm⟩ := exists_maker_of_declaration hcall hdeclaration
  have hrole : m.role ≠ .detached := fun hrole => by
    rw [isTableless_iff.2 ⟨m, hm, hrole⟩] at hattached
    cases hattached
  obtain ⟨t, ht, halias⟩ := exists_declaredTable hm hrole
  rw [← declaredTables_eq_built] at ht
  -- and but for it the tables are the same
  have hless : (run tablePrefix calls empty).2.declaredTables
      = (run tablePrefix other empty).2.declaredTables.filter fun t =>
          !isTableless (additions tablePrefix calls) t.tableAlias := by
    rw [declaredTables_run tablePrefix calls, declaredTables_run tablePrefix other,
      attached_congr hagree.outcomes, List.filter_filter]
    refine List.filter_congr fun t _ => ?_
    by_cases halias : t.tableAlias = ""
    · rw [halias, hattached, Bool.not_false, Bool.and_true]
    · rw [isTableless_of_ne halias, isTableless_of_ne halias]
      rfl
  have hdropped : (!isTableless (additions tablePrefix calls) t.tableAlias) = false := by
    rw [halias, htableless]
    rfl
  obtain hne | hne := clauses_ne_of_filter hless ht hdropped ⟨fun _ _ => "", ""⟩
  · exact hne (hagree.sources _)
  · exact hne (hagree.joins _)

/-- **How two runs compare** that differ in fields without table only. -/
theorem tablesAgree_iff (herase : withoutColumns calls = withoutColumns other) :
    TablesAgree tablePrefix calls other ↔
      (ColumnFirst tablePrefix calls ↔ ColumnFirst tablePrefix other) := by
  constructor
  · intro hagree
    constructor
    · intro hcalls
      by_contra hother
      exact not_tablesAgree hcalls hother herase hagree
    · intro hother
      by_contra hcalls
      exact not_tablesAgree hother hcalls herase.symm hagree.symm
  · intro hsame
    by_cases hcalls : ColumnFirst tablePrefix calls
    · have hother := hsame.1 hcalls
      refine tablesAgree_of_made ?_ fun _ => hcalls.1.trans hother.1.symm
      rw [made_columnBefore hcalls.not_tableFirst, made_columnBefore hother.not_tableFirst, herase]
    · have hother := fun hother => hcalls (hsame.2 hother)
      refine tablesAgree_of_made ?_ fun hdeclares => ?_
      · rw [made_withoutColumns hcalls, made_withoutColumns hother, herase]
      · have hdeclares' := (declaresEmpty_congr herase).1 hdeclares
        rw [Bool.eq_false_iff.2 fun htrue => hcalls ⟨htrue, hdeclares⟩,
          Bool.eq_false_iff.2 fun htrue => hother ⟨htrue, hdeclares'⟩]

/-! ### Fields -/

theorem WellFormed.tables_includeFields_cases (h : s.WellFormed) {index : Nat} {t u : TableEntry}
    (ht : s.tables[index]? = some t) {specs : List OutputColumn}
    (hu : u ∈ (s.includeFields index specs).tables) : u ∈ s.tables ∨ u.bare = t.bare := by
  induction specs generalizing s t with
  | nil => exact .inl hu
  | cons spec specs ih =>
    have hthere : (s.includeField index spec).tables[index]?
        = some { t with fields := putField (entryOf s.nextField spec) t.fields } := by
      simp [Selection.includeField, ht, entryOf]
    obtain hold | hsame := ih (h.includeField index spec) hthere hu
    · obtain ⟨hold, -⟩ | rfl := h.tables_includeField_cases ht hold
      · exact .inl hold
      · exact .inr rfl
    · exact .inr hsame

theorem mem_tables_run {t : TableEntry} :
    t ∈ (run tablePrefix calls empty).2.tables
      ↔ t ∈ (built (additions tablePrefix calls)).tables := by
  rw [← tables_run]
  rfl

theorem additions_column (fields : List OutputColumn) :
    additions tablePrefix (calls ++ [.column fields])
      = additions tablePrefix calls
        ++ [⟨"", "", .detached, fields.map OutputColumn.tableless⟩] := by
  rw [additions_concat]
  rfl

/-- Fields without table go to no declared table where none has the empty alias first. -/
theorem mem_tables_of_column {fields : List OutputColumn}
    (h : fields = [] ∨ ¬ TableFirst tablePrefix calls) {u : TableEntry}
    (hu : u ∈ (run tablePrefix (calls ++ [.column fields]) empty).2.tables)
    (hrole : u.role ≠ .detached) : u ∈ (run tablePrefix calls empty).2.tables := by
  have hwell := wellFormed_built (additions tablePrefix calls)
  rw [mem_tables_run, additions_column, built_concat] at hu
  rw [mem_tables_run]
  -- whatever was found or made for them, declared tables are as they were
  have hplaced : ∀ t ∈ ((built (additions tablePrefix calls)).placeFor "" "" .detached).2.tables,
      t.role ≠ .detached → t ∈ (built (additions tablePrefix calls)).tables :=
    forall_tables_placeFor (fun t ht _ => ht) fun hrole => absurd rfl hrole
  obtain rfl | hfirst := h
  · exact hplaced u hu hrole
  · obtain ⟨t, ht, halias⟩ := getElem?_placeFor hwell "" "" .detached
    obtain hold | hbare := (hwell.placeFor "" "" .detached).tables_includeFields_cases ht hu
    · exact hplaced u hold hrole
    · have hsame : u.role = t.role := congrArg (fun t => t.role) hbare
      have hthere := hplaced t (List.mem_of_getElem? ht) (hsame ▸ hrole)
      obtain ⟨m, hm, hmbare⟩ := maker?_of_mem hthere
      have hmrole : m.role = t.role := congrArg TableEntry.role hmbare
      rw [halias] at hm
      exact absurd ⟨m, hm, by rw [hmrole, ← hsame]; exact hrole⟩ hfirst

/-- They do go to one that has it. -/
theorem exists_table_column (h : TableFirst tablePrefix calls) {fields : List OutputColumn}
    (hfields : fields ≠ []) :
    ∃ u ∈ (run tablePrefix (calls ++ [.column fields]) empty).2.tables, u.role ≠ .detached ∧
      u ∉ (run tablePrefix calls empty).2.tables := by
  obtain ⟨m, hm, hrole⟩ := h
  obtain ⟨u, hu, halias, hbare⟩ := exists_table (maker?_concat hm (.column fields))
  have hsame : m.role = u.role := congrArg TableEntry.role hbare
  -- the last of the fields is the last of the log, so it stands
  obtain ⟨front, last, hspecs⟩ :
      ∃ front last, fields.map OutputColumn.tableless = front ++ [last] :=
    ⟨_, _, (List.dropLast_append_getLast (by simpa using hfields)).symm⟩
  have hlog : fieldLog (additions tablePrefix (calls ++ [.column fields]))
      = fieldLog (additions tablePrefix calls) ++ front.map (LoggedField.mk "")
        ++ [⟨"", last⟩] := by
    rw [additions_column, fieldLog_append]
    simp [fieldLog, hspecs]
  have hadded : entryOf (fieldLog (additions tablePrefix calls)
      ++ front.map (LoggedField.mk "")).length last ∈ u.fields := by
    refine ((reflects_built _).fields u hu _).2 ?_
    rw [hlog, halias]
    exact standsAt_concat.2 (.inr ⟨rfl, rfl⟩)
  refine ⟨u, mem_tables_run.2 hu, hsame ▸ hrole, fun hthere => ?_⟩
  -- but its number is higher than those of all fields before it
  have hbefore := (((reflects_built _).fields u (mem_tables_run.1 hthere) _).1 hadded).1
  have hlt := (List.getElem?_eq_some_iff.1 hbefore).1
  simp only [entryOf, List.length_append] at hlt
  omega

/-! ### The rule -/

/-- **When fields without table keep apart.**  Two runs that differ in nothing else agree on all
other calls and on the tables exactly if in both or in neither a table is declared under an empty
alias that such fields have first, and without such fields that is never so.  One call more for them
leaves the declared tables with the fields that these have, exactly if it adds none or no table has
that alias first. -/
theorem columns_apart_iff (tablePrefix : String) :
    (∀ calls other, withoutColumns calls = withoutColumns other →
      (TablesAgree tablePrefix calls other ↔
        (ColumnFirst tablePrefix calls ↔ ColumnFirst tablePrefix other))) ∧
    (∀ calls, ¬ ColumnFirst tablePrefix (withoutColumns calls)) ∧
    ∀ calls fields,
      (∀ t ∈ (run tablePrefix (calls ++ [.column fields]) empty).2.tables,
          t.role ≠ .detached → t ∈ (run tablePrefix calls empty).2.tables) ↔
        fields = [] ∨ ¬ TableFirst tablePrefix calls := by
  refine ⟨fun calls other => tablesAgree_iff, not_columnFirst_withoutColumns tablePrefix,
    fun calls fields => ⟨fun hkept => ?_, fun h t ht hrole => mem_tables_of_column h ht hrole⟩⟩
  refine or_iff_not_imp_left.2 fun hfields hfirst => ?_
  obtain ⟨u, hu, hrole, hnew⟩ := exists_table_column hfirst hfields
  exact hnew (hkept u hu hrole)

/-- Fields without table that come second are fields of the table, which is declared as before. -/
theorem columns_apart_table :
    let calls : List Call :=
      [.source (.spec ⟨"users", some ""⟩) [.ofText "id"], .column [.ofText "1"]]
    TablesAgree "" calls (withoutColumns calls) ∧
      (run "" calls empty).2.tables = [⟨"users", "", .source,
        [⟨0, .name "id", none⟩, ⟨1, .fragment (Fragment.ofText "1"), none⟩]⟩] := by
  intro calls
  have hcalls : ¬ ColumnFirst "" calls := fun h => absurd h.1 (by decide)
  have hother : ¬ ColumnFirst "" (withoutColumns calls) := (columns_apart_iff "").2.1 calls
  refine ⟨((columns_apart_iff "").1 calls (withoutColumns calls) rfl).2 ?_, by decide⟩
  exact ⟨fun h => absurd h hcalls, fun h => absurd h hother⟩

/-- **A table that is refused** because of a field without table: without that field it is not. -/
theorem column_takes_alias :
    (run "" [.column [.ofText "1"], .source (.spec ⟨"users", some ""⟩) [.ofText "id"]] empty).1
        = [.ok (), .error (.aliasTaken "")] ∧
      (run "" [.source (.spec ⟨"users", some ""⟩) [.ofText "id"]] empty).1 = [.ok ()] := by
  decide

end Selection

end SqlLayer
