import SqlLayer.Dialect
import SqlLayer.Proofs.Selection.Additions

/-!
# Which joins a statement shows

A statement has one clause for every joined table.  The kind of the join and its condition are those
of the call that made the table: **what a later call joins the same table by is dropped**, although
the call succeeds.

* `Selection.joinedTables`, `Selection.joinsClause_eq` — the joined tables, clause by clause;
* `Selection.mem_joinedTables_iff` — they are told from what the calls have added;
* `Selection.join_shown_iff` — a join that succeeds is shown **exactly if its table is new or was
  made by a join of the same kind and condition**;
* `Selection.join_dropped` — a condition that the statement does not have.
-/

namespace SqlLayer

/-- A joined table, as its clause tells it. -/
structure JoinedTable where
  name : String
  tableAlias : String
  kind : JoinType
  predicate : JoinMatch
  deriving DecidableEq

/-- The clause of a joined table. -/
def JoinedTable.render (ctx : RenderContext) (j : JoinedTable) : String :=
  " " ++ j.kind.keyword ++ " JOIN " ++
    (ctx.identifier .table j.name ++
      if j.tableAlias = j.name then "" else " AS " ++ ctx.identifier .table j.tableAlias) ++
    j.predicate.render ctx

/-- The clause that a table has, if it is joined. -/
def TableEntry.joined? (t : TableEntry) : Option JoinedTable :=
  match t.role with
  | .join kind predicate => some ⟨t.name, t.tableAlias, kind, predicate⟩
  | .source | .detached => none

theorem TableEntry.joined?_eq_some {t : TableEntry} {j : JoinedTable} :
    t.joined? = some j ↔
      t.name = j.name ∧ t.tableAlias = j.tableAlias ∧ t.role = .join j.kind j.predicate := by
  obtain ⟨name, tableAlias, kind, predicate⟩ := j
  unfold joined?
  split
  · rename_i kind' predicate' hrole
    simp [hrole]
  · rename_i hrole
    simp [hrole]
  · rename_i hrole
    simp [hrole]

namespace Selection

/-- The joined tables of a statement, in their order. -/
def joinedTables (s : Selection) : List JoinedTable := s.tables.filterMap TableEntry.joined?

/-- The text between the tables selected from and the conditions has **one clause for each joined
table** and nothing else. -/
theorem joinsClause_eq (ctx : RenderContext) (s : Selection) :
    s.joinsClause ctx = String.join (s.joinedTables.map (JoinedTable.render ctx)) := by
  have hclause : ∀ t : TableEntry, joinClause ctx t
      = match t.joined? with
        | some j => j.render ctx
        | none => "" := by
    intro t
    unfold joinClause TableEntry.joined?
    cases t.role <;> rfl
  rw [joinsClause, joinedTables, ← String.toList_inj]
  induction s.tables with
  | nil => rfl
  | cons t rest ih =>
    rw [List.map_cons, List.filterMap_cons, String.toList_join, List.flatMap_cons,
      ← String.toList_join, ih, hclause]
    cases t.joined? with
    | none => rfl
    | some j => simp [String.toList_join]

variable {tablePrefix : String}

/-- A table is joined in some way exactly if the addition that made it joins it so. -/
theorem mem_joinedTables_iff {calls : List Call} {j : JoinedTable} :
    j ∈ (run tablePrefix calls empty).2.joinedTables ↔
      ∃ m, maker? (additions tablePrefix calls) j.tableAlias = some m ∧ m.name = j.name ∧
        m.role = .join j.kind j.predicate := by
  have htables : (run tablePrefix calls empty).2.tables
      = (built (additions tablePrefix calls)).tables := by
    rw [← tables_run]
    rfl
  rw [joinedTables, htables, List.mem_filterMap]
  constructor
  · rintro ⟨t, ht, hjoined⟩
    obtain ⟨hname, halias, hrole⟩ := TableEntry.joined?_eq_some.1 hjoined
    obtain ⟨m, hm, hbare⟩ := maker?_of_mem ht
    rw [halias] at hm
    exact ⟨m, hm, (congrArg TableEntry.name hbare).trans hname,
      (congrArg TableEntry.role hbare).trans hrole⟩
  · rintro ⟨m, hm, hname, hrole⟩
    obtain ⟨t, ht, halias, hbare⟩ := exists_table hm
    refine ⟨t, ht, TableEntry.joined?_eq_some.2 ⟨?_, halias, ?_⟩⟩
    · exact (congrArg TableEntry.name hbare).symm.trans hname
    · exact (congrArg TableEntry.role hbare).symm.trans hrole

/-- The joined table that a call asks for. -/
def Call.joined? (tablePrefix : String) : Call → Option JoinedTable
  | .join kind table predicate _ =>
    match table.resolve with
    | .ok spec => some ⟨engineNameOf tablePrefix spec, boundAlias tablePrefix spec, kind, predicate⟩
    | .error _ => none
  | _ => none

/-- A join adds the table that it asks for. -/
theorem Call.addition?_of_joined? {call : Call} {j : JoinedTable}
    (h : call.joined? tablePrefix = some j) :
    ∃ fields, call.addition? tablePrefix
      = some ⟨j.name, j.tableAlias, .join j.kind j.predicate, fields⟩ := by
  cases call with
  | join kind table predicate fields =>
    simp only [Call.joined?] at h
    cases hresolve : table.resolve with
    | error e => simp [hresolve] at h
    | ok spec =>
      rw [hresolve] at h
      obtain rfl := Option.some.inj h
      exact ⟨fields, Addition.ofTable?_eq_some.2 ⟨spec, hresolve, rfl⟩⟩
  | _ => simp [Call.joined?] at h

/-- What stands before the joined tables. -/
def opening (ctx : RenderContext) (s : Selection) : String :=
  "SELECT" ++ (if s.distinct then " DISTINCT" else "") ++ " " ++ s.fieldsClause ctx ++
    s.sourcesClause ctx

/-- What stands behind the joined tables. -/
def closing (ctx : RenderContext) (s : Selection) : String :=
  conditionsClause ctx " WHERE " s.conditions ++
    listClause " GROUP BY " (s.group.map (ColumnRef.render ctx)) ++
    conditionsClause ctx " HAVING " s.having ++
    listClause " ORDER BY " (s.order.map (SortKey.render ctx)) ++ s.limitClause

theorem render_eq_opening (ctx : RenderContext) (s : Selection) :
    s.render ctx = s.opening ctx ++ String.join (s.joinedTables.map (JoinedTable.render ctx))
      ++ s.closing ctx := by
  rw [← joinsClause_eq]
  unfold render opening closing
  simp only [String.append_assoc]

/-- **Which joins are shown.**  A join that succeeds has its clause in every later statement exactly
if no call before it has made a table of its alias, or the one that has was a join of the same kind
and condition. -/
theorem join_shown_iff {before later : List Call} {call : Call} {j : JoinedTable}
    (hjoin : call.joined? tablePrefix = some j)
    (haccepted : (apply tablePrefix call (run tablePrefix before empty).2).1 = .ok ()) :
    (j ∈ (run tablePrefix (before ++ call :: later) empty).2.joinedTables ↔
      ∀ m, maker? (additions tablePrefix before) j.tableAlias = some m →
        m.role = .join j.kind j.predicate) ∧
    ∀ ctx, (run tablePrefix (before ++ call :: later) empty).2.render ctx
      = (run tablePrefix (before ++ call :: later) empty).2.opening ctx
        ++ String.join ((run tablePrefix (before ++ call :: later) empty).2.joinedTables.map
            (JoinedTable.render ctx))
        ++ (run tablePrefix (before ++ call :: later) empty).2.closing ctx := by
  obtain ⟨fields, hadd⟩ := Call.addition?_of_joined? hjoin
  constructor
  · -- the additions in the end: those before, this one, and those that come later
    obtain ⟨ds, hadditions⟩ : ∃ ds, additions tablePrefix (before ++ call :: later)
        = additions tablePrefix before
          ++ ⟨j.name, j.tableAlias, .join j.kind j.predicate, fields⟩ :: ds := by
      have hmade : additionOf? tablePrefix (call, .ok ())
          = some ⟨j.name, j.tableAlias, .join j.kind j.predicate, fields⟩ := hadd
      rw [additions, history_append, List.filterMap_append, history_cons, haccepted,
        List.filterMap_cons_some hmade]
      exact ⟨_, rfl⟩
    rw [mem_joinedTables_iff, hadditions, maker?_append]
    cases hmaker : maker? (additions tablePrefix before) j.tableAlias with
    | none => simp [maker?]
    | some m =>
      have hname : m.name = j.name := by
        have hfound : maker? (additions tablePrefix (before ++ [call])) j.tableAlias = some m := by
          rw [additions_concat, maker?_append, hmaker, Option.some_or]
        have hmem : (⟨j.name, j.tableAlias, .join j.kind j.predicate, fields⟩ : Addition)
            ∈ additions tablePrefix (before ++ [call]) := by
          rw [additions_concat, haccepted]
          simp [additionOf?, hadd]
        have hsame := name_of_mem_additions hmem (by simp)
        rw [hfound] at hsame
        exact Option.some.inj hsame
      simp [hname]
  · intro ctx
    exact render_eq_opening ctx _

/-- A join of a new table is shown. -/
theorem join_shown_new_table :
    (Call.join .left (.spec ⟨"#__o", some "o"⟩) (.using ["id"]) []).joined? "app_"
        = some ⟨"app_o", "o", .left, .using ["id"]⟩ ∧
      (apply "app_" (.join .left (.spec ⟨"#__o", some "o"⟩) (.using ["id"]) [])
        (run "app_" [.source (.spec ⟨"u", none⟩) []] empty).2).1 = .ok () ∧
      ⟨"app_o", "o", .left, .using ["id"]⟩ ∈ (run "app_" ([.source (.spec ⟨"u", none⟩) []] ++
        .join .left (.spec ⟨"#__o", some "o"⟩) (.using ["id"]) [] :: []) empty).2.joinedTables :=
  have hjoin : (Call.join .left (.spec ⟨"#__o", some "o"⟩) (.using ["id"]) []).joined? "app_"
      = some ⟨"app_o", "o", .left, .using ["id"]⟩ := by decide
  have haccepted : (apply "app_" (.join .left (.spec ⟨"#__o", some "o"⟩) (.using ["id"]) [])
      (run "app_" [.source (.spec ⟨"u", none⟩) []] empty).2).1 = .ok () := by decide
  ⟨hjoin, haccepted, (join_shown_iff hjoin haccepted).1.2 (by decide)⟩

/-- **A condition that is dropped**: the table `b` is joined twice, the second time by another
condition.  Both calls succeed, and the statement has the first condition only. -/
theorem join_dropped :
    (run "" [.source (.spec ⟨"a", none⟩) [.ofText "x"],
        .join .inner (.spec ⟨"b", none⟩) (.on (.ofText "a.id = b.id")) [],
        .join .inner (.spec ⟨"b", none⟩) (.on (.ofText "a.kind = b.kind")) []] empty).1
      = [.ok (), .ok (), .ok ()] ∧
    (run "" [.source (.spec ⟨"a", none⟩) [.ofText "x"],
        .join .inner (.spec ⟨"b", none⟩) (.on (.ofText "a.id = b.id")) [],
        .join .inner (.spec ⟨"b", none⟩) (.on (.ofText "a.kind = b.kind")) []] empty).2.joinsClause
          ⟨Dialect.sqlite.escape default, ""⟩
      = " INNER JOIN \"b\" ON a.id = b.id" := by
  decide

end Selection

end SqlLayer
