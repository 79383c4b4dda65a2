import SqlLayer.Proofs.Dialect.Reading
import SqlLayer.Proofs.Fragment.Substitution
import SqlLayer.Proofs.Selection.Qualification

/-!
# References to columns

A column of a table can be named bare, among the fields of its table, or behind the alias of its
table and a dot, among any fields.  The alias of the table is put in front of a bare name as it is;
what stands before a dot has the table prefix put in first.  **Both name one column exactly if that
leaves the alias as it is.**

* `renderName_parts` — a dotted name, part by part;
* `IsSettled`, `resolveMarker_eq_self_iff` — the texts that the prefix leaves as they are;
* `Selection.infix_tablesText` — the table as FROM or JOIN declares it;
* `Selection.references_agree` — **the rule**;
* `Selection.references_marked` — an alias with a marker, which the dotted name misses.
-/

namespace SqlLayer

/-! ### Names -/

/-- The name of a column behind its table. -/
def dottedName (table column : String) : String := table ++ "." ++ column

/-- A column name as SQL. -/
def columnText (ctx : RenderContext) (column : String) : String :=
  if column = "*" then column else ctx.identifier .field column

/-- **A dotted name** is rendered part by part. -/
theorem renderName_parts (ctx : RenderContext) {tables : List String} {column : String}
    (htables : ∀ table ∈ tables, '.' ∉ table.toList) (hcolumn : '.' ∉ column.toList) :
    renderName ctx (".".intercalate (tables ++ [column]))
      = ".".intercalate
          ((tables.map fun table => ctx.identifier .table (resolveMarker ctx.tablePrefix table))
            ++ [columnText ctx column]) := by
  have hparts : (".".intercalate (tables ++ [column])).toList.splitOn '.'
      = (tables ++ [column]).map String.toList := by
    rw [String.toList_intercalate]
    refine List.splitOn_intercalate '.' (fun part hpart => ?_) (by simp)
    obtain ⟨name, hname, rfl⟩ := List.mem_map.1 hpart
    obtain hname | hname := List.mem_append.1 hname
    · exact htables name hname
    · rw [List.mem_singleton.1 hname]
      exact hcolumn
  have hnames : ((tables ++ [column]).map String.toList).map String.ofList
      = tables ++ [column] := by simp
  rw [renderName, hparts, hnames, List.dropLast_concat, List.getLastD_concat, columnText]

theorem renderName_bare (ctx : RenderContext) {column : String} (hcolumn : '.' ∉ column.toList) :
    renderName ctx column = columnText ctx column :=
  @renderName_parts ctx [] column (by simp) hcolumn

theorem renderName_dotted (ctx : RenderContext) {table column : String}
    (htable : '.' ∉ table.toList) (hcolumn : '.' ∉ column.toList) :
    renderName ctx (dottedName table column)
      = ctx.identifier .table (resolveMarker ctx.tablePrefix table) ++ "."
        ++ columnText ctx column :=
  @renderName_parts ctx [table] column (by simpa using htable) hcolumn

/-- Putting the prefix in leaves a text as it is. -/
def IsSettled (tablePrefix name : String) : Prop :=
  ¬ marker <:+: name.toList ∨ tablePrefix.toList = marker

instance (tablePrefix name : String) : Decidable (IsSettled tablePrefix name) :=
  inferInstanceAs (Decidable (_ ∨ _))

theorem resolveMarker_eq_self_iff {tablePrefix name : String} :
    resolveMarker tablePrefix name = name ↔ IsSettled tablePrefix name := by
  rw [IsSettled, ← resolveChars_eq_self_iff, resolveMarker, ← String.toList_inj,
    String.toList_ofList]

/-- Identifiers with one quoted form are one. -/
theorem Dialect.identifierLiteral_inj (d : Dialect) {name other : String}
    (h : d.identifierLiteral name = d.identifierLiteral other) : name = other := by
  have hread : ∀ name : String, d.readIdentifier (d.identifierLiteral name).toList
      = some (name.toList, []) := fun name => by
    have hname := @readIdentifier_identifierChars d name.toList [] (by simp)
    rw [List.append_nil] at hname
    rw [identifierLiteral, String.toList_ofList, hname]
  have hsame := hread name
  rw [h, hread other, Option.some.injEq, Prod.mk.injEq] at hsame
  exact String.toList_inj.1 hsame.1.symm

/-! ### What FROM and JOIN say -/

/-- What stands between separators is part of the whole. -/
theorem infix_intercalate {sep text : List Char} {texts : List (List Char)} (h : text ∈ texts) :
    text <:+: sep.intercalate texts := by
  induction texts with
  | nil => exact absurd h List.not_mem_nil
  | cons first rest ih =>
    cases rest with
    | nil =>
      rw [List.mem_singleton.1 h, List.intercalate_singleton]
    | cons second rest =>
      rw [List.intercalate_cons_cons]
      obtain rfl | hrest := List.mem_cons.1 h
      · rw [List.append_assoc]
        exact (List.prefix_append _ _).isInfix
      · exact (ih hrest).trans (List.suffix_append _ _).isInfix

/-- A table is declared under its alias. -/
theorem TableEntry.exists_render_eq (ctx : RenderContext) (t : TableEntry) :
    ∃ opening, t.render ctx = opening ++ ctx.identifier .table t.tableAlias := by
  rw [render]
  by_cases hsame : t.tableAlias = t.name
  · exact ⟨"", by rw [if_pos hsame, hsame]; simp⟩
  · exact ⟨_, by rw [if_neg hsame, ← String.append_assoc]⟩

namespace Selection

/-- The clauses of a statement that declare tables. -/
def tablesText (ctx : RenderContext) (s : Selection) : String :=
  s.sourcesClause ctx ++ s.joinsClause ctx

/-- A table is declared there, unless it holds the fields that belong to none. -/
theorem infix_tablesText (ctx : RenderContext) {s : Selection} {t : TableEntry} (ht : t ∈ s.tables)
    (hlisted : t.role ≠ .detached) :
    (t.render ctx).toList <:+: (s.tablesText ctx).toList := by
  rw [tablesText, String.toList_append]
  cases hrole : t.role with
  | detached => exact absurd hrole hlisted
  | source =>
    have hsource : t ∈ s.tables.filter fun t => t.role == .source :=
      List.mem_filter.2 ⟨ht, by rw [hrole]; rfl⟩
    have htext : (t.render ctx).toList ∈ ((s.tables.filter fun t => t.role == .source).map
        (TableEntry.render ctx)).map String.toList :=
      List.mem_map_of_mem (List.mem_map_of_mem hsource)
    refine List.IsInfix.trans ?_ (List.prefix_append _ _).isInfix
    rw [sourcesClause, if_neg (by simpa using List.ne_nil_of_mem hsource), String.toList_append,
      String.toList_intercalate]
    exact (infix_intercalate htext).trans (List.suffix_append _ _).isInfix
  | join kind predicate =>
    have hclause : (joinClause ctx t).toList
        = (" " ++ kind.keyword ++ " JOIN ").toList ++ (t.render ctx).toList
          ++ (predicate.render ctx).toList := by
      rw [joinClause, hrole, String.toList_append, String.toList_append]
    refine List.IsInfix.trans ?_ (List.suffix_append _ _).isInfix
    rw [joinsClause, String.toList_join, List.flatMap_def]
    refine List.IsInfix.trans ?_
      (List.infix_of_mem_flatten (List.mem_map_of_mem (List.mem_map_of_mem ht)))
    exact ⟨_, _, hclause.symm⟩

variable {tablePrefix : String} {calls : List Call}

/-- How the columns of a table are named. -/
structure ReferencesAgree (tablePrefix : String) (calls : List Call) (t : TableEntry)
    (column : String) : Prop where
  /-- The texts of the field list are those of the fields that were added, and that no later one
  replaces. -/
  fieldList : ∀ ctx, (run tablePrefix calls empty).2.fieldTexts ctx
    = (standing (fieldLog (additions tablePrefix calls))).map
        (LoggedField.render ctx (additions tablePrefix calls))
  /-- A bare name is qualified with the alias of its table. -/
  qualified : ∀ ctx,
    (LoggedField.mk t.tableAlias (.plain (.name column))).render ctx (additions tablePrefix calls)
      = ctx.identifier .table t.tableAlias ++ "." ++ columnText ctx column
  /-- A dotted name in any list has its text, whatever the engine, where the prefix leaves the alias
  as it is. -/
  agree : IsSettled tablePrefix t.tableAlias → ∀ escape owner outputAlias,
    (LoggedField.mk owner ⟨.name (dottedName t.tableAlias column), outputAlias⟩).render
        ⟨escape, tablePrefix⟩ (additions tablePrefix calls)
      = (LoggedField.mk t.tableAlias ⟨.name column, outputAlias⟩).render ⟨escape, tablePrefix⟩
          (additions tablePrefix calls)
  /-- With the identifiers of the engines it has it nowhere else. -/
  agree_iff : ∀ (d : Dialect) now owner outputAlias,
    (LoggedField.mk owner ⟨.name (dottedName t.tableAlias column), outputAlias⟩).render
        ⟨d.escape now, tablePrefix⟩ (additions tablePrefix calls)
      = (LoggedField.mk t.tableAlias ⟨.name column, outputAlias⟩).render ⟨d.escape now, tablePrefix⟩
          (additions tablePrefix calls) ↔ IsSettled tablePrefix t.tableAlias
  /-- The statement declares the table, under its alias, and no other table has that. -/
  declared : ∀ ctx,
    (t.render ctx).toList <:+: ((run tablePrefix calls empty).2.tablesText ctx).toList
  named : ∀ ctx, ∃ opening, t.render ctx = opening ++ ctx.identifier .table t.tableAlias
  only : ∀ u ∈ (run tablePrefix calls empty).2.tables, u.tableAlias = t.tableAlias → u = t

/-- What follows the name of a field. -/
def outputText (ctx : RenderContext) : Option String → String
  | none => ""
  | some a => " AS " ++ ctx.identifier .field a

section

variable {t : TableEntry} {column : String} (hcolumn : '.' ∉ column.toList)
include hcolumn

theorem render_bare (hseveral : SeveralNamed (additions tablePrefix calls))
    (ht : t ∈ (run tablePrefix calls empty).2.tables) (hlisted : t.role ≠ .detached)
    (ctx : RenderContext) (outputAlias : Option String) :
    (LoggedField.mk t.tableAlias ⟨.name column, outputAlias⟩).render ctx
        (additions tablePrefix calls)
      = ctx.identifier .table t.tableAlias ++ "." ++ columnText ctx column
        ++ outputText ctx outputAlias := by
  have htable : t ∈ (built (additions tablePrefix calls)).tables := by
    rw [← tables_run]
    exact ht
  obtain ⟨m, hm, hbare⟩ := maker?_of_mem htable
  have hrole : m.role = t.role := congrArg TableEntry.role hbare
  have htableless : isTableless (additions tablePrefix calls) t.tableAlias = false := by
    rw [isTableless, hm, Option.any_some, hrole, decide_eq_false hlisted]
  have hqualified : LoggedField.isQualified (additions tablePrefix calls)
      ⟨t.tableAlias, ⟨.name column, outputAlias⟩⟩ = true :=
    LoggedField.isQualified_iff.2 ⟨⟨column, rfl, hcolumn⟩, htableless, hseveral⟩
  rw [LoggedField.render, if_pos hqualified, LoggedField.qualifier, LoggedField.bareText,
    ColumnRef.render, renderName_bare ctx hcolumn, ← String.append_assoc]
  cases outputAlias <;> rfl

theorem render_dotted {table : String} (htable : '.' ∉ table.toList) (ctx : RenderContext)
    (ds : List Addition) (owner : String) (outputAlias : Option String) :
    (LoggedField.mk owner ⟨.name (dottedName table column), outputAlias⟩).render ctx ds
      = ctx.identifier .table (resolveMarker ctx.tablePrefix table) ++ "." ++ columnText ctx column
        ++ outputText ctx outputAlias := by
  have hqualified : ¬ LoggedField.isQualified ds
      ⟨owner, ⟨.name (dottedName table column), outputAlias⟩⟩ = true := by
    rw [LoggedField.isQualified_iff]
    rintro ⟨⟨name, hname, hdot⟩, -⟩
    obtain rfl := ColumnRef.name.inj hname
    exact hdot (by simp [dottedName])
  rw [LoggedField.render, if_neg hqualified, LoggedField.bareText, ColumnRef.render,
    renderName_dotted ctx htable hcolumn, String.empty_append]
  cases outputAlias <;> rfl

/-- **A bare column and a dotted reference name one column**, that of the table that FROM or JOIN
declares, exactly if the prefix leaves the alias of the table as it is. -/
theorem references_agree (hseveral : SeveralNamed (additions tablePrefix calls))
    (ht : t ∈ (run tablePrefix calls empty).2.tables) (hlisted : t.role ≠ .detached)
    (halias : '.' ∉ t.tableAlias.toList) : ReferencesAgree tablePrefix calls t column where
  fieldList ctx := fieldTexts_run ctx tablePrefix calls
  qualified ctx := by
    have hform := render_bare hcolumn hseveral ht hlisted ctx none
    rw [outputText, String.append_empty] at hform
    exact hform
  agree hsettled escape owner outputAlias := by
    rw [render_dotted hcolumn halias, render_bare hcolumn hseveral ht hlisted]
    dsimp only
    rw [resolveMarker_eq_self_iff.2 hsettled]
  agree_iff d now owner outputAlias := by
    rw [render_dotted hcolumn halias, render_bare hcolumn hseveral ht hlisted,
      ← resolveMarker_eq_self_iff, String.append_assoc, String.append_assoc, String.append_assoc,
      String.append_assoc, String.append_left_inj]
    exact ⟨fun h => d.identifierLiteral_inj h, fun h => congrArg d.identifierLiteral h⟩
  declared ctx := infix_tablesText ctx ht hlisted
  named ctx := t.exists_render_eq ctx
  only u hu hsame := (wellFormed_run tablePrefix calls).eq_of_alias hu ht hsame

end

/-- The table `u` is declared by FROM, and the join of another table refers to a column of it. -/
theorem references_agree_join :
    let calls : List Call := [.source (.spec ⟨"#__users", some "u"⟩) [.ofText "id"],
      .join .left (.spec ⟨"#__orders", none⟩) (.using ["id"]) [.ofText "u.id"]]
    let t : TableEntry := ⟨"app_users", "u", .source, [⟨0, .name "id", none⟩]⟩
    SeveralNamed (additions "app_" calls) ∧ t ∈ (run "app_" calls empty).2.tables ∧
      t.role ≠ .detached ∧ '.' ∉ t.tableAlias.toList ∧ '.' ∉ "id".toList ∧
      (LoggedField.mk "app_orders" (.plain (.name "u.id"))).render
          ⟨Dialect.sqlite.escape default, "app_"⟩ (additions "app_" calls)
        = Dialect.sqlite.identifierLiteral "u" ++ "."
          ++ columnText ⟨Dialect.sqlite.escape default, "app_"⟩ "id" := by
  intro calls t
  have hseveral : SeveralNamed (additions "app_" calls) := by decide
  have ht : t ∈ (run "app_" calls empty).2.tables := by decide
  have hlisted : t.role ≠ .detached := by decide
  have hagree : ReferencesAgree "app_" calls t "id" :=
    references_agree (by decide) hseveral ht hlisted (by decide)
  refine ⟨hseveral, ht, hlisted, by decide, by decide, ?_⟩
  exact (hagree.agree (by decide) (Dialect.sqlite.escape default) "app_orders" none).trans
    (hagree.qualified _)

/-- **An alias with a marker**: a table is declared under the alias `#__u`, and its bare column is
qualified with that; the dotted reference has the prefix in its place, and names no table. -/
theorem references_marked :
    let calls : List Call := [.source (.spec ⟨"#__users", some "#__u"⟩) [.ofText "id"],
      .source (.spec ⟨"b", none⟩) [.ofText "#__u.id"]]
    (run "p_" calls empty).1 = [.ok (), .ok ()] ∧ SeveralNamed (additions "p_" calls) ∧
      (run "p_" calls empty).2.sourcesClause ⟨Dialect.sqlite.escape default, "p_"⟩
        = " FROM \"p_users\" AS \"#__u\", \"b\"" ∧
      (run "p_" calls empty).2.fieldTexts ⟨Dialect.sqlite.escape default, "p_"⟩
        = ["\"#__u\".\"id\"", "\"p_u\".\"id\""] := by
  refine ⟨by decide, by decide, by decide, ?_⟩
  rw [fieldTexts_run]
  decide

end Selection

end SqlLayer
