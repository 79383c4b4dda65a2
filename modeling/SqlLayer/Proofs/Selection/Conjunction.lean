import SqlLayer.Proofs.Dialect.Nesting
import SqlLayer.Proofs.Selection.Interleaving
import SqlLayer.Proofs.Selection.Joins

/-!
# Conditions as units

Conditions on rows and on groups are collected in the order of their calls, and all of them have to
hold.  What a condition says is not looked at: it may have `AND`, `OR` and parentheses of its own.
Two conditions or more stand in parentheses each, and **what is cut out of the clause again are the
conditions**, as long as each is balanced by itself.

* `Filter` — conditions on rows and on groups, with their calls and their clauses;
* `Selection.conditions_apply`, `Selection.conditions_run` — what a call and a run add to them;
* `ConditionUnits` — a clause that keeps its conditions apart;
* `Selection.render_conditionUnits` — **both clauses of every statement do**.
-/

namespace SqlLayer

/-! ### Clauses of conditions -/

/-- What conditions are about. -/
inductive Filter where
  | rows
  | groups
  deriving DecidableEq

namespace Filter

/-- The words in front of the conditions. -/
def keyword : Filter → String
  | .rows => " WHERE "
  | .groups => " HAVING "

/-- The conditions of a selection. -/
def conditions : Filter → Selection → List Fragment
  | .rows, s => s.conditions
  | .groups, s => s.having

/-- The condition that a call adds. -/
def added? : Filter → Selection.Call → Option Fragment
  | .rows, .condition e => some e
  | .groups, .having e => some e
  | _, _ => none

/-- Where the conditions stand in a selection. -/
def place : Filter → Selection.Clause
  | .rows => .conditions
  | .groups => .having

theorem conditions_part (f : Filter) (s : Selection) :
    f.conditions (s.part f.place) = f.conditions s := by
  cases f <;> rfl

/-- Only calls about the conditions add one. -/
theorem added?_eq_none (f : Filter) {call : Selection.Call} (h : call.clause ≠ f.place) :
    f.added? call = none := by
  cases f <;> cases call <;> first | rfl | exact absurd rfl h

/-- The clause of a selection. -/
def clause (f : Filter) (ctx : RenderContext) (s : Selection) : String :=
  Selection.conditionsClause ctx f.keyword (f.conditions s)

end Filter

namespace Selection

variable {tablePrefix : String}

/-- **A call** adds its condition behind those that are there, and no other call touches them. -/
theorem conditions_apply (f : Filter) (call : Call) (s : Selection) :
    f.conditions (apply tablePrefix call s).2 = f.conditions s ++ (f.added? call).toList := by
  by_cases hclause : call.clause = f.place
  · cases f <;> cases call <;> first | rfl | exact nomatch hclause
  · rw [f.added?_eq_none hclause, Option.toList_none, List.append_nil, ← f.conditions_part,
      part_apply_of_ne tablePrefix hclause, f.conditions_part]

/-- **A run** adds the conditions of its calls in their order. -/
theorem conditions_run (f : Filter) (calls : List Call) (s : Selection) :
    f.conditions (run tablePrefix calls s).2 = f.conditions s ++ calls.filterMap f.added? := by
  induction calls generalizing s with
  | nil => simp [run]
  | cons call rest ih =>
    rw [run_cons, ih, conditions_apply, List.append_assoc, List.filterMap_cons]
    cases f.added? call <;> rfl

end Selection

/-! ### The clauses as SQL -/

/-- A clause that keeps its conditions apart: there is none without conditions, one condition stands
as it is, and from several, if they are balanced, the parts of the clause are the conditions in one
pair of parentheses each. -/
structure ConditionUnits (d : Dialect) (ctx : RenderContext) (keyword : String)
    (conditions : List Fragment) (clause : String) : Prop where
  none : conditions = [] → clause = ""
  single : ∀ e, conditions = [e] → clause = keyword ++ e.render ctx
  several : 2 ≤ conditions.length →
    (∀ e ∈ conditions, d.Balanced (e.render ctx).toList) →
      ∃ text : String, clause = keyword ++ text ∧
        d.conjuncts text.toList
          = conditions.map fun e => Dialect.parenthesized (e.render ctx).toList

namespace Selection

/-- Several conditions, character by character. -/
theorem toList_conjunction (ctx : RenderContext) {conditions : List Fragment}
    (h : 2 ≤ conditions.length) :
    (conjunction ctx conditions).toList
      = " AND ".toList.intercalate
          ((conditions.map fun e => (e.render ctx).toList).map Dialect.parenthesized) := by
  have hwhole : conjunction ctx conditions
      = " AND ".intercalate (conditions.map fun e => "(" ++ e.render ctx ++ ")") := by
    match conditions, h with
    | _ :: _ :: _, _ => rfl
  have hone (e : Fragment) : ("(" ++ e.render ctx ++ ")").toList
      = Dialect.parenthesized (e.render ctx).toList := by
    rw [String.toList_append, String.toList_append]
    rfl
  rw [hwhole, String.toList_intercalate, List.map_map, List.map_map]
  exact congrArg _ (List.map_congr_left fun e _ => hone e)

/-- A clause of conditions keeps them apart. -/
theorem conditionUnits_conditionsClause (d : Dialect) (ctx : RenderContext) (keyword : String)
    (conditions : List Fragment) :
    ConditionUnits d ctx keyword conditions (conditionsClause ctx keyword conditions) where
  none h := by rw [h, conditionsClause, List.isEmpty_nil, if_pos rfl]
  single e h := by
    rw [h]
    rfl
  several h hbalanced := by
    have hne : conditions ≠ [] := by
      rintro rfl
      exact absurd h (by decide)
    refine ⟨conjunction ctx conditions, ?_, ?_⟩
    · rw [conditionsClause, if_neg (by simp [hne])]
    · rw [toList_conjunction ctx h, Dialect.conjuncts_parenthesized d (by simp [hne]), List.map_map]
      · rfl
      · intro text htext
        obtain ⟨e, he, rfl⟩ := List.mem_map.1 htext
        exact hbalanced e he

/-- **Conditions are units.**  After any calls, the statement has one clause of the conditions on
rows and one of those on groups, in the order of the calls, and each clause keeps its conditions
apart, whatever they have inside. -/
theorem render_conditionUnits (tablePrefix : String) (calls : List Call) (ctx : RenderContext)
    (d : Dialect) :
    let s := (run tablePrefix calls empty).2
    s.render ctx = s.opening ctx ++ s.joinsClause ctx ++ Filter.rows.clause ctx s ++
        listClause " GROUP BY " (s.group.map (ColumnRef.render ctx)) ++
        Filter.groups.clause ctx s ++
        listClause " ORDER BY " (s.order.map (SortKey.render ctx)) ++ s.limitClause ∧
      ∀ f : Filter, ConditionUnits d ctx f.keyword (calls.filterMap f.added?) (f.clause ctx s) := by
  intro s
  refine ⟨rfl, fun f => ?_⟩
  have hconditions : f.conditions s = calls.filterMap f.added? := by
    rw [conditions_run]
    cases f <;> rfl
  rw [Filter.clause, hconditions]
  exact conditionUnits_conditionsClause d ctx f.keyword _

/-- Two conditions with an `AND` inside of quotes and of parentheses. -/
theorem where_units_nested :
    ∃ text : String,
      Filter.rows.clause ⟨fun v _ => Dialect.sqlite.textLiteral v.display, ""⟩
          (run "" [.condition (.template "a = %1 OR (b AND c)" [⟨.text ") AND ('", none⟩]),
            .having (.verbatim "n"), .condition (.verbatim "d OR e")] empty).2
        = " WHERE " ++ text ∧
      Dialect.sqlite.conjuncts text.toList
        = ["(a = ') AND (''' OR (b AND c))".toList, "(d OR e)".toList] := by
  have hunits := (render_conditionUnits ""
    [.condition (.template "a = %1 OR (b AND c)" [⟨.text ") AND ('", none⟩]),
      .having (.verbatim "n"), .condition (.verbatim "d OR e")]
    ⟨fun v _ => Dialect.sqlite.textLiteral v.display, ""⟩ .sqlite).2 .rows
  exact hunits.several (by decide) (by decide)

end Selection

end SqlLayer
