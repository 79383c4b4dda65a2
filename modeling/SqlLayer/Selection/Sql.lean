import SqlLayer.Selection

/-!
# Selections as SQL

The clauses stand in a fixed order:

    SELECT [DISTINCT] fields [FROM tables] [joins] [WHERE condition] [GROUP BY columns]
      [HAVING condition] [ORDER BY columns] [LIMIT n [OFFSET m]]

Fields stand in the order of their numbers. Where more than one named table takes part, a name
without a dot is qualified with the alias of its table.
-/

namespace SqlLayer

/-- A name as an identifier. -/
def RenderContext.identifier (ctx : RenderContext) (tag : SqlKind) (name : String) : String :=
  ctx.escape (.text name) (some tag)

/-- A dotted name as SQL. The parts before the last name tables, and a final `*` has no quotes. -/
def renderName (ctx : RenderContext) (name : String) : String :=
  let parts := (name.toList.splitOn '.').map String.ofList
  let column := parts.getLastD ""
  let tables := parts.dropLast.map fun part =>
    ctx.identifier .table (resolveMarker ctx.tablePrefix part)
  ".".intercalate (tables ++ [if column = "*" then column else ctx.identifier .field column])

/-- A column reference as SQL. -/
def ColumnRef.render (ctx : RenderContext) : ColumnRef → String
  | .name s => renderName ctx s
  | .fragment e => e.render ctx

/-- Whether a column reference is a name without a dot. -/
def ColumnRef.isUndotted : ColumnRef → Bool
  | .name s => !s.toList.contains '.'
  | .fragment _ => false

/-- A table as SQL, with its alias where it has another one. -/
def TableEntry.render (ctx : RenderContext) (t : TableEntry) : String :=
  ctx.identifier .table t.name ++
    if t.tableAlias = t.name then "" else " AS " ++ ctx.identifier .table t.tableAlias

/-- A sort entry as SQL. -/
def SortKey.render (ctx : RenderContext) : SortKey → String
  | .column field descending => field.render ctx ++ if descending then " DESC" else " ASC"
  | .fragment e => e.render ctx

/-- What a join matches rows by, as SQL. -/
def JoinMatch.render (ctx : RenderContext) : JoinMatch → String
  | .none => ""
  | .on condition => " ON " ++ condition.render ctx
  | .using columns => " USING (" ++ ", ".intercalate (columns.map (ctx.identifier .field)) ++ ")"

namespace Selection

/-- A field with the alias that qualifies it, if one does. -/
structure ListedField where
  entry : FieldEntry
  owner : Option String
  deriving DecidableEq

/-- Whether names are qualified. -/
def qualifies (s : Selection) : Bool := 1 < s.namedTables

/-- The alias that qualifies a field of a table. -/
def owner? (s : Selection) (t : TableEntry) (entry : FieldEntry) : Option String :=
  if s.qualifies && t.role != .detached && entry.field.isUndotted then some t.tableAlias else none

/-- The fields in the order of their numbers. -/
def listedFields (s : Selection) : List ListedField :=
  (s.tables.flatMap fun t => t.fields.map fun entry => ⟨entry, s.owner? t entry⟩).mergeSort
    fun a b => a.entry.order ≤ b.entry.order

/-- A field as SQL. -/
def ListedField.render (ctx : RenderContext) (f : ListedField) : String :=
  (match f.owner with
    | none => ""
    | some a => ctx.identifier .table a ++ ".") ++ f.entry.field.render ctx ++
  (match f.entry.outputAlias with
    | none => ""
    | some a => " AS " ++ ctx.identifier .field a)

/-- The field list. -/
def fieldsClause (ctx : RenderContext) (s : Selection) : String :=
  ", ".intercalate (s.listedFields.map (ListedField.render ctx))

/-- The tables selected from. -/
def sourcesClause (ctx : RenderContext) (s : Selection) : String :=
  let sources := s.tables.filter fun t => t.role == .source
  if sources.isEmpty then ""
  else " FROM " ++ ", ".intercalate (sources.map (TableEntry.render ctx))

/-- A joined table. -/
def joinClause (ctx : RenderContext) (t : TableEntry) : String :=
  match t.role with
  | .join kind predicate =>
    " " ++ kind.keyword ++ " JOIN " ++ t.render ctx ++ predicate.render ctx
  | _ => ""

/-- The joined tables. -/
def joinsClause (ctx : RenderContext) (s : Selection) : String :=
  String.join (s.tables.map (joinClause ctx))

/-- Conditions that all have to hold: one stands as it is, several stand in parentheses. -/
def conjunction (ctx : RenderContext) : List Fragment → String
  | [e] => e.render ctx
  | es => " AND ".intercalate (es.map fun e => "(" ++ e.render ctx ++ ")")

/-- A clause of conditions. -/
def conditionsClause (ctx : RenderContext) (keyword : String) (conditions : List Fragment) :
    String :=
  if conditions.isEmpty then "" else keyword ++ conjunction ctx conditions

/-- A clause of items between commas. -/
def listClause (keyword : String) (items : List String) : String :=
  if items.isEmpty then "" else keyword ++ ", ".intercalate items

/-- The bounds of the rows. -/
def limitClause (s : Selection) : String :=
  match s.limit with
  | none => ""
  | some (count, none) => " LIMIT " ++ toString count
  | some (count, some offset) => " LIMIT " ++ toString count ++ " OFFSET " ++ toString offset

/-- A selection as SQL. -/
def render (ctx : RenderContext) (s : Selection) : String :=
  "SELECT" ++ (if s.distinct then " DISTINCT" else "") ++ " " ++ s.fieldsClause ctx ++
    s.sourcesClause ctx ++ s.joinsClause ctx ++
    conditionsClause ctx " WHERE " s.conditions ++
    listClause " GROUP BY " (s.group.map (ColumnRef.render ctx)) ++
    conditionsClause ctx " HAVING " s.having ++
    listClause " ORDER BY " (s.order.map (SortKey.render ctx)) ++ s.limitClause

end Selection

end SqlLayer
