import SqlLayer.Selection

/-!
# Selections in diagnostics

The clauses of a selection with everything that was declared, in the order of declaration.
-/

namespace SqlLayer

/-- A kind of join in diagnostics. -/
def JoinType.inspect : JoinType → String
  | .inner => "Inner"
  | .left => "Left"
  | .right => "Right"
  | .fullOuter => "FullOuter"
  | .natural => "Natural"
  | .cross => "Cross"

/-- What a join matches rows by, in diagnostics. -/
def JoinMatch.inspect : JoinMatch → String
  | .none => "None"
  | .on condition => Diagnostic.wrapped "On" condition.inspect
  | .using columns =>
    Diagnostic.wrapped "Using" (Diagnostic.listing (columns.map Diagnostic.text))

/-- The part of a table in diagnostics. -/
def TablePart.inspect : TablePart → String
  | .detached => "Detached"
  | .source => "From"
  | .join kind predicate =>
    Diagnostic.wrapped "Join" (Diagnostic.commas [kind.inspect, predicate.inspect])

/-- A field in diagnostics. -/
def FieldEntry.inspect (f : FieldEntry) : String :=
  Diagnostic.record "FieldInfo" [("order", toString f.order), ("field", f.field.inspect),
    ("alias", Diagnostic.optionalText f.outputAlias)]

/-- A table in diagnostics. -/
def TableEntry.inspect (t : TableEntry) : String :=
  Diagnostic.record "TableInfo" [("name", Diagnostic.text t.name),
    ("alias", Diagnostic.text t.tableAlias), ("role", t.role.inspect),
    ("fields", Diagnostic.listing (t.fields.map FieldEntry.inspect))]

/-- The bounds of the rows in diagnostics. -/
def inspectLimit (limit : Option (Nat × Option Nat)) : String :=
  Diagnostic.optional <| limit.map fun l =>
    Diagnostic.wrapped ""
      (Diagnostic.commas [toString l.1, Diagnostic.optional (l.2.map fun n => toString n)])

/-- A selection in diagnostics. -/
def Selection.inspect (s : Selection) : String :=
  Diagnostic.record "Select" [("distinct", Diagnostic.flag s.distinct),
    ("tables", Diagnostic.listing (s.tables.map TableEntry.inspect)),
    ("where", Diagnostic.listing (s.conditions.map Fragment.inspect)),
    ("group", Diagnostic.listing (s.group.map ColumnRef.inspect)),
    ("having", Diagnostic.listing (s.having.map Fragment.inspect)),
    ("order", Diagnostic.listing (s.order.map SortKey.inspect)),
    ("limit", inspectLimit s.limit)]

end SqlLayer
