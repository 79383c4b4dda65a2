import SqlLayer.Value

/-!
# Statements of the SQLite engine

The statements that the engine understands: operations on transactions and savepoints, and
selections of literals. Selections from a table are here for what the engine says of them, since it
has no tables.
-/

namespace SqlLayer.Sqlite

/-- What an item of a selection is. -/
inductive Expr where
  | value (v : Value)
  /-- The column of a table. -/
  | column (name : String)
  /-- All columns of all tables. -/
  | everything
  deriving DecidableEq

/-- A selected value with its name. -/
structure Item where
  expr : Expr
  name : String
  deriving DecidableEq

/-- A statement. -/
inductive Statement where
  | empty
  | begin
  | commit
  | rollback
  | savepoint (name : String)
  | release (name : String)
  | rollbackTo (name : String)
  /-- Literals, with the number of rows to give at most and to skip. -/
  | select (items : List Item) (limit : Option Int) (offset : Int)
  /-- A selection from a table. -/
  | selectFrom (table : String)
  deriving DecidableEq

end SqlLayer.Sqlite
