import SqlLayer.Result.Store
import SqlLayer.Sqlite.Reading

/-!
# The SQLite engine in memory

A private database without tables. It keeps the state of its transaction: whether one is open, and
the savepoints within it.

* `Engine.step` — one statement; `RELEASE` drops a savepoint with all later ones, `ROLLBACK TO`
  keeps it and drops the later ones, and of equal names the **latest** counts;
* `Engine.run` — the statements of a text, one after another.
-/

namespace SqlLayer.Sqlite

/-- An open transaction. -/
structure Transaction where
  /-- Whether a savepoint opened it; then releasing that savepoint ends it. -/
  openedBySavepoint : Bool
  /-- The savepoints, latest first. -/
  savepoints : List String
  deriving DecidableEq

/-- The engine. -/
structure Engine where
  transaction : Option Transaction
  deriving DecidableEq

namespace Engine

/-- The engine of a fresh database. -/
def new : Engine := ⟨none⟩

/-- Whether two names are one to the engine. -/
def sameName (a b : String) : Bool := Text.sameLetters a.toList b.toList

/-- The savepoints from the latest one of a name on. -/
def fromSavepoint? (name : String) : List String → Option (List String)
  | [] => none
  | s :: rest => if sameName s name then some (s :: rest) else fromSavepoint? name rest

/-- The savepoints from the latest one of a name on, in the open transaction. -/
def openSavepoint? (e : Engine) (name : String) : Option (Transaction × List String) :=
  e.transaction.bind fun t => (fromSavepoint? name t.savepoints).map fun s => (t, s)

/-- What the engine says of a missing savepoint. -/
def noSavepoint (name : String) : String := "no such savepoint: " ++ name

/-- The values of a selection without a table, or what the engine says of a column in it. -/
def selected (items : List Item) : Except String (List Value) :=
  if items.any fun item => item.expr = .everything then .error "no tables specified"
  else
    items.mapM fun item =>
      match item.expr with
      | .value v => .ok v
      | .column name => .error ("no such column: " ++ name)
      | .everything => .error "no tables specified"

/-- The rows of a selection of values: one, unless the bounds leave none. -/
def boundedRows (values : List Value) (limit : Option Int) (offset : Int) : List (List Value) :=
  if limit = some 0 ∨ 0 < offset then [] else [values]

/-- One statement: the columns and rows it gives, or what the engine says of it. -/
def step (e : Engine) : Statement → Except String (List String × List (List Value)) × Engine
  | .empty => (.ok ([], []), e)
  | .begin =>
    match e.transaction with
    | some _ => (.error "cannot start a transaction within a transaction", e)
    | none => (.ok ([], []), ⟨some ⟨false, []⟩⟩)
  | .commit =>
    match e.transaction with
    | some _ => (.ok ([], []), ⟨none⟩)
    | none => (.error "cannot commit - no transaction is active", e)
  | .rollback =>
    match e.transaction with
    | some _ => (.ok ([], []), ⟨none⟩)
    | none => (.error "cannot rollback - no transaction is active", e)
  | .savepoint name =>
    match e.transaction with
    | some t => (.ok ([], []), ⟨some { t with savepoints := name :: t.savepoints }⟩)
    | none => (.ok ([], []), ⟨some ⟨true, [name]⟩⟩)
  | .release name =>
    match e.openSavepoint? name with
    | none => (.error (noSavepoint name), e)
    | some (t, found) =>
      if t.openedBySavepoint ∧ found.tail = [] then (.ok ([], []), ⟨none⟩)
      else (.ok ([], []), ⟨some { t with savepoints := found.tail }⟩)
  | .rollbackTo name =>
    match e.openSavepoint? name with
    | none => (.error (noSavepoint name), e)
    | some (t, found) => (.ok ([], []), ⟨some { t with savepoints := found }⟩)
  | .select items limit offset =>
    ((selected items).map fun values => (items.map Item.name, boundedRows values limit offset), e)
  | .selectFrom table => (.error ("no such table: " ++ table), e)

/-- What the engine says of lexemes that are no statement, from the first that does not fit. -/
def syntaxError (ls : List Lexeme) : String :=
  match ls with
  | [] => "incomplete input"
  | l :: _ =>
    if l.kind = .unrecognized then "unrecognized token: \"" ++ String.ofList l.source ++ "\""
    else "near \"" ++ String.ofList l.source ++ "\": syntax error"

/-- One statement after another. All rows count, and the columns of the first that gives one. -/
def runStatements (e : Engine) : List (List Lexeme) → List String → List (List Value) →
    Except String (List String × List (List Value)) × Engine
  | [], columns, rows => (.ok (columns, rows), e)
  | ls :: rest, columns, rows =>
    match Statement.parse ls with
    | .error wrong => (.error (syntaxError wrong), e)
    | .ok statement =>
      match e.step statement with
      | (.error text, e) => (.error text, e)
      | (.ok (names, new), e) =>
        let columns := if rows.isEmpty && !new.isEmpty then names else columns
        e.runStatements rest columns (rows ++ new)

/-- The part of a text that the engine reads: what stands before its first NUL, after the outer
blanks were taken off. -/
def visiblePart (text : String) : List Char :=
  (Text.trim text.toList).takeWhile (· ≠ '\x00')

/-- The statements of a text: their columns and rows, or what the engine says. -/
def run (e : Engine) (text : String) :
    Except String (List String × List (List Value)) × Engine :=
  e.runStatements (splitStatements (lex (visiblePart text))) [] []

end Engine

end SqlLayer.Sqlite
