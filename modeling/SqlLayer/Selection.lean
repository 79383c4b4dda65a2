import SqlLayer.Op
import SqlLayer.OrderedMap
import SqlLayer.Selection.Column

/-!
# Selections under construction

A `Selection` collects the clauses of one SELECT statement. Tables are known by their aliases: a
table without one is its own alias, and declaring an alias again for the same table adds fields
to it. Fields are numbered in the order in which they were added, over all tables.

* `Selection.declareTable` — declares a table, **or fails and changes nothing**;
* `Selection.includeField` — an output alias names one field of its table, the latest;
* `Selection.Call`, `Selection.apply`, `Selection.run` — the calls that build a selection, as data.
-/

namespace SqlLayer

/-- The kinds of joins. -/
inductive JoinType where
  | inner
  | left
  | right
  | fullOuter
  | natural
  | cross
  deriving DecidableEq, Inhabited

/-- The words of a join. -/
def JoinType.keyword : JoinType → String
  | .inner => "INNER"
  | .left => "LEFT"
  | .right => "RIGHT"
  | .fullOuter => "FULL OUTER"
  | .natural => "NATURAL"
  | .cross => "CROSS"

/-- What a join matches rows by. -/
inductive JoinMatch where
  | none
  | on (condition : Fragment)
  | using (columns : List String)
  deriving DecidableEq, Inhabited

/-- The part of a table in a statement. -/
inductive TablePart where
  /-- It holds the fields that belong to no table. -/
  | detached
  | source
  | join (kind : JoinType) (predicate : JoinMatch)
  deriving DecidableEq, Inhabited

/-- A field of a table. -/
structure FieldEntry where
  /-- Its number among all fields. -/
  order : Nat
  field : ColumnRef
  outputAlias : Option String
  deriving DecidableEq

/-- A declared table. -/
structure TableEntry where
  name : String
  tableAlias : String
  role : TablePart
  fields : List FieldEntry
  deriving DecidableEq

/-- A SELECT statement under construction. -/
structure Selection where
  distinct : Bool
  tables : List TableEntry
  /-- Where the table of an alias stands in `tables`. -/
  aliases : OrderedMap Nat
  /-- The number of tables with a name. -/
  namedTables : Nat
  /-- The number of the next field. -/
  nextField : Nat
  conditions : List Fragment
  group : List ColumnRef
  having : List Fragment
  order : List SortKey
  /-- The number of rows at most, and how many to skip. -/
  limit : Option (Nat × Option Nat)
  deriving DecidableEq

namespace Selection

/-- A statement without clauses. -/
def empty : Selection :=
  { distinct := false, tables := [], aliases := OrderedMap.empty, namedTables := 0,
    nextField := 0, conditions := [], group := [], having := [], order := [], limit := none }

/-! ### Tables and fields -/

/-- The place of the table with an alias. The table is added if the alias is new. -/
def placeFor (name tableAlias : String) (role : TablePart) (s : Selection) : Nat × Selection :=
  match s.aliases.get? tableAlias with
  | some index => (index, s)
  | none =>
    (s.tables.length,
      { s with
        tables := s.tables ++ [⟨name, tableAlias, role, []⟩]
        aliases := s.aliases.insert tableAlias s.tables.length
        namedTables := if name = "" then s.namedTables else s.namedTables + 1 })

/-- Puts a field at the end of a table's fields, or in the place of the one with its output
alias. -/
def putField (entry : FieldEntry) (fields : List FieldEntry) : List FieldEntry :=
  match entry.outputAlias with
  | none => fields ++ [entry]
  | some a =>
    match fields.findIdx? fun f => f.outputAlias == some a with
    | some place => fields.set place entry
    | none => fields ++ [entry]

/-- Adds a field to the table at a place. -/
def includeField (index : Nat) (s : Selection) (spec : OutputColumn) : Selection :=
  let entry : FieldEntry := ⟨s.nextField, spec.field, spec.outputAlias⟩
  { s with
    nextField := s.nextField + 1
    tables := s.tables.modify index fun t => { t with fields := putField entry t.fields } }

/-- Adds fields to the table at a place, in order. -/
def includeFields (index : Nat) (s : Selection) (specs : List OutputColumn) : Selection :=
  specs.foldl (includeField index) s

/-- Whether an alias stands for another table. -/
def conflicts (name tableAlias : String) (s : Selection) : Bool :=
  match s.aliases.get? tableAlias with
  | none => false
  | some index => s.tables[index]?.any fun t => t.name != name

/-- Declares a table with fields. -/
def declareTable (tablePrefix : String) (table : NamedTable) (role : TablePart)
    (fields : List OutputColumn) : Op Selection Unit := fun s =>
  let name := resolveMarker tablePrefix table.name
  let tableAlias := table.tableAlias.getD name
  if s.conflicts name tableAlias then (.error (.aliasTaken tableAlias), s)
  else
    let (index, s) := s.placeFor name tableAlias role
    (.ok (), s.includeFields index fields)

/-- Fields that belong to no table. Names in them are taken as fragments. -/
def includeDetached (fields : List OutputColumn) (s : Selection) : Selection :=
  let (index, s) := s.placeFor "" "" .detached
  s.includeFields index <| fields.map fun spec =>
    match spec.field with
    | .name text => { spec with field := .fragment (Fragment.ofText text) }
    | .fragment _ => spec

/-! ### Calls -/

/-- A call that builds a selection. -/
inductive Call where
  | distinct
  /-- A table to select from; without fields, all of them. -/
  | source (table : TableRef) (fields : List OutputColumn)
  | join (kind : JoinType) (table : TableRef) (predicate : JoinMatch) (fields : List OutputColumn)
  /-- Fields that belong to no table. -/
  | column (fields : List OutputColumn)
  | condition (e : Fragment)
  | having (e : Fragment)
  | group (fields : List OutputColumn)
  | order (fields : List OutputColumn)
  | limit (count : Nat) (offset : Option Nat)
  deriving DecidableEq

/-- Declares the table that a caller means. -/
def declare (tablePrefix : String) (table : TableRef) (role : TablePart)
    (fields : List OutputColumn) : Op Selection Unit :=
  match table.resolve with
  | .error e => Op.fail e
  | .ok spec => declareTable tablePrefix spec role fields

/-- Performs a call. -/
def apply (tablePrefix : String) : Call → Op Selection Unit
  | .distinct => Op.update fun s => { s with distinct := true }
  | .source table fields =>
    declare tablePrefix table .source (if fields.isEmpty then [OutputColumn.ofText "*"] else fields)
  | .join kind table predicate fields => declare tablePrefix table (.join kind predicate) fields
  | .column fields => Op.update (includeDetached fields)
  | .condition e => Op.update fun s => { s with conditions := s.conditions ++ [e] }
  | .having e => Op.update fun s => { s with having := s.having ++ [e] }
  | .group fields => Op.update fun s => { s with group := s.group ++ fields.map OutputColumn.field }
  | .order fields =>
    Op.update fun s =>
      { s with order := s.order ++ fields.map fun spec => SortKey.ofField spec.field }
  | .limit count offset => Op.update fun s => { s with limit := some (count, offset) }

/-- Performs calls one after another, failed ones included: their outcomes and the selection. -/
def run (tablePrefix : String) : List Call → Selection → List (Except SqlError Unit) × Selection
  | [], s => ([], s)
  | call :: rest, s =>
    let (outcome, s) := apply tablePrefix call s
    let (outcomes, s) := run tablePrefix rest s
    (outcome :: outcomes, s)

/-- Performs calls until one fails. -/
def build (tablePrefix : String) : List Call → Op Selection Unit
  | [] => Op.done ()
  | call :: rest => apply tablePrefix call >>= fun _ => build tablePrefix rest

end Selection

end SqlLayer
