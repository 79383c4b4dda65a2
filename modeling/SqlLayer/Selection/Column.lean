import SqlLayer.Fragment
import SqlLayer.Text.Blank
import SqlLayer.Text.Search

/-!
# Columns, tables and sort directions

What callers hand to a selection: column references with optional output aliases, tables with
optional aliases, and sort columns that may end in a direction.

* `ColumnRef.ofText` — `#…#` is a fragment to be taken as it is, anything else a name;
* `TableRef.resolve` — a table from an alias map, which must have one entry;
* `SortKey.ofText` — a column with the **last** direction word of its text.
-/

namespace SqlLayer

/-- A column reference. -/
inductive ColumnRef where
  /-- A name, with dots between its parts. -/
  | name (s : String)
  | fragment (e : Fragment)
  deriving DecidableEq, Inhabited

/-- The column reference that a text writes. -/
def ColumnRef.ofText (text : String) : ColumnRef :=
  match Fragment.ofHashText? text with
  | some e => .fragment e
  | none => .name text

/-- A column reference in diagnostics. -/
def ColumnRef.inspect : ColumnRef → String
  | .name s => Diagnostic.wrapped "Name" (Diagnostic.text s)
  | .fragment e => Diagnostic.wrapped "Expr" e.inspect

/-- An entry of a column list. -/
structure OutputColumn where
  field : ColumnRef
  /-- The name of the output column. -/
  outputAlias : Option String
  deriving DecidableEq, Inhabited

/-- An entry without output alias. -/
def OutputColumn.plain (field : ColumnRef) : OutputColumn := ⟨field, none⟩

/-- The entry that a text writes. -/
def OutputColumn.ofText (text : String) : OutputColumn := .plain (ColumnRef.ofText text)

/-- An entry under another output alias. -/
def OutputColumn.withAlias (spec : OutputColumn) (name : String) : OutputColumn :=
  { spec with outputAlias := some name }

/-- A table with an optional alias. -/
structure NamedTable where
  name : String
  tableAlias : Option String
  deriving DecidableEq, Inhabited

/-- How a caller names a table. -/
inductive TableRef where
  | spec (t : NamedTable)
  /-- A list of aliases, each with a table. -/
  | aliases (entries : List (String × String))
  deriving DecidableEq, Inhabited

/-- The table that a caller means. -/
def TableRef.resolve : TableRef → Except SqlError NamedTable
  | .spec t => .ok t
  | .aliases [] => .error (.usage "Empty table alias map")
  | .aliases [(a, name)] => .ok ⟨name, some a⟩
  | .aliases _ => .error (.usage "Table alias map must contain exactly one entry")

/-! ### Sort directions -/

/-- An entry of a sort list. -/
inductive SortKey where
  | column (field : ColumnRef) (descending : Bool)
  | fragment (e : Fragment)
  deriving DecidableEq

/-- A letter in a direction word, up to case. The long s is an s. -/
def foldLetter (c : Char) : Char := if c = 'ſ' then 's' else c.toLower

/-- Whether a text is a direction word. -/
def isDirection (word : List Char) : Bool :=
  let folded := word.map foldLetter
  folded == ['a', 's', 'c'] || folded == ['d', 'e', 's', 'c']

/-- The text before the direction word at the end of a text, and the word. There have to be
blanks between them. -/
def splitDirection (text : List Char) : Option (List Char × List Char) :=
  let word := (text.reverse.takeWhile fun c => !Text.isBlank c).reverse
  let before := text.take (text.length - word.length)
  if isDirection word && !before.isEmpty then some (before, word) else none

/-- The sort entry that a text writes. -/
def SortKey.ofText (text : String) : SortKey :=
  match splitDirection text.toList with
  | some (before, word) =>
    .column (ColumnRef.ofText (String.ofList (Text.trim before)))
      (Text.sameLetters word ['d', 'e', 's', 'c'])
  | none => .column (.name text) false

/-- The sort entry of a column reference. -/
def SortKey.ofField : ColumnRef → SortKey
  | .name text => .ofText text
  | .fragment e => .fragment e

/-- A sort entry in diagnostics. -/
def SortKey.inspect : SortKey → String
  | .column field descending =>
    Diagnostic.record "Column"
      [("field", field.inspect), ("descending", Diagnostic.flag descending)]
  | .fragment e => Diagnostic.wrapped "Expr" e.inspect

end SqlLayer
