import SqlLayer.Json
import SqlLayer.OrderedMap

/-!
# TOML documents as trees

A document is a list of definitions of its root table, and of sections with a header and
definitions of their own. Tables come into being in three ways, and each way decides who may add to
them later.

* `Node` — a table's member, **with the way its table came into being**;
* `defineIn` — a definition in a table; its dotted key opens tables on the way;
* `openSection` — the table, or the next table of an array, that a header opens;
* `Document.tree?` — the tree of a document; none where a key is defined twice.
-/

namespace SqlLayer.Toml

/-- How a table came into being. -/
inductive Origin where
  /-- Under a header of its own. -/
  | header
  /-- On the way to a table with a header. -/
  | path
  /-- On the way of a dotted key. -/
  | dotted
  deriving DecidableEq

/-- A member of a table under construction. -/
inductive Node where
  /-- A value that is complete. Inline tables and written arrays are. -/
  | leaf (value : Json)
  | table (origin : Origin) (members : List (String × Node))
  /-- An array of tables under headers: the newest one, and those before it, newest first. -/
  | tables (newest : List (String × Node)) (earlier : List (List (String × Node)))

/-- The members of a table under construction. -/
abbrev Members := List (String × Node)

/-- A dotted key. -/
structure Path where
  /-- The keys before the last one. -/
  way : List String
  key : String

/-- A definition. -/
structure Definition where
  path : Path
  value : Json

/-- A header with the definitions below it. -/
structure Section where
  path : Path
  /-- Whether the header opens the next table of an array. -/
  isArray : Bool
  definitions : List Definition

/-- A document. -/
structure Document where
  definitions : List Definition
  sections : List Section

/-- Changes the table at the end of a way. Tables that are missing come into being; an array of
tables stands for its newest table. A complete value ends every way, and a dotted key does not lead
through a table that has a header. -/
def editAt (dotted : Bool) (edit : Origin → Members → Option Members) :
    List String → Origin → Members → Option Members
  | [], origin, members => edit origin members
  | key :: way, _, members =>
    match Entries.find? key members with
    | none => do
      let origin : Origin := if dotted then .dotted else .path
      let table ← editAt dotted edit way origin []
      return Entries.put key (.table origin table) members
    | some (.table origin table) =>
      if dotted ∧ origin = .header then none
      else do
        let table ← editAt dotted edit way origin table
        return Entries.put key (.table origin table) members
    | some (.tables newest earlier) => do
      let newest ← editAt dotted edit way .header newest
      return Entries.put key (.tables newest earlier) members
    | some (.leaf _) => none

/-- A definition in a table. The key must be new, and a dotted key defines nothing in a table that
other keys did not open, as a plain key does not in one that they did. -/
def defineIn (members : Members) (d : Definition) : Option Members :=
  let dotted := !d.path.way.isEmpty
  let define (origin : Origin) (members : Members) : Option Members :=
    if decide (origin = .dotted) != dotted then none
    else if (Entries.find? d.path.key members).isSome then none
    else some (Entries.put d.path.key (.leaf d.value) members)
  editAt dotted define d.path.way .header members

/-- Definitions in a table, in order. -/
def defineAll (definitions : List Definition) (members : Members) : Option Members :=
  definitions.foldlM defineIn members

/-- A section in the root table. A header takes over a table that only lay on the way to others; an
array header adds a table to an array of tables. -/
def openSection (root : Members) (s : Section) : Option Members :=
  let fill (_ : Origin) (members : Members) : Option Members := do
    let node ← match Entries.find? s.path.key members, s.isArray with
      | none, false => Node.table .header <$> defineAll s.definitions []
      | some (.table .path table), false => Node.table .header <$> defineAll s.definitions table
      | none, true => (Node.tables · []) <$> defineAll s.definitions []
      | some (.tables newest earlier), true =>
        (Node.tables · (newest :: earlier)) <$> defineAll s.definitions []
      | _, _ => none
    return Entries.put s.path.key node members
  editAt false fill s.path.way .header root

/-! ### Trees -/

mutual

/-- The tree of a member. -/
def Node.tree : Node → Json
  | .leaf value => value
  | .table _ members => Json.ofMembers (membersTree members)
  | .tables newest earlier =>
    .array ((Json.ofMembers (membersTree newest) :: tablesTree earlier).reverse)

/-- The trees of a table's members. -/
def membersTree : List (String × Node) → List (String × Json)
  | [] => []
  | (key, node) :: rest => (key, node.tree) :: membersTree rest

/-- The trees of an array's tables. -/
def tablesTree : List (List (String × Node)) → List Json
  | [] => []
  | members :: rest => Json.ofMembers (membersTree members) :: tablesTree rest

end

/-- The object of an inline table. -/
def inlineTree? (definitions : List Definition) : Option Json :=
  (defineAll definitions []).map fun members => Json.ofMembers (membersTree members)

/-- The object of a document, with sorted members. -/
def Document.tree? (d : Document) : Option Json := do
  let root ← defineAll d.definitions []
  let root ← d.sections.foldlM openSection root
  return Json.ofMembers (membersTree root)

end SqlLayer.Toml
