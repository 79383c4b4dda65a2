import SqlLayer.Binary64.Text
import SqlLayer.Text.Hex

/-!
# JSON trees

Self-describing data: what rows turn into before they fill a caller's record, and what settings
and values are written to and read from. Integers and doubles are told apart. The text form is
compact; members stand in the order of the tree, which `Json.ofMembers` sorts.
-/

namespace SqlLayer

/-- A JSON tree. -/
inductive Json where
  | null
  | bool (b : Bool)
  | int (n : Int)
  | float (x : Binary64)
  | text (s : String)
  | array (items : List Json)
  | object (members : List (String × Json))
  deriving Inhabited

namespace Json

/-! ### Objects with sorted members -/

/-- Writes a member in ascending order of keys; a later write to a key replaces an earlier one. -/
def insertMember (key : String) (value : Json) : List (String × Json) → List (String × Json)
  | [] => [(key, value)]
  | (k, v) :: rest =>
    if k = key then (key, value) :: rest
    else if key < k then (key, value) :: (k, v) :: rest
    else (k, v) :: insertMember key value rest

/-- The sorted members that a list of writes builds. -/
def sortMembers (members : List (String × Json)) : List (String × Json) :=
  members.foldl (fun sorted m => insertMember m.1 m.2 sorted) []

/-- The object that a list of writes builds. -/
def ofMembers (members : List (String × Json)) : Json := .object (sortMembers members)

/-- The member with a key. -/
def member? (key : String) : List (String × Json) → Option Json
  | [] => none
  | (k, v) :: rest => if k = key then some v else member? key rest

/-- Reading after a write: the new value at the written key, the old one elsewhere. -/
theorem member?_insertMember (key other : String) (value : Json) (members : List (String × Json)) :
    member? other (insertMember key value members) =
      if other = key then some value else member? other members := by
  induction members with
  | nil => grind [insertMember, member?]
  | cons m rest ih =>
    obtain ⟨k, v⟩ := m
    grind [insertMember, member?]

/-! ### Text -/

/-- The escape of one character. -/
def escapeChar (c : Char) : List Char :=
  if c = '\x22' then ['\\', '\x22']
  else if c = '\\' then ['\\', '\\']
  else if c = '\n' then ['\\', 'n']
  else if c = '\r' then ['\\', 'r']
  else if c = '\t' then ['\\', 't']
  else if c = '\x08' then ['\\', 'b']
  else if c = '\x0c' then ['\\', 'f']
  else if c.toNat < 0x20 then '\\' :: 'u' :: Text.fourHexDigits c.toNat
  else [c]

/-- A JSON string. -/
def quote (s : String) : String :=
  String.ofList ('\x22' :: (s.toList.flatMap escapeChar ++ ['\x22']))

mutual

/-- The compact text of a tree. -/
def render : Json → String
  | .null => "null"
  | .bool b => if b then "true" else "false"
  | .int n => toString n
  | .float x => if x.isFinite then Binary64.json.text x else "null"
  | .text s => quote s
  | .array items => "[" ++ ",".intercalate (renderItems items) ++ "]"
  | .object members => "\x7b" ++ ",".intercalate (renderMembers members) ++ "\x7d"

/-- The texts of an array's items. -/
def renderItems : List Json → List String
  | [] => []
  | item :: rest => item.render :: renderItems rest

/-- The texts of an object's members. -/
def renderMembers : List (String × Json) → List String
  | [] => []
  | (key, value) :: rest => (quote key ++ ":" ++ value.render) :: renderMembers rest

end

end Json

end SqlLayer
