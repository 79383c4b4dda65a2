import SqlLayer.Text.Quoted

/-!
# Diagnostic text

How structured values show in diagnostics: records with named fields, wrapped values, lists, sets
and maps. Texts inside them are quoted.
-/

namespace SqlLayer.Diagnostic

/-- Items between commas. -/
def commas (items : List String) : String := ", ".intercalate items

/-- A record with named fields. -/
def record (name : String) (fields : List (String × String)) : String :=
  name ++ " \x7b " ++ commas (fields.map fun f => f.1 ++ ": " ++ f.2) ++ " \x7d"

/-- A value inside a named wrapper. -/
def wrapped (name item : String) : String := name ++ "(" ++ item ++ ")"

/-- A list. -/
def listing (items : List String) : String := "[" ++ commas items ++ "]"

/-- A set. -/
def braced (items : List String) : String := "\x7b" ++ commas items ++ "\x7d"

/-- A map. -/
def mapping (entries : List (String × String)) : String :=
  braced (entries.map fun e => e.1 ++ ": " ++ e.2)

/-- A value that may be absent. -/
def optional : Option String → String
  | none => "None"
  | some item => wrapped "Some" item

/-- A truth value. -/
def flag (b : Bool) : String := if b then "true" else "false"

/-- A text. -/
def text (s : String) : String := Text.quoted s

/-- A text that may be absent. -/
def optionalText (s : Option String) : String := optional (s.map text)

end SqlLayer.Diagnostic
