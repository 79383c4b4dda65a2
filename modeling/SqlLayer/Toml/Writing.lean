import SqlLayer.Binary64.Text
import SqlLayer.Json
import SqlLayer.Toml.Quoted

/-!
# Writing TOML

An object becomes a document: a line for every member that is no object, then a section for every
member that is one. Below a section, objects are inline tables. There is no text for `null`.

* `valueText?` — a value on one line;
* `write?` — the document of an object.
-/

namespace SqlLayer.Toml

/-- A double. -/
def floatText (x : Binary64) : String :=
  if x.isNaN then "nan" else Binary64.literal.text x

mutual

/-- A value on one line. -/
def valueText? : Json → Option String
  | .null => none
  | .bool b => some (if b then "true" else "false")
  | .int n => some (toString n)
  | .float x => some (floatText x)
  | .text s => some (quoted s)
  | .array items => (itemTexts? items).map fun texts => "[" ++ ", ".intercalate texts ++ "]"
  | .object members =>
    (memberTexts? members).map fun texts => "\x7b " ++ ", ".intercalate texts ++ " \x7d"

/-- The items of an array. -/
def itemTexts? : List Json → Option (List String)
  | [] => some []
  | item :: rest => do
    let text ← valueText? item
    return text :: (← itemTexts? rest)

/-- The members of an object as definitions. -/
def memberTexts? : List (String × Json) → Option (List String)
  | [] => some []
  | (key, value) :: rest => do
    let text ← valueText? value
    return (quoted key ++ " = " ++ text) :: (← memberTexts? rest)

end

/-- Lines, each with its end. -/
def linesText (lines : List String) : String := String.join (lines.map fun line => line ++ "\n")

/-- The section of an object. -/
def sectionText? (key : String) (members : List (String × Json)) : Option String :=
  (memberTexts? members).map fun lines => linesText (("[" ++ quoted key ++ "]") :: lines)

/-- The members that are objects. -/
def sectionsOf (members : List (String × Json)) : List (String × List (String × Json)) :=
  members.filterMap fun m =>
    match m.2 with
    | .object inner => some (m.1, inner)
    | _ => none

/-- The members that are no objects. -/
def plainMembers (members : List (String × Json)) : List (String × Json) :=
  members.filter fun m =>
    match m.2 with
    | .object _ => false
    | _ => true

/-- The document of an object. -/
def write? : Json → Option String
  | .object members => do
    let lines ← memberTexts? (plainMembers members)
    let sections ← (sectionsOf members).mapM fun s => sectionText? s.1 s.2
    return linesText lines ++ String.join sections
  | _ => none

end SqlLayer.Toml
