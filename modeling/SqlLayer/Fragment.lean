import SqlLayer.Value.Inspect

/-!
# Fragments of SQL

A fragment is a template whose placeholders `%1`, `%2`, … stand for arguments, or text that is taken
as it is.

* `resolveMarker` — the marker `#__` becomes the table prefix;
* `tokens` — a template cut **uniquely** into plain characters and placeholders, a placeholder being
  a percent sign with the longest run of digits after it;
* `Fragment.render` — the marker is resolved first, then every placeholder with an argument becomes
  that argument, escaped; **what is put in is never looked at again**.
-/

namespace SqlLayer

/-- What rendering needs: how values are escaped, and the table prefix. -/
structure RenderContext where
  /-- A value under an optional declared kind. -/
  escape : Value → Option SqlKind → String
  tablePrefix : String

/-- A fragment of SQL. -/
inductive Fragment where
  /-- A template with its arguments, counted from 1. -/
  | template (text : String) (args : List Arg)
  /-- Text that stands for itself. -/
  | verbatim (text : String)
  deriving DecidableEq, Inhabited

/-! ### The table prefix -/

/-- A text with the marker `#__` replaced, leftmost first. -/
def resolveChars (tablePrefix : List Char) : List Char → List Char
  | '#' :: '_' :: '_' :: rest => tablePrefix ++ resolveChars tablePrefix rest
  | c :: rest => c :: resolveChars tablePrefix rest
  | [] => []

/-- A name with the marker `#__` replaced by the table prefix. -/
def resolveMarker (tablePrefix name : String) : String :=
  String.ofList (resolveChars tablePrefix.toList name.toList)

/-! ### Templates -/

/-- A piece of a template. -/
inductive Token where
  | plain (c : Char)
  /-- A percent sign with the digits after it. -/
  | placeholder (digits : List Char)
  deriving DecidableEq

/-- Puts a character in front of a cut template: digits after a percent sign belong to it. -/
def Token.push (c : Char) (cut : List Char × List Token) : List Char × List Token :=
  if c = '%' then ([], .placeholder cut.1 :: cut.2)
  else if c.isDigit then (c :: cut.1, cut.2)
  else ([], .plain c :: (cut.1.map .plain ++ cut.2))

/-- A template cut into its leading digits and the pieces after them. -/
def cutTemplate (template : List Char) : List Char × List Token :=
  template.foldr Token.push ([], [])

/-- The pieces of a template. -/
def tokens (template : List Char) : List Token :=
  let cut := cutTemplate template
  cut.1.map .plain ++ cut.2

/-- The argument that a placeholder's digits name. -/
def argument? (args : List Arg) (digits : List Char) : Option Arg :=
  match Text.decimal digits with
  | 0 => none
  | n + 1 => args[n]?

/-- A piece of a template as SQL. A placeholder without an argument stands for itself. -/
def Token.render (ctx : RenderContext) (args : List Arg) : Token → List Char
  | .plain c => [c]
  | .placeholder digits =>
    match argument? args digits with
    | some arg => (ctx.escape arg.value arg.tag).toList
    | none => '%' :: digits

/-- A template with its arguments put in. -/
def fillIn (ctx : RenderContext) (args : List Arg) (template : List Char) : List Char :=
  (tokens template).flatMap (Token.render ctx args)

/-! ### Fragments -/

namespace Fragment

/-- A template without arguments. -/
def ofText (text : String) : Fragment := .template text []

/-- Adds an argument to a template; other text has no use for one. -/
def addArg (e : Fragment) (arg : Arg) : Fragment :=
  match e with
  | .template text args => .template text (args ++ [arg])
  | .verbatim text => .verbatim text

/-- Whether the fragment is text that is taken as it is. -/
def isVerbatim : Fragment → Bool
  | .verbatim _ => true
  | .template .. => false

/-- The text between two `#` at the ends of a text, where it is not empty. -/
def insideHashes? (s : List Char) : Option (List Char) :=
  match s with
  | '#' :: rest =>
    if rest.getLast? = some '#' ∧ rest.dropLast ≠ [] then some rest.dropLast else none
  | _ => none

/-- The fragment that `#…#` is short for: the text between the marks, as it is. -/
def ofHashText? (s : String) : Option Fragment :=
  (insideHashes? s.toList).map fun text => .verbatim (String.ofList text)

/-- A fragment as SQL. -/
def render (ctx : RenderContext) : Fragment → String
  | .verbatim text => text
  | .template text args =>
    String.ofList (fillIn ctx args (resolveChars ctx.tablePrefix.toList text.toList))

/-- A fragment as diagnostics show it. -/
def inspect : Fragment → String
  | .template text args =>
    Diagnostic.record "Templated" [("query", Diagnostic.text text),
      ("args", Diagnostic.listing (args.map Arg.inspect))]
  | .verbatim text => Diagnostic.wrapped "Raw" (Diagnostic.text text)

end Fragment

end SqlLayer
