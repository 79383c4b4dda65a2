import SqlLayer.Toml.Document
import SqlLayer.Toml.Scalar

/-!
# Reading TOML

A document is read line by line into definitions and headers, from which its tree is built.

* `value?` — a value: a text, a scalar, an array or an inline table;
* `document?` — the definitions and sections of a text;
* `read?` — the tree of a text; none where the text is no document.
-/

namespace SqlLayer.Toml

/-! ### Blanks -/

/-- A text after its leading blanks. -/
def skipBlanks (s : List Char) : List Char := s.dropWhile fun c => c = ' ' ∨ c = '\t'

/-- What follows the end of a line, a comment before it skipped. -/
def endOfLine? (s : List Char) : Option (List Char) :=
  let s := match skipBlanks s with
    | '#' :: comment => comment.dropWhile isPlain
    | s => s
  match s with
  | [] => some []
  | s => lineBreak? s

/-- A text after blanks, line breaks and comments; `comment` tells whether it starts in one. -/
def skipFiller (comment : Bool) : List Char → List Char
  | '\n' :: rest => skipFiller false rest
  | '\r' :: '\n' :: rest => skipFiller false rest
  | c :: rest =>
    if comment then if isPlain c then skipFiller true rest else c :: rest
    else if c = ' ' ∨ c = '\t' then skipFiller false rest
    else if c = '#' then skipFiller true rest
    else c :: rest
  | [] => []

/-! ### Keys -/

/-- Whether a character may stand in a key without quotes. -/
def isBareChar (c : Char) : Bool := c.isAlphanum || c = '-' || c = '_'

/-- One key, and what follows. -/
def simpleKey? : List Char → Option (String × List Char)
  | '\x22' :: rest => basic? rest
  | '\x27' :: rest => literal? rest
  | s =>
    let key := s.takeWhile isBareChar
    if key = [] then none else some (String.ofList key, s.drop key.length)

/-- The keys of a dotted key, first to last, after those that were read; `fuel` bounds their
number. -/
def path? : Nat → List String → List Char → Option (Path × List Char)
  | 0, _, _ => none
  | fuel + 1, way, s => do
    let (key, s) ← simpleKey? (skipBlanks s)
    match skipBlanks s with
    | '.' :: s => path? fuel (way ++ [key]) s
    | s => some (⟨way, key⟩, s)

/-- The number of keys that a dotted key may have. -/
def greatestPathLength : Nat := 80

/-- A dotted key, and what follows. -/
def dottedKey? (s : List Char) : Option (Path × List Char) := path? greatestPathLength [] s

/-! ### Values -/

/-- The number of arrays and inline tables that may stand inside one another. -/
def greatestDepth : Nat := 80

mutual

/-- A value, and what follows. `fuel` bounds the steps, `depth` the nesting. -/
def valueStep? : Nat → Nat → List Char → Option (Json × List Char)
  | 0, _, _ => none
  | fuel + 1, depth, s =>
    match s, depth with
    | '[' :: s, depth + 1 =>
      (itemsStep? fuel depth (skipFiller false s)).map fun read => (.array read.1, read.2)
    | '\x7b' :: s, depth + 1 => do
      let (definitions, s) ← membersStep? fuel depth (skipFiller false s)
      return (← inlineTree? definitions, s)
    | '\x22' :: _, _ => (quotedText? s).map fun read => (.text read.1, read.2)
    | '\x27' :: _, _ => (quotedText? s).map fun read => (.text read.1, read.2)
    | _, _ =>
      let (word, rest) := spanScalar s
      (scalar? word).map fun value => (value, rest)

/-- The items of an array up to its end, and what follows. -/
def itemsStep? : Nat → Nat → List Char → Option (List Json × List Char)
  | 0, _, _ => none
  | fuel + 1, depth, s =>
    match s with
    | ']' :: s => some ([], s)
    | _ => do
      let (value, s) ← valueStep? fuel depth s
      match skipFiller false s with
      | ',' :: s => (itemsStep? fuel depth (skipFiller false s)).map fun read =>
        (value :: read.1, read.2)
      | ']' :: s => some ([value], s)
      | _ => none

/-- The definitions of an inline table up to its end, and what follows. Lines may break on both
sides of an equals sign there, as they may between an array's items. -/
def membersStep? : Nat → Nat → List Char → Option (List Definition × List Char)
  | 0, _, _ => none
  | fuel + 1, depth, s =>
    match s with
    | '\x7d' :: s => some ([], s)
    | _ => do
      let (path, s) ← dottedKey? s
      let s ← after? '=' (skipFiller false s)
      let (value, s) ← valueStep? fuel depth (skipFiller false s)
      match skipFiller false s with
      | ',' :: s => (membersStep? fuel depth (skipFiller false s)).map fun read =>
        (⟨path, value⟩ :: read.1, read.2)
      | '\x7d' :: s => some ([⟨path, value⟩], s)
      | _ => none

end

/-- A value, and what follows. Each character takes at most two steps. -/
def value? (s : List Char) : Option (Json × List Char) :=
  valueStep? (2 * s.length + 2) greatestDepth s

/-! ### Lines -/

/-- A definition, and what follows. -/
def definition? (s : List Char) : Option (Definition × List Char) := do
  let (path, s) ← dottedKey? s
  let s ← after? '=' (skipBlanks s)
  let (value, s) ← value? (skipBlanks s)
  return (⟨path, value⟩, s)

/-- The header of a section, after its first bracket, and what follows. -/
def header? (s : List Char) : Option (Path × Bool × List Char) :=
  match s with
  | '[' :: s => do
    let (path, s) ← dottedKey? s
    return (path, true, ← after? ']' (← after? ']' (skipBlanks s)))
  | _ => do
    let (path, s) ← dottedKey? s
    return (path, false, ← after? ']' (skipBlanks s))

/-- The lines of a document: the definitions before the first header, and the sections; `fuel`
bounds the number of lines. -/
def linesOf? : Nat → List Char → Option Document
  | 0, _ => none
  | fuel + 1, s =>
    match skipBlanks s with
    | [] => some ⟨[], []⟩
    | '[' :: s => do
      let (path, isArray, s) ← header? s
      let rest ← linesOf? fuel (← endOfLine? s)
      return ⟨[], ⟨path, isArray, rest.definitions⟩ :: rest.sections⟩
    | c :: s =>
      if c = '#' ∨ c = '\n' ∨ c = '\r' then do linesOf? fuel (← endOfLine? (c :: s))
      else do
        let (d, s) ← definition? (c :: s)
        let rest ← linesOf? fuel (← endOfLine? s)
        return ⟨d :: rest.definitions, rest.sections⟩

/-- The definitions and sections of a text. A byte order mark in front is skipped. -/
def document? (text : String) : Option Document :=
  let s := match text.toList with
    | '\uFEFF' :: s => s
    | s => s
  linesOf? (s.length + 1) s

/-- The tree of a text, an object with sorted members. -/
def read? (text : String) : Option Json := (document? text).bind Document.tree?

end SqlLayer.Toml
