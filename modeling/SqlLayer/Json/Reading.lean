import SqlLayer.Json.Number
import SqlLayer.Text.Hex

/-!
# Reading JSON

A reader takes a value from the front of a text and gives what follows. Members of an object are
sorted, and the last of several with one key counts.

* `quotedText?` — a text, after its opening quote;
* `value?` — a value, after its leading blanks;
* `read?` — the tree of a text; none where the text is no JSON.
-/

namespace SqlLayer.Json

/-- A text after its leading blanks. -/
def skipBlanks (s : List Char) : List Char :=
  s.dropWhile fun c => c = ' ' ∨ c = '\t' ∨ c = '\n' ∨ c = '\r'

/-! ### Texts -/

/-- The number that four hexadecimal digits denote, and what follows. -/
def hexUnit? : List Char → Option (Nat × List Char)
  | a :: b :: c :: d :: rest => do
    let digits ← [a, b, c, d].mapM Text.hexValue?
    return (digits.foldl (fun n v => 16 * n + v) 0, rest)
  | _ => none

/-- The character of an escape by number, after its mark, and what follows. Two escapes in a row
name a character beyond `0xFFFF`, and neither half of such a pair stands alone. -/
def numberedChar? (s : List Char) : Option (Char × List Char) := do
  let (n, rest) ← hexUnit? s
  if 0xDC00 ≤ n ∧ n < 0xE000 then none
  else if 0xD800 ≤ n ∧ n < 0xDC00 then
    match rest with
    | '\\' :: 'u' :: rest => do
      let (m, rest) ← hexUnit? rest
      if 0xDC00 ≤ m ∧ m < 0xE000 then
        return (Char.ofNat (0x10000 + 0x400 * (n - 0xD800) + (m - 0xDC00)), rest)
      else none
    | _ => none
  else return (Char.ofNat n, rest)

/-- The character of an escape, after its backslash, and what follows. -/
def escaped? : List Char → Option (Char × List Char)
  | '\x22' :: rest => some ('\x22', rest)
  | '\\' :: rest => some ('\\', rest)
  | '/' :: rest => some ('/', rest)
  | 'b' :: rest => some ('\x08', rest)
  | 'f' :: rest => some ('\x0c', rest)
  | 'n' :: rest => some ('\n', rest)
  | 'r' :: rest => some ('\r', rest)
  | 't' :: rest => some ('\t', rest)
  | 'u' :: rest => numberedChar? rest
  | _ => none

/-- The characters of a text after its opening quote, behind those that were read, last first, and
what follows; `fuel` bounds their number. -/
def chars? : Nat → List Char → List Char → Option (List Char × List Char)
  | 0, _, _ => none
  | _, _, [] => none
  | fuel + 1, before, c :: rest =>
    if c = '\x22' then some (before.reverse, rest)
    else if c = '\\' then do
      let (e, rest) ← escaped? rest
      chars? fuel (e :: before) rest
    else if c.toNat < 0x20 then none
    else chars? fuel (c :: before) rest

/-- A text after its opening quote, and what follows. -/
def quotedText? (s : List Char) : Option (String × List Char) :=
  (chars? (s.length + 1) [] s).map fun read => (String.ofList read.1, read.2)

/-! ### Values -/

/-- A number, and what follows. -/
def number? (s : List Char) : Option (Json × List Char) := do
  let n ← (Numeral.read? s).filter isNumber
  let tree ← ofNumeral? n
  return (tree, s.drop n.text.length)

/-- What follows a word. -/
def afterWord? (word : String) (s : List Char) : Option (List Char) :=
  if word.toList.isPrefixOf s then some (s.drop word.toList.length) else none

/-- A value without parts, and what follows. -/
def scalar? (s : List Char) : Option (Json × List Char) :=
  match afterWord? "null" s, afterWord? "true" s, afterWord? "false" s with
  | some rest, _, _ => some (.null, rest)
  | none, some rest, _ => some (.bool true, rest)
  | none, none, some rest => some (.bool false, rest)
  | none, none, none => number? s

mutual

/-- A value after its leading blanks, and what follows; `fuel` bounds the steps. -/
def value? : Nat → List Char → Option (Json × List Char)
  | 0, _ => none
  | fuel + 1, s =>
    match skipBlanks s with
    | '\x22' :: s => (quotedText? s).map fun read => (.text read.1, read.2)
    | '[' :: s =>
      match skipBlanks s with
      | ']' :: s => some (.array [], s)
      | s => (items? fuel s).map fun read => (.array read.1, read.2)
    | '\x7b' :: s =>
      match skipBlanks s with
      | '\x7d' :: s => some (.object [], s)
      | s => (members? fuel s).map fun read => (ofMembers read.1, read.2)
    | s => scalar? s

/-- The items of an array up to its end, and what follows. -/
def items? : Nat → List Char → Option (List Json × List Char)
  | 0, _ => none
  | fuel + 1, s => do
    let (item, s) ← value? fuel s
    match skipBlanks s with
    | ',' :: s => (items? fuel s).map fun read => (item :: read.1, read.2)
    | ']' :: s => some ([item], s)
    | _ => none

/-- The members of an object up to its end, and what follows. -/
def members? : Nat → List Char → Option (List (String × Json) × List Char)
  | 0, _ => none
  | fuel + 1, s =>
    match skipBlanks s with
    | '\x22' :: s => do
      let (key, s) ← quotedText? s
      match skipBlanks s with
      | ':' :: s => do
        let (value, s) ← value? fuel s
        match skipBlanks s with
        | ',' :: s => (members? fuel s).map fun read => ((key, value) :: read.1, read.2)
        | '\x7d' :: s => some ([(key, value)], s)
        | _ => none
      | _ => none
    | _ => none

end

/-- The tree of a text. Each character takes at most two steps. -/
def read? (text : String) : Option Json := do
  let s := text.toList
  let (tree, rest) ← value? (2 * s.length + 2) s
  if skipBlanks rest = [] then some tree else none

end SqlLayer.Json
