import SqlLayer.Sqlite.Keyword
import SqlLayer.Sqlite.Lexeme
import SqlLayer.Sqlite.Real
import SqlLayer.Sqlite.Statement

/-!
# Reading statements of the SQLite engine

A reader takes lexemes from the front of a run. Where they fit no statement, it gives the run **from
the first lexeme that does not fit**, which is what the engine reports.

* `Parsed` — a result, or the lexemes from the first that does not fit;
* `Statement.parse` — the statement that a run of lexemes writes;
* `splitStatements` — the runs of lexemes that end in semicolons.
-/

namespace SqlLayer.Sqlite

/-- What lexemes mean, or the lexemes from the first that does not fit; none where they end too
early. -/
abbrev Parsed (α : Type) := Except (List Lexeme) α

namespace Statement

/-! ### Words and names -/

/-- Whether a lexeme is a keyword. -/
def isWord (keyword : String) (l : Lexeme) : Bool :=
  l.kind == .word && Text.sameLetters l.source keyword.toList

/-- Whether a lexeme is a mark. -/
def isMark (c : Char) (l : Lexeme) : Bool := l.kind == .mark c

/-- The name that a lexeme writes. -/
def name? (l : Lexeme) : Option String :=
  match l.kind with
  | .word => if isReserved l.source then none else some (String.ofList l.source)
  | .name s => some (String.ofList s)
  | .text s => some (String.ofList s)
  | _ => none

/-- A name, and the lexemes after it. -/
def name (ls : List Lexeme) : Parsed (String × List Lexeme) :=
  match ls with
  | [] => .error []
  | l :: rest =>
    match name? l with
    | some n => .ok (n, rest)
    | none => .error ls

/-- The lexemes after a lexeme of a class. -/
def after (isNext : Lexeme → Bool) (ls : List Lexeme) : Parsed (List Lexeme) :=
  match ls with
  | [] => .error []
  | l :: rest => if isNext l then .ok rest else .error ls

/-- The lexemes after a keyword that may be missing. -/
def skipWord (keyword : String) : List Lexeme → List Lexeme
  | [] => []
  | l :: rest => if isWord keyword l then rest else l :: rest

/-- A result at the end of a statement, where there may be a semicolon. -/
def ending {α : Type} (result : α) (ls : List Lexeme) : Parsed α :=
  match ls with
  | [] => .ok result
  | l :: _ => if isMark ';' l then .ok result else .error ls

/-! ### Literals -/

/-- The value of a number: an integer where it is written as one and is in range. -/
def numberValue (negative : Bool) (source : List Char) : Value :=
  match Numeral.read? source with
  | none => .null
  | some n =>
    let n := { n with sign := if negative then some '-' else none }
    match n.integer? with
    | some i =>
      if Int64.minValue.toInt ≤ i ∧ i ≤ Int64.maxValue.toInt then .int (Int64.ofInt i)
      else .float (real n)
    | none => .float (real n)

/-- The text of a moment given in seconds since the start of 1970; `NULL` outside the years that
the engine knows. -/
def unixMoment (seconds : Int) : Value :=
  if -210866760000 ≤ seconds ∧ seconds < 253402300800 then
    let days := seconds / 86400
    let second := (seconds % 86400).toNat
    let (year, month, day) := fieldsOfDaysFromMarchZero (days + 719468)
    .text (String.ofList
      ((if year < 0 then ['-'] else []) ++ padded 4 year.natAbs ++ '-' :: padded 2 month ++
        '-' :: padded 2 day ++ ' ' :: padded 2 (second / 3600) ++ ':' ::
        padded 2 (second / 60 % 60) ++ ':' :: padded 2 (second % 60)))
  else .null

/-- An integer with its sign, and the lexemes after it. -/
def integer (ls : List Lexeme) : Parsed (Int × List Lexeme) :=
  let digits (negative : Bool) (ls : List Lexeme) : Parsed (Int × List Lexeme) :=
    match ls with
    | [] => .error []
    | l :: rest =>
      if l.kind = .number ∧ Text.allDigits l.source then
        let n : Int := Text.decimal l.source
        .ok (if negative then -n else n, rest)
      else .error ls
  match ls with
  | [] => .error []
  | l :: rest =>
    if isMark '-' l then digits true rest
    else if isMark '+' l then digits false rest
    else digits false ls

/-- The moment of a call, after the name of the function, and the lexemes after it. -/
def moment (ls : List Lexeme) : Parsed (Value × List Lexeme) := do
  let ls ← after (isMark '(') ls
  let (seconds, ls) ← integer ls
  let ls ← after (isMark ',') ls
  let ls ← after (fun l => l.kind = .text "unixepoch".toList) ls
  let ls ← after (isMark ')') ls
  return (unixMoment seconds, ls)

/-- A number after its sign, and the lexemes after it. -/
def signedNumber (negative : Bool) (ls : List Lexeme) : Parsed (Expr × List Lexeme) :=
  match ls with
  | [] => .error []
  | l :: rest =>
    if l.kind = .number then .ok (.value (numberValue negative l.source), rest) else .error ls

/-- The name of a column, after its first part, and the lexemes after it. -/
def column (first : String) (ls : List Lexeme) : Parsed (Expr × List Lexeme) :=
  match ls with
  | [] => .ok (.column first, [])
  | l :: rest =>
    if isMark '.' l then (name rest).map fun read => (.column (first ++ "." ++ read.1), read.2)
    else .ok (.column first, ls)

/-- What is selected, and the lexemes after it. A name between double quotes that no column has
stands for its text. -/
def expr (ls : List Lexeme) : Parsed (Expr × List Lexeme) :=
  match ls with
  | [] => .error []
  | l :: rest =>
    match l.kind with
    | .number => signedNumber false ls
    | .text s => .ok (.value (.text (String.ofList s)), rest)
    | .blob b => .ok (.value (.bytes b), rest)
    | .mark c => if c = '-' ∨ c = '+' then signedNumber (c = '-') rest else .error ls
    | .word =>
      if isWord "NULL" l then .ok (.value .null, rest)
      else if isWord "datetime" l ∧ rest.head?.any (isMark '(') then
        (moment rest).map fun read => (.value read.1, read.2)
      else if isReserved l.source then .error ls
      else column (String.ofList l.source) rest
    | .name s =>
      match column (String.ofList s) rest with
      | .ok (.column n, after) =>
        if n = String.ofList s ∧ l.source.head? = some '\x22' then
          .ok (.value (.text n), after)
        else .ok (.column n, after)
      | other => other
    | .placeholder => .error ls
    | .unrecognized => .error ls

/-! ### Selections -/

/-- An expression with its name, and the lexemes after it. Without a name of its own it has its
source for one. -/
def namedExpr (ls : List Lexeme) : Parsed (Item × List Lexeme) := do
  let (expr, rest) ← expr ls
  let source := String.ofList (sourceText (ls.take (ls.length - rest.length)))
  match rest with
  | [] => return (⟨expr, source⟩, [])
  | l :: after =>
    if isWord "AS" l then
      let (n, after) ← name after
      return (⟨expr, n⟩, after)
    else
      match name? l with
      | some n => return (⟨expr, n⟩, after)
      | none => return (⟨expr, source⟩, rest)

/-- What is selected, and the lexemes after it. -/
def item (ls : List Lexeme) : Parsed (Item × List Lexeme) :=
  match ls with
  | [] => .error []
  | l :: rest => if isMark '*' l then .ok (⟨.everything, "*"⟩, rest) else namedExpr ls

/-- Selected items between commas, and the lexemes after them; `fuel` bounds their number. -/
def items : Nat → List Lexeme → Parsed (List Item × List Lexeme)
  | 0, ls => .error ls
  | fuel + 1, ls => do
    let (first, rest) ← item ls
    match rest with
    | [] => return ([first], [])
    | l :: after =>
      if isMark ',' l then
        let (more, rest) ← items fuel after
        return (first :: more, rest)
      else return ([first], rest)

/-- The bounds after selected values: the number of rows to give at most and to skip. -/
def bounds (ls : List Lexeme) : Parsed ((Option Int × Int) × List Lexeme) :=
  match ls with
  | [] => .ok ((none, 0), [])
  | l :: rest =>
    if isWord "LIMIT" l then do
      let (first, rest) ← integer rest
      match rest with
      | [] => return ((some first, 0), [])
      | l :: after =>
        if isWord "OFFSET" l then
          let (offset, rest) ← integer after
          return ((some first, offset), rest)
        else if isMark ',' l then
          let (limit, rest) ← integer after
          return ((some limit, first), rest)
        else return ((some first, 0), rest)
    else .ok ((none, 0), ls)

/-- The name of a table, with that of its database where it has one, and the lexemes after it. -/
def table (ls : List Lexeme) : Parsed (String × List Lexeme) := do
  let (first, rest) ← name ls
  match rest with
  | [] => return (first, [])
  | l :: after =>
    if isMark '.' l then
      let (second, rest) ← name after
      return (first ++ "." ++ second, rest)
    else return (first, rest)

/-- A selection from a table, after `FROM`. There are no tables, so that the name of the first one
decides, and of the lexemes after it only that they are recognised. -/
def fromTable (ls : List Lexeme) : Parsed Statement := do
  let (first, rest) ← table ls
  match rest.dropWhile fun l => l.kind ≠ .unrecognized with
  | [] => return .selectFrom first
  | wrong => throw wrong

/-- The lexemes after the first `FROM`. -/
def fromClause? : List Lexeme → Option (List Lexeme)
  | [] => none
  | l :: rest => if isWord "FROM" l then some rest else fromClause? rest

/-- Whether a lexeme may go on with an expression that is neither a literal nor a column. -/
def isOperator (l : Lexeme) : Bool :=
  match l.kind with
  | .mark c => c ≠ ',' && c ≠ ';' && c ≠ ')'
  | _ => false

/-- A selection, after its first word. What is selected from a table may be any expression. -/
def selection (ls : List Lexeme) : Parsed Statement :=
  let ls := skipWord "DISTINCT" ls
  match items (ls.length + 1) ls with
  | .error wrong =>
    match wrong.head?.any isOperator, fromClause? wrong with
    | true, some clause => fromTable clause
    | _, _ => .error wrong
  | .ok (items, rest) =>
    if rest.head?.any (isWord "FROM") then fromTable rest.tail
    else do
      let ((limit, offset), rest) ← bounds rest
      ending (.select items limit offset) rest

/-! ### Statements -/

/-- The statement on the savepoint whose name ends it. -/
def onSavepoint (statement : String → Statement) (ls : List Lexeme) : Parsed Statement := do
  let (n, rest) ← name ls
  ending (statement n) rest

/-- The statement that a run of lexemes writes. -/
def parse (ls : List Lexeme) : Parsed Statement :=
  match ls with
  | [] => .ok .empty
  | l :: rest =>
    if isWord "SELECT" l then selection rest
    else if isWord "BEGIN" l then ending .begin (skipWord "TRANSACTION" rest)
    else if isWord "COMMIT" l ∨ isWord "END" l then ending .commit (skipWord "TRANSACTION" rest)
    else if isWord "SAVEPOINT" l then onSavepoint .savepoint rest
    else if isWord "RELEASE" l then onSavepoint .release (skipWord "SAVEPOINT" rest)
    else if isWord "ROLLBACK" l then
      let rest := skipWord "TRANSACTION" rest
      if rest.head?.any (isWord "TO") then
        onSavepoint .rollbackTo (skipWord "SAVEPOINT" rest.tail)
      else ending .rollback rest
    else ending .empty ls

end Statement

/-- The runs of lexemes that end in semicolons, and the run after the last one. -/
def splitStatements : List Lexeme → List (List Lexeme)
  | [] => [[]]
  | l :: rest =>
    match splitStatements rest with
    | [] => [[l]]
    | first :: more =>
      if Statement.isMark ';' l then [l] :: first :: more else (l :: first) :: more

end SqlLayer.Sqlite
