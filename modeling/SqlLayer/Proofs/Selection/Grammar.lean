import SqlLayer.Proofs.Dialect.Lexing
import SqlLayer.Proofs.Selection.Building
import SqlLayer.Proofs.Selection.Direction
import SqlLayer.Selection.Sql

/-!
# The tokens of a selection of names

A selection that names all of its columns has one list of tokens, clause by clause:

    SELECT [DISTINCT] fields [FROM tables] joins [GROUP BY columns] [ORDER BY columns ASC|DESC]
      [LIMIT n [OFFSET m]]

**Every name is one identifier token**: each part of a dotted name, each table, each alias and each
column that a join matches by.  Only a last part `*` is a mark.

* `nameTokens`, `ColumnRef.sortTokens` — the tokens of dotted names and of texts to sort by;
* `Selection.tokens` — those of a selection, fragments left out;
* `Call.namesOnly` — the calls that bring no fragment;
* `Selection.NamesOnly` — the selections without fragments;
* `Selection.namesOnly_run` — **such calls build such selections**, also where some of them fail.
-/

namespace SqlLayer

/-! ### Tokens -/

/-- A word of the grammar. -/
def SqlToken.keyword (w : String) : SqlToken := .word w.toList

/-- A name that is one identifier. -/
def SqlToken.name (s : String) : SqlToken := .identifier s.toList

/-- Items with commas between them. -/
def listTokens (items : List (List SqlToken)) : List SqlToken :=
  [SqlToken.mark ','].intercalate items

/-- The last part of a dotted name. -/
def lastPartTokens (part : List Char) : List SqlToken :=
  if part = ['*'] then [.mark '*'] else [.identifier part]

/-- The parts of a dotted name, the ones before the last with the prefix resolved. -/
def namePartTokens (tablePrefix name : String) : List (List SqlToken) :=
  let parts := name.toList.splitOn '.'
  parts.dropLast.map (fun part => [.identifier (resolveChars tablePrefix.toList part)]) ++
    [lastPartTokens (parts.getLastD [])]

/-- A dotted name. -/
def nameTokens (tablePrefix name : String) : List SqlToken :=
  [SqlToken.mark '.'].intercalate (namePartTokens tablePrefix name)

/-- A column. -/
def ColumnRef.tokens (tablePrefix : String) : ColumnRef → List SqlToken
  | .name s => nameTokens tablePrefix s
  | .fragment _ => []

/-- The alias of a column, where it has one. -/
def aliasTokens : Option String → List SqlToken
  | none => []
  | some a => [.keyword "AS", .name a]

/-- A table, with its alias where it has another one. -/
def TableEntry.tokens (t : TableEntry) : List SqlToken :=
  .name t.name :: if t.tableAlias = t.name then [] else [.keyword "AS", .name t.tableAlias]

/-- The words of a join. -/
def JoinType.words : JoinType → List String
  | .inner => ["INNER"]
  | .left => ["LEFT"]
  | .right => ["RIGHT"]
  | .fullOuter => ["FULL", "OUTER"]
  | .natural => ["NATURAL"]
  | .cross => ["CROSS"]

/-- What a join matches rows by. -/
def JoinMatch.tokens : JoinMatch → List SqlToken
  | .using columns =>
    .keyword "USING" :: .mark '(' :: (listTokens (columns.map fun c => [.name c]) ++ [.mark ')'])
  | .none | .on _ => []

/-- A sort entry. -/
def SortKey.tokens (tablePrefix : String) : SortKey → List SqlToken
  | .column field descending =>
    field.tokens tablePrefix ++ [.keyword (if descending then "DESC" else "ASC")]
  | .fragment _ => []

namespace Selection

/-- A field, with the alias of its table in front and its own behind. -/
def ListedField.tokens (tablePrefix : String) (f : ListedField) : List SqlToken :=
  (match f.owner with
    | none => []
    | some a => [.name a, .mark '.']) ++ f.entry.field.tokens tablePrefix ++
  aliasTokens f.entry.outputAlias

/-- A joined table. -/
def joinTokens (t : TableEntry) : List SqlToken :=
  match t.role with
  | .join kind predicate =>
    (kind.words ++ ["JOIN"]).map .keyword ++ (t.tokens ++ predicate.tokens)
  | _ => []

/-- A clause of items; without items there is none. -/
def clauseTokens (words : List String) (items : List (List SqlToken)) : List SqlToken :=
  if items.isEmpty then [] else words.map .keyword ++ listTokens items

/-- The bounds of the rows. -/
def boundsTokens : Option (Nat × Option Nat) → List SqlToken
  | none => []
  | some (count, none) => [.keyword "LIMIT", .number count]
  | some (count, some offset) =>
    [.keyword "LIMIT", .number count, .keyword "OFFSET", .number offset]

/-- The tables selected from. -/
def sources (s : Selection) : List TableEntry := s.tables.filter fun t => t.role == .source

/-- The words that a selection starts with. -/
def openingWords (s : Selection) : List String :=
  if s.distinct then ["SELECT", "DISTINCT"] else ["SELECT"]

/-- A selection. -/
def tokens (tablePrefix : String) (s : Selection) : List SqlToken :=
  s.openingWords.map .keyword ++
    listTokens (s.listedFields.map (ListedField.tokens tablePrefix)) ++
    clauseTokens ["FROM"] (s.sources.map TableEntry.tokens) ++
    s.tables.flatMap joinTokens ++
    clauseTokens ["GROUP", "BY"] (s.group.map (ColumnRef.tokens tablePrefix)) ++
    clauseTokens ["ORDER", "BY"] (s.order.map (SortKey.tokens tablePrefix)) ++
    boundsTokens s.limit

end Selection

/-! ### Texts to sort by -/

/-- Whether a text ends in a direction word behind blanks, the s of which may be a long one. -/
def endsInDirection (text : List Char) : Bool :=
  !(Text.beforeLastWord text).isEmpty &&
    [directionWord false, directionWord true, longDirectionWord false, longDirectionWord true].any
      (Text.sameLetters (Text.lastWord text))

/-- The column that a text sorts by: what stands in front of the direction word and the blanks. -/
def sortColumn (text : String) : String :=
  if endsInDirection text.toList then String.ofList (Text.trim (Text.beforeLastWord text.toList))
  else text

/-- Whether a text sorts downwards. -/
def sortsDown (text : String) : Bool :=
  endsInDirection text.toList && Text.sameLetters (Text.lastWord text.toList) (directionWord true)

/-- A text to sort by: its column and the direction. -/
def ColumnRef.sortTokens (tablePrefix : String) : ColumnRef → List SqlToken
  | .name text =>
    nameTokens tablePrefix (sortColumn text) ++
      [.keyword (if sortsDown text then "DESC" else "ASC")]
  | .fragment _ => []

/-- Whether a text has a hash at each end and something between them. -/
def inHashes (text : List Char) : Bool :=
  2 < text.length && text.head? == some '#' && text.getLast? == some '#'

theorem splitDirection_eq_ite (text : List Char) :
    splitDirection text =
      if endsInDirection text then some (Text.beforeLastWord text, Text.lastWord text)
      else none := by
  have hword : isDirection (Text.lastWord text) = true ↔
      [directionWord false, directionWord true, longDirectionWord false,
        longDirectionWord true].any (Text.sameLetters (Text.lastWord text)) = true := by
    rw [isDirection_iff]
    simp only [Bool.exists_bool, List.any_cons, List.any_nil, Bool.or_false, Bool.or_eq_true,
      or_assoc, or_left_comm]
  rw [splitDirection_eq]
  refine if_congr ?_ rfl rfl
  rw [hword, endsInDirection, Bool.and_eq_true, Bool.not_eq_true', List.isEmpty_eq_false_iff,
    and_comm]

theorem SortKey.ofText_eq (text : String) :
    SortKey.ofText text =
      .column
        (if endsInDirection text.toList then ColumnRef.ofText (sortColumn text) else .name text)
        (sortsDown text) := by
  have hupper : Text.sameLetters (Text.lastWord text.toList) ['d', 'e', 's', 'c']
      = Text.sameLetters (Text.lastWord text.toList) (directionWord true) := by
    have hlower : (['d', 'e', 's', 'c'] : List Char).map Char.toLower
        = (directionWord true).map Char.toLower := by decide
    rw [Text.sameLetters, Text.sameLetters, hlower]
  rw [SortKey.ofText, splitDirection_eq_ite, sortColumn, sortsDown]
  cases endsInDirection text.toList with
  | false => rfl
  | true => simp only [if_true, hupper, Bool.true_and]

/-- What is in hashes is what a fragment is written as. -/
theorem Fragment.isSome_insideHashes? (text : List Char) :
    (Fragment.insideHashes? text).isSome = inHashes text := by
  obtain _ | ⟨c, rest⟩ := text
  · rfl
  by_cases hc : c = '#'
  · subst hc
    have hlong : 2 < ('#' :: rest).length ↔ rest.dropLast ≠ [] := by
      rw [← List.length_pos_iff, List.length_dropLast, List.length_cons]
      omega
    have hlast : rest.dropLast ≠ [] → ('#' :: rest).getLast? = rest.getLast? := by
      intro hne
      cases rest with
      | nil => exact absurd rfl hne
      | cons b rest => exact List.getLast?_cons_cons
    simp only [insideHashes?, inHashes, hlong, List.head?_cons, beq_self_eq_true, Bool.and_true]
    by_cases hne : rest.dropLast = []
    · simp [hne]
    · rw [hlast hne]
      by_cases hhash : rest.getLast? = some '#' <;> simp [hne, hhash]
  · simp [insideHashes?, inHashes, hc]

/-! ### Calls that bring names only -/

/-- Whether a column is a name. -/
def ColumnRef.isName : ColumnRef → Bool
  | .name _ => true
  | .fragment _ => false

/-- Whether a join matches rows without a condition. -/
def JoinMatch.isPlain : JoinMatch → Bool
  | .none | .using _ => true
  | .on _ => false

/-- Whether a column is sorted by as a name: what stands in front of its direction word is not in
hashes. -/
def ColumnRef.sortsByName : ColumnRef → Bool
  | .name text => !(endsInDirection text.toList && inHashes (sortColumn text).toList)
  | .fragment _ => false

/-- Whether a call brings names and numbers only. -/
def Selection.Call.namesOnly : Call → Bool
  | .distinct | .limit _ _ => true
  | .source _ fields => fields.all fun spec => spec.field.isName
  | .join _ _ predicate fields => predicate.isPlain && fields.all fun spec => spec.field.isName
  | .group fields => fields.all fun spec => spec.field.isName
  | .order fields => fields.all fun spec => spec.field.sortsByName
  | .column _ | .condition _ | .having _ => false

/-! ### Selections without fragments -/

/-- A table whose fields are names, joined without a condition if at all. -/
structure TableEntry.NamesOnly (t : TableEntry) : Prop where
  fields : ∀ f ∈ t.fields, f.field.isName = true
  predicate : ∀ kind predicate, t.role = .join kind predicate → predicate.isPlain = true

/-- A sort entry that is a name. -/
def SortKey.IsName (k : SortKey) : Prop := ∃ name descending, k = .column (.name name) descending

/-- Clauses of names. -/
structure SelectClauses.NamesOnly (c : SelectClauses) : Prop where
  conditions : c.conditions = []
  having : c.having = []
  group : ∀ column ∈ c.group, column.isName = true
  order : ∀ k ∈ c.order, k.IsName

namespace Selection

/-- A selection without fragments. -/
structure NamesOnly (s : Selection) : Prop where
  tables : ∀ t ∈ s.tables, t.NamesOnly
  clauses : s.clauses.NamesOnly

theorem namesOnly_empty : empty.NamesOnly where
  tables := by simp [empty]
  clauses := ⟨rfl, rfl, by simp [empty, Selection.clauses], by simp [empty, Selection.clauses]⟩

end Selection

/-- A text that is sorted by as a name becomes an entry for that name. -/
theorem SortKey.ofField_name {text : String} (h : (ColumnRef.name text).sortsByName = true) :
    SortKey.ofField (.name text) = .column (.name (sortColumn text)) (sortsDown text) := by
  rw [SortKey.ofField, SortKey.ofText_eq]
  rw [ColumnRef.sortsByName, Bool.not_eq_true'] at h
  cases hends : endsInDirection text.toList with
  | false => simp [sortColumn, hends]
  | true =>
    rw [hends, Bool.true_and, ← Fragment.isSome_insideHashes?, Option.isSome_eq_false_iff,
      Option.isNone_iff_eq_none] at h
    rw [if_pos rfl, ColumnRef.ofText, Fragment.ofHashText?, h]
    rfl

theorem SortKey.isName_ofField {field : ColumnRef} (h : field.sortsByName = true) :
    (SortKey.ofField field).IsName := by
  cases field with
  | fragment e => exact absurd h (by simp [ColumnRef.sortsByName])
  | name text => exact ⟨sortColumn text, sortsDown text, SortKey.ofField_name h⟩

/-- Its tokens are told from the text. -/
theorem SortKey.tokens_ofField {tablePrefix : String} {field : ColumnRef}
    (h : field.sortsByName = true) :
    (SortKey.ofField field).tokens tablePrefix = field.sortTokens tablePrefix := by
  cases field with
  | fragment e => exact absurd h (by simp [ColumnRef.sortsByName])
  | name text =>
    rw [SortKey.ofField_name h]
    rfl

namespace Selection

variable {s : Selection} {tablePrefix : String}

/-- A declaration of names keeps a selection free of fragments. -/
theorem NamesOnly.declare (h : s.NamesOnly) {table : TableRef} {role : TablePart}
    {fields : List OutputColumn}
    (hrole : ∀ kind predicate, role = .join kind predicate → predicate.isPlain = true)
    (hfields : ∀ spec ∈ fields, spec.field.isName = true) :
    (declare tablePrefix table role fields s).2.NamesOnly where
  tables := by
    refine forall_tables_declare h.tables (fun name tableAlias => ⟨by simp, hrole⟩) ?_
    intro spec hspec number t ht
    refine ⟨?_, ht.predicate⟩
    intro f hf
    obtain rfl | hf := mem_putField hf
    · exact hfields spec hspec
    · exact ht.fields f hf
  clauses := by
    rw [clauses_declare]
    exact h.clauses

/-- **One call** with names only keeps a selection free of fragments, even if it fails. -/
theorem NamesOnly.apply (h : s.NamesOnly) {call : Call} (hcall : call.namesOnly = true) :
    (apply tablePrefix call s).2.NamesOnly := by
  obtain ⟨htables, hconditions, hhaving, hgroup, horder⟩ := h
  cases call with
  | distinct => exact ⟨htables, hconditions, hhaving, hgroup, horder⟩
  | limit count offset => exact ⟨htables, hconditions, hhaving, hgroup, horder⟩
  | source table fields =>
    rw [Call.namesOnly, List.all_eq_true] at hcall
    refine NamesOnly.declare ⟨htables, hconditions, hhaving, hgroup, horder⟩ (by simp) ?_
    -- without fields the table gives all of its own
    intro spec hspec
    split at hspec
    · rw [List.mem_singleton.1 hspec]
      rfl
    · exact hcall spec hspec
  | join kind table predicate fields =>
    rw [Call.namesOnly, Bool.and_eq_true, List.all_eq_true] at hcall
    refine NamesOnly.declare ⟨htables, hconditions, hhaving, hgroup, horder⟩ ?_ hcall.2
    intro kind' predicate' hrole
    injection hrole with _ hpredicate
    rw [← hpredicate]
    exact hcall.1
  | column fields => exact absurd hcall (by simp [Call.namesOnly])
  | condition e => exact absurd hcall (by simp [Call.namesOnly])
  | having e => exact absurd hcall (by simp [Call.namesOnly])
  | group fields =>
    rw [Call.namesOnly, List.all_eq_true] at hcall
    refine ⟨htables, hconditions, hhaving, ?_, horder⟩
    intro column hcolumn
    obtain hold | hnew := List.mem_append.1 hcolumn
    · exact hgroup column hold
    · obtain ⟨spec, hspec, rfl⟩ := List.mem_map.1 hnew
      exact hcall spec hspec
  | order fields =>
    rw [Call.namesOnly, List.all_eq_true] at hcall
    refine ⟨htables, hconditions, hhaving, hgroup, ?_⟩
    intro k hk
    obtain hold | hnew := List.mem_append.1 hk
    · exact horder k hold
    · obtain ⟨spec, hspec, rfl⟩ := List.mem_map.1 hnew
      exact SortKey.isName_ofField (hcall spec hspec)

/-- **A run** of calls with names only builds a selection without fragments. -/
theorem namesOnly_run {calls : List Call} (hcalls : ∀ call ∈ calls, call.namesOnly = true) :
    (run tablePrefix calls empty).2.NamesOnly :=
  run_induction (fun call hmem _ h => h.apply (hcalls call hmem)) namesOnly_empty

end Selection

end SqlLayer
