import SqlLayer.Proofs.Dialect.Literal
import SqlLayer.Proofs.Selection.Grammar

/-!
# Rendered selections spell their tokens

Every clause of a rendered selection is a text that spells its tokens, whatever the names in it are,
and that ends the tokens in front of it.  So the clauses can stand one after another, and the lexer
cuts the statement where the renderer put it together.

* `Dialect.Clause` — a text that **spells some tokens and ends the ones before it**;
* `Dialect.spells_name`, `Dialect.spells_field`, `Dialect.spells_table`, … — the parts of a clause;
* `Selection.spells_render` — **a selection without fragments**.
-/

namespace SqlLayer

namespace Dialect

variable {d : Dialect} {a b : List Char} {ts us : List SqlToken}

/-! ### Words and marks -/

/-- Whether a word is made of capital letters. -/
def isCapitals (w : String) : Bool := !w.toList.isEmpty && w.toList.all Char.isUpper

/-- Words with a blank after each. -/
def phrase (words : List String) : List Char := words.flatMap fun w => w.toList ++ [' ']

theorem ends_blank (a : List Char) : Ends (' ' :: a) := ends_cons rfl a

/-- A capital letter is neither a digit nor a blank. -/
theorem not_blank_of_isUpper {c : Char} (h : c.isUpper = true) :
    c.isDigit = false ∧ c.isWhitespace = false := by
  constructor
  · delta Char.isUpper at h
    simp only [Char.isDigit, decide_eq_true_eq, Bool.and_eq_false_iff,
      decide_eq_false_iff_not] at h ⊢
    grind
  · rw [Bool.eq_false_iff]
    intro hblank
    simp only [Char.isWhitespace, Bool.or_eq_true, decide_eq_true_eq] at hblank
    rcases hblank with ((rfl | rfl) | rfl) | rfl <;> exact absurd h (by decide)

/-- A word of capital letters. -/
theorem spells_keyword {w : String} (hw : isCapitals w = true) :
    d.Spells w.toList [.keyword w] := by
  rw [isCapitals, Bool.and_eq_true, List.all_eq_true] at hw
  obtain ⟨hne, hall⟩ := hw
  unfold SqlToken.keyword
  cases hform : w.toList with
  | nil => rw [hform] at hne; exact absurd hne (by decide)
  | cons c cs =>
    rw [hform] at hall
    have halpha : ∀ e ∈ c :: cs, e.isAlpha = true := fun e he => by
      show (e.isUpper || e.isLower) = true
      rw [hall e he, Bool.true_or]
    obtain ⟨hdigit, hblank⟩ := not_blank_of_isUpper (hall c List.mem_cons_self)
    refine spells_word ?_ hdigit hblank ?_
    · rw [startsWord, halpha c List.mem_cons_self, Bool.true_or]
    · intro e he
      rw [isWordChar, Char.isAlphanum, halpha e (List.mem_cons_of_mem c he), Bool.true_or,
        Bool.true_or]

/-- Words in front of a text. -/
theorem Spells.phrase {words : List String} (hwords : ∀ w ∈ words, isCapitals w = true)
    (hb : d.Spells b us) : d.Spells (phrase words ++ b) (words.map .keyword ++ us) := by
  induction words with
  | nil => exact hb
  | cons w words ih =>
    have hrest := ih fun v hv => hwords v (List.mem_cons_of_mem w hv)
    have hw : d.Spells w.toList [.keyword w] := spells_keyword (hwords w List.mem_cons_self)
    have hform : Dialect.phrase (w :: words) ++ b
        = w.toList ++ (' ' :: (Dialect.phrase words ++ b)) := by
      simp [Dialect.phrase]
    rw [hform]
    exact hw.append hrest.blank (ends_blank _)

theorem Spells.comma (hb : d.Spells b us) : d.Spells (',' :: b) (.mark ',' :: us) :=
  hb.mark rfl rfl rfl rfl

theorem Spells.dot (hb : d.Spells b us) : d.Spells ('.' :: b) (.mark '.' :: us) :=
  hb.mark rfl rfl rfl rfl

theorem spells_mark {c : Char} (hmark : isMark c = true) (hblank : c.isWhitespace = false)
    (hword : startsWord c = false) (hdigit : c.isDigit = false) : d.Spells [c] [.mark c] :=
  spells_nil.mark hmark hblank hword hdigit

/-! ### Clauses -/

/-- A text that spells some tokens and ends the ones in front of it. -/
structure Clause (d : Dialect) (text : List Char) (ts : List SqlToken) : Prop where
  spells : d.Spells text ts
  ends : Ends text

theorem clause_nil : d.Clause [] [] := ⟨spells_nil, ends_nil⟩

theorem Clause.append (ha : d.Clause a ts) (hb : d.Clause b us) :
    d.Clause (a ++ b) (ts ++ us) :=
  ⟨ha.spells.append hb.spells hb.ends, ha.ends.append hb.ends⟩

/-- A clause opened by words. -/
theorem Clause.phrase {words : List String} (hwords : ∀ w ∈ words, isCapitals w = true)
    (hb : d.Spells b us) : d.Clause (' ' :: (phrase words ++ b)) (words.map .keyword ++ us) :=
  ⟨(hb.phrase hwords).blank, ends_blank _⟩

/-- Clauses for the items of a list. -/
theorem Clause.flatMap {α : Type} {text : α → List Char} {tokens : α → List SqlToken}
    {items : List α} (h : ∀ x ∈ items, d.Clause (text x) (tokens x)) :
    d.Clause (items.flatMap text) (items.flatMap tokens) := by
  induction items with
  | nil => exact clause_nil
  | cons x items ih =>
    exact (h x List.mem_cons_self).append (ih fun y hy => h y (List.mem_cons_of_mem x hy))

/-- Items with commas between them. -/
theorem spells_list {α : Type} {text : α → String} {tokens : α → List SqlToken} {items : List α}
    (h : ∀ x ∈ items, d.Spells (text x).toList (tokens x)) :
    d.Spells (", ".intercalate (items.map text)).toList (listTokens (items.map tokens)) := by
  rw [String.toList_intercalate, List.map_map]
  exact Spells.intercalate (fun hb => hb.blank.comma) (fun b => ends_cons rfl _) h

/-! ### Names -/

variable (d : Dialect) (now : DateTime) (tablePrefix : String)

/-- A name between quotes. -/
theorem spells_name {tag : SqlKind} (htag : tag = .field ∨ tag = .table) (name : String) :
    d.Spells (RenderContext.identifier ⟨d.escape now, tablePrefix⟩ tag name).toList
      [.name name] := by
  have hsome : some tag = some .field ∨ some tag = some .table := by
    obtain rfl | rfl := htag
    · exact .inl rfl
    · exact .inr rfl
  rw [RenderContext.identifier, escape_of_identifier d now name hsome]
  exact spells_identifier d name.toList

/-- The last part of a dotted name. -/
theorem spells_lastPart (part : List Char) :
    d.Spells (if String.ofList part = "*" then String.ofList part
      else RenderContext.identifier ⟨d.escape now, tablePrefix⟩ .field (String.ofList part)).toList
      (lastPartTokens part) := by
  have hstar : String.ofList part = "*" ↔ part = ['*'] := by
    rw [← String.toList_inj, String.toList_ofList]
    exact Iff.rfl
  unfold lastPartTokens
  split
  · rename_i h
    rw [hstar] at h
    rw [if_pos h, h]
    exact spells_mark rfl rfl rfl rfl
  · rename_i h
    rw [hstar] at h
    have hname := spells_name d now tablePrefix (.inl rfl) (String.ofList part)
    rw [SqlToken.name, String.toList_ofList] at hname
    rw [if_neg h]
    exact hname

/-- A part of a dotted name that names a table. -/
theorem spells_tablePart (part : List Char) :
    d.Spells (RenderContext.identifier ⟨d.escape now, tablePrefix⟩ .table
      (resolveMarker tablePrefix (String.ofList part))).toList
      [.identifier (resolveChars tablePrefix.toList part)] := by
  have hname := spells_name d now tablePrefix (.inr rfl)
    (resolveMarker tablePrefix (String.ofList part))
  have hchars : (resolveMarker tablePrefix (String.ofList part)).toList
      = resolveChars tablePrefix.toList part := by
    rw [resolveMarker, String.toList_ofList, String.toList_ofList]
  rw [SqlToken.name, hchars] at hname
  exact hname

/-- The parts of a dotted name, with their texts and tokens. -/
def nameParts (name : String) : List (String × List SqlToken) :=
  let parts := name.toList.splitOn '.'
  let last := String.ofList (parts.getLastD [])
  parts.dropLast.map (fun part =>
      (RenderContext.identifier ⟨d.escape now, tablePrefix⟩ .table
        (resolveMarker tablePrefix (String.ofList part)),
        [.identifier (resolveChars tablePrefix.toList part)])) ++
    [(if last = "*" then last
      else RenderContext.identifier ⟨d.escape now, tablePrefix⟩ .field last,
      lastPartTokens (parts.getLastD []))]

theorem renderName_eq (name : String) :
    renderName ⟨d.escape now, tablePrefix⟩ name
      = ".".intercalate ((nameParts d now tablePrefix name).map Prod.fst) := by
  have hlast : ((name.toList.splitOn '.').map String.ofList).getLastD ""
      = String.ofList ((name.toList.splitOn '.').getLastD []) :=
    List.getLastD_map (f := String.ofList) (a := [])
  simp only [renderName, nameParts, List.map_append, List.map_map, List.map_cons, List.map_nil]
  rw [← List.map_dropLast, List.map_map, hlast]
  rfl

theorem namePartTokens_eq (name : String) :
    namePartTokens tablePrefix name = (nameParts d now tablePrefix name).map Prod.snd := by
  simp only [namePartTokens, nameParts, List.map_append, List.map_map, List.map_cons, List.map_nil]
  rfl

/-- **A dotted name**, whatever its parts are. -/
theorem spells_renderName (name : String) :
    d.Spells (renderName ⟨d.escape now, tablePrefix⟩ name).toList
      (nameTokens tablePrefix name) := by
  rw [renderName_eq, nameTokens, namePartTokens_eq d now, String.toList_intercalate, List.map_map]
  refine Spells.intercalate (fun hb => hb.dot) (fun b => ends_cons rfl b) ?_
  intro piece hmem
  obtain hmem | hmem := List.mem_append.1 hmem
  · obtain ⟨part, -, rfl⟩ := List.mem_map.1 hmem
    exact spells_tablePart d now tablePrefix part
  · rw [List.mem_singleton.1 hmem]
    exact spells_lastPart d now tablePrefix _

/-! ### The parts of the clauses -/

/-- A column that is a name. -/
theorem spells_column {column : ColumnRef} (h : column.isName = true) :
    d.Spells (column.render ⟨d.escape now, tablePrefix⟩).toList (column.tokens tablePrefix) := by
  cases column with
  | name s => exact spells_renderName d now tablePrefix s
  | fragment e => exact absurd h (by simp [ColumnRef.isName])

/-- An alias behind what it stands for. -/
theorem clause_alias {tag : SqlKind} (htag : tag = .field ∨ tag = .table) (name : String) :
    d.Clause (" AS " ++ RenderContext.identifier ⟨d.escape now, tablePrefix⟩ tag name).toList
      [.keyword "AS", .name name] := by
  have hwords : ∀ w ∈ ["AS"], isCapitals w = true := by decide
  rw [String.toList_append]
  exact Clause.phrase hwords (spells_name d now tablePrefix htag name)

/-- A table, with its alias or without. -/
theorem spells_table (t : TableEntry) :
    d.Spells (t.render ⟨d.escape now, tablePrefix⟩).toList t.tokens := by
  have hname := spells_name d now tablePrefix (.inr rfl) t.name
  have hrest : d.Clause
      (if t.tableAlias = t.name then ""
        else
          " AS " ++ RenderContext.identifier ⟨d.escape now, tablePrefix⟩ .table t.tableAlias).toList
      (if t.tableAlias = t.name then [] else [.keyword "AS", .name t.tableAlias]) := by
    split
    · exact clause_nil
    · exact clause_alias d now tablePrefix (.inr rfl) t.tableAlias
  rw [TableEntry.render, String.toList_append]
  exact hname.append hrest.spells hrest.ends

/-- The columns that a join matches rows by. -/
theorem clause_predicate {predicate : JoinMatch} (h : predicate.isPlain = true) :
    d.Clause (predicate.render ⟨d.escape now, tablePrefix⟩).toList predicate.tokens := by
  obtain _ | e | columns := predicate
  · exact clause_nil
  · exact absurd h (by simp [JoinMatch.isPlain])
  · have hwords : ∀ w ∈ ["USING"], isCapitals w = true := by decide
    have hcolumns := spells_list fun column (_ : column ∈ columns) =>
      spells_name d now tablePrefix (.inl rfl) column
    have hclosed := hcolumns.append (spells_mark (c := ')') rfl rfl rfl rfl) (ends_cons rfl [])
    rw [JoinMatch.render, String.toList_append, String.toList_append, List.append_assoc]
    exact Clause.phrase hwords (hclosed.mark rfl rfl rfl rfl)

/-- A joined table. -/
theorem clause_join {t : TableEntry} (h : t.NamesOnly) :
    d.Clause (Selection.joinClause ⟨d.escape now, tablePrefix⟩ t).toList
      (Selection.joinTokens t) := by
  rw [Selection.joinClause, Selection.joinTokens]
  cases hrole : t.role with
  | detached => exact clause_nil
  | source => exact clause_nil
  | join kind predicate =>
    have hpredicate := clause_predicate d now tablePrefix (h.predicate kind predicate hrole)
    have htable := (spells_table d now tablePrefix t).append hpredicate.spells hpredicate.ends
    have hwords : (∀ w ∈ kind.words ++ ["JOIN"], isCapitals w = true) ∧
        (" " ++ kind.keyword ++ " JOIN ").toList = ' ' :: phrase (kind.words ++ ["JOIN"]) := by
      cases kind <;> decide
    show d.Clause (" " ++ kind.keyword ++ " JOIN " ++ _ ++ _).toList _
    rw [String.toList_append, String.toList_append, hwords.2, List.append_assoc]
    exact Clause.phrase hwords.1 htable

/-- A sort entry that is a name. -/
theorem spells_sortKey {k : SortKey} (h : k.IsName) :
    d.Spells (k.render ⟨d.escape now, tablePrefix⟩).toList (k.tokens tablePrefix) := by
  obtain ⟨name, descending, rfl⟩ := h
  have hname := spells_renderName d now tablePrefix name
  have hdirection : d.Spells (if descending then " DESC" else " ASC").toList
      [.keyword (if descending then "DESC" else "ASC")] := by
    cases descending with
    | true => exact (spells_keyword (w := "DESC") (by decide)).blank
    | false => exact (spells_keyword (w := "ASC") (by decide)).blank
  have hends : Ends (if descending then " DESC" else " ASC").toList := by
    cases descending <;> exact ends_blank _
  rw [SortKey.render, String.toList_append]
  exact hname.append hdirection hends

/-- A field that is a name, with its own alias. -/
theorem spells_aliased {f : Selection.ListedField} (h : f.entry.field.isName = true) :
    d.Spells
      ((f.entry.field.render ⟨d.escape now, tablePrefix⟩).toList ++
        (match f.entry.outputAlias with
          | none => ""
          | some a => " AS " ++
            RenderContext.identifier ⟨d.escape now, tablePrefix⟩ .field a).toList)
      (f.entry.field.tokens tablePrefix ++ aliasTokens f.entry.outputAlias) := by
  have hcolumn := spells_column d now tablePrefix h
  cases f.entry.outputAlias with
  | none => exact hcolumn.append spells_nil ends_nil
  | some a =>
    have halias := clause_alias d now tablePrefix (.inl rfl) a
    exact hcolumn.append halias.spells halias.ends

/-- A field that is a name, with the alias of its table and its own. -/
theorem spells_field {f : Selection.ListedField} (h : f.entry.field.isName = true) :
    d.Spells (f.render ⟨d.escape now, tablePrefix⟩).toList (f.tokens tablePrefix) := by
  have hbody := spells_aliased d now tablePrefix h
  rw [Selection.ListedField.render, Selection.ListedField.tokens, String.toList_append,
    String.toList_append, List.append_assoc, List.append_assoc]
  cases f.owner with
  | none => exact hbody
  | some a =>
    rw [String.toList_append, List.append_assoc]
    exact (spells_name d now tablePrefix (.inr rfl) a).append hbody.dot (ends_cons rfl _)

/-- A clause of items. -/
theorem clause_list {α : Type} {opening : String} {words : List String} {text : α → String}
    {tokens : α → List SqlToken} {items : List α}
    (hopening : opening.toList = ' ' :: phrase words) (hwords : ∀ w ∈ words, isCapitals w = true)
    (h : ∀ x ∈ items, d.Spells (text x).toList (tokens x)) :
    d.Clause (Selection.listClause opening (items.map text)).toList
      (Selection.clauseTokens words (items.map tokens)) := by
  rw [Selection.listClause, Selection.clauseTokens, List.isEmpty_map, List.isEmpty_map]
  split
  · exact clause_nil
  · rw [String.toList_append, hopening]
    exact Clause.phrase hwords (spells_list h)

/-- A number. -/
theorem spells_decimal (n : Nat) : d.Spells (toString n).toList [.number n] := by
  rw [Nat.toString_eq_ofList_toDigits, String.toList_ofList]
  exact spells_number n

/-- The bounds of the rows. -/
theorem clause_limit (s : Selection) :
    d.Clause s.limitClause.toList (Selection.boundsTokens s.limit) := by
  have hlimit : ∀ w ∈ ["LIMIT"], isCapitals w = true := by decide
  have hoffset : ∀ w ∈ ["OFFSET"], isCapitals w = true := by decide
  rw [Selection.limitClause]
  obtain _ | ⟨count, _ | offset⟩ := s.limit
  · exact clause_nil
  · show d.Clause (" LIMIT " ++ toString count).toList _
    rw [String.toList_append]
    exact Clause.phrase hlimit (spells_decimal d count)
  · have hlast := Clause.phrase hoffset (spells_decimal d offset)
    show d.Clause (" LIMIT " ++ toString count ++ " OFFSET " ++ toString offset).toList _
    rw [String.toList_append, String.toList_append, String.toList_append, List.append_assoc,
      List.append_assoc]
    exact Clause.phrase hlimit ((spells_decimal d count).append hlast.spells hlast.ends)

end Dialect

/-! ### Statements -/

namespace Selection

/-- A listed field is a field of a table. -/
theorem mem_of_mem_listedFields {s : Selection} {f : ListedField} (h : f ∈ s.listedFields) :
    ∃ t ∈ s.tables, f.entry ∈ t.fields := by
  rw [listedFields, List.mem_mergeSort, List.mem_flatMap] at h
  obtain ⟨t, ht, hf⟩ := h
  obtain ⟨entry, hentry, rfl⟩ := List.mem_map.1 hf
  exact ⟨t, ht, hentry⟩

section

variable (d : Dialect) (now : DateTime) (tablePrefix : String) {s : Selection}

theorem spells_fieldsClause (h : s.NamesOnly) :
    d.Spells (s.fieldsClause ⟨d.escape now, tablePrefix⟩).toList
      (listTokens (s.listedFields.map (ListedField.tokens tablePrefix))) := by
  refine d.spells_list fun f hf => ?_
  obtain ⟨t, ht, hentry⟩ := mem_of_mem_listedFields hf
  exact d.spells_field now tablePrefix ((h.tables t ht).fields f.entry hentry)

theorem clause_sources (s : Selection) :
    d.Clause (s.sourcesClause ⟨d.escape now, tablePrefix⟩).toList
      (clauseTokens ["FROM"] (s.sources.map TableEntry.tokens)) := by
  have hlist : s.sourcesClause ⟨d.escape now, tablePrefix⟩
      = listClause " FROM " (s.sources.map (TableEntry.render ⟨d.escape now, tablePrefix⟩)) := by
    rw [sourcesClause, listClause, List.isEmpty_map]
    rfl
  rw [hlist]
  exact d.clause_list rfl (by decide) fun t _ => d.spells_table now tablePrefix t

theorem clause_joins (h : s.NamesOnly) :
    d.Clause (s.joinsClause ⟨d.escape now, tablePrefix⟩).toList (s.tables.flatMap joinTokens) := by
  rw [joinsClause, String.toList_join, List.flatMap_map]
  exact Dialect.Clause.flatMap fun t ht => d.clause_join now tablePrefix (h.tables t ht)

theorem clause_group (h : s.NamesOnly) :
    d.Clause
      (listClause " GROUP BY " (s.group.map (ColumnRef.render ⟨d.escape now, tablePrefix⟩))).toList
      (clauseTokens ["GROUP", "BY"] (s.group.map (ColumnRef.tokens tablePrefix))) :=
  d.clause_list rfl (by decide) fun column hcolumn =>
    d.spells_column now tablePrefix (h.clauses.group column hcolumn)

theorem clause_order (h : s.NamesOnly) :
    d.Clause
      (listClause " ORDER BY " (s.order.map (SortKey.render ⟨d.escape now, tablePrefix⟩))).toList
      (clauseTokens ["ORDER", "BY"] (s.order.map (SortKey.tokens tablePrefix))) :=
  d.clause_list rfl (by decide) fun k hk =>
    d.spells_sortKey now tablePrefix (h.clauses.order k hk)

/-- Without conditions a statement is its opening and five clauses. -/
theorem toList_render (h : s.NamesOnly) :
    (s.render ⟨d.escape now, tablePrefix⟩).toList =
      Dialect.phrase s.openingWords ++
        ((s.fieldsClause ⟨d.escape now, tablePrefix⟩).toList ++
          ((s.sourcesClause ⟨d.escape now, tablePrefix⟩).toList ++
            ((s.joinsClause ⟨d.escape now, tablePrefix⟩).toList ++
              ((listClause " GROUP BY "
                  (s.group.map (ColumnRef.render ⟨d.escape now, tablePrefix⟩))).toList ++
                ((listClause " ORDER BY "
                    (s.order.map (SortKey.render ⟨d.escape now, tablePrefix⟩))).toList ++
                  s.limitClause.toList))))) := by
  have hopening : ("SELECT" ++ (if s.distinct then " DISTINCT" else "") ++ " ").toList
      = Dialect.phrase s.openingWords := by
    rw [openingWords]
    cases s.distinct <;> decide
  have hconditions : s.conditions = [] := h.clauses.conditions
  have hhaving : s.having = [] := h.clauses.having
  unfold render
  simp only [hconditions, hhaving, conditionsClause, List.isEmpty_nil, if_true, String.append_empty]
  rw [← hopening]
  simp only [String.toList_append, List.append_assoc]

/-- **A selection without fragments** is rendered as a text that spells its tokens. -/
theorem spells_render (h : s.NamesOnly) :
    d.Spells (s.render ⟨d.escape now, tablePrefix⟩).toList (s.tokens tablePrefix) := by
  have hwords : ∀ w ∈ s.openingWords, Dialect.isCapitals w = true := by
    rw [openingWords]
    cases s.distinct <;> decide
  have hclauses := (clause_sources d now tablePrefix s).append
    ((clause_joins d now tablePrefix h).append ((clause_group d now tablePrefix h).append
      ((clause_order d now tablePrefix h).append (d.clause_limit s))))
  have hbody := (spells_fieldsClause d now tablePrefix h).append hclauses.spells hclauses.ends
  rw [toList_render d now tablePrefix h, tokens]
  simp only [List.append_assoc]
  exact hbody.phrase hwords

end

end Selection

end SqlLayer
