import SqlLayer.Proofs.Selection.Declared
import SqlLayer.Proofs.Selection.Qualification
import SqlLayer.Proofs.Selection.Spelling

/-!
# The statement of calls with names

The tokens of a statement are told from the calls that built it, without the state that they went
through: the tables and the fields from what the calls declare, every other clause from the
arguments of the calls about it.  Calls that fail might as well not have been made.

* `Selection.accepted` — the calls that succeed;
* `Selection.statementTokens` — **the tokens of a statement, told from its calls**;
* `Selection.toldBy_run` — the clauses without tables have what the calls brought;
* `Selection.map_bare_built` — the tables are those of the first declarations of their aliases;
* `Selection.tokens_run` — the selection that is built has the tokens that the calls tell;
* `Selection.lex_render` — **they are read back from the text**.
-/

namespace SqlLayer

/-! ### Reading the calls -/

/-- The table that a caller names, if it is one. -/
def TableRef.named? : TableRef → Option NamedTable
  | .spec t => some t
  | .aliases [(a, name)] => some ⟨name, some a⟩
  | .aliases _ => none

namespace Selection

/-- The calls of a run that succeed. -/
def accepted (tablePrefix : String) (calls : List Call) (s : Selection) : List Call :=
  ((history tablePrefix calls s).filter fun made => made.2.isOk).map Prod.fst

/-- A table as it is declared: its name has the prefix in place of the marker, and it is known by
that name where it has no alias. -/
def declared (tablePrefix : String) (t : NamedTable) (role : TablePart)
    (fields : List OutputColumn) : Addition :=
  ⟨resolveMarker tablePrefix t.name, t.tableAlias.getD (resolveMarker tablePrefix t.name), role,
    fields⟩

/-- What a call declares. A table to select from brings all of its fields where the call names
none. -/
def Call.declared? (tablePrefix : String) : Call → Option Addition
  | .source table fields =>
    table.named?.map fun t =>
      declared tablePrefix t .source (if fields.isEmpty then [⟨.name "*", none⟩] else fields)
  | .join kind table predicate fields =>
    table.named?.map fun t => declared tablePrefix t (.join kind predicate) fields
  | _ => none

/-- The columns that a call groups by. -/
def Call.groupedBy : Call → List ColumnRef
  | .group fields => fields.map OutputColumn.field
  | _ => []

/-- The columns that a call sorts by. -/
def Call.sortedBy : Call → List ColumnRef
  | .order fields => fields.map OutputColumn.field
  | _ => []

/-- The bounds of the rows that a call sets. -/
def Call.bounds? : Call → Option (Nat × Option Nat)
  | .limit count offset => some (count, offset)
  | _ => none

/-- The first declarations of their aliases. -/
def makers : List Addition → List Addition
  | [] => []
  | d :: later => d :: (makers later).filter fun e => e.tableAlias ≠ d.tableAlias

/-- A field. Where several tables have a name, the alias of its table stands in front of a name
without a dot. -/
def LoggedField.tokens (tablePrefix : String) (ds : List Addition) (f : LoggedField) :
    List SqlToken :=
  match f.spec.field with
  | .fragment _ => []
  | .name text =>
    (if SeveralNamed ds ∧ '.' ∉ text.toList then [.name f.owner, .mark '.'] else []) ++
      nameTokens tablePrefix text ++ aliasTokens f.spec.outputAlias

/-- The tokens of the statement that calls build if they succeed. -/
def statementTokens (tablePrefix : String) (calls : List Call) : List SqlToken :=
  let ds := calls.filterMap (Call.declared? tablePrefix)
  (if Call.distinct ∈ calls then ["SELECT", "DISTINCT"] else ["SELECT"]).map .keyword ++
    listTokens ((standing (fieldLog ds)).map (LoggedField.tokens tablePrefix ds)) ++
    clauseTokens ["FROM"]
      (((makers ds).filter fun d => d.role == .source).map fun d => d.table.tokens) ++
    (makers ds).flatMap (fun d => joinTokens d.table) ++
    clauseTokens ["GROUP", "BY"]
      ((calls.flatMap Call.groupedBy).map (ColumnRef.tokens tablePrefix)) ++
    clauseTokens ["ORDER", "BY"]
      ((calls.flatMap Call.sortedBy).map (ColumnRef.sortTokens tablePrefix)) ++
    boundsTokens (calls.filterMap Call.bounds?).getLast?

variable {tablePrefix : String} {calls : List Call} {call : Call} {s : Selection}

/-! ### The calls that succeed -/

theorem accepted_cons (call : Call) (rest : List Call) (s : Selection) :
    accepted tablePrefix (call :: rest) s
      = (if (apply tablePrefix call s).1.isOk then [call] else [])
        ++ accepted tablePrefix rest (apply tablePrefix call s).2 := by
  rw [accepted, history_cons, List.filter_cons]
  split <;> simp_all [accepted]

theorem mem_of_mem_accepted (h : call ∈ accepted tablePrefix calls s) : call ∈ calls := by
  obtain ⟨made, hmade, rfl⟩ := List.mem_map.1 h
  exact (List.of_mem_zip (List.mem_of_mem_filter hmade)).1

/-- Where every call succeeds, these are all of them. -/
theorem accepted_eq_self (h : ∀ outcome ∈ (run tablePrefix calls s).1, outcome = .ok ()) :
    accepted tablePrefix calls s = calls := by
  induction calls generalizing s with
  | nil => rfl
  | cons call rest ih =>
    rw [run_cons] at h
    have hfirst : (apply tablePrefix call s).1 = .ok () := h _ List.mem_cons_self
    have hrest := ih fun outcome hmem => h outcome (List.mem_cons_of_mem _ hmem)
    rw [accepted_cons, hfirst, hrest]
    rfl

/-- **What the successful calls keep up, a run keeps up**: the others change nothing. -/
theorem accepted_induction {q : List Call → Selection → Prop}
    (hstep : ∀ made call s, q made s → (apply tablePrefix call s).1 = .ok () →
      q (made ++ [call]) (apply tablePrefix call s).2)
    (made : List Call) (h : q made s) :
    q (made ++ accepted tablePrefix calls s) (run tablePrefix calls s).2 := by
  induction calls generalizing made s with
  | nil =>
    rw [show accepted tablePrefix [] s = [] from rfl, List.append_nil]
    exact h
  | cons call rest ih =>
    rw [accepted_cons, run_cons]
    cases houtcome : (apply tablePrefix call s).1 with
    | error e =>
      rw [apply_of_error houtcome]
      exact ih made h
    | ok u =>
      have hnext := ih (made ++ [call]) (hstep made call s h houtcome)
      rw [List.append_assoc] at hnext
      exact hnext

/-! ### The clauses without tables -/

/-- A call about tables leaves the other clauses alone. -/
theorem clauses_apply (tablePrefix : String) (h : call.clause = .tables) (s : Selection) :
    (apply tablePrefix call s).2.clauses = s.clauses := by
  cases call with
  | source table fields => exact clauses_declare tablePrefix table _ _ s
  | join kind table predicate fields => exact clauses_declare tablePrefix table _ fields s
  | column fields => exact (clauses_includeFields _ _ _).trans (clauses_placeFor _ _ _ s)
  | _ => simp [Call.clause] at h

/-- **What one call adds** to the clauses without tables: its own arguments, to its own clause. -/
theorem added_apply (tablePrefix : String) (call : Call) (s : Selection) :
    (apply tablePrefix call s).2.distinct = (s.distinct || decide (call = .distinct)) ∧
    (apply tablePrefix call s).2.group = s.group ++ call.groupedBy ∧
    (apply tablePrefix call s).2.order = s.order ++ call.sortedBy.map SortKey.ofField ∧
    (apply tablePrefix call s).2.limit = call.bounds?.or s.limit := by
  by_cases htables : call.clause = .tables
  · have hsame := clauses_apply tablePrefix htables s
    simp only [clauses, SelectClauses.mk.injEq] at hsame
    obtain ⟨hdistinct, -, hgroup, -, horder, hlimit⟩ := hsame
    rw [hdistinct, hgroup, horder, hlimit]
    cases call <;> simp [Call.groupedBy, Call.sortedBy, Call.bounds?, Call.clause] at htables ⊢
  · cases call <;>
      simp [apply, Op.update, Call.groupedBy, Call.sortedBy, Call.bounds?, Call.clause,
        Function.comp_def] at htables ⊢

/-- The clauses without tables have what some calls brought. -/
structure ToldBy (calls : List Call) (s : Selection) : Prop where
  distinct : s.distinct = decide (Call.distinct ∈ calls)
  group : s.group = calls.flatMap Call.groupedBy
  order : s.order = (calls.flatMap Call.sortedBy).map SortKey.ofField
  limit : s.limit = (calls.filterMap Call.bounds?).getLast?

theorem ToldBy.apply (h : ToldBy calls s) (call : Call) :
    ToldBy (calls ++ [call]) (apply tablePrefix call s).2 := by
  obtain ⟨hdistinct, hgroup, horder, hlimit⟩ := added_apply tablePrefix call s
  refine ⟨?_, ?_, ?_, ?_⟩
  · rw [hdistinct, h.distinct, ← Bool.decide_or]
    simp [eq_comm]
  · rw [hgroup, h.group]
    simp
  · rw [horder, h.order]
    simp
  · rw [hlimit, h.limit, List.filterMap_append, List.getLast?_append]
    cases hbounds : call.bounds? <;> simp [hbounds]

/-- **The clauses without tables** have what the successful calls of a run brought. -/
theorem toldBy_run (tablePrefix : String) (calls : List Call) :
    ToldBy (accepted tablePrefix calls empty) (run tablePrefix calls empty).2 :=
  accepted_induction (fun _ call _ h _ => h.apply call) [] ⟨rfl, rfl, rfl, rfl⟩

/-! ### The tables -/

theorem makers_concat (ds : List Addition) (d : Addition) :
    makers (ds ++ [d]) = makers ds ++ if (maker? ds d.tableAlias).isSome then [] else [d] := by
  induction ds with
  | nil => rfl
  | cons e later ih =>
    rw [List.cons_append, makers, ih, List.filter_append, makers, List.cons_append]
    by_cases halias : e.tableAlias = d.tableAlias
    · have hknown : (maker? (e :: later) d.tableAlias).isSome = true := by simp [maker?, halias]
      rw [if_pos hknown]
      split <;> simp [halias]
    · have hrest : maker? (e :: later) d.tableAlias = maker? later d.tableAlias := by
        simp [maker?, halias]
      rw [hrest]
      split <;> simp [Ne.symm halias]

/-- **The tables** are those of the first declarations of their aliases. -/
theorem map_bare_built (ds : List Addition) :
    (built ds).tables.map TableEntry.bare = (makers ds).map Addition.table := by
  induction ds using List.reverseRecOn with
  | nil => rfl
  | append_singleton ds d ih =>
    rw [built_concat, map_bare_add, ih, isSome_place_built, makers_concat, List.map_append]
    split <;> rfl

theorem additions_eq (tablePrefix : String) (calls : List Call) :
    additions tablePrefix calls
      = (accepted tablePrefix calls empty).filterMap (Call.addition? tablePrefix) := by
  rw [additions, accepted, List.filterMap_map, List.filterMap_filter]
  refine List.filterMap_congr fun made _ => ?_
  obtain ⟨call, _ | u⟩ := made <;> rfl

/-! ### Calls with names -/

/-- A call with names adds what it declares. -/
theorem Call.addition?_of_namesOnly (h : call.namesOnly = true) :
    call.addition? tablePrefix = call.declared? tablePrefix := by
  have hform : ∀ (table : TableRef) (role : TablePart) (fields : List OutputColumn),
      Addition.ofTable? tablePrefix table role fields
        = table.named?.map fun t => declared tablePrefix t role fields := by
    intro table role fields
    obtain t | _ | ⟨⟨a, name⟩, _ | ⟨second, rest⟩⟩ := table <;> rfl
  cases call with
  | source table fields => exact hform table .source _
  | join kind table predicate fields => exact hform table (.join kind predicate) fields
  | column fields => simp [Call.namesOnly] at h
  | _ => rfl

/-- Names only: a declaration is about a table, and its fields are names. -/
theorem names_of_declared? {d : Addition} (h : call.namesOnly = true)
    (hd : call.declared? tablePrefix = some d) :
    d.role ≠ .detached ∧ ∀ spec ∈ d.fields, spec.field.isName = true := by
  cases call with
  | source table fields =>
    obtain ⟨t, -, rfl⟩ := Option.map_eq_some_iff.1 hd
    refine ⟨by simp [declared], fun spec hspec => ?_⟩
    rw [Call.namesOnly, List.all_eq_true] at h
    simp only [declared] at hspec
    split at hspec
    · rw [List.mem_singleton.1 hspec]
      rfl
    · exact h spec hspec
  | join kind table predicate fields =>
    obtain ⟨t, -, rfl⟩ := Option.map_eq_some_iff.1 hd
    rw [Call.namesOnly, Bool.and_eq_true, List.all_eq_true] at h
    exact ⟨by simp [declared], h.2⟩
  | _ => simp [Call.declared?] at hd

theorem declared?_of_mem_additions (hcalls : ∀ call ∈ calls, call.namesOnly = true) {d : Addition}
    (hd : d ∈ additions tablePrefix calls) :
    ∃ call : Call, call.namesOnly = true ∧ call.declared? tablePrefix = some d := by
  rw [additions_eq] at hd
  obtain ⟨call, hmem, hadd⟩ := List.mem_filterMap.1 hd
  have hnames := hcalls call (mem_of_mem_accepted hmem)
  exact ⟨call, hnames, (Call.addition?_of_namesOnly hnames).symm.trans hadd⟩

theorem isTableless_of_namesOnly (hcalls : ∀ call ∈ calls, call.namesOnly = true)
    (tableAlias : String) : isTableless (additions tablePrefix calls) tableAlias = false := by
  rw [isTableless]
  cases hmaker : maker? (additions tablePrefix calls) tableAlias with
  | none => rfl
  | some m =>
    obtain ⟨call, hnames, hdeclared⟩ := declared?_of_mem_additions hcalls (maker?_eq_some hmaker).1
    simpa using (names_of_declared? hnames hdeclared).1

/-- **The field list**: a listed field has the tokens that its declaration tells. -/
theorem fieldTokens_run (hcalls : ∀ call ∈ calls, call.namesOnly = true) :
    (run tablePrefix calls empty).2.listedFields.map (ListedField.tokens tablePrefix)
      = (standing (fieldLog (additions tablePrefix calls))).map
          (LoggedField.tokens tablePrefix (additions tablePrefix calls)) := by
  rw [listedFields_run, ← map_standingFrom 0, List.map_map, List.map_map]
  refine List.map_congr_left fun x hx => ?_
  have hlogged : x.1 ∈ fieldLog (additions tablePrefix calls) := by
    refine standing_subset _ ?_
    rw [← map_standingFrom 0]
    exact List.mem_map_of_mem hx
  obtain ⟨d, hd, hspec, -⟩ := mem_fieldLog_iff.1 hlogged
  obtain ⟨call, hnames, hdeclared⟩ := declared?_of_mem_additions hcalls hd
  have hname := (names_of_declared? hnames hdeclared).2 _ hspec
  cases hfield : x.1.spec.field with
  | fragment e => exact absurd hname (by simp [hfield, ColumnRef.isName])
  | name text =>
    have hqualified : x.1.isQualified (additions tablePrefix calls) = true ↔
        SeveralNamed (additions tablePrefix calls) ∧ '.' ∉ text.toList := by
      rw [LoggedField.isQualified_iff, hfield, isTableless_of_namesOnly hcalls]
      simp [and_comm]
    simp only [Function.comp_apply, ListedField.tokens, LoggedField.tokens, entryOf, hfield,
      hqualified, ColumnRef.tokens]
    by_cases hseveral : SeveralNamed (additions tablePrefix calls) ∧ '.' ∉ text.toList
    · rw [if_pos hseveral, if_pos hseveral]
    · rw [if_neg hseveral, if_neg hseveral]

theorem sortsByName_of_mem {field : ColumnRef} (h : call.namesOnly = true)
    (hfield : field ∈ call.sortedBy) : field.sortsByName = true := by
  cases call with
  | order fields =>
    rw [Call.namesOnly, List.all_eq_true] at h
    obtain ⟨spec, hspec, rfl⟩ := List.mem_map.1 hfield
    exact h spec hspec
  | _ => simp [Call.sortedBy] at hfield

/-! ### Clauses of tables -/

section

variable {ds : List Addition}

/-- What FROM lists does not depend on the fields of the tables. -/
theorem map_tokens_sources (h : s.tables.map TableEntry.bare = ds.map Addition.table) :
    s.sources.map TableEntry.tokens
      = (ds.filter fun d => d.role == .source).map fun d => d.table.tokens := by
  have hbare : s.sources.map TableEntry.tokens
      = ((s.tables.map TableEntry.bare).filter fun t => t.role == .source).map
          TableEntry.tokens := by
    rw [List.filter_map, List.map_map]
    rfl
  rw [hbare, h, List.filter_map, List.map_map]
  rfl

/-- Nor does what is joined. -/
theorem flatMap_joinTokens (h : s.tables.map TableEntry.bare = ds.map Addition.table) :
    s.tables.flatMap joinTokens = ds.flatMap fun d => joinTokens d.table := by
  have hbare : s.tables.flatMap joinTokens
      = (s.tables.map TableEntry.bare).flatMap joinTokens := by
    rw [List.flatMap_map]
    rfl
  rw [hbare, h, List.flatMap_map]

end

/-! ### The main statement -/

/-- **The selection that is built** has the tokens that the successful calls tell. -/
theorem tokens_run (hcalls : ∀ call ∈ calls, call.namesOnly = true) :
    (run tablePrefix calls empty).2.tokens tablePrefix
      = statementTokens tablePrefix (accepted tablePrefix calls empty) := by
  have hnames : ∀ call ∈ accepted tablePrefix calls empty, call.namesOnly = true :=
    fun call hcall => hcalls call (mem_of_mem_accepted hcall)
  have htold := toldBy_run tablePrefix calls
  have hadditions : additions tablePrefix calls
      = (accepted tablePrefix calls empty).filterMap (Call.declared? tablePrefix) := by
    rw [additions_eq]
    exact List.filterMap_congr fun call hcall => Call.addition?_of_namesOnly (hnames call hcall)
  have htables : (run tablePrefix calls empty).2.tables.map TableEntry.bare
      = (makers (additions tablePrefix calls)).map Addition.table := by
    rw [← map_bare_built, ← tables_run]
    rfl
  have horder : (run tablePrefix calls empty).2.order.map (SortKey.tokens tablePrefix)
      = ((accepted tablePrefix calls empty).flatMap Call.sortedBy).map
          (ColumnRef.sortTokens tablePrefix) := by
    rw [htold.order, List.map_map]
    refine List.map_congr_left fun field hfield => SortKey.tokens_ofField ?_
    obtain ⟨call, hcall, hmem⟩ := List.mem_flatMap.1 hfield
    exact sortsByName_of_mem (hnames call hcall) hmem
  rw [statementTokens, ← hadditions, tokens, openingWords, fieldTokens_run hcalls,
    map_tokens_sources htables, flatMap_joinTokens htables, htold.group, horder, htold.limit,
    htold.distinct]
  simp only [decide_eq_true_eq]

/-- **The tokens of a statement of names.**  Calls that bring names only, of whatever characters,
build a statement that is read back as the tokens that those of them tell that succeed, each one in
the characters that the renderer wrote for it.  Where all of them succeed, all of them tell. -/
theorem lex_render (d : Dialect) (now : DateTime) (tablePrefix : String) (calls : List Call)
    (hcalls : ∀ call ∈ calls, call.namesOnly = true) :
    d.lex ((run tablePrefix calls empty).2.render ⟨d.escape now, tablePrefix⟩).toList
        = some ((statementTokens tablePrefix (accepted tablePrefix calls empty)).map d.withText) ∧
      ((∀ outcome ∈ (run tablePrefix calls empty).1, outcome = .ok ()) →
        accepted tablePrefix calls empty = calls) := by
  refine ⟨?_, accepted_eq_self⟩
  rw [← tokens_run hcalls]
  exact (spells_render d now tablePrefix (namesOnly_run hcalls)).lex_eq

/-- Calls whose names look like SQL, in no good order.  A table is declared again, a field gives way
to another one and a limit is overridden. -/
def hostileCalls : List Call :=
  [.order [.plain (.name "t.at  dEsC"), .plain (.name "a, b")],
    .distinct,
    .source (.spec ⟨"#__u\"", some "u FROM"⟩)
      [⟨.name "*", none⟩, ⟨.name "t.n\" FROM", some "x, y"⟩, ⟨.name "c", some "z"⟩],
    .join .left (.aliases [("t", "#__t.x")]) (.using ["id", "a\"b"]) [⟨.name "c", some "z"⟩],
    .limit 3 none,
    .join .natural (.spec ⟨"g", none⟩) .none [],
    .group [.plain (.name "t.k ASC")],
    .source (.spec ⟨"#__u\"", some "u FROM"⟩) [⟨.name "e", some "z"⟩],
    .limit 5 (some 10)]

/-- They stay names:

    SELECT DISTINCT "u FROM".*, "t"."n"" FROM" AS "x, y", "t"."c" AS "z", "u FROM"."e" AS "z"
      FROM "app_u""" AS "u FROM" LEFT JOIN "app_t.x" AS "t" USING ("id", "a""b") NATURAL JOIN "g"
      GROUP BY "t"."k ASC" ORDER BY "t"."at" DESC, "a, b" ASC LIMIT 5 OFFSET 10 -/
theorem lex_render_hostile :
    (∀ call ∈ hostileCalls, call.namesOnly = true) ∧
    (∀ outcome ∈ (run "app_" hostileCalls empty).1, outcome = .ok ()) ∧
    (Dialect.sqlite.lex ((run "app_" hostileCalls empty).2.render
        ⟨Dialect.sqlite.escape default, "app_"⟩).toList).map (fun read => read.map Prod.fst)
      = some
        [.keyword "SELECT", .keyword "DISTINCT", .name "u FROM", .mark '.', .mark '*', .mark ',',
          .name "t", .mark '.', .name "n\" FROM", .keyword "AS", .name "x, y", .mark ',',
          .name "t", .mark '.', .name "c", .keyword "AS", .name "z", .mark ',',
          .name "u FROM", .mark '.', .name "e", .keyword "AS", .name "z",
          .keyword "FROM", .name "app_u\"", .keyword "AS", .name "u FROM",
          .keyword "LEFT", .keyword "JOIN", .name "app_t.x", .keyword "AS", .name "t",
          .keyword "USING", .mark '(', .name "id", .mark ',', .name "a\"b", .mark ')',
          .keyword "NATURAL", .keyword "JOIN", .name "g",
          .keyword "GROUP", .keyword "BY", .name "t", .mark '.', .name "k ASC",
          .keyword "ORDER", .keyword "BY", .name "t", .mark '.', .name "at", .keyword "DESC",
          .mark ',', .name "a, b", .keyword "ASC",
          .keyword "LIMIT", .number 5, .keyword "OFFSET", .number 10] := by
  have hnames : ∀ call ∈ hostileCalls, call.namesOnly = true := by decide
  have hsucceed : ∀ outcome ∈ (run "app_" hostileCalls empty).1, outcome = .ok () := by decide
  obtain ⟨hlex, haccepted⟩ := lex_render Dialect.sqlite default "app_" hostileCalls hnames
  refine ⟨hnames, hsucceed, ?_⟩
  rw [hlex, haccepted hsucceed]
  decide

end Selection

end SqlLayer
