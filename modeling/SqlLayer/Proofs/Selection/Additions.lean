import Mathlib.Data.Finset.Card
import Mathlib.Data.List.Induction
import SqlLayer.Proofs.Selection.Interleaving

/-!
# What the successful calls add

The calls about tables that succeed add to the selection, each a table with fields, and whatever
else the calls do shows neither in the tables nor in their fields.  The first addition with an alias
makes its table.  Later ones bring fields, and nothing else of them is kept.

* `Selection.additions` — what calls add, **told from the calls and their outcomes**;
* `Selection.part_tables_run` — the tables after a run are **what the additions build**;
* `Selection.find?_bare_built` — the table of an alias is that of the **first addition** with it;
* `Selection.name_of_mem_additions` — additions that name a table agree with the first one.
-/

namespace SqlLayer

/-- An entry that belongs to no table: a name in it is taken as a fragment. -/
def OutputColumn.tableless (spec : OutputColumn) : OutputColumn :=
  match spec.field with
  | .name text => { spec with field := .fragment (Fragment.ofText text) }
  | .fragment _ => spec

/-- A table without its fields. -/
def TableEntry.bare (t : TableEntry) : TableEntry := { t with fields := [] }

namespace Selection

/-- A table and the fields that come with it. -/
structure Addition where
  name : String
  tableAlias : String
  role : TablePart
  fields : List OutputColumn
  deriving DecidableEq

/-- The table of an addition. -/
def Addition.table (d : Addition) : TableEntry := ⟨d.name, d.tableAlias, d.role, []⟩

/-- What a declaration adds. -/
def Addition.ofTable? (tablePrefix : String) (table : TableRef) (role : TablePart)
    (fields : List OutputColumn) : Option Addition :=
  match table.resolve with
  | .ok spec =>
    some ⟨engineNameOf tablePrefix spec, boundAlias tablePrefix spec, role, fields⟩
  | .error _ => none

/-- What a call adds if it succeeds. -/
def Call.addition? (tablePrefix : String) : Call → Option Addition
  | .source table fields =>
    Addition.ofTable? tablePrefix table .source
      (if fields.isEmpty then [OutputColumn.ofText "*"] else fields)
  | .join kind table predicate fields =>
    Addition.ofTable? tablePrefix table (.join kind predicate) fields
  | .column fields => some ⟨"", "", .detached, fields.map OutputColumn.tableless⟩
  | _ => none

/-- What a call that was made has added. -/
def additionOf? (tablePrefix : String) (made : Call × Except SqlError Unit) : Option Addition :=
  match made.2 with
  | .ok _ => made.1.addition? tablePrefix
  | .error _ => none

/-- What calls have added, in their order. -/
def additions (tablePrefix : String) (calls : List Call) : List Addition :=
  (history tablePrefix calls empty).filterMap (additionOf? tablePrefix)

/-- Adds a table, unless its alias is known, and fields. -/
def add (d : Addition) (s : Selection) : Selection :=
  (s.placeFor d.name d.tableAlias d.role).2.includeFields
    (s.placeFor d.name d.tableAlias d.role).1 d.fields

/-- What additions build. -/
def built (ds : List Addition) : Selection := ds.foldl (fun s d => s.add d) empty

variable {tablePrefix : String} {s : Selection}

/-! ### One call -/

/-- What a call comes to for the tables: it leaves them, or makes its addition. -/
inductive Adds (tablePrefix : String) (call : Call) (s : Selection) :
    Except SqlError Unit × Selection → Prop
  | nothing {outcome : Except SqlError Unit} {s' : Selection}
      (hnone : additionOf? tablePrefix (call, outcome) = none)
      (htables : s'.part .tables = s.part .tables) : Adds tablePrefix call s (outcome, s')
  | addition {d : Addition} (hadd : call.addition? tablePrefix = some d)
      (hfree : d.role ≠ .detached → s.conflicts d.name d.tableAlias = false) :
    Adds tablePrefix call s (.ok (), s.add d)

theorem adds_declare {call : Call} {table : TableRef} {role : TablePart}
    {fields : List OutputColumn}
    (h : call.addition? tablePrefix = Addition.ofTable? tablePrefix table role fields) :
    Adds tablePrefix call s (declare tablePrefix table role fields s) := by
  rw [Addition.ofTable?] at h
  obtain ⟨e, -, hform⟩ | ⟨spec, hresolve, ⟨-, hform⟩ | ⟨hconflict, hform⟩⟩ :=
    declare_cases tablePrefix table role fields s
  · rw [hform]
    exact .nothing rfl rfl
  · rw [hform]
    exact .nothing rfl rfl
  · rw [hresolve] at h
    rw [hform]
    exact .addition h fun _ => hconflict

theorem adds_apply (tablePrefix : String) (call : Call) (s : Selection) :
    Adds tablePrefix call s (apply tablePrefix call s) := by
  cases call with
  | source table fields => exact adds_declare rfl
  | join kind table predicate fields => exact adds_declare rfl
  | column fields =>
    have hcolumn : (Call.column fields).addition? tablePrefix
        = some ⟨"", "", .detached, fields.map OutputColumn.tableless⟩ := rfl
    exact .addition hcolumn fun hrole => absurd rfl hrole
  | _ => exact .nothing rfl rfl

/-! ### Runs -/

theorem add_part (d : Addition) (s : Selection) :
    (s.part .tables).add d = (s.add d).part .tables := by
  rw [add, placeFor_part]
  exact includeFields_part _ d.fields _

theorem history_append (calls later : List Call) (s : Selection) :
    history tablePrefix (calls ++ later) s
      = history tablePrefix calls s ++ history tablePrefix later (run tablePrefix calls s).2 := by
  rw [history, run_append, List.zip_append (length_run calls s).symm]
  rfl

/-- The tables after a run are those before it with the additions of its calls. -/
theorem part_tables_run (calls : List Call) (s : Selection) :
    (run tablePrefix calls s).2.part .tables
      = ((history tablePrefix calls s).filterMap (additionOf? tablePrefix)).foldl
          (fun s d => s.add d) (s.part .tables) := by
  induction calls generalizing s with
  | nil => rfl
  | cons call rest ih =>
    have hadds := adds_apply tablePrefix call s
    rw [run_cons, history_cons, List.filterMap_cons, ih]
    generalize apply tablePrefix call s = result at hadds ⊢
    cases hadds with
    | nothing hnone htables => rw [hnone, htables]
    | addition hadd hfree =>
      simp only [additionOf?, hadd, List.foldl_cons, add_part]

/-- **The tables after a run** are what the additions build. -/
theorem tables_run (tablePrefix : String) (calls : List Call) :
    (run tablePrefix calls empty).2.part .tables = built (additions tablePrefix calls) := by
  rw [part_tables_run, part_empty]
  rfl

/-! ### Tables -/

theorem built_concat (ds : List Addition) (d : Addition) :
    built (ds ++ [d]) = (built ds).add d := by
  rw [built, List.foldl_append]
  rfl

theorem WellFormed.add (h : s.WellFormed) (d : Addition) : (s.add d).WellFormed :=
  (h.placeFor d.name d.tableAlias d.role).includeFields _ d.fields

theorem wellFormed_built (ds : List Addition) : (built ds).WellFormed := by
  induction ds using List.reverseRecOn with
  | nil => exact wellFormed_empty
  | append_singleton ds d ih =>
    rw [built_concat]
    exact ih.add d

/-- An addition makes a table unless there is one with its alias. -/
theorem map_bare_add (d : Addition) (s : Selection) :
    (s.add d).tables.map TableEntry.bare
      = s.tables.map TableEntry.bare
        ++ if (s.aliases.get? d.tableAlias).isSome then [] else [d.table] := by
  rw [add, map_tables_includeFields fun _ _ => rfl]
  cases hplace : s.aliases.get? d.tableAlias with
  | some i =>
    rw [placeFor_of_some hplace]
    simp
  | none =>
    rw [placeFor_of_none hplace]
    simp [Addition.table, TableEntry.bare]

/-- The first addition with an alias, which made its table. -/
def maker? (ds : List Addition) (tableAlias : String) : Option Addition :=
  ds.find? fun d => d.tableAlias = tableAlias

theorem maker?_append (ds later : List Addition) (tableAlias : String) :
    maker? (ds ++ later) tableAlias = (maker? ds tableAlias).or (maker? later tableAlias) :=
  List.find?_append

theorem maker?_eq_some {ds : List Addition} {tableAlias : String} {d : Addition}
    (h : maker? ds tableAlias = some d) : d ∈ ds ∧ d.tableAlias = tableAlias := by
  have hsame := List.find?_some h
  exact ⟨List.mem_of_find?_eq_some h, by simpa using hsame⟩

theorem exists_maker {ds : List Addition} {d : Addition} (h : d ∈ ds) :
    ∃ m, maker? ds d.tableAlias = some m := by
  have hsome : (maker? ds d.tableAlias).isSome := List.find?_isSome.2 ⟨d, h, decide_eq_true rfl⟩
  exact Option.isSome_iff_exists.1 hsome

theorem WellFormed.isSome_place_iff (h : s.WellFormed) (tableAlias : String) :
    (s.aliases.get? tableAlias).isSome = true ↔ ∃ t ∈ s.tables, t.tableAlias = tableAlias := by
  rw [Option.isSome_iff_exists]
  constructor
  · rintro ⟨i, hi⟩
    obtain ⟨t, ht, halias⟩ := (h.place tableAlias i).1 hi
    exact ⟨t, List.mem_of_getElem? ht, halias⟩
  · rintro ⟨t, ht, halias⟩
    obtain ⟨i, hi⟩ := List.getElem?_of_mem ht
    exact ⟨i, (h.place tableAlias i).2 ⟨t, hi, halias⟩⟩

/-- **The table of an alias** is that of the first addition with it. -/
theorem find?_bare_built (ds : List Addition) (tableAlias : String) :
    ((built ds).tables.map TableEntry.bare).find? (fun t => t.tableAlias = tableAlias)
      = (maker? ds tableAlias).map Addition.table := by
  induction ds using List.reverseRecOn with
  | nil => rfl
  | append_singleton ds d ih =>
    rw [built_concat, map_bare_add, List.find?_append, ih, maker?_append]
    by_cases halias : d.tableAlias = tableAlias
    · subst halias
      cases hknown : ((built ds).aliases.get? d.tableAlias).isSome with
      | true =>
        -- the table that is there came with an addition before
        obtain ⟨t, ht, hsame⟩ := ((wellFormed_built ds).isSome_place_iff d.tableAlias).1 hknown
        have hfound : (((built ds).tables.map TableEntry.bare).find?
            fun t => t.tableAlias = d.tableAlias).isSome :=
          List.find?_isSome.2 ⟨t.bare, List.mem_map_of_mem ht, decide_eq_true hsame⟩
        rw [ih, Option.isSome_map] at hfound
        obtain ⟨m, hm⟩ := Option.isSome_iff_exists.1 hfound
        simp [hm]
      | false => cases maker? ds d.tableAlias <;> simp [maker?, Addition.table]
    · have hother : maker? [d] tableAlias = none := by simp [maker?, halias]
      rw [hother, Option.or_none]
      split <;> simp [Addition.table, halias]

/-- No two tables have one alias. -/
theorem WellFormed.eq_of_alias (h : s.WellFormed) {t u : TableEntry} (ht : t ∈ s.tables)
    (hu : u ∈ s.tables) (halias : t.tableAlias = u.tableAlias) : t = u := by
  obtain ⟨i, hi⟩ := List.getElem?_of_mem ht
  obtain ⟨j, hj⟩ := List.getElem?_of_mem hu
  have hplace := (h.place u.tableAlias i).2 ⟨t, hi, halias⟩
  rw [(h.place u.tableAlias j).2 ⟨u, hj, rfl⟩] at hplace
  obtain rfl := Option.some.inj hplace
  exact Option.some.inj (hi.symm.trans hj)

/-- A table is that of the addition that made it, but for the fields. -/
theorem maker?_of_mem {ds : List Addition} {t : TableEntry} (ht : t ∈ (built ds).tables) :
    ∃ m, maker? ds t.tableAlias = some m ∧ m.table = t.bare := by
  have hfind := find?_bare_built ds t.tableAlias
  cases hmaker : maker? ds t.tableAlias with
  | none =>
    rw [hmaker, Option.map_none, List.find?_eq_none] at hfind
    exact absurd (decide_eq_true rfl) (hfind t.bare (List.mem_map_of_mem ht))
  | some m =>
    rw [hmaker, Option.map_some] at hfind
    obtain ⟨u, hu, hbare⟩ := List.mem_map.1 (List.mem_of_find?_eq_some hfind)
    have halias : u.tableAlias = t.tableAlias :=
      (congrArg TableEntry.tableAlias hbare).trans (maker?_eq_some hmaker).2
    obtain rfl := (wellFormed_built ds).eq_of_alias hu ht halias
    exact ⟨m, rfl, hbare.symm⟩

/-- Every alias that is added has its table. -/
theorem exists_table {ds : List Addition} {tableAlias : String} {m : Addition}
    (h : maker? ds tableAlias = some m) :
    ∃ t ∈ (built ds).tables, t.tableAlias = tableAlias ∧ m.table = t.bare := by
  have hfind := find?_bare_built ds tableAlias
  rw [h, Option.map_some] at hfind
  obtain ⟨t, ht, hbare⟩ := List.mem_map.1 (List.mem_of_find?_eq_some hfind)
  exact ⟨t, ht, (congrArg TableEntry.tableAlias hbare).trans (maker?_eq_some h).2, hbare.symm⟩

/-! ### Names -/

theorem nameOf?_built (ds : List Addition) (tableAlias : String) :
    (built ds).nameOf? tableAlias = (maker? ds tableAlias).map Addition.name := by
  have hwell := wellFormed_built ds
  cases hmaker : maker? ds tableAlias with
  | none =>
    cases hplace : (built ds).aliases.get? tableAlias with
    | none => rw [nameOf?, hplace]; rfl
    | some i =>
      obtain ⟨t, ht, rfl⟩ := (hwell.place tableAlias i).1 hplace
      obtain ⟨m, hm, -⟩ := maker?_of_mem (List.mem_of_getElem? ht)
      simp [hm] at hmaker
  | some m =>
    obtain ⟨t, ht, halias, hbare⟩ := exists_table hmaker
    obtain ⟨i, hi⟩ := List.getElem?_of_mem ht
    have hname : m.name = t.name := congrArg TableEntry.name hbare
    rw [nameOf?, (hwell.place tableAlias i).2 ⟨t, hi, halias⟩, Option.bind_some, hi,
      Option.map_some, Option.map_some, hname]

theorem nameOf?_additions (tablePrefix : String) (calls : List Call) (tableAlias : String) :
    (run tablePrefix calls empty).2.nameOf? tableAlias
      = (maker? (additions tablePrefix calls) tableAlias).map Addition.name := by
  rw [← nameOf?_built, ← tables_run]
  rfl

theorem additions_concat (tablePrefix : String) (calls : List Call) (call : Call) :
    additions tablePrefix (calls ++ [call])
      = additions tablePrefix calls ++ (additionOf? tablePrefix
          (call, (apply tablePrefix call (run tablePrefix calls empty).2).1)).toList := by
  rw [additions, history_append, List.filterMap_append, history_cons, List.filterMap_cons]
  split <;> rename_i hadd <;> rw [hadd] <;> rfl

/-- **An addition names the table of its alias**, as the first addition with the alias does. -/
theorem name_of_mem_additions {calls : List Call} {d : Addition}
    (hd : d ∈ additions tablePrefix calls) (hrole : d.role ≠ .detached) :
    (maker? (additions tablePrefix calls) d.tableAlias).map Addition.name = some d.name := by
  induction calls using List.reverseRecOn with
  | nil => exact nomatch hd
  | append_singleton calls call ih =>
    rw [additions_concat, List.mem_append, Option.mem_toList] at hd
    rw [additions_concat, maker?_append]
    obtain hold | hnew := hd
    · obtain ⟨m, hm⟩ := exists_maker hold
      have hname := ih hold
      rw [hm] at hname ⊢
      exact hname
    · have hadds := adds_apply tablePrefix call (run tablePrefix calls empty).2
      generalize apply tablePrefix call (run tablePrefix calls empty).2 = result at hadds hnew ⊢
      cases hadds with
      | nothing hnone htables => exact nomatch hnone.symm.trans hnew
      | @addition new hadd hfree =>
        obtain rfl : new = d := Option.some.inj (hadd.symm.trans hnew)
        have hconflict := hfree hrole
        rw [← Bool.not_eq_true, conflicts_iff, nameOf?_additions] at hconflict
        cases hmaker : maker? (additions tablePrefix calls) new.tableAlias with
        | none => simp [additionOf?, hadd, maker?]
        | some m =>
          -- what was there before stands for the same table
          have hname : m.name = new.name := by
            by_contra hne
            exact hconflict ⟨m.name, by rw [hmaker]; rfl, hne⟩
          rw [Option.some_or, Option.map_some, hname]

/-! ### Named tables -/

/-- Whether two aliases are declared for tables that have a name. -/
def SeveralNamed (ds : List Addition) : Prop :=
  ∃ d ∈ ds, ∃ e ∈ ds, d.tableAlias ≠ e.tableAlias ∧ d.name ≠ "" ∧ e.name ≠ ""

instance (ds : List Addition) : Decidable (SeveralNamed ds) :=
  inferInstanceAs (Decidable (∃ d ∈ ds, ∃ e ∈ ds, _))

theorem Addition.ofTable?_eq_some {table : TableRef} {role : TablePart}
    {fields : List OutputColumn} {d : Addition} :
    Addition.ofTable? tablePrefix table role fields = some d ↔
      ∃ spec, table.resolve = .ok spec ∧
        d = ⟨engineNameOf tablePrefix spec, boundAlias tablePrefix spec, role, fields⟩ := by
  unfold Addition.ofTable?
  cases table.resolve with
  | error e => simp
  | ok spec => simp [eq_comm]

/-- Fields that belong to no table bring no name. -/
theorem role_of_named {calls : List Call} {d : Addition} (hd : d ∈ additions tablePrefix calls)
    (hname : d.name ≠ "") : d.role ≠ .detached := by
  obtain ⟨made, hmade, hadd⟩ := List.mem_filterMap.1 hd
  obtain ⟨call, outcome⟩ := made
  cases outcome with
  | error e => exact nomatch hadd
  | ok u =>
    intro hrole
    cases call with
    | column fields =>
      obtain rfl := Option.some.inj hadd
      exact hname rfl
    | source table fields =>
      obtain ⟨spec, -, rfl⟩ := Addition.ofTable?_eq_some.1 hadd
      simp at hrole
    | join kind table predicate fields =>
      obtain ⟨spec, -, rfl⟩ := Addition.ofTable?_eq_some.1 hadd
      simp at hrole
    | _ => exact nomatch hadd

theorem WellFormed.nodup_tables (h : s.WellFormed) : s.tables.Nodup := by
  rw [List.nodup_iff_getElem?_ne_getElem?]
  intro i j hij hj hsame
  have hi : s.tables[i]? = some s.tables[j] := by rw [hsame, List.getElem?_eq_getElem hj]
  have hplace := (h.place s.tables[j].tableAlias i).2 ⟨_, hi, rfl⟩
  rw [(h.place s.tables[j].tableAlias j).2 ⟨_, List.getElem?_eq_getElem hj, rfl⟩] at hplace
  exact Nat.ne_of_lt hij (Option.some.inj hplace).symm

/-- Names are qualified once two tables have a name. -/
theorem WellFormed.qualifies_iff (h : s.WellFormed) :
    s.qualifies = true ↔
      ∃ t ∈ s.tables, ∃ u ∈ s.tables, t.tableAlias ≠ u.tableAlias ∧ t.name ≠ "" ∧ u.name ≠ "" := by
  rw [qualifies, decide_eq_true_iff, h.named, List.countP_eq_length_filter,
    ← List.toFinset_card_of_nodup (h.nodup_tables.filter _), Finset.one_lt_card]
  simp only [List.mem_toFinset, List.mem_filter, decide_eq_true_iff]
  constructor
  · rintro ⟨t, ⟨ht, htname⟩, u, ⟨hu, huname⟩, hne⟩
    exact ⟨t, ht, u, hu, fun halias => hne (h.eq_of_alias ht hu halias), htname, huname⟩
  · rintro ⟨t, ht, u, hu, halias, htname, huname⟩
    exact ⟨t, ⟨ht, htname⟩, u, ⟨hu, huname⟩, fun hsame => halias (by rw [hsame])⟩

/-- **When names are qualified**, told from the calls. -/
theorem qualifies_built (tablePrefix : String) (calls : List Call) :
    (built (additions tablePrefix calls)).qualifies = true ↔
      SeveralNamed (additions tablePrefix calls) := by
  have hwell := wellFormed_built (additions tablePrefix calls)
  -- named tables and additions with a name are about the same aliases
  have hnamed : ∀ d ∈ additions tablePrefix calls, d.name ≠ "" →
      ∃ t ∈ (built (additions tablePrefix calls)).tables,
        t.tableAlias = d.tableAlias ∧ t.name = d.name := by
    intro d hd hname
    obtain ⟨m, hm⟩ := exists_maker hd
    obtain ⟨t, ht, halias, hbare⟩ := exists_table hm
    have hsame := name_of_mem_additions hd (role_of_named hd hname)
    rw [hm, Option.map_some, Option.some.injEq] at hsame
    exact ⟨t, ht, halias, (congrArg TableEntry.name hbare).symm.trans hsame⟩
  rw [hwell.qualifies_iff]
  constructor
  · rintro ⟨t, ht, u, hu, halias, htname, huname⟩
    obtain ⟨m, hm, hmbare⟩ := maker?_of_mem ht
    obtain ⟨n, hn, hnbare⟩ := maker?_of_mem hu
    obtain ⟨hmmem, hmalias⟩ := maker?_eq_some hm
    obtain ⟨hnmem, hnalias⟩ := maker?_eq_some hn
    have hmname : m.name = t.name := congrArg TableEntry.name hmbare
    have hnname : n.name = u.name := congrArg TableEntry.name hnbare
    exact ⟨m, hmmem, n, hnmem, by rwa [hmalias, hnalias], by rwa [hmname], by rwa [hnname]⟩
  · rintro ⟨d, hd, e, he, halias, hdname, hename⟩
    obtain ⟨t, ht, htalias, htname⟩ := hnamed d hd hdname
    obtain ⟨u, hu, hualias, huname⟩ := hnamed e he hename
    exact ⟨t, ht, u, hu, by rwa [htalias, hualias], by rwa [htname], by rwa [huname]⟩

end Selection

end SqlLayer
