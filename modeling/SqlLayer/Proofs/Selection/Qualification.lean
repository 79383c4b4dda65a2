import SqlLayer.Proofs.Selection.FieldLog

/-!
# Which fields are qualified

A field is qualified where its statement is rendered, by the tables that there are then: **the
second table with a name qualifies the fields before it as well**.  To declare a table again, or to
add fields without table, changes nothing for the fields that are there.

* `Selection.severalNamed_concat_iff` — a table without name, or one whose alias is known, does not
  count;
* `Selection.standing_append` — fields of a new alias come **behind those that stand**;
* `Selection.fieldTexts_second` — what the second table does to the fields before it;
* `Selection.qualification_run` — the rule, and what a call more changes.
-/

namespace SqlLayer.Selection

variable {tablePrefix : String} {calls : List Call} {call : Call}

/-! ### The fields that there are -/

theorem fieldLog_append (ds later : List Addition) :
    fieldLog (ds ++ later) = fieldLog ds ++ fieldLog later :=
  List.flatMap_append

theorem mem_fieldLog_iff {ds : List Addition} {f : LoggedField} :
    f ∈ fieldLog ds ↔ ∃ d ∈ ds, f.spec ∈ d.fields ∧ f.owner = d.tableAlias := by
  obtain ⟨owner, spec⟩ := f
  simp [fieldLog, and_comm, eq_comm]

theorem standing_subset (log : List LoggedField) : standing log ⊆ log := by
  intro f hf
  rw [← map_standingFrom 0, List.mem_map] at hf
  obtain ⟨⟨f, k⟩, hf, rfl⟩ := hf
  obtain ⟨i, -, hstands⟩ := mem_standingFrom.1 hf
  exact List.mem_of_getElem? hstands.1

/-- Fields that no earlier one gives way to come behind those that stand. -/
theorem standing_append {log later : List LoggedField}
    (h : ∀ f ∈ log, ∀ g ∈ later, f.givesWay g = false) :
    standing (log ++ later) = standing log ++ standing later := by
  induction log with
  | nil => rfl
  | cons f rest ih =>
    have hlater : later.any f.givesWay = false := by
      rw [List.any_eq_false]
      intro g hg
      simp [h f List.mem_cons_self g hg]
    have hrest := ih fun g hg => h g (List.mem_cons_of_mem f hg)
    simp only [List.cons_append, standing, List.any_append, hlater, Bool.or_false, hrest]
    split <;> rfl

/-- Whether fields belong to a table was settled by the first addition with their alias. -/
theorem isTableless_append {ds : List Addition} {f : LoggedField} (hf : f ∈ fieldLog ds)
    (later : List Addition) : isTableless (ds ++ later) f.owner = isTableless ds f.owner := by
  obtain ⟨d, hd, -, howner⟩ := mem_fieldLog_iff.1 hf
  obtain ⟨m, hm⟩ := exists_maker hd
  rw [isTableless, isTableless, maker?_append, howner, hm, Option.some_or]

/-! ### The condition -/

theorem LoggedField.isQualified_iff {ds : List Addition} {f : LoggedField} :
    f.isQualified ds = true ↔
      (∃ name, f.spec.field = .name name ∧ '.' ∉ name.toList) ∧
        isTableless ds f.owner = false ∧ SeveralNamed ds := by
  have hundotted : f.spec.field.isUndotted = true ↔
      ∃ name, f.spec.field = .name name ∧ '.' ∉ name.toList := by
    cases f.spec.field <;> simp [ColumnRef.isUndotted]
  rw [← hundotted, isQualified, isQualifiable]
  simp only [Bool.and_eq_true, Bool.not_eq_true', decide_eq_true_iff]
  tauto

/-- An entry that belongs to no table is no name. -/
theorem isUndotted_tableless (spec : OutputColumn) : spec.tableless.field.isUndotted = false := by
  unfold OutputColumn.tableless
  split
  · rfl
  · rename_i hfield
    rw [hfield]
    rfl

theorem severalNamed_concat_iff {ds : List Addition} {d : Addition}
    (h : d.name ≠ "" → ∃ m ∈ ds, m.tableAlias = d.tableAlias ∧ m.name ≠ "") :
    SeveralNamed (ds ++ [d]) ↔ SeveralNamed ds := by
  have hnamed : ∀ e ∈ ds ++ [d], e.name ≠ "" →
      ∃ m ∈ ds, m.tableAlias = e.tableAlias ∧ m.name ≠ "" := by
    intro e he hname
    obtain he | he := List.mem_append.1 he
    · exact ⟨e, he, rfl, hname⟩
    · obtain rfl := List.mem_singleton.1 he
      exact h hname
  constructor
  · rintro ⟨e, he, e', he', hne, hname, hname'⟩
    obtain ⟨m, hm, halias, hmname⟩ := hnamed e he hname
    obtain ⟨m', hm', halias', hmname'⟩ := hnamed e' he' hname'
    exact ⟨m, hm, m', hm', by rwa [halias, halias'], hmname, hmname'⟩
  · rintro ⟨e, he, e', he', hrest⟩
    exact ⟨e, List.mem_append_left _ he, e', List.mem_append_left _ he', hrest⟩

/-! ### One call more -/

theorem additionOf?_eq_some {outcome : Except SqlError Unit} {d : Addition}
    (h : additionOf? tablePrefix (call, outcome) = some d) :
    call.addition? tablePrefix = some d := by
  cases outcome with
  | ok u => exact h
  | error e => exact nomatch h

/-- A call adds something behind what is there, or nothing. -/
theorem additions_concat_cases (tablePrefix : String) (calls : List Call) (call : Call) :
    additions tablePrefix (calls ++ [call]) = additions tablePrefix calls ∨
      ∃ d, call.addition? tablePrefix = some d ∧
        additions tablePrefix (calls ++ [call]) = additions tablePrefix calls ++ [d] := by
  rw [additions_concat]
  cases hmade : additionOf? tablePrefix
      (call, (apply tablePrefix call (run tablePrefix calls empty).2).1) with
  | none => exact .inl (List.append_nil _)
  | some d => exact .inr ⟨d, additionOf?_eq_some hmade, rfl⟩

/-- An addition whose alias is known brings no name that was not there. -/
theorem severalNamed_of_known {d : Addition}
    (hmade : additions tablePrefix (calls ++ [call]) = additions tablePrefix calls ++ [d])
    (hknown : (maker? (additions tablePrefix calls) d.tableAlias).isSome) :
    SeveralNamed (additions tablePrefix (calls ++ [call])) ↔
      SeveralNamed (additions tablePrefix calls) := by
  have hmem : d ∈ additions tablePrefix (calls ++ [call]) := by simp [hmade]
  rw [hmade]
  refine severalNamed_concat_iff fun hname => ?_
  obtain ⟨m, hm⟩ := Option.isSome_iff_exists.1 hknown
  have hsame := name_of_mem_additions hmem (role_of_named hmem hname)
  rw [hmade, maker?_append, hm, Option.some_or, Option.map_some, Option.some.injEq] at hsame
  obtain ⟨hmmem, halias⟩ := maker?_eq_some hm
  exact ⟨m, hmmem, halias, by rwa [hsame]⟩

/-- Unless a call decides that several tables have a name, it leaves the fields as they are. -/
theorem isQualified_concat
    (h : SeveralNamed (additions tablePrefix (calls ++ [call])) ↔
      SeveralNamed (additions tablePrefix calls))
    {f : LoggedField} (hf : f ∈ fieldLog (additions tablePrefix calls)) :
    f.isQualified (additions tablePrefix (calls ++ [call]))
      = f.isQualified (additions tablePrefix calls) := by
  have htableless : isTableless (additions tablePrefix (calls ++ [call])) f.owner
      = isTableless (additions tablePrefix calls) f.owner := by
    rw [additions_concat]
    exact isTableless_append hf _
  rw [LoggedField.isQualified, LoggedField.isQualified, LoggedField.isQualifiable,
    LoggedField.isQualifiable, htableless, decide_eq_decide.2 h]

/-- **The second table with a name** puts the alias of its table and a dot in front of each field
before it that is a name without a dot, and its own fields behind them. -/
theorem fieldTexts_second (ctx : RenderContext)
    (hone : ¬ SeveralNamed (additions tablePrefix calls))
    (htwo : SeveralNamed (additions tablePrefix (calls ++ [call]))) :
    ∃ added, (run tablePrefix (calls ++ [call]) empty).2.fieldTexts ctx
      = List.zipWith
          (fun f text =>
            if f.isQualifiable (additions tablePrefix calls) then f.qualifier ctx ++ text else text)
          (standing (fieldLog (additions tablePrefix calls)))
          ((run tablePrefix calls empty).2.fieldTexts ctx) ++ added := by
  obtain hsame | ⟨d, -, hmade⟩ := additions_concat_cases tablePrefix calls call
  · rw [hsame] at htwo
    exact absurd htwo hone
  -- the alias is new, so none of its fields replaces one that is there
  have hnew : maker? (additions tablePrefix calls) d.tableAlias = none := by
    rw [← Option.not_isSome_iff_eq_none]
    exact fun hknown => hone ((severalNamed_of_known hmade hknown).1 htwo)
  have hapart : ∀ f ∈ fieldLog (additions tablePrefix calls), ∀ g ∈ fieldLog [d],
      f.givesWay g = false := by
    intro f hf g hg
    obtain ⟨e, he, -, hfowner⟩ := mem_fieldLog_iff.1 hf
    obtain ⟨d', hd', -, hgowner⟩ := mem_fieldLog_iff.1 hg
    obtain rfl := List.mem_singleton.1 hd'
    rw [Bool.eq_false_iff, Ne, LoggedField.givesWay_iff]
    rintro ⟨-, howner, -⟩
    obtain ⟨m, hm⟩ := exists_maker he
    rw [← hfowner, howner, hgowner, hnew] at hm
    exact nomatch hm
  rw [fieldTexts_run, fieldTexts_run, hmade, fieldLog_append, standing_append hapart,
    List.map_append, List.zipWith_map_right, List.zipWith_self]
  refine ⟨_, congrArg (· ++ _) (List.map_congr_left fun f hf => ?_)⟩
  have hqualifiable : f.isQualifiable (additions tablePrefix calls ++ [d])
      = f.isQualifiable (additions tablePrefix calls) := by
    rw [LoggedField.isQualifiable, LoggedField.isQualifiable,
      isTableless_append (standing_subset _ hf)]
  rw [hmade] at htwo
  simp only [LoggedField.render, LoggedField.isQualified, hone, htwo, hqualifiable, decide_true,
    decide_false, Bool.true_and, Bool.false_and, Bool.false_eq_true, if_false, String.empty_append]
  split <;> simp

/-- What may be relied on about the qualification of fields. -/
structure Qualified (tablePrefix : String) (calls : List Call) : Prop where
  /-- The field list: some fields have the alias of their table and a dot in front. -/
  fieldList : ∀ ctx, (run tablePrefix calls empty).2.fieldsClause ctx
    = ", ".intercalate ((standing (fieldLog (additions tablePrefix calls))).map fun f =>
        (if f.isQualified (additions tablePrefix calls) then
          ctx.identifier .table f.owner ++ "." else "") ++ f.bareText ctx)
  /-- Those are the names without a dot that belong to a table, if several tables have a name. -/
  rule : ∀ f : LoggedField, f.isQualified (additions tablePrefix calls) = true ↔
    (∃ name, f.spec.field = .name name ∧ '.' ∉ name.toList) ∧
      isTableless (additions tablePrefix calls) f.owner = false ∧
      SeveralNamed (additions tablePrefix calls)
  /-- Fields that are added without table are not among them, whichever table has their alias. -/
  tableless : ∀ fields d, (Call.column fields).addition? tablePrefix = some d →
    ∀ f ∈ fieldLog [d], f.isQualified (additions tablePrefix calls) = false
  /-- The second table with a name qualifies what is there. -/
  second : ∀ call, ¬ SeveralNamed (additions tablePrefix calls) →
    SeveralNamed (additions tablePrefix (calls ++ [call])) → ∀ ctx, ∃ added,
      (run tablePrefix (calls ++ [call]) empty).2.fieldTexts ctx
        = List.zipWith
            (fun f text =>
              if f.isQualifiable (additions tablePrefix calls) then f.qualifier ctx ++ text
              else text)
            (standing (fieldLog (additions tablePrefix calls)))
            ((run tablePrefix calls empty).2.fieldTexts ctx) ++ added
  /-- A declaration whose alias is known changes no field, whether it succeeds or fails. -/
  redeclared : ∀ call tableAlias name, call.declaration? tablePrefix = some (tableAlias, name) →
    (maker? (additions tablePrefix calls) tableAlias).isSome →
    ∀ f ∈ fieldLog (additions tablePrefix calls),
      f.isQualified (additions tablePrefix (calls ++ [call]))
        = f.isQualified (additions tablePrefix calls)
  /-- Nor do fields without table. -/
  column : ∀ fields, ∀ f ∈ fieldLog (additions tablePrefix calls),
    f.isQualified (additions tablePrefix (calls ++ [.column fields]))
      = f.isQualified (additions tablePrefix calls)

theorem Call.alias_of_addition? {d : Addition} {tableAlias name : String}
    (hadd : call.addition? tablePrefix = some d)
    (hdeclared : call.declaration? tablePrefix = some (tableAlias, name)) :
    d.tableAlias = tableAlias := by
  cases call with
  | source table fields =>
    obtain ⟨spec, hresolve, rfl⟩ := Addition.ofTable?_eq_some.1 hadd
    simp only [Call.declaration?, hresolve, Option.some.injEq, Prod.mk.injEq] at hdeclared
    exact hdeclared.1
  | join kind table predicate fields =>
    obtain ⟨spec, hresolve, rfl⟩ := Addition.ofTable?_eq_some.1 hadd
    simp only [Call.declaration?, hresolve, Option.some.injEq, Prod.mk.injEq] at hdeclared
    exact hdeclared.1
  | _ => simp [Call.declaration?] at hdeclared

/-- **Fields are qualified all or none, also those that came before the second table.** -/
theorem qualification_run (tablePrefix : String) (calls : List Call) :
    Qualified tablePrefix calls where
  fieldList ctx := fieldsClause_run ctx tablePrefix calls
  rule f := LoggedField.isQualified_iff
  tableless fields d hadd f hf := by
    obtain rfl := Option.some.inj hadd
    obtain ⟨d, hd, hspec, -⟩ := mem_fieldLog_iff.1 hf
    obtain rfl := List.mem_singleton.1 hd
    obtain ⟨spec, -, hspec⟩ := List.mem_map.1 hspec
    rw [LoggedField.isQualified, LoggedField.isQualifiable, ← hspec, isUndotted_tableless,
      Bool.and_false, Bool.and_false]
  second call hone htwo ctx := fieldTexts_second ctx hone htwo
  redeclared call tableAlias name hdeclared hknown f hf := by
    refine isQualified_concat ?_ hf
    obtain hsame | ⟨d, hadd, hmade⟩ := additions_concat_cases tablePrefix calls call
    · rw [hsame]
    · rw [← Call.alias_of_addition? hadd hdeclared] at hknown
      exact severalNamed_of_known hmade hknown
  column fields f hf := by
    refine isQualified_concat ?_ hf
    obtain hsame | ⟨d, hadd, hmade⟩ := additions_concat_cases tablePrefix calls (.column fields)
    · rw [hsame]
    · obtain rfl := Option.some.inj hadd
      rw [hmade]
      exact severalNamed_concat_iff fun hname => absurd rfl hname

example : ¬ SeveralNamed (additions "" [.source (.spec ⟨"a", none⟩) [.ofText "x"]]) ∧
    SeveralNamed (additions "" [.source (.spec ⟨"a", none⟩) [.ofText "x"],
      .source (.spec ⟨"b", none⟩) []]) := by decide

end SqlLayer.Selection
