import SqlLayer.Proofs.Selection.Representation

/-!
# What aliases stand for

The first declaration of an alias binds it to the table that it names, and from then on the alias
stands for that table.  A declaration for another table fails and leaves no trace.

* `Call.declaration?`, `Call.binding?` — the alias and the table that a call declares or binds;
* `boundTo?` — what an alias is bound to, **told from the calls and their outcomes alone**;
* `Selection.effect_apply` — everything that a call can do;
* `Selection.nameOf?_run` — the selection knows what the calls have bound;
* `Selection.AliasDiscipline`, `Selection.run_disciplined` — **which calls fail**, and that those
  that do might as well not have been made.
-/

namespace SqlLayer

namespace Selection

/-! ### Bindings told from the calls -/

/-- The alias and the name of the table that a call declares. -/
def Call.declaration? (tablePrefix : String) : Call → Option (String × String)
  | .source table _ | .join _ table _ _ =>
    match table.resolve with
    | .ok spec => some (boundAlias tablePrefix spec, engineNameOf tablePrefix spec)
    | .error _ => none
  | _ => none

/-- The alias that a call binds if it succeeds, and the name that it then stands for.  Fields that
belong to no table bind the empty alias to no name. -/
def Call.binding? (tablePrefix : String) : Call → Option (String × String)
  | .column _ => some ("", "")
  | call => call.declaration? tablePrefix

/-- What a call that was made may have bound an alias to. -/
def bindingOf? (tablePrefix tableAlias : String) (made : Call × Except SqlError Unit) :
    Option String :=
  match made.2 with
  | .ok _ => ((made.1.binding? tablePrefix).filter fun b => b.1 = tableAlias).map Prod.snd
  | .error _ => none

/-- What an alias stands for after some calls. The first of them that binds it decides: a later one
declares the same table, or puts fields that belong to no table where the empty alias is known. -/
def boundTo? (tablePrefix : String) (past : List (Call × Except SqlError Unit))
    (tableAlias : String) : Option String :=
  past.findSome? (bindingOf? tablePrefix tableAlias)

/-- Calls with their outcomes. -/
def history (tablePrefix : String) (calls : List Call) (s : Selection) :
    List (Call × Except SqlError Unit) :=
  calls.zip (run tablePrefix calls s).1

/-! ### Bindings of a selection -/

variable {s : Selection} {tablePrefix : String}

/-- The name of the table that an alias stands for. -/
def nameOf? (s : Selection) (tableAlias : String) : Option String :=
  (s.aliases.get? tableAlias).bind fun i => s.tables[i]?.map TableEntry.name

theorem conflicts_iff {name tableAlias : String} :
    s.conflicts name tableAlias = true ↔
      ∃ other, s.nameOf? tableAlias = some other ∧ other ≠ name := by
  rw [conflicts, nameOf?]
  cases s.aliases.get? tableAlias with
  | none => simp
  | some i => cases hi : s.tables[i]? <;> simp [hi]

/-- Finding a place binds the alias, unless it is bound already. -/
theorem nameOf?_placeFor (h : s.WellFormed) (name tableAlias : String) (role : TablePart)
    (other : String) :
    (s.placeFor name tableAlias role).2.nameOf? other
      = (s.nameOf? other).or (if tableAlias = other then some name else none) := by
  cases hplace : s.aliases.get? tableAlias with
  | some i =>
    -- the alias is bound, by the invariant to the table at its place
    rw [placeFor_of_some hplace]
    by_cases ha : tableAlias = other
    · subst ha
      obtain ⟨t, ht, -⟩ := (h.place tableAlias i).1 hplace
      have hbound : s.nameOf? tableAlias = some t.name := by
        rw [nameOf?, hplace, Option.bind_some, ht, Option.map_some]
      rw [hbound, Option.some_or]
    · rw [if_neg ha, Option.or_none]
  | none =>
    rw [placeFor_of_none hplace]
    simp only [nameOf?, OrderedMap.get?_insert]
    by_cases ha : tableAlias = other
    · subst ha
      simp [hplace]
    · rw [if_neg (Ne.symm ha), if_neg ha, Option.or_none]
      cases hother : s.aliases.get? other with
      | none => rfl
      | some i =>
        obtain ⟨t, ht, -⟩ := (h.place other i).1 hother
        rw [Option.bind_some, Option.bind_some, getElem?_concat_iff.2 (.inl ht), ht]

theorem nameOf?_includeFields (index : Nat) (specs : List OutputColumn) (tableAlias : String) :
    (s.includeFields index specs).nameOf? tableAlias = s.nameOf? tableAlias := by
  induction specs generalizing s with
  | nil => rfl
  | cons spec specs ih =>
    have hfirst : (s.includeField index spec).nameOf? tableAlias = s.nameOf? tableAlias := by
      have hnames : (s.includeField index spec).tables.map TableEntry.name
          = s.tables.map TableEntry.name := map_tables_includeField (fun _ _ => rfl) index spec
      have hname : ∀ i : Nat, (s.includeField index spec).tables[i]?.map TableEntry.name
          = s.tables[i]?.map TableEntry.name := fun i => by
        rw [← List.getElem?_map, hnames, List.getElem?_map]
      simp only [nameOf?, hname]
      rfl
    exact (ih (s := s.includeField index spec)).trans hfirst

/-! ### One call -/

/-- A table that is not named is a mistake of its own kind. -/
theorem usage_of_resolve {table : TableRef} {e : SqlError} (h : table.resolve = .error e) :
    ∃ text, e = .usage text := by
  cases table with
  | spec t => exact nomatch h
  | aliases entries =>
    match entries, h with
    | [], h => exact ⟨_, (Except.error.inj h).symm⟩
    | _ :: _ :: _, h => exact ⟨_, (Except.error.inj h).symm⟩

theorem Call.binding?_of_declaration? {call : Call} {d : String × String}
    (h : call.declaration? tablePrefix = some d) : call.binding? tablePrefix = some d := by
  cases call with
  | column fields => exact nomatch h
  | source table fields => exact h
  | join kind table predicate fields => exact h
  | distinct => exact h
  | condition e => exact h
  | having e => exact h
  | group fields => exact h
  | order fields => exact h
  | limit count offset => exact h

/-- What a call may come to. -/
inductive Effect (tablePrefix : String) (call : Call) (s : Selection) :
    Except SqlError Unit × Selection → Prop
  /-- The call does not say which table it means. -/
  | unnamed {text : String} (hbinding : call.binding? tablePrefix = none) :
    Effect tablePrefix call s (.error (.usage text), s)
  /-- The call declares an alias that stands for another table. -/
  | clash {a n : String} (hdeclaration : call.declaration? tablePrefix = some (a, n))
      (hconflict : s.conflicts n a = true) :
    Effect tablePrefix call s (.error (.aliasTaken a), s)
  /-- The call binds an alias, and adds fields to the table that it stands for. -/
  | binds {a n : String} {role : TablePart} {fields : List OutputColumn}
      (hbinding : call.binding? tablePrefix = some (a, n))
      (hfree : call.declaration? tablePrefix = some (a, n) → s.conflicts n a = false) :
    Effect tablePrefix call s
      (.ok (), (s.placeFor n a role).2.includeFields (s.placeFor n a role).1 fields)
  /-- The call is about another clause. -/
  | elsewhere {s' : Selection} (hbinding : call.binding? tablePrefix = none)
      (htables : s'.tables = s.tables) (haliases : s'.aliases = s.aliases) :
    Effect tablePrefix call s (.ok (), s')

theorem effect_declare {call : Call} {table : TableRef} (role : TablePart)
    (fields : List OutputColumn)
    (hbinding : call.binding? tablePrefix = call.declaration? tablePrefix)
    (hdeclaration : call.declaration? tablePrefix = match table.resolve with
      | .ok spec => some (boundAlias tablePrefix spec, engineNameOf tablePrefix spec)
      | .error _ => none) :
    Effect tablePrefix call s (declare tablePrefix table role fields s) := by
  obtain ⟨e, hresolve, hform⟩ | ⟨spec, hresolve, ⟨hconflict, hform⟩ | ⟨hconflict, hform⟩⟩ :=
    declare_cases tablePrefix table role fields s
  · obtain ⟨text, rfl⟩ := usage_of_resolve hresolve
    rw [hresolve] at hdeclaration
    rw [hform]
    exact .unnamed (hbinding.trans hdeclaration)
  · rw [hresolve] at hdeclaration
    rw [hform]
    exact .clash hdeclaration hconflict
  · rw [hresolve] at hdeclaration
    rw [hform]
    exact .binds (hbinding.trans hdeclaration) fun _ => hconflict

/-- **Everything a call can do.** -/
theorem effect_apply (tablePrefix : String) (call : Call) (s : Selection) :
    Effect tablePrefix call s (apply tablePrefix call s) := by
  cases call with
  | source table fields => exact effect_declare _ _ rfl rfl
  | join kind table predicate fields => exact effect_declare _ _ rfl rfl
  | column fields =>
    have hfree : Call.declaration? tablePrefix (.column fields) = some ("", "") →
        s.conflicts "" "" = false := fun h => nomatch h
    exact .binds rfl hfree
  | distinct => exact .elsewhere rfl rfl rfl
  | condition e => exact .elsewhere rfl rfl rfl
  | having e => exact .elsewhere rfl rfl rfl
  | group fields => exact .elsewhere rfl rfl rfl
  | order fields => exact .elsewhere rfl rfl rfl
  | limit count offset => exact .elsewhere rfl rfl rfl

theorem apply_of_error {call : Call} {e : SqlError} (h : (apply tablePrefix call s).1 = .error e) :
    (apply tablePrefix call s).2 = s := by
  have heffect := effect_apply tablePrefix call s
  generalize apply tablePrefix call s = result at h heffect ⊢
  cases heffect with
  | unnamed hbinding => rfl
  | clash hdeclaration hconflict => rfl
  | binds hbinding hfree => exact nomatch h
  | elsewhere hbinding htables haliases => exact nomatch h

/-- A declaration succeeds unless its alias stands for another table. -/
theorem apply_of_declaration {call : Call} {a n : String}
    (h : call.declaration? tablePrefix = some (a, n)) :
    (apply tablePrefix call s).1
      = if s.conflicts n a = true then .error (.aliasTaken a) else .ok () := by
  have hbinds : call.binding? tablePrefix = some (a, n) := Call.binding?_of_declaration? h
  have heffect := effect_apply tablePrefix call s
  generalize apply tablePrefix call s = result at heffect ⊢
  cases heffect with
  | unnamed hbinding => exact nomatch hbinding.symm.trans hbinds
  | clash hdeclaration hconflict =>
    obtain ⟨rfl, rfl⟩ := Prod.mk.inj (Option.some.inj (hdeclaration.symm.trans h))
    exact (if_pos hconflict).symm
  | binds hbinding hfree =>
    -- a declaration binds what it declares, and that was free
    obtain ⟨rfl, rfl⟩ := Prod.mk.inj (Option.some.inj (hbinding.symm.trans hbinds))
    rw [hfree h]
    rfl
  | elsewhere hbinding htables haliases => exact nomatch hbinding.symm.trans hbinds

/-- **Which calls contradict** the selection: declarations of an alias that stands for another
table, and no others. -/
theorem contradicts_iff {call : Call} :
    (∃ text, (apply tablePrefix call s).1 = .error (.consistency text)) ↔
      ∃ a n other, call.declaration? tablePrefix = some (a, n) ∧ s.nameOf? a = some other ∧
        other ≠ n := by
  constructor
  · rintro ⟨text, htext⟩
    have heffect := effect_apply tablePrefix call s
    generalize apply tablePrefix call s = result at htext heffect
    cases heffect with
    | unnamed hbinding => exact nomatch htext
    | clash hdeclaration hconflict =>
      obtain ⟨other, hother, hne⟩ := conflicts_iff.1 hconflict
      exact ⟨_, _, other, hdeclaration, hother, hne⟩
    | binds hbinding hfree => exact nomatch htext
    | elsewhere hbinding htables haliases => exact nomatch htext
  · rintro ⟨a, n, other, hdeclaration, hother, hne⟩
    rw [apply_of_declaration hdeclaration, if_pos (conflicts_iff.2 ⟨other, hother, hne⟩)]
    exact ⟨_, rfl⟩

/-- After **one call** an alias stands for what it stood for, or for what the call bound it to. -/
theorem nameOf?_apply (h : s.WellFormed) (call : Call) (tableAlias : String) :
    (apply tablePrefix call s).2.nameOf? tableAlias
      = (s.nameOf? tableAlias).or
          (bindingOf? tablePrefix tableAlias (call, (apply tablePrefix call s).1)) := by
  have heffect := effect_apply tablePrefix call s
  generalize apply tablePrefix call s = result at heffect ⊢
  cases heffect with
  | unnamed hbinding => exact Option.or_none.symm
  | clash hdeclaration hconflict => exact Option.or_none.symm
  | @binds a n role fields hbinding hfree =>
    rw [bindingOf?, nameOf?_includeFields, nameOf?_placeFor h, hbinding]
    by_cases ha : a = tableAlias <;> simp [ha, Option.filter]
  | elsewhere hbinding htables haliases =>
    rw [bindingOf?, hbinding, nameOf?, nameOf?, htables, haliases]
    exact Option.or_none.symm

/-! ### Runs -/

/-- **What the calls have bound**, the selection knows. -/
theorem nameOf?_run (h : s.WellFormed) (calls : List Call) (tableAlias : String) :
    (run tablePrefix calls s).2.nameOf? tableAlias
      = (s.nameOf? tableAlias).or
          (boundTo? tablePrefix (history tablePrefix calls s) tableAlias) := by
  -- on the calls, from any well-formed selection: what it knows comes before all that they bind
  induction calls generalizing s with
  | nil => exact Option.or_none.symm
  | cons call rest ih =>
    have hrest := ih (h.apply tablePrefix call)
    have hstep : boundTo? tablePrefix (history tablePrefix (call :: rest) s) tableAlias
        = (bindingOf? tablePrefix tableAlias (call, (apply tablePrefix call s).1)).or
            (boundTo? tablePrefix (history tablePrefix rest (apply tablePrefix call s).2)
              tableAlias) := by
      rw [boundTo?, history, run, List.zip_cons_cons, List.findSome?_cons]
      cases bindingOf? tablePrefix tableAlias (call, (apply tablePrefix call s).1) <;> rfl
    rw [hstep, ← Option.or_assoc, ← nameOf?_apply h]
    exact hrest

theorem run_cons (call : Call) (rest : List Call) (s : Selection) :
    run tablePrefix (call :: rest) s
      = ((apply tablePrefix call s).1 :: (run tablePrefix rest (apply tablePrefix call s).2).1,
          (run tablePrefix rest (apply tablePrefix call s).2).2) := rfl

theorem run_append (calls later : List Call) (s : Selection) :
    run tablePrefix (calls ++ later) s
      = ((run tablePrefix calls s).1 ++ (run tablePrefix later (run tablePrefix calls s).2).1,
          (run tablePrefix later (run tablePrefix calls s).2).2) := by
  induction calls generalizing s with
  | nil => rfl
  | cons call rest ih => rw [List.cons_append, run_cons, ih, run_cons, List.cons_append]

theorem length_run (calls : List Call) (s : Selection) :
    (run tablePrefix calls s).1.length = calls.length := by
  induction calls generalizing s with
  | nil => rfl
  | cons call rest ih => exact congrArg Nat.succ (ih _)

/-- What may be relied on after some calls. -/
structure AliasDiscipline (tablePrefix : String) (calls : List Call) : Prop where
  /-- The tables are represented as they should be. -/
  wellFormed : (run tablePrefix calls empty).2.WellFormed
  /-- A call is a contradiction exactly if it declares an alias that a former call has bound to
  another table. -/
  contradicts : ∀ call,
    (∃ text, (apply tablePrefix call (run tablePrefix calls empty).2).1
        = .error (.consistency text)) ↔
      ∃ a n other, call.declaration? tablePrefix = some (a, n) ∧
        boundTo? tablePrefix (history tablePrefix calls empty) a = some other ∧ other ≠ n
  /-- A declaration that fails tells the alias. -/
  names : ∀ call a n e, call.declaration? tablePrefix = some (a, n) →
    (apply tablePrefix call (run tablePrefix calls empty).2).1 = .error e → e = .aliasTaken a
  /-- Any other declaration succeeds. -/
  accepts : ∀ call a n, call.declaration? tablePrefix = some (a, n) →
    (∀ other, boundTo? tablePrefix (history tablePrefix calls empty) a = some other → other = n) →
      (apply tablePrefix call (run tablePrefix calls empty).2).1 = .ok ()
  /-- A failed call changes nothing. -/
  keeps : ∀ call e, (apply tablePrefix call (run tablePrefix calls empty).2).1 = .error e →
    (apply tablePrefix call (run tablePrefix calls empty).2).2 = (run tablePrefix calls empty).2
  /-- Without a failed call all other outcomes are the same, and so is the selection in the end, of
  which the SQL is a function. -/
  unmade : ∀ call e, (apply tablePrefix call (run tablePrefix calls empty).2).1 = .error e →
    ∀ later, run tablePrefix (calls ++ later) empty =
      ((run tablePrefix (calls ++ call :: later) empty).1.eraseIdx calls.length,
        (run tablePrefix (calls ++ call :: later) empty).2)

/-- **The discipline of aliases** holds after any calls, failed ones among them. -/
theorem run_disciplined (tablePrefix : String) (calls : List Call) :
    AliasDiscipline tablePrefix calls := by
  have hwell : (run tablePrefix calls empty).2.WellFormed := wellFormed_run tablePrefix calls
  have hbound : ∀ a, boundTo? tablePrefix (history tablePrefix calls empty) a
      = (run tablePrefix calls empty).2.nameOf? a := fun a =>
    (nameOf?_run wellFormed_empty calls a).symm
  refine ⟨hwell, fun call => ?_, fun call a n e hdeclaration herror => ?_,
    fun call a n hdeclaration hfree => ?_, fun call e herror => apply_of_error herror,
    fun call e herror later => ?_⟩
  · simp only [hbound]
    exact contradicts_iff
  · rw [apply_of_declaration hdeclaration] at herror
    split at herror
    · exact (Except.error.inj herror).symm
    · exact nomatch herror
  · rw [apply_of_declaration hdeclaration, if_neg]
    intro hconflict
    obtain ⟨other, hother, hne⟩ := conflicts_iff.1 hconflict
    exact hne (hfree other ((hbound a).trans hother))
  · rw [run_append, run_append, run_cons, apply_of_error herror,
      List.eraseIdx_append_of_length_le (Nat.le_of_eq (length_run calls empty)), length_run,
      Nat.sub_self, List.eraseIdx_cons_zero]

/-- Fields that belong to no table take the empty alias, and a table may take it before them. -/
example :
    (run "" [.column [], .source (.spec ⟨"t", some ""⟩) []] empty).1
        = [.ok (), .error (.aliasTaken "")] ∧
      (run "" [.source (.spec ⟨"t", some ""⟩) [], .column []] empty).1 = [.ok (), .ok ()] := by
  decide

end Selection

end SqlLayer
