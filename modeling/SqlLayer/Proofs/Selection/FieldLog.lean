import SqlLayer.Proofs.Selection.Additions

/-!
# The field list as a log

The fields of a selection stand in the lists of its tables, where a field takes the place of the one
with its output alias, and the statement puts them in the order of their numbers.  Told from the
calls this is **a log without the entries that a later one replaces**.

* `Selection.fieldLog`, `Selection.standing` — the fields in the order of the calls, and those of
  them that no later one replaces;
* `Selection.Reflects` — a table has **the standing fields of its alias**, with their places in the
  log as numbers;
* `Selection.listedFields_eq` — put in order they are the standing fields;
* `Selection.fieldsClause_run` — **the field list is the log**.
-/

namespace SqlLayer

/-- The entry of a column list that a field came from. -/
def FieldEntry.spec (e : FieldEntry) : OutputColumn := ⟨e.field, e.outputAlias⟩

namespace Selection

/-- A field that was added, with the alias of its table. -/
structure LoggedField where
  owner : String
  spec : OutputColumn
  deriving DecidableEq

/-- Whether a field gives way to a later one: both have one output alias, in one table. -/
def LoggedField.givesWay (f g : LoggedField) : Bool :=
  f.spec.outputAlias.isSome && f.owner == g.owner && f.spec.outputAlias == g.spec.outputAlias

/-- The fields that were added, in the order of the calls. -/
def fieldLog (ds : List Addition) : List LoggedField :=
  ds.flatMap fun d => d.fields.map (LoggedField.mk d.tableAlias)

/-- The fields of a log that do not give way to a later one. -/
def standing : List LoggedField → List LoggedField
  | [] => []
  | f :: later => if later.any f.givesWay then standing later else f :: standing later

/-- The same with their places in the log, counted from `n`. -/
def standingFrom (n : Nat) : List LoggedField → List (LoggedField × Nat)
  | [] => []
  | f :: later =>
    if later.any f.givesWay then standingFrom (n + 1) later
    else (f, n) :: standingFrom (n + 1) later

/-- A field stands at a place of a log, and no later one replaces it. -/
def StandsAt (log : List LoggedField) (f : LoggedField) (i : Nat) : Prop :=
  log[i]? = some f ∧ ∀ j g, i < j → log[j]? = some g → f.givesWay g = false

variable {log : List LoggedField} {f g : LoggedField}

theorem LoggedField.givesWay_iff :
    f.givesWay g = true ↔
      f.spec.outputAlias ≠ none ∧ f.owner = g.owner ∧ f.spec.outputAlias = g.spec.outputAlias := by
  simp [givesWay, and_assoc, Option.isSome_iff_ne_none]

/-! ### Logs -/

theorem map_standingFrom (n : Nat) (log : List LoggedField) :
    (standingFrom n log).map Prod.fst = standing log := by
  induction log generalizing n with
  | nil => rfl
  | cons f later ih =>
    unfold standingFrom standing
    split
    · exact ih (n + 1)
    · rw [List.map_cons, ih]

theorem standsAt_cons_zero {later : List LoggedField} :
    StandsAt (g :: later) f 0 ↔ g = f ∧ later.any f.givesWay = false := by
  rw [StandsAt, List.getElem?_cons_zero, Option.some.injEq, List.any_eq_false]
  refine and_congr_right fun _ => ⟨fun h x hx => ?_, fun h j x hj hx => ?_⟩
  · obtain ⟨j, hj⟩ := List.getElem?_of_mem hx
    simp [h (j + 1) x (Nat.succ_pos j) hj]
  · cases j with
    | zero => omega
    | succ j => simpa using h x (List.mem_of_getElem? hx)

theorem standsAt_cons_succ {later : List LoggedField} {i : Nat} :
    StandsAt (g :: later) f (i + 1) ↔ StandsAt later f i := by
  rw [StandsAt, StandsAt, List.getElem?_cons_succ]
  refine and_congr_right fun _ => ⟨fun h j x hj hx => ?_, fun h j x hj hx => ?_⟩
  · exact h (j + 1) x (by omega) hx
  · cases j with
    | zero => omega
    | succ j => exact h j x (by omega) hx

theorem mem_standingFrom {n k : Nat} :
    (f, k) ∈ standingFrom n log ↔ ∃ i, k = n + i ∧ StandsAt log f i := by
  induction log generalizing n with
  | nil => simp [standingFrom, StandsAt]
  | cons g later ih =>
    have hrest : (f, k) ∈ standingFrom (n + 1) later
        ↔ ∃ i, k = n + (i + 1) ∧ StandsAt (g :: later) f (i + 1) := by
      rw [ih]
      simp only [standsAt_cons_succ, Nat.add_assoc, Nat.add_comm 1]
    have hsplit : (∃ i, k = n + i ∧ StandsAt (g :: later) f i) ↔
        (k = n ∧ g = f ∧ later.any f.givesWay = false) ∨ (f, k) ∈ standingFrom (n + 1) later := by
      rw [hrest]
      constructor
      · rintro ⟨_ | i, hk, hstands⟩
        · exact .inl ⟨hk, standsAt_cons_zero.1 hstands⟩
        · exact .inr ⟨i, hk, hstands⟩
      · rintro (⟨hk, hstands⟩ | ⟨i, hk, hstands⟩)
        · exact ⟨0, hk, standsAt_cons_zero.2 hstands⟩
        · exact ⟨i + 1, hk, hstands⟩
    rw [hsplit, standingFrom]
    split
    · rename_i hany
      refine (or_iff_right ?_).symm
      rintro ⟨-, rfl, hnone⟩
      exact absurd hany (by simp [hnone])
    · rename_i hany
      rw [List.mem_cons, Prod.mk.injEq]
      refine or_congr_left ⟨?_, fun h => ⟨h.2.1.symm, h.1⟩⟩
      rintro ⟨rfl, rfl⟩
      exact ⟨rfl, rfl, by simpa using hany⟩

/-- The places go up. -/
theorem pairwise_standingFrom (n : Nat) (log : List LoggedField) :
    (standingFrom n log).Pairwise fun a b => a.2 < b.2 := by
  induction log generalizing n with
  | nil => exact .nil
  | cons f later ih =>
    rw [standingFrom]
    split
    · exact ih (n + 1)
    · refine .cons (fun b hb => ?_) (ih (n + 1))
      obtain ⟨i, hk, -⟩ := mem_standingFrom.1 (show (b.1, b.2) ∈ standingFrom (n + 1) later from hb)
      show n < b.2
      omega

/-- A later field makes those stand down that give way to it, and stands itself. -/
theorem standsAt_concat {i : Nat} :
    StandsAt (log ++ [g]) f i ↔
      StandsAt log f i ∧ f.givesWay g = false ∨ i = log.length ∧ f = g := by
  constructor
  · rintro ⟨hi, hlater⟩
    obtain hi | hlast := getElem?_concat_iff.1 hi
    · have hlt : i < log.length := (List.getElem?_eq_some_iff.1 hi).1
      have hg : f.givesWay g = false := hlater _ g hlt (getElem?_concat_iff.2 (.inr ⟨rfl, rfl⟩))
      exact .inl ⟨⟨hi, fun j x hj hx => hlater j x hj (getElem?_concat_iff.2 (.inl hx))⟩, hg⟩
    · exact .inr hlast
  · rintro (⟨⟨hi, hlater⟩, hg⟩ | ⟨rfl, rfl⟩)
    · refine ⟨getElem?_concat_iff.2 (.inl hi), fun j x hj hx => ?_⟩
      obtain hx | ⟨-, rfl⟩ := getElem?_concat_iff.1 hx
      · exact hlater j x hj hx
      · exact hg
    · refine ⟨getElem?_concat_iff.2 (.inr ⟨rfl, rfl⟩), fun j x hj hx => ?_⟩
      -- nothing comes after the last field
      have hlt := (List.getElem?_eq_some_iff.1 hx).1
      simp only [List.length_append, List.length_singleton] at hlt
      omega

/-! ### Tables and their logs -/

/-- The tables have the standing fields of a log. -/
structure Reflects (s : Selection) (log : List LoggedField) : Prop where
  next : s.nextField = log.length
  /-- A table has the standing fields of its alias, numbered by their places. -/
  fields : ∀ t ∈ s.tables, ∀ e,
    e ∈ t.fields ↔ StandsAt log ⟨t.tableAlias, e.spec⟩ e.order
  /-- Every field has its table. -/
  owned : ∀ f ∈ log, ∃ t ∈ s.tables, t.tableAlias = f.owner

theorem reflects_empty : empty.Reflects [] where
  next := rfl
  fields _ ht := nomatch ht
  owned _ hf := nomatch hf

variable {s : Selection}

theorem eq_entryOf_iff {e : FieldEntry} {n : Nat} {spec : OutputColumn} :
    e = entryOf n spec ↔ e.order = n ∧ e.spec = spec := by
  obtain ⟨order, field, outputAlias⟩ := e
  obtain ⟨field', outputAlias'⟩ := spec
  simp [entryOf, FieldEntry.spec]

theorem mem_set_iff {α : Type} {l : List α} (hnodup : l.Nodup) {i : Nat} (hi : i < l.length)
    {new a : α} : a ∈ l.set i new ↔ a = new ∨ a ∈ l ∧ l[i] ≠ a := by
  constructor
  · intro ha
    obtain ⟨j, hj⟩ := List.getElem?_of_mem ha
    rw [List.getElem?_set] at hj
    split at hj
    · exact .inl (Option.some.inj hj).symm
    · rename_i hij
      refine .inr ⟨List.mem_of_getElem? hj, fun hsame => hij ?_⟩
      exact (List.getElem?_inj hi hnodup).1 (by rw [List.getElem?_eq_getElem hi, hsame, hj])
  · rintro (rfl | ⟨ha, hother⟩)
    · exact List.mem_set hi a
    · obtain ⟨j, hj⟩ := List.getElem?_of_mem ha
      have hij : i ≠ j := by
        rintro rfl
        rw [List.getElem?_eq_getElem hi] at hj
        exact hother (Option.some.inj hj)
      exact List.mem_of_getElem? ((List.getElem?_set_ne hij).trans hj)

/-- What a table has after a field was put in, where fields are known from their output aliases. -/
theorem mem_putField_iff {new e : FieldEntry} {fields : List FieldEntry} (hnodup : fields.Nodup)
    (hunique : ∀ a ∈ fields, ∀ b ∈ fields, a.outputAlias ≠ none →
      a.outputAlias = b.outputAlias → a = b) :
    e ∈ putField new fields ↔
      e = new ∨ e ∈ fields ∧ ¬ (e.outputAlias ≠ none ∧ e.outputAlias = new.outputAlias) := by
  unfold putField
  cases halias : new.outputAlias with
  | none =>
    have hkept : ¬ (e.outputAlias ≠ none ∧ e.outputAlias = none) := fun h => h.1 h.2
    simp [hkept, or_comm]
  | some a =>
    dsimp only
    cases hplace : fields.findIdx? fun f => f.outputAlias == some a with
    | none =>
      rw [List.findIdx?_eq_none_iff] at hplace
      rw [List.mem_append, List.mem_singleton, or_comm]
      refine or_congr_right ⟨fun he => ⟨he, fun h => ?_⟩, fun he => he.1⟩
      exact absurd (hplace e he) (by simp [h.2])
    | some i =>
      obtain ⟨hi, hold, -⟩ := List.findIdx?_eq_some_iff_getElem.1 hplace
      have hsame : fields[i].outputAlias = some a := by simpa using hold
      rw [mem_set_iff hnodup hi]
      refine or_congr_right (and_congr_right fun he => not_congr ⟨?_, fun h => ?_⟩)
      · rintro rfl
        exact ⟨by simp [hsame], hsame⟩
      · exact hunique _ (List.getElem_mem hi) e he (by simp [hsame]) (hsame.trans h.2.symm)

theorem Reflects.eq_of_alias (h : s.Reflects log) {t : TableEntry} (ht : t ∈ s.tables)
    {a b : FieldEntry} (ha : a ∈ t.fields) (hb : b ∈ t.fields) (hsome : a.outputAlias ≠ none)
    (hsame : a.outputAlias = b.outputAlias) : a = b := by
  obtain ⟨hai, hastands⟩ := (h.fields t ht a).1 ha
  obtain ⟨hbi, hbstands⟩ := (h.fields t ht b).1 hb
  have hab : LoggedField.givesWay ⟨t.tableAlias, a.spec⟩ ⟨t.tableAlias, b.spec⟩ = true :=
    LoggedField.givesWay_iff.2 ⟨hsome, rfl, hsame⟩
  have hba : LoggedField.givesWay ⟨t.tableAlias, b.spec⟩ ⟨t.tableAlias, a.spec⟩ = true :=
    LoggedField.givesWay_iff.2 ⟨fun hnone => hsome (hsame.trans hnone), rfl, hsame.symm⟩
  rcases Nat.lt_trichotomy a.order b.order with hlt | heq | hgt
  · exact absurd hab (by rw [hastands _ _ hlt hbi]; exact Bool.false_ne_true)
  · rw [heq, hbi, Option.some.injEq, LoggedField.mk.injEq] at hai
    obtain ⟨order, field, outputAlias⟩ := a
    obtain ⟨order', field', outputAlias'⟩ := b
    simp only [FieldEntry.spec, OutputColumn.mk.injEq] at hai heq
    rw [heq, hai.2.1, hai.2.2]
  · exact absurd hba (by rw [hbstands _ _ hgt hai]; exact Bool.false_ne_true)

theorem WellFormed.nodup_fields (h : s.WellFormed) {t : TableEntry} (ht : t ∈ s.tables) :
    t.fields.Nodup :=
  ((List.nodup_flatMap.1 h.distinct).1 t ht).of_map

/-- Putting a field into a table leaves the tables of the other aliases. -/
theorem WellFormed.tables_includeField_cases (h : s.WellFormed) {index : Nat} {t u : TableEntry}
    (ht : s.tables[index]? = some t) {spec : OutputColumn}
    (hu : u ∈ (s.includeField index spec).tables) :
    (u ∈ s.tables ∧ u.tableAlias ≠ t.tableAlias) ∨
      u = { t with fields := putField (entryOf s.nextField spec) t.fields } := by
  obtain ⟨i, hi⟩ := List.getElem?_of_mem hu
  simp only [Selection.includeField, List.getElem?_modify] at hi
  split at hi
  · rename_i hindex
    subst hindex
    rw [ht] at hi
    exact .inr (Option.some.inj hi).symm
  · rename_i hindex
    have hi : s.tables[i]? = some u := by simpa using hi
    refine .inl ⟨List.mem_of_getElem? hi, fun halias => hindex ?_⟩
    have hplace := (h.place t.tableAlias i).2 ⟨u, hi, halias⟩
    rw [(h.place t.tableAlias index).2 ⟨t, ht, rfl⟩] at hplace
    exact Option.some.inj hplace

/-- **A field that is put into a table** goes to the end of the log. -/
theorem Reflects.includeField (h : s.Reflects log) (hwell : s.WellFormed) {index : Nat}
    {t : TableEntry} (ht : s.tables[index]? = some t) (spec : OutputColumn) :
    (s.includeField index spec).Reflects (log ++ [⟨t.tableAlias, spec⟩]) := by
  have htmem : t ∈ s.tables := List.mem_of_getElem? ht
  refine ⟨?_, fun u hu e => ?_, fun f hf => ?_⟩
  · rw [List.length_append, ← h.next]
    rfl
  · rw [standsAt_concat]
    obtain ⟨hold, halias⟩ | rfl := hwell.tables_includeField_cases ht hu
    · -- the other tables are not concerned
      have hapart : LoggedField.givesWay ⟨u.tableAlias, e.spec⟩ ⟨t.tableAlias, spec⟩ = false := by
        rw [Bool.eq_false_iff, Ne, LoggedField.givesWay_iff]
        exact fun hgives => halias hgives.2.1
      rw [h.fields u hold, hapart]
      simp [halias]
    · have hgives : LoggedField.givesWay ⟨t.tableAlias, e.spec⟩ ⟨t.tableAlias, spec⟩ = false ↔
          ¬ (e.outputAlias ≠ none ∧ e.outputAlias = spec.outputAlias) := by
        rw [Bool.eq_false_iff, Ne, LoggedField.givesWay_iff]
        simp [FieldEntry.spec]
      rw [hgives, ← h.fields t htmem, or_comm, mem_putField_iff (hwell.nodup_fields htmem)
        fun a ha b hb => h.eq_of_alias htmem ha hb, eq_entryOf_iff, h.next, LoggedField.mk.injEq]
      simp [entryOf]
  · have haliases : (s.includeField index spec).tables.map TableEntry.tableAlias
        = s.tables.map TableEntry.tableAlias := map_tables_includeField (fun _ _ => rfl) index spec
    have howned : ∃ u ∈ s.tables, u.tableAlias = f.owner := by
      obtain hf | hf := List.mem_append.1 hf
      · exact h.owned f hf
      · rw [List.mem_singleton.1 hf]
        exact ⟨t, htmem, rfl⟩
    exact List.mem_map.1 (haliases ▸ List.mem_map.2 howned)

theorem Reflects.includeFields (h : s.Reflects log) (hwell : s.WellFormed) {index : Nat}
    {t : TableEntry} (ht : s.tables[index]? = some t) (specs : List OutputColumn) :
    (s.includeFields index specs).Reflects (log ++ specs.map (LoggedField.mk t.tableAlias)) := by
  induction specs generalizing s log t with
  | nil =>
    rw [List.map_nil, List.append_nil]
    exact h
  | cons spec specs ih =>
    have hthere : (s.includeField index spec).tables[index]?
        = some { t with fields := putField (entryOf s.nextField spec) t.fields } := by
      simp [Selection.includeField, ht, entryOf]
    have hrest := ih (h.includeField hwell ht spec) (hwell.includeField index spec) hthere
    rw [List.map_cons, List.append_cons]
    exact hrest

/-- A new table has no fields. -/
theorem Reflects.placeFor (h : s.Reflects log) (name tableAlias : String) (role : TablePart)
    (hnew : s.aliases.get? tableAlias = none → ∀ f ∈ log, f.owner ≠ tableAlias) :
    (s.placeFor name tableAlias role).2.Reflects log := by
  cases hplace : s.aliases.get? tableAlias with
  | some i =>
    rw [placeFor_of_some hplace]
    exact h
  | none =>
    rw [placeFor_of_none hplace]
    refine ⟨h.next, fun u hu e => ?_, fun f hf => ?_⟩
    · obtain hu | hu := List.mem_append.1 hu
      · exact h.fields u hu e
      · rw [List.mem_singleton.1 hu]
        refine ⟨fun he => (nomatch he), fun hstands => ?_⟩
        exact absurd rfl (hnew hplace _ (List.mem_of_getElem? hstands.1))
    · obtain ⟨t, ht, halias⟩ := h.owned f hf
      exact ⟨t, List.mem_append_left _ ht, halias⟩

theorem getElem?_placeFor (hwell : s.WellFormed) (name tableAlias : String) (role : TablePart) :
    ∃ t, (s.placeFor name tableAlias role).2.tables[(s.placeFor name tableAlias role).1]? = some t ∧
      t.tableAlias = tableAlias := by
  cases hplace : s.aliases.get? tableAlias with
  | some i =>
    rw [placeFor_of_some hplace]
    exact (hwell.place tableAlias i).1 hplace
  | none =>
    rw [placeFor_of_none hplace]
    exact ⟨⟨name, tableAlias, role, []⟩, by simp, rfl⟩

theorem Reflects.add (h : s.Reflects log) (hwell : s.WellFormed) (d : Addition) :
    (s.add d).Reflects (log ++ d.fields.map (LoggedField.mk d.tableAlias)) := by
  have hnew : s.aliases.get? d.tableAlias = none → ∀ f ∈ log, f.owner ≠ d.tableAlias := by
    intro hplace f hf howner
    have hknown := (hwell.isSome_place_iff d.tableAlias).2 (howner ▸ h.owned f hf)
    rw [hplace] at hknown
    exact nomatch hknown
  obtain ⟨t, ht, halias⟩ := getElem?_placeFor hwell d.name d.tableAlias d.role
  have hadd := (h.placeFor d.name d.tableAlias d.role hnew).includeFields
    (hwell.placeFor d.name d.tableAlias d.role) ht d.fields
  rw [halias] at hadd
  exact hadd

/-- **The tables that additions build** have the standing fields of their log. -/
theorem reflects_built (ds : List Addition) : (built ds).Reflects (fieldLog ds) := by
  induction ds using List.reverseRecOn with
  | nil => exact reflects_empty
  | append_singleton ds d ih =>
    have hlog : fieldLog (ds ++ [d])
        = fieldLog ds ++ d.fields.map (LoggedField.mk d.tableAlias) := by
      simp [fieldLog]
    rw [built_concat, hlog]
    exact ih.add (wellFormed_built ds) d

/-! ### The fields in order -/

/-- Fields that are put in order are the list with the same members that is in order. -/
theorem mergeSort_eq_of_mem_iff {fields ordered : List ListedField}
    (hdistinct : (fields.map fun x => x.entry.order).Nodup)
    (hordered : ordered.Pairwise fun a b => a.entry.order < b.entry.order)
    (hmem : ∀ x, x ∈ fields ↔ x ∈ ordered) :
    fields.mergeSort (fun a b => a.entry.order ≤ b.entry.order) = ordered := by
  have hnumbers : (ordered.map fun x => x.entry.order).Nodup :=
    (List.pairwise_map.2 hordered).imp Nat.ne_of_lt
  have hperm := (List.mergeSort_perm fields fun a b => a.entry.order ≤ b.entry.order).trans
    ((List.perm_ext_iff_of_nodup hdistinct.of_map hnumbers.of_map).2 hmem)
  have hsorted : (fields.mergeSort fun a b => a.entry.order ≤ b.entry.order).Pairwise
      fun a b => decide (a.entry.order ≤ b.entry.order) = true :=
    List.pairwise_mergeSort (fun a b c hab hbc => by simp only [decide_eq_true_iff] at *; omega)
      (fun a b => by simp only [Bool.or_eq_true, decide_eq_true_iff]; omega) _
  refine List.Perm.eq_of_pairwise (fun a b ha hb hab hba => ?_) hsorted
    (hordered.imp fun hlt => decide_eq_true (Nat.le_of_lt hlt)) hperm
  -- no two fields have one number
  refine List.inj_on_of_nodup_map hnumbers (hperm.subset ha) hb ?_
  exact Nat.le_antisymm (of_decide_eq_true hab) (of_decide_eq_true hba)

/-- **The fields in the order of their numbers** are the standing fields of the log, each with the
alias `qualifier` that qualifies it. -/
theorem listedFields_eq (h : s.Reflects log) (hwell : s.WellFormed)
    (qualifier : LoggedField → Option String)
    (howner : ∀ t ∈ s.tables, ∀ e ∈ t.fields, s.owner? t e = qualifier ⟨t.tableAlias, e.spec⟩) :
    s.listedFields = (standingFrom 0 log).map fun x => ⟨entryOf x.2 x.1.spec, qualifier x.1⟩ := by
  refine mergeSort_eq_of_mem_iff ?_ ?_ fun x => ?_
  · rw [List.map_flatMap]
    simpa [fieldNumbers, Function.comp_def] using hwell.distinct
  · rw [List.pairwise_map]
    exact pairwise_standingFrom 0 log
  · simp only [List.mem_flatMap, List.mem_map, Prod.exists, mem_standingFrom, Nat.zero_add]
    constructor
    · rintro ⟨t, ht, e, he, rfl⟩
      refine ⟨⟨t.tableAlias, e.spec⟩, e.order, ⟨e.order, rfl, (h.fields t ht e).1 he⟩, ?_⟩
      rw [howner t ht e he, ← eq_entryOf_iff.2 ⟨rfl, rfl⟩]
    · rintro ⟨f, k, ⟨i, rfl, hstands⟩, rfl⟩
      obtain ⟨t, ht, halias⟩ := h.owned f (List.mem_of_getElem? hstands.1)
      have he : entryOf k f.spec ∈ t.fields := (h.fields t ht _).2 (by rw [halias]; exact hstands)
      exact ⟨t, ht, entryOf k f.spec, he, by rw [howner t ht _ he, halias]; rfl⟩

/-! ### The field list -/

/-- Whether the fields of an alias belong to no table: fields without table came with it first. -/
def isTableless (ds : List Addition) (tableAlias : String) : Bool :=
  (maker? ds tableAlias).any fun m => m.role = .detached

/-- Whether a field could be qualified: it is a name without a dot, in a table. -/
def LoggedField.isQualifiable (ds : List Addition) (f : LoggedField) : Bool :=
  !isTableless ds f.owner && f.spec.field.isUndotted

/-- Whether a field is qualified: it could be, and several tables have a name. -/
def LoggedField.isQualified (ds : List Addition) (f : LoggedField) : Bool :=
  decide (SeveralNamed ds) && f.isQualifiable ds

/-- A field without qualification, with its output alias. -/
def LoggedField.bareText (ctx : RenderContext) (f : LoggedField) : String :=
  f.spec.field.render ctx ++
    match f.spec.outputAlias with
    | none => ""
    | some a => " AS " ++ ctx.identifier .field a

/-- The alias of a table in front of a column. -/
def LoggedField.qualifier (ctx : RenderContext) (f : LoggedField) : String :=
  ctx.identifier .table f.owner ++ "."

/-- A field as it stands in the statement. -/
def LoggedField.render (ctx : RenderContext) (ds : List Addition) (f : LoggedField) : String :=
  (if f.isQualified ds then f.qualifier ctx else "") ++ f.bareText ctx

variable {tablePrefix : String}

theorem owner?_built {calls : List Call} {t : TableEntry}
    (ht : t ∈ (built (additions tablePrefix calls)).tables) (e : FieldEntry) :
    (built (additions tablePrefix calls)).owner? t e
      = if LoggedField.isQualified (additions tablePrefix calls) ⟨t.tableAlias, e.spec⟩ then
          some t.tableAlias
        else none := by
  obtain ⟨m, hm, hbare⟩ := maker?_of_mem ht
  have hrole : m.role = t.role := congrArg TableEntry.role hbare
  have hseveral : (built (additions tablePrefix calls)).qualifies
      = decide (SeveralNamed (additions tablePrefix calls)) := by
    rw [Bool.eq_iff_iff, qualifies_built, decide_eq_true_iff]
  have hcondition : ((built (additions tablePrefix calls)).qualifies && t.role != .detached
        && e.field.isUndotted)
      = LoggedField.isQualified (additions tablePrefix calls) ⟨t.tableAlias, e.spec⟩ := by
    rw [LoggedField.isQualified, LoggedField.isQualifiable, isTableless, hm, hseveral]
    simp only [Option.any_some, hrole, Bool.and_assoc]
    rfl
  rw [owner?, hcondition]

/-- **The fields after a run** are the standing fields of the log, with their places in it. -/
theorem listedFields_run (tablePrefix : String) (calls : List Call) :
    (run tablePrefix calls empty).2.listedFields
      = (standingFrom 0 (fieldLog (additions tablePrefix calls))).map fun x =>
          ⟨entryOf x.2 x.1.spec,
            if x.1.isQualified (additions tablePrefix calls) then some x.1.owner else none⟩ := by
  have hlisted : (run tablePrefix calls empty).2.listedFields
      = (built (additions tablePrefix calls)).listedFields := by
    rw [← tables_run]
    rfl
  rw [hlisted]
  exact listedFields_eq (reflects_built _) (wellFormed_built _)
    (fun f => if f.isQualified (additions tablePrefix calls) then some f.owner else none)
    fun t ht e _ => owner?_built ht e

/-- The texts of the fields in the list. -/
def fieldTexts (ctx : RenderContext) (s : Selection) : List String :=
  s.listedFields.map (ListedField.render ctx)

theorem fieldTexts_run (ctx : RenderContext) (tablePrefix : String) (calls : List Call) :
    (run tablePrefix calls empty).2.fieldTexts ctx
      = (standing (fieldLog (additions tablePrefix calls))).map
          (LoggedField.render ctx (additions tablePrefix calls)) := by
  rw [fieldTexts, listedFields_run, ← map_standingFrom 0, List.map_map, List.map_map]
  refine List.map_congr_left fun x _ => ?_
  simp only [Function.comp_apply, ListedField.render, LoggedField.render, LoggedField.bareText,
    LoggedField.qualifier, entryOf, String.append_assoc]
  cases x.1.isQualified (additions tablePrefix calls) <;> rfl

/-- **The field list is the log** of the successful calls: their fields in the order of the calls,
without those that a later field of the same table and output alias replaces, each one rendered once
and with commas between them. -/
theorem fieldsClause_run (ctx : RenderContext) (tablePrefix : String) (calls : List Call) :
    (run tablePrefix calls empty).2.fieldsClause ctx
      = ", ".intercalate ((standing (fieldLog (additions tablePrefix calls))).map
          (LoggedField.render ctx (additions tablePrefix calls))) := by
  rw [← fieldTexts_run]
  rfl

end Selection

end SqlLayer
