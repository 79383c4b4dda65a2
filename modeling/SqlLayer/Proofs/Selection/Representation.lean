import Mathlib.Data.List.Perm.Basic
import SqlLayer.Proofs.Selection.Building

/-!
# How a selection represents its tables

The tables stand in a list, and a map tells where the table of an alias stands.  Two counters go
with them: one for the tables that have a name, and one that numbers the fields of all tables.

* `Selection.WellFormed` — **map, list and counters fit together**;
* `Selection.WellFormed.placeFor`, `Selection.WellFormed.includeField` — what finding a place and
  putting a field into a table keep;
* `Selection.wellFormed_run` — every selection that calls can build is well formed.
-/

namespace SqlLayer

namespace Selection

/-- The numbers of all fields, table by table. -/
def fieldNumbers (s : Selection) : List Nat :=
  s.tables.flatMap fun t => t.fields.map FieldEntry.order

/-- The alias map and the tables tell the same, the named tables are counted, and every field has a
number of its own below the next one. -/
structure WellFormed (s : Selection) : Prop where
  /-- An alias is mapped to a place exactly if its table stands there. -/
  place : ∀ a i, s.aliases.get? a = some i ↔ ∃ t, s.tables[i]? = some t ∧ t.tableAlias = a
  named : s.namedTables = s.tables.countP fun t => t.name ≠ ""
  distinct : s.fieldNumbers.Nodup
  below : ∀ n ∈ s.fieldNumbers, n < s.nextField

theorem wellFormed_empty : empty.WellFormed where
  place a i := by simp [empty]
  named := rfl
  distinct := List.nodup_nil
  below := by simp [fieldNumbers, empty]

variable {s : Selection}

/-! ### Tables -/

theorem getElem?_concat_iff {α : Type} {l : List α} {new a : α} {i : Nat} :
    (l ++ [new])[i]? = some a ↔ l[i]? = some a ∨ i = l.length ∧ a = new := by
  rcases Nat.lt_trichotomy i l.length with hlt | rfl | hgt
  · rw [List.getElem?_append_left hlt]
    exact ⟨.inl, fun h => h.resolve_right fun hlast => Nat.ne_of_lt hlt hlast.1⟩
  · simp [eq_comm]
  · have hpast : (l ++ [new])[i]? = none :=
      List.getElem?_eq_none (by simpa using Nat.succ_le_of_lt hgt)
    simp [hpast, List.getElem?_eq_none (Nat.le_of_lt hgt), Nat.ne_of_gt hgt]

theorem placeFor_of_some {tableAlias : String} {i : Nat} (h : s.aliases.get? tableAlias = some i)
    (name : String) (role : TablePart) : s.placeFor name tableAlias role = (i, s) := by
  rw [placeFor, h]

theorem placeFor_of_none {tableAlias : String} (h : s.aliases.get? tableAlias = none)
    (name : String) (role : TablePart) :
    s.placeFor name tableAlias role = (s.tables.length,
      { s with
        tables := s.tables ++ [⟨name, tableAlias, role, []⟩]
        aliases := s.aliases.insert tableAlias s.tables.length
        namedTables := if name = "" then s.namedTables else s.namedTables + 1 }) := by
  rw [placeFor, h]

/-- A new table stands at the end of the list, under an alias that no table had. -/
theorem WellFormed.placeFor (h : s.WellFormed) (name tableAlias : String) (role : TablePart) :
    (s.placeFor name tableAlias role).2.WellFormed := by
  cases hplace : s.aliases.get? tableAlias with
  | some i =>
    rw [placeFor_of_some hplace]
    exact h
  | none =>
    rw [placeFor_of_none hplace]
    -- what the map does not know stands nowhere
    have hnew : ∀ (i : Nat) t, s.tables[i]? = some t → t.tableAlias ≠ tableAlias := by
      intro i t ht halias
      exact nomatch hplace.symm.trans ((h.place tableAlias i).2 ⟨t, ht, halias⟩)
    have hnumbers : (s.tables ++ [TableEntry.mk name tableAlias role []]).flatMap
        (fun t => t.fields.map FieldEntry.order) = s.fieldNumbers := by
      simp [fieldNumbers]
    refine ⟨fun a i => ?_, ?_, ?_, ?_⟩
    · simp only [OrderedMap.get?_insert, getElem?_concat_iff]
      by_cases ha : a = tableAlias
      · subst ha
        rw [if_pos rfl, Option.some.injEq]
        constructor
        · rintro rfl
          exact ⟨_, .inr ⟨rfl, rfl⟩, rfl⟩
        · rintro ⟨t, ht | ⟨hi, -⟩, halias⟩
          · exact absurd halias (hnew i t ht)
          · exact hi.symm
      · rw [if_neg ha, h.place]
        refine exists_congr fun t => and_congr_left fun halias => ⟨.inl, ?_⟩
        rintro (ht | ⟨-, rfl⟩)
        · exact ht
        · exact absurd halias.symm ha
    · rw [List.countP_append, ← h.named]
      by_cases hname : name = "" <;> simp [hname]
    · rw [fieldNumbers, hnumbers]
      exact h.distinct
    · rw [fieldNumbers, hnumbers]
      exact h.below

/-! ### Fields -/

/-- What does not depend on the fields of a table stays as it is where one of them is put in. -/
theorem map_tables_includeField {β : Type} {g : TableEntry → β}
    (hg : ∀ t fields, g { t with fields } = g t) (index : Nat) (spec : OutputColumn) :
    (s.includeField index spec).tables.map g = s.tables.map g := by
  apply List.ext_getElem?
  intro i
  simp only [includeField, List.getElem?_map, List.getElem?_modify]
  cases s.tables[i]? with
  | none => rfl
  | some t => split <;> simp [hg]

theorem map_tables_includeFields {β : Type} {g : TableEntry → β}
    (hg : ∀ t fields, g { t with fields } = g t) (index : Nat) (specs : List OutputColumn) :
    (s.includeFields index specs).tables.map g = s.tables.map g := by
  induction specs generalizing s with
  | nil => rfl
  | cons spec specs ih => exact ih.trans (map_tables_includeField hg index spec)

/-- Putting a field into a table adds its number, and may take one away. -/
theorem exists_perm_putField (entry : FieldEntry) (fields : List FieldEntry) :
    ∃ rest, ((putField entry fields).map FieldEntry.order).Perm (entry.order :: rest) ∧
      rest.Sublist (fields.map FieldEntry.order) := by
  have hend : ((fields ++ [entry]).map FieldEntry.order).Perm
      (entry.order :: fields.map FieldEntry.order) := by
    rw [List.map_append]
    exact List.perm_append_singleton _ _
  unfold putField
  cases entry.outputAlias with
  | none => exact ⟨_, hend, List.Sublist.refl _⟩
  | some a =>
    dsimp only
    cases hplace : fields.findIdx? fun f => f.outputAlias == some a with
    | none => exact ⟨_, hend, List.Sublist.refl _⟩
    | some i =>
      have hlt : i < fields.length := (List.findIdx?_eq_some_iff_getElem.1 hplace).1
      refine ⟨(fields.map FieldEntry.order).eraseIdx i, ?_, List.eraseIdx_sublist _ _⟩
      rw [List.map_set]
      exact List.set_perm_cons_eraseIdx (by simpa using hlt) _

/-- The numbers after a field was put in: the next number, where there is such a table, and no other
that was not there. -/
theorem exists_perm_includeField (index : Nat) (spec : OutputColumn) :
    ∃ rest, rest.Sublist s.fieldNumbers ∧
      ((s.includeField index spec).fieldNumbers = rest ∨
        (s.includeField index spec).fieldNumbers.Perm (s.nextField :: rest)) := by
  by_cases hindex : index < s.tables.length
  · obtain ⟨before, t, after, htables, -, hmodified⟩ :=
      List.exists_of_modify (fun t : TableEntry =>
        { t with fields := putField (entryOf s.nextField spec) t.fields }) hindex
    obtain ⟨rest, hperm, hrest⟩ := exists_perm_putField (entryOf s.nextField spec) t.fields
    have hold : s.fieldNumbers
        = before.flatMap (fun t => t.fields.map FieldEntry.order) ++ (t.fields.map FieldEntry.order
          ++ after.flatMap fun t => t.fields.map FieldEntry.order) := by
      rw [fieldNumbers, htables, List.flatMap_append, List.flatMap_cons]
    refine ⟨before.flatMap (fun t => t.fields.map FieldEntry.order)
      ++ (rest ++ after.flatMap fun t => t.fields.map FieldEntry.order), ?_, .inr ?_⟩
    · rw [hold]
      exact (List.Sublist.refl _).append (hrest.append (List.Sublist.refl _))
    · have hnew : (s.includeField index spec).tables = _ := hmodified
      rw [fieldNumbers, hnew, List.flatMap_append, List.flatMap_cons]
      exact ((hperm.append_right _).append_left _).trans List.perm_middle
  · refine ⟨s.fieldNumbers, List.Sublist.refl _, .inl ?_⟩
    rw [fieldNumbers, includeField, List.modify_eq_self (Nat.le_of_not_lt hindex)]
    rfl

theorem WellFormed.includeField (h : s.WellFormed) (index : Nat) (spec : OutputColumn) :
    (s.includeField index spec).WellFormed := by
  obtain ⟨rest, hrest, hnumbers⟩ := exists_perm_includeField (s := s) index spec
  have hbelow : ∀ n ∈ rest, n < s.nextField := fun n hn => h.below n (hrest.subset hn)
  refine ⟨fun a i => ?_, ?_, ?_, fun n hn => ?_⟩
  · -- neither the aliases nor their places are touched
    have halias : ∀ s : Selection, (∃ t, s.tables[i]? = some t ∧ t.tableAlias = a) ↔
        (s.tables.map TableEntry.tableAlias)[i]? = some a := fun s => by simp
    rw [halias, map_tables_includeField fun _ _ => rfl, ← halias]
    exact h.place a i
  · have hcount : ∀ s : Selection, (s.tables.countP fun t => t.name ≠ "")
        = (s.tables.map TableEntry.name).countP fun name => name ≠ "" := fun s => by
      rw [List.countP_map]
      rfl
    rw [hcount, map_tables_includeField fun _ _ => rfl, ← hcount]
    exact h.named
  · obtain hsame | hperm := hnumbers
    · rw [hsame]
      exact h.distinct.sublist hrest
    · refine hperm.nodup_iff.2 (List.nodup_cons.2 ⟨fun hmem => ?_, h.distinct.sublist hrest⟩)
      exact Nat.lt_irrefl _ (hbelow _ hmem)
  · show n < s.nextField + 1
    obtain hsame | hperm := hnumbers
    · rw [hsame] at hn
      exact Nat.lt_succ_of_lt (hbelow n hn)
    · rcases List.mem_cons.1 (hperm.mem_iff.1 hn) with rfl | hn
      · exact Nat.lt_succ_self _
      · exact Nat.lt_succ_of_lt (hbelow n hn)

theorem WellFormed.includeFields (h : s.WellFormed) (index : Nat) (specs : List OutputColumn) :
    (s.includeFields index specs).WellFormed := by
  induction specs generalizing s with
  | nil => exact h
  | cons spec specs ih => exact ih (h.includeField index spec)

/-! ### Calls -/

theorem WellFormed.declare (h : s.WellFormed) (tablePrefix : String) (table : TableRef)
    (role : TablePart) (fields : List OutputColumn) :
    (declare tablePrefix table role fields s).2.WellFormed := by
  obtain hform | ⟨name, tableAlias, hform⟩ := declare_state tablePrefix table role fields s
  · rw [hform]
    exact h
  · rw [hform]
    exact (h.placeFor name tableAlias role).includeFields _ fields

/-- **One call** keeps a selection well formed, whether or not it succeeds. -/
theorem WellFormed.apply (h : s.WellFormed) (tablePrefix : String) (call : Call) :
    (apply tablePrefix call s).2.WellFormed := by
  cases call with
  | source table fields => exact h.declare tablePrefix table _ _
  | join kind table predicate fields => exact h.declare tablePrefix table _ fields
  | column fields => exact (h.placeFor "" "" .detached).includeFields _ _
  | distinct => exact ⟨h.place, h.named, h.distinct, h.below⟩
  | condition e => exact ⟨h.place, h.named, h.distinct, h.below⟩
  | having e => exact ⟨h.place, h.named, h.distinct, h.below⟩
  | group fields => exact ⟨h.place, h.named, h.distinct, h.below⟩
  | order fields => exact ⟨h.place, h.named, h.distinct, h.below⟩
  | limit count offset => exact ⟨h.place, h.named, h.distinct, h.below⟩

/-- **Every selection** that calls can build is well formed. -/
theorem wellFormed_run (tablePrefix : String) (calls : List Call) :
    (run tablePrefix calls empty).2.WellFormed :=
  run_induction (fun call _ _ h => h.apply tablePrefix call) wellFormed_empty

end Selection

end SqlLayer
