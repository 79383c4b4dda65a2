import Mathlib.Algebra.GroupWithZero.Nat
import SqlLayer.Proofs.Selection.Additions

/-!
# Declared tables

The tables that FROM and JOIN declare are all but the one that holds the fields that belong to none.
They are told from what the calls have added: each comes with the first addition under its alias.

* `Selection.declaredTables` — the declared tables, without their fields;
* `Selection.sourcesClause_eq`, `Selection.toList_joinsClause` — **FROM and JOIN are made of them
  alone**;
* `Selection.declaredTables_concat` — what one addition more declares;
* `Selection.filter_declaredTables` — fields that belong to no table leave the declared tables as
  they are, under any alias that they did not come with first;
* `Selection.clauses_ne_of_filter` — a table less **shows in the text**.
-/

namespace SqlLayer

namespace Selection

/-- The tables that a statement declares, without their fields. -/
def declaredTables (s : Selection) : List TableEntry :=
  (s.tables.map TableEntry.bare).filter fun t => t.role != .detached

/-- The additions that declare a table. -/
def attached (ds : List Addition) : List Addition := ds.filter fun d => d.role != .detached

variable {s r : Selection} {ds : List Addition} {tableAlias : String}

theorem mem_declaredTables {t : TableEntry} :
    t ∈ s.declaredTables ↔ (∃ u ∈ s.tables, u.bare = t) ∧ t.role ≠ .detached := by
  simp [declaredTables]

/-! ### The clauses -/

/-- FROM lists those of them that are selected from. -/
theorem sourcesClause_eq (ctx : RenderContext) (s : Selection) :
    s.sourcesClause ctx = listClause " FROM "
      ((s.declaredTables.filter fun t => t.role == .source).map (TableEntry.render ctx)) := by
  have hsources : s.declaredTables.filter (fun t => t.role == .source)
      = (s.tables.filter fun t => t.role == .source).map TableEntry.bare := by
    rw [declaredTables, List.filter_filter, List.filter_map]
    congr 2
    funext t
    show (t.role == .source && t.role != .detached) = (t.role == .source)
    cases t.role <;> rfl
  rw [hsources, List.map_map, sourcesClause, listClause, List.isEmpty_map]
  rfl

/-- The joins are those of them that are joined. -/
theorem toList_joinsClause (ctx : RenderContext) (s : Selection) :
    (s.joinsClause ctx).toList = s.declaredTables.flatMap fun t => (joinClause ctx t).toList := by
  rw [joinsClause, String.toList_join, List.flatMap_map, declaredTables]
  induction s.tables with
  | nil => rfl
  | cons t rest ih =>
    have hbare : joinClause ctx t.bare = joinClause ctx t := rfl
    rw [List.flatMap_cons, ih, List.map_cons, List.filter_cons]
    split
    · rw [List.flatMap_cons, hbare]
    · rename_i hrole
      have hdetached : t.role = .detached := by simpa [TableEntry.bare] using hrole
      rw [joinClause, hdetached]
      rfl

theorem clauses_congr (h : s.declaredTables = r.declaredTables) (ctx : RenderContext) :
    s.sourcesClause ctx = r.sourcesClause ctx ∧ s.joinsClause ctx = r.joinsClause ctx := by
  constructor
  · rw [sourcesClause_eq, sourcesClause_eq, h]
  · rw [← String.toList_inj, toList_joinsClause, toList_joinsClause, h]

/-! ### Lengths -/

theorem sum_map_filter_le {α : Type} (p : α → Bool) (f : α → Nat) (l : List α) :
    ((l.filter p).map f).sum ≤ (l.map f).sum := by
  induction l with
  | nil => exact Nat.le_refl _
  | cons a l ih =>
    rw [List.filter_cons, List.map_cons, List.sum_cons]
    split
    · rw [List.map_cons, List.sum_cons]
      exact Nat.add_le_add_left ih _
    · exact Nat.le_trans ih (Nat.le_add_left _ _)

/-- What is left out counts. -/
theorem sum_map_filter_lt {α : Type} {p : α → Bool} {f : α → Nat} {l : List α} {a : α} (ha : a ∈ l)
    (hp : p a = false) (hf : 0 < f a) : ((l.filter p).map f).sum < (l.map f).sum := by
  obtain ⟨before, after, rfl⟩ := List.append_of_mem ha
  have hbefore := sum_map_filter_le p f before
  have hafter := sum_map_filter_le p f after
  simp only [List.filter_append, List.filter_cons, hp, Bool.false_eq_true, if_false,
    List.map_append, List.map_cons, List.sum_append, List.sum_cons]
  omega

/-- Every text between separators counts, and so does its separator. -/
theorem length_intercalate {texts : List String} (h : texts ≠ []) :
    (", ".intercalate texts).length + 2 = (texts.map fun text => text.length + 2).sum := by
  rw [← String.length_toList, String.toList_intercalate]
  induction texts with
  | nil => exact absurd rfl h
  | cons first rest ih =>
    rw [List.map_cons, List.map_cons, List.sum_cons]
    cases rest with
    | nil => simp [String.length_toList]
    | cons second rest =>
      rw [← ih (List.cons_ne_nil _ _), List.map_cons, List.intercalate_cons_cons]
      simp only [List.length_append, String.length_toList, ← List.map_cons]
      have hsep : ", ".length = 2 := rfl
      omega

/-- A clause that lists less is shorter. -/
theorem length_listClause_lt {keyword : String} {items less : List String}
    (hkeyword : 0 < keyword.length)
    (h : (less.map fun text => text.length + 2).sum < (items.map fun text => text.length + 2).sum) :
    (listClause keyword less).length < (listClause keyword items).length := by
  have hitems : items ≠ [] := by
    rintro rfl
    exact absurd h (Nat.not_lt_zero _)
  have hlong := length_intercalate hitems
  have hform : listClause keyword items = keyword ++ ", ".intercalate items :=
    if_neg (by simpa using hitems)
  rw [hform, String.length_append]
  by_cases hless : less = []
  · rw [hless, listClause, List.isEmpty_nil, if_pos rfl, String.length_empty]
    omega
  · have hshort := length_intercalate hless
    have hform : listClause keyword less = keyword ++ ", ".intercalate less :=
      if_neg (by simpa using hless)
    rw [hform, String.length_append]
    omega

/-- **A table that is declared less** shows in the text, whatever the names look like. -/
theorem clauses_ne_of_filter {p : TableEntry → Bool}
    (h : s.declaredTables = r.declaredTables.filter p) {t : TableEntry} (ht : t ∈ r.declaredTables)
    (hp : p t = false) (ctx : RenderContext) :
    s.sourcesClause ctx ≠ r.sourcesClause ctx ∨ s.joinsClause ctx ≠ r.joinsClause ctx := by
  cases hrole : t.role with
  | detached => exact absurd hrole (mem_declaredTables.1 ht).2
  | source =>
    refine .inl fun hsame => ?_
    have hsources : s.declaredTables.filter (fun t => t.role == .source)
        = (r.declaredTables.filter fun t => t.role == .source).filter p := by
      rw [h, List.filter_filter, List.filter_filter]
      simp only [Bool.and_comm]
    have hsource : t ∈ r.declaredTables.filter fun t => t.role == .source :=
      List.mem_filter.2 ⟨ht, by rw [hrole]; rfl⟩
    have hlength : (s.sourcesClause ctx).length < (r.sourcesClause ctx).length := by
      rw [sourcesClause_eq, sourcesClause_eq, hsources]
      refine length_listClause_lt (by decide) ?_
      rw [List.map_map, List.map_map]
      exact sum_map_filter_lt hsource hp (Nat.succ_pos _)
    rw [hsame] at hlength
    exact Nat.lt_irrefl _ hlength
  | join kind predicate =>
    refine .inr fun hsame => ?_
    have hlength : (s.joinsClause ctx).length < (r.joinsClause ctx).length := by
      rw [← String.length_toList, ← String.length_toList, toList_joinsClause, toList_joinsClause,
        List.length_flatMap, List.length_flatMap, h]
      refine sum_map_filter_lt ht hp ?_
      rw [joinClause, hrole, String.length_toList]
      simp only [String.length_append]
      have hword : " ".length = 1 := rfl
      omega
    rw [hsame] at hlength
    exact Nat.lt_irrefl _ hlength

/-! ### Additions -/

theorem isSome_place_built (ds : List Addition) (tableAlias : String) :
    ((built ds).aliases.get? tableAlias).isSome = (maker? ds tableAlias).isSome := by
  rw [Bool.eq_iff_iff, (wellFormed_built ds).isSome_place_iff]
  constructor
  · rintro ⟨t, ht, rfl⟩
    obtain ⟨m, hm, -⟩ := maker?_of_mem ht
    rw [hm]
    rfl
  · intro hsome
    obtain ⟨m, hm⟩ := Option.isSome_iff_exists.1 hsome
    obtain ⟨t, ht, halias, -⟩ := exists_table hm
    exact ⟨t, ht, halias⟩

/-- **One addition more** declares its table, unless it belongs to none or its alias is known. -/
theorem declaredTables_concat (ds : List Addition) (d : Addition) :
    (built (ds ++ [d])).declaredTables = (built ds).declaredTables
      ++ if d.role = .detached ∨ (maker? ds d.tableAlias).isSome then [] else [d.table] := by
  rw [built_concat, declaredTables, map_bare_add, List.filter_append, isSome_place_built]
  congr 1
  by_cases hknown : (maker? ds d.tableAlias).isSome
  · rw [if_pos hknown, if_pos (.inr hknown)]
    rfl
  · rw [if_neg hknown, List.filter_singleton]
    have hrole : (d.table.role != .detached) = !decide (d.role = .detached) := rfl
    rw [hrole]
    by_cases hdetached : d.role = .detached <;> simp [hdetached, hknown]

/-- Where a table came with an alias, or nothing did, it is the first one also without the fields
that belong to none. -/
theorem maker?_attached (h : ∀ m, maker? ds tableAlias = some m → m.role ≠ .detached) :
    maker? (attached ds) tableAlias = maker? ds tableAlias := by
  induction ds with
  | nil => rfl
  | cons d rest ih =>
    by_cases halias : d.tableAlias = tableAlias
    · have hrole : d.role ≠ .detached := h d (by simp [maker?, halias])
      simp [maker?, attached, halias, hrole]
    · have hrest : maker? (d :: rest) tableAlias = maker? rest tableAlias := by
        simp [maker?, halias]
      rw [hrest] at h ⊢
      rw [← ih h, attached, attached, List.filter_cons]
      split <;> simp [maker?, halias]

/-- **Fields that belong to no table** leave the declared tables as they are, under all aliases that
they did not come with first. -/
theorem filter_declaredTables (keep : String → Bool)
    (h : ∀ a, keep a = true → ∀ m, maker? ds a = some m → m.role ≠ .detached) :
    (built ds).declaredTables.filter (fun t => keep t.tableAlias)
      = (built (attached ds)).declaredTables.filter fun t => keep t.tableAlias := by
  induction ds using List.reverseRecOn with
  | nil => rfl
  | append_singleton ds d ih =>
    have hbefore : ∀ a, keep a = true → ∀ m, maker? ds a = some m → m.role ≠ .detached := by
      intro a ha m hm
      exact h a ha m (by rw [maker?_append, hm, Option.some_or])
    rw [declaredTables_concat, List.filter_append, ih hbefore]
    by_cases hrole : d.role = .detached
    · rw [if_pos (.inl hrole)]
      simp [attached, hrole]
    · have hattached : attached (ds ++ [d]) = attached ds ++ [d] := by
        simp [attached, hrole]
      rw [hattached, declaredTables_concat, List.filter_append]
      congr 1
      by_cases hkeep : keep d.tableAlias = true
      · rw [maker?_attached (hbefore d.tableAlias hkeep)]
      · have hleft : ∀ c : Prop, [Decidable c] →
            (if c then [] else [d.table]).filter (fun t => keep t.tableAlias) = [] := by
          intro c _
          split <;> simp [Addition.table, hkeep]
        rw [hleft, hleft]

end Selection

end SqlLayer
