import Mathlib.Data.List.Induction
import Mathlib.Data.List.Nodup
import Mathlib.Data.List.Perm.Subperm
import SqlLayer.OrderedMap

/-!
# Maps in insertion order, from their entries

* `OrderedMap.keys_ofList` — the keys stand in the order of their **first** writes;
* `OrderedMap.get?_ofList` — the value at a key is that of its **last** write;
* `OrderedMap.sameEntries_iff` — maps count as equal when **every key has the same value** in both,
  in whatever order the keys stand.
-/

namespace SqlLayer

variable {α : Type}

namespace Entries

variable {key : String} {value : α} {entries : List (String × α)}

theorem find?_eq (key : String) (entries : List (String × α)) :
    find? key entries = (entries.find? fun e => e.1 == key).map Prod.snd := by
  induction entries with
  | nil => rfl
  | cons e rest ih =>
    rw [find?, List.find?_cons, ih]
    by_cases hkey : e.1 = key
    · simp [hkey]
    · simp [hkey, beq_false_of_ne hkey]

theorem mem_of_find? (h : find? key entries = some value) : (key, value) ∈ entries := by
  rw [find?_eq] at h
  obtain ⟨e, hfind, rfl⟩ := Option.map_eq_some_iff.1 h
  have hkey : e.1 = key := by simpa using List.find?_some hfind
  rw [← hkey]
  exact List.mem_of_find?_eq_some hfind

/-- Where no key comes twice, looking a value up and having it are one. -/
theorem find?_eq_some_iff (hnodup : (entries.map Prod.fst).Nodup) :
    find? key entries = some value ↔ (key, value) ∈ entries := by
  refine ⟨mem_of_find?, fun h => ?_⟩
  rw [find?_eq]
  obtain ⟨e, hfind⟩ : ∃ e, (entries.find? fun e => e.1 == key) = some e := by
    rw [← Option.isSome_iff_exists, List.find?_isSome]
    exact ⟨_, h, by simp⟩
  have hkey : e.1 = key := by simpa using List.find?_some hfind
  have hsame := List.inj_on_of_nodup_map hnodup (List.mem_of_find?_eq_some hfind) h hkey
  rw [hfind, hsame]
  rfl

theorem find?_of_not_mem (hnew : key ∉ entries.map Prod.fst) : find? key entries = none := by
  rw [Option.eq_none_iff_forall_ne_some]
  intro value hvalue
  exact hnew (List.mem_map_of_mem (mem_of_find? hvalue))

/-- A new key goes to the end. -/
theorem put_of_not_mem (hnew : key ∉ entries.map Prod.fst) :
    put key value entries = entries ++ [(key, value)] := by
  induction entries with
  | nil => rfl
  | cons e rest ih =>
    rw [List.map_cons, List.mem_cons, not_or] at hnew
    rw [put, if_neg (Ne.symm hnew.1), ih hnew.2, List.cons_append]

end Entries

namespace OrderedMap

theorem ofList_concat (entries : List (String × α)) (e : String × α) :
    ofList (entries ++ [e]) = (ofList entries).insert e.1 e.2 := by
  rw [ofList, List.foldl_append]
  rfl

/-- A list of writes to distinct keys is the list of entries. -/
theorem entries_ofList {entries : List (String × α)} (hnodup : (entries.map Prod.fst).Nodup) :
    (ofList entries).entries = entries := by
  induction entries using List.reverseRecOn with
  | nil => rfl
  | append_singleton entries e ih =>
    obtain ⟨hentries, -, hnew⟩ := List.nodup_append.1 (by simpa using hnodup)
    have hsame := ih (by simpa using hentries)
    rw [ofList_concat]
    show Entries.put e.1 e.2 (ofList entries).entries = _
    rw [hsame, Entries.put_of_not_mem fun hmem =>
      hnew e.1 (by simpa using hmem) e.1 (by simp) rfl]

/-- A map is what its own entries build. -/
theorem ofList_entries (m : OrderedMap α) : ofList m.entries = m := by
  obtain ⟨entries, hnodup⟩ := m
  have hentries := entries_ofList hnodup
  show ofList entries = _
  generalize ofList entries = map at hentries
  cases map
  subst hentries
  rfl

theorem keys_ofList (entries : List (String × α)) :
    (ofList entries).keys = (entries.map Prod.fst).eraseDups := by
  induction entries using List.reverseRecOn with
  | nil => rfl
  | append_singleton entries e ih =>
    rw [ofList_concat, keys_insert, ih, List.map_append, List.eraseDups_append, List.map_singleton]
    by_cases hknown : e.1 ∈ entries.map Prod.fst
    · have hold : [e.1].removeAll (entries.map Prod.fst) = [] := by simp [List.removeAll, hknown]
      rw [if_pos (List.mem_eraseDups.2 hknown), hold, List.eraseDups_nil, List.append_nil]
    · have hnew : [e.1].removeAll (entries.map Prod.fst) = [e.1] := by
        simp [List.removeAll, hknown]
      rw [if_neg (mt List.mem_eraseDups.1 hknown), hnew]
      rfl

theorem get?_ofList (entries : List (String × α)) (key : String) :
    (ofList entries).get? key = (entries.reverse.find? fun e => e.1 = key).map Prod.snd := by
  induction entries using List.reverseRecOn with
  | nil => rfl
  | append_singleton entries e ih =>
    rw [ofList_concat, get?_insert, ih, List.reverse_append, List.reverse_singleton,
      List.singleton_append, List.find?_cons]
    by_cases hkey : key = e.1
    · simp [hkey]
    · simp [hkey, Ne.symm hkey]

/-! ### Equality up to the order of the keys -/

theorem get?_eq_some_iff {m : OrderedMap α} {key : String} {value : α} :
    m.get? key = some value ↔ (key, value) ∈ m.entries := Entries.find?_eq_some_iff m.nodup

theorem get?_eq_none_iff {m : OrderedMap α} {key : String} : m.get? key = none ↔ key ∉ m.keys := by
  rw [Option.eq_none_iff_forall_ne_some, keys, List.mem_map]
  simp only [ne_eq, get?_eq_some_iff]
  constructor
  · rintro h ⟨e, he, rfl⟩
    exact h e.2 he
  · intro h value hvalue
    exact h ⟨_, hvalue, rfl⟩

theorem sameEntries_iff [DecidableEq α] {a b : OrderedMap α} :
    a.sameEntries b = true ↔ ∀ key, a.get? key = b.get? key := by
  have hnodup : ∀ m : OrderedMap α, m.keys.Nodup := OrderedMap.nodup
  have hlength : ∀ m : OrderedMap α, m.size = m.keys.length := fun m => by
    rw [size, keys, List.length_map]
  rw [sameEntries, Bool.and_eq_true, beq_iff_eq, List.all_eq_true, hlength, hlength]
  constructor
  · rintro ⟨hsize, hall⟩ key
    have hvalue : ∀ key value, a.get? key = some value → b.get? key = some value := by
      intro key value h
      simpa using hall (key, value) (get?_eq_some_iff.1 h)
    cases ha : a.get? key with
    | some value => exact (hvalue key value ha).symm
    | none =>
      -- all keys of the first map are in the second, which has no more of them
      have hsubset : a.keys ⊆ b.keys := by
        intro k hk
        obtain ⟨e, he, rfl⟩ := List.mem_map.1 hk
        exact List.mem_map.2 ⟨_, get?_eq_some_iff.1 (hvalue _ _ (get?_eq_some_iff.2 he)), rfl⟩
      have hperm : a.keys.Perm b.keys :=
        (List.subperm_of_subset (hnodup a) hsubset).perm_of_length_le (Nat.le_of_eq hsize.symm)
      rw [get?_eq_none_iff, hperm.mem_iff, ← get?_eq_none_iff] at ha
      exact ha.symm
  · intro h
    have hperm : a.keys.Perm b.keys := by
      refine (List.perm_ext_iff_of_nodup (hnodup a) (hnodup b)).2 fun key => ?_
      exact not_iff_not.1 (by rw [← get?_eq_none_iff, ← get?_eq_none_iff, h])
    refine ⟨hperm.length_eq, fun e he => ?_⟩
    rw [← h, get?_eq_some_iff.2 he, beq_self_eq_true]

end OrderedMap

end SqlLayer
