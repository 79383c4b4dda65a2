import Mathlib.Data.String.Basic
import SqlLayer.Json
import SqlLayer.Proofs.OrderedMap

/-!
# What a list of writes makes of an object

* `Json.member?_sortMembers` — the member of a name has the value of the **last** write to it;
* `Json.pairwise_sortMembers` — the names ascend, and so **no name comes twice**;
* `Json.member?_eq_some_iff` — without a repeated name, looking a member up and having it are one.
-/

namespace SqlLayer.Json

theorem sortMembers_concat (members : List (String × Json)) (m : String × Json) :
    sortMembers (members ++ [m]) = insertMember m.1 m.2 (sortMembers members) := by
  rw [sortMembers, List.foldl_append]
  rfl

theorem member?_sortMembers (members : List (String × Json)) (name : String) :
    member? name (sortMembers members)
      = (members.reverse.find? fun m => m.1 = name).map Prod.snd := by
  induction members using List.reverseRecOn with
  | nil => rfl
  | append_singleton members m ih =>
    rw [sortMembers_concat, member?_insertMember, ih, List.reverse_append,
      List.reverse_singleton, List.singleton_append, List.find?_cons]
    by_cases hname : name = m.1
    · simp [hname]
    · simp [hname, Ne.symm hname]

/-! ### The order of the members -/

/-- A write adds no name but its own. -/
theorem mem_insertMember {name : String} {value : Json} {members : List (String × Json)}
    {m : String × Json} (h : m ∈ insertMember name value members) :
    m.1 = name ∨ m ∈ members := by
  induction members with
  | nil =>
    rw [insertMember, List.mem_singleton] at h
    exact .inl (by rw [h])
  | cons first rest ih =>
    obtain ⟨k, v⟩ := first
    rw [insertMember] at h
    split at h
    · obtain rfl | hrest := List.mem_cons.1 h
      · exact .inl rfl
      · exact .inr (List.mem_cons_of_mem _ hrest)
    · split at h
      · obtain rfl | hold := List.mem_cons.1 h
        · exact .inl rfl
        · exact .inr hold
      · obtain rfl | hrest := List.mem_cons.1 h
        · exact .inr List.mem_cons_self
        · exact (ih hrest).imp_right (List.mem_cons_of_mem _)

theorem pairwise_insertMember {name : String} {value : Json} {members : List (String × Json)}
    (h : members.Pairwise fun a b => a.1 < b.1) :
    (insertMember name value members).Pairwise fun a b => a.1 < b.1 := by
  induction members with
  | nil => exact List.pairwise_singleton _ _
  | cons first rest ih =>
    obtain ⟨k, v⟩ := first
    obtain ⟨hfirst, hrest⟩ := List.pairwise_cons.1 h
    rw [insertMember]
    by_cases hsame : k = name
    · subst hsame
      rw [if_pos rfl]
      exact List.pairwise_cons.2 ⟨hfirst, hrest⟩
    · rw [if_neg hsame]
      by_cases hbefore : name < k
      · rw [if_pos hbefore]
        refine List.pairwise_cons.2 ⟨fun m hm => ?_, h⟩
        obtain rfl | hm := List.mem_cons.1 hm
        · exact hbefore
        · exact hbefore.trans (hfirst m hm)
      · rw [if_neg hbefore]
        have hafter : k < name := lt_of_le_of_ne (not_lt.1 hbefore) hsame
        refine List.pairwise_cons.2 ⟨fun m hm => ?_, ih hrest⟩
        obtain hnew | hm := mem_insertMember hm
        · show k < m.1
          rw [hnew]
          exact hafter
        · exact hfirst m hm

theorem pairwise_sortMembers (members : List (String × Json)) :
    (sortMembers members).Pairwise fun a b => a.1 < b.1 := by
  induction members using List.reverseRecOn with
  | nil => exact List.Pairwise.nil
  | append_singleton members m ih =>
    rw [sortMembers_concat]
    exact pairwise_insertMember ih

theorem nodup_sortMembers (members : List (String × Json)) :
    ((sortMembers members).map Prod.fst).Nodup :=
  List.pairwise_map.2 ((pairwise_sortMembers members).imp fun h => ne_of_lt h)

/-! ### Looking a member up -/

theorem member?_eq_find? (name : String) (members : List (String × Json)) :
    member? name members = Entries.find? name members := by
  induction members with
  | nil => rfl
  | cons m rest ih => rw [member?, Entries.find?, ih]

theorem member?_eq_some_iff {name : String} {value : Json} {members : List (String × Json)}
    (hnodup : (members.map Prod.fst).Nodup) :
    member? name members = some value ↔ (name, value) ∈ members := by
  rw [member?_eq_find?, Entries.find?_eq_some_iff hnodup]

end SqlLayer.Json
