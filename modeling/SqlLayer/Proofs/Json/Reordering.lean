import Mathlib.Data.List.Forall2
import SqlLayer.Proofs.Json.Members

/-!
# Members in another order

A tree says the same when the members of its objects change places, on any level.  Sorting does no
more than that, as long as no name comes twice.

* `Json.Reordered` — one tree is another with members in other places;
* `Json.Reordered.values`, `Json.reordered_ofMembers` — reordering inside the members, and sorting
  them;
* `Json.Reordered.eq_of_isLeaf`, `Json.Reordered.of_leaves` — what can become of **a leaf**, and of
  **an object of leaves**.
-/

namespace SqlLayer.Json

/-- The second tree is the first one with members of objects in other places. -/
inductive Reordered : Json → Json → Prop
  | refl (tree : Json) : Reordered tree tree
  | trans {a b c : Json} : Reordered a b → Reordered b c → Reordered a c
  /-- The members of an object change places. -/
  | members {a b : List (String × Json)} : a.Perm b → Reordered (.object a) (.object b)
  /-- The value of a member is reordered. -/
  | value (before : List (String × Json)) (key : String) {a b : Json}
      (after : List (String × Json)) :
      Reordered a b →
        Reordered (.object (before ++ (key, a) :: after)) (.object (before ++ (key, b) :: after))
  /-- An item of an array is reordered. -/
  | item (before : List Json) {a b : Json} (after : List Json) :
      Reordered a b → Reordered (.array (before ++ a :: after)) (.array (before ++ b :: after))

/-- Two members of one name with reordered values. -/
def ReorderedMember (a b : String × Json) : Prop := a.1 = b.1 ∧ Reordered a.2 b.2

/-- Whether a tree has no parts. -/
def isLeaf : Json → Bool
  | .array _ => false
  | .object _ => false
  | _ => true

/-! ### Reordering on several levels -/

/-- The values of all members are reordered, one after the other. -/
theorem Reordered.values {members others : List (String × Json)}
    (h : List.Forall₂ ReorderedMember members others) (before : List (String × Json)) :
    Reordered (.object (before ++ members)) (.object (before ++ others)) := by
  induction h generalizing before with
  | nil => exact .refl _
  | @cons a b members others hfirst _ ih =>
    obtain ⟨key, tree⟩ := a
    obtain ⟨name, other⟩ := b
    obtain ⟨rfl, htree⟩ : key = name ∧ Reordered tree other := hfirst
    have hrest := ih (before ++ [(key, other)])
    simp only [List.append_assoc, List.singleton_append] at hrest
    exact .trans (.value before key members htree) hrest

/-- A write to a new name adds a member. -/
theorem perm_insertMember {name : String} {value : Json} {members : List (String × Json)}
    (hnew : name ∉ members.map Prod.fst) :
    (insertMember name value members).Perm ((name, value) :: members) := by
  induction members with
  | nil => exact .refl _
  | cons first rest ih =>
    obtain ⟨k, v⟩ := first
    rw [List.map_cons, List.mem_cons, not_or] at hnew
    rw [insertMember, if_neg (Ne.symm hnew.1)]
    split
    · exact .refl _
    · exact ((ih hnew.2).cons (k, v)).trans (.swap _ _ _)

/-- Sorting members with distinct names does no more than move them. -/
theorem perm_sortMembers {members : List (String × Json)} (hnodup : (members.map Prod.fst).Nodup) :
    (sortMembers members).Perm members := by
  induction members using List.reverseRecOn with
  | nil => exact .refl _
  | append_singleton members m ih =>
    obtain ⟨hmembers, -, hnew⟩ := List.nodup_append.1 (by simpa using hnodup)
    have hperm := ih (by simpa using hmembers)
    have hfresh : m.1 ∉ (sortMembers members).map Prod.fst := by
      rw [(hperm.map Prod.fst).mem_iff]
      intro hmem
      exact hnew m.1 (by simpa using hmem) m.1 (by simp) rfl
    rw [sortMembers_concat]
    exact (perm_insertMember hfresh).trans
      ((hperm.cons m).trans (List.perm_append_singleton m members).symm)

theorem reordered_ofMembers {members others : List (String × Json)}
    (h : List.Forall₂ ReorderedMember members others) (hnodup : (members.map Prod.fst).Nodup) :
    Reordered (.object members) (ofMembers others) := by
  have hnames : members.map Prod.fst = others.map Prod.fst := by
    clear hnodup
    induction h with
    | nil => rfl
    | cons hfirst _ ih => rw [List.map_cons, List.map_cons, hfirst.1, ih]
  rw [hnames] at hnodup
  exact .trans (Reordered.values h []) (.members (perm_sortMembers hnodup).symm)

/-! ### What is left of a reordered tree -/

theorem Reordered.eq_of_isLeaf {tree other : Json} (h : Reordered tree other)
    (hleaf : tree.isLeaf = true) : other = tree := by
  induction h with
  | refl => rfl
  | trans _ _ ihfirst ihsecond =>
    have hmiddle := ihfirst hleaf
    rw [ihsecond (hmiddle ▸ hleaf), hmiddle]
  | members _ | value _ _ _ _ | item _ _ _ => exact nomatch hleaf

/-- Of an object of leaves the members change places, and nothing else does. -/
theorem Reordered.of_leaves {tree other : Json} (h : Reordered tree other) :
    ∀ {members : List (String × Json)}, tree = .object members →
      (∀ m ∈ members, m.2.isLeaf = true) →
      ∃ others, other = .object others ∧ members.Perm others := by
  induction h with
  | refl tree => exact fun htree _ => ⟨_, htree, .refl _⟩
  | trans _ _ ihfirst ihsecond =>
    intro members htree hleaves
    obtain ⟨middle, hmiddle, hperm⟩ := ihfirst htree hleaves
    obtain ⟨others, hother, hperm'⟩ :=
      ihsecond hmiddle fun m hm => hleaves m (hperm.mem_iff.2 hm)
    exact ⟨others, hother, hperm.trans hperm'⟩
  | members hperm =>
    intro members htree _
    obtain rfl := Json.object.inj htree
    exact ⟨_, rfl, hperm⟩
  | value before key after hvalue _ =>
    intro members htree hleaves
    obtain rfl := Json.object.inj htree
    rw [hvalue.eq_of_isLeaf (hleaves _ (List.mem_append_right _ List.mem_cons_self))]
    exact ⟨_, rfl, .refl _⟩
  | item _ _ _ _ => exact fun htree _ => nomatch htree

end SqlLayer.Json
