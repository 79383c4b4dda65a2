import SqlLayer.Result.Row

/-!
# Reading the fields of a row

A name is looked up among the columns of a row and an ordinal among its values, and a row may hold
fewer values than there are columns.

* `Row.mem_drop_iff` — where the last column of a name stands, told without positions;
* `Row.lacksValue_iff` — a key that points **past the values** of its row;
* `Row.accessors_agree_iff` — asking for a field, reading it, reading it as a kind and taking it
  out agree **for every other key of every row**, whatever its mode and its columns;
* `Row.accessors_disagree` — a row that ends before a column.
-/

namespace SqlLayer.Row

/-- The key is the name of a column behind the last value of the row. -/
def LacksValue (row : Row) (key : ColumnKey) : Prop :=
  ∃ s, key = .name s ∧ row.mode.hasNames = true ∧ s ∈ row.columns.drop row.values.length

/-- All ways to read a field agree on whether it is there and on its value, and none of them runs
past the end of the row. -/
structure AccessorsAgree (row : Row) (key : ColumnKey) : Prop where
  contains : row.contains key = (row.get? key).isSome
  take : row.take key = match row.get? key with
    | none => .absent
    | some v => .value v
  missing : ∀ kind, (∃ field, row.getOfType key kind = .error (.fieldNotFound field)) ↔
    row.contains key = false
  typed : ∀ kind v, row.get? key = some v → row.getOfType key kind = v.convert kind

/-- A name stands at some place or behind it exactly when its last position does. -/
theorem mem_drop_iff {s : String} {columns : List String} {n : Nat} :
    s ∈ columns.drop n ↔ ∃ i, lastIndex? s columns = some i ∧ n ≤ i := by
  induction columns generalizing n with
  | nil => simp [lastIndex?]
  | cons column rest ih =>
    have hrest : s ∈ rest ↔ ∃ i, lastIndex? s rest = some i := by simpa using ih (n := 0)
    rw [lastIndex?]
    cases hlast : lastIndex? s rest with
    | none =>
      have hnot : s ∉ rest := by
        rw [hrest, hlast]
        simp
      cases n with
      | zero => by_cases hs : column = s <;> simp [hnot, hs, Ne.symm]
      | succ n =>
        have hdrop : s ∉ rest.drop n := fun h => hnot (List.mem_of_mem_drop h)
        by_cases hs : column = s <;> simp [hdrop, hs]
    | some i =>
      cases n with
      | zero => simp [hrest, hlast]
      | succ n => simp [ih, hlast]

/-- A key that points somewhere, and no value is there. -/
theorem lacksValue_iff {row : Row} {key : ColumnKey} :
    row.LacksValue key ↔ ∃ i, row.indexOf? key = some i ∧ row.values.length ≤ i := by
  cases key with
  | ordinal i =>
    -- ordinals are looked up among the values
    constructor
    · rintro ⟨s, hkey, -⟩
      exact nomatch hkey
    · rintro ⟨j, hindex, hj⟩
      rw [indexOf?] at hindex
      split at hindex
      · rename_i hlt
        obtain rfl := Option.some.inj hindex
        exact absurd hj (by simpa using (Bool.and_eq_true_iff.1 hlt).2)
      · exact nomatch hindex
  | name s =>
    constructor
    · rintro ⟨s', hkey, hmode, hmem⟩
      obtain rfl := ColumnKey.name.inj hkey
      rw [indexOf?, if_pos hmode]
      exact mem_drop_iff.1 hmem
    · rintro ⟨i, hindex, hi⟩
      rw [indexOf?] at hindex
      split at hindex
      · rename_i hmode
        exact ⟨s, rfl, hmode, mem_drop_iff.2 ⟨i, hindex, hi⟩⟩
      · exact nomatch hindex

/-- A value that is there may be of another kind, but it is not missing. -/
theorem convert_ne_fieldNotFound (v : Value) (kind : ValueType) (field : String) :
    v.convert kind ≠ .error (.fieldNotFound field) := by
  rw [Value.convert]
  split <;> simp

/-! ### Where a key points -/

variable {row : Row} {key : ColumnKey}

theorem accessorsAgree_of_none (hindex : row.indexOf? key = none) : row.AccessorsAgree key := by
  have hcontains : row.contains key = false := by rw [contains, hindex]; rfl
  have hget : row.get? key = none := by rw [get?, hindex]; rfl
  exact
    { contains := by rw [hcontains, hget]; rfl
      take := by rw [take, hindex, hget]
      missing := fun kind => ⟨fun _ => hcontains, fun _ => ⟨key.display, by rw [getOfType, hget]⟩⟩
      typed := fun kind v hv => nomatch hget.symm.trans hv }

theorem accessorsAgree_of_some {i : Nat} (hindex : row.indexOf? key = some i)
    (hinside : i < row.values.length) : row.AccessorsAgree key := by
  have hvalue : row.values[i]? = some row.values[i] := List.getElem?_eq_getElem hinside
  have hcontains : row.contains key = true := by rw [contains, hindex]; rfl
  have hget : row.get? key = some row.values[i] := by rw [get?, hindex]; exact hvalue
  have htyped : ∀ kind, row.getOfType key kind = row.values[i].convert kind := fun kind => by
    rw [getOfType, hget]
  refine
    { contains := by rw [hcontains, hget]; rfl
      take := by rw [take, hindex, hget]; simp only [hvalue]
      missing := fun kind => ?_
      typed := fun kind v hv => ?_ }
  · rw [htyped, hcontains]
    refine ⟨?_, fun h => (nomatch h)⟩
    rintro ⟨field, hfield⟩
    exact absurd hfield (convert_ne_fieldNotFound _ kind field)
  · obtain rfl := Option.some.inj (hget.symm.trans hv)
    exact htyped kind

theorem take_of_length_le {i : Nat} (hindex : row.indexOf? key = some i)
    (hpast : row.values.length ≤ i) : row.take key = .beyondEnd := by
  rw [take, hindex]
  simp only [List.getElem?_eq_none hpast]

/-! ### The main statement -/

/-- Where the ways to read a field agree, it is not taken from past the end. -/
theorem AccessorsAgree.take_ne_beyondEnd (h : row.AccessorsAgree key) :
    row.take key ≠ .beyondEnd := by
  rw [h.take]
  cases row.get? key <;> simp

/-- **The ways to read a field agree**, and taking it out never runs past the end of the row, unless
the key names a column that stands behind the last value; and there it does. -/
theorem accessors_agree_iff (row : Row) (key : ColumnKey) :
    (row.AccessorsAgree key ↔ ¬ row.LacksValue key) ∧
      (row.LacksValue key ↔ row.take key = .beyondEnd) := by
  by_cases hlacks : row.LacksValue key
  · obtain ⟨i, hindex, hpast⟩ := lacksValue_iff.1 hlacks
    have htake := take_of_length_le hindex hpast
    refine ⟨⟨fun hagree => ?_, fun hnot => absurd hlacks hnot⟩, fun _ => htake, fun _ => hlacks⟩
    exact absurd htake hagree.take_ne_beyondEnd
  · have hagree : row.AccessorsAgree key := by
      cases hindex : row.indexOf? key with
      | none => exact accessorsAgree_of_none hindex
      | some i =>
        refine accessorsAgree_of_some hindex (Nat.lt_of_not_le fun hpast => ?_)
        exact hlacks (lacksValue_iff.2 ⟨i, hindex, hpast⟩)
    refine ⟨⟨fun _ => hlacks, fun _ => hagree⟩, fun h => absurd h hlacks, fun htake => ?_⟩
    exact absurd htake hagree.take_ne_beyondEnd

/-- A row that ends before its second column: asked whether the column is there it says so, the
value is absent, and taking it out runs past the end. -/
theorem accessors_disagree :
    let row : Row := ⟨.byEither, ["a", "b"], [.int 1]⟩
    row.contains (.name "b") = true ∧ row.get? (.name "b") = none ∧
      row.take (.name "b") = .beyondEnd ∧
      row.getOfType (.name "b") .int = .error (.fieldNotFound "b") :=
  ⟨by decide, by decide, by decide, rfl⟩

end SqlLayer.Row
