import SqlLayer.Proofs.Json.Members
import SqlLayer.Proofs.Outcome
import SqlLayer.Proofs.Result.Fields
import SqlLayer.Result.Record

/-!
# Rows by column name

A row can be read name by name, turned into a map or a JSON object, and fill a record.  Looking a
name up searches the columns from the right; maps and objects are written from the left.  **All of
them see the same one of several columns with one name**: the last.

* `RecordShape.fill_eq_ok_iff` — a record is filled field by field, each from the member of its
  name;
* `Row.ViewsAgree`, `Row.views_agree` — **the views of a row**, for every row with one value for
  each column, as long as its columns have names;
* `Row.views_agree_repeated` — a row with a repeated name, and a record that it fills.
-/

namespace SqlLayer

/-! ### Filling a record -/

/-- A field of this type from the member of its name, or without one. -/
def FieldType.fillFrom (t : FieldType) (name : String) : Option Json → Except FillError Json
  | some member => t.fill member
  | none => t.absent name

namespace RecordShape

variable {shape : RecordShape} {members filled : List (String × Json)} {name : String}
  {t : FieldType}

theorem typeOf?_eq_some_iff (hshape : (shape.map Prod.fst).Nodup) :
    shape.typeOf? name = some t ↔ (name, t) ∈ shape := by
  rw [typeOf?, ← Entries.find?_eq, Entries.find?_eq_some_iff hshape]

/-- Members are skipped or filled one by one, so a field finds what its own member gave. -/
theorem member?_of_fillMembers (h : shape.fillMembers members = .ok filled)
    (ht : shape.typeOf? name = some t) :
    (Json.member? name members = none ∧ Json.member? name filled = none) ∨
      ∃ member value, Json.member? name members = some member ∧
        Json.member? name filled = some value ∧ t.fill member = .ok value := by
  induction members generalizing filled with
  | nil =>
    obtain rfl := Except.ok.inj h
    exact .inl ⟨rfl, rfl⟩
  | cons first rest ih =>
    obtain ⟨k, member⟩ := first
    rw [fillMembers] at h
    cases hskip : shape.typeOf? k with
    | none =>
      rw [hskip] at h
      have hk : k ≠ name := by
        rintro rfl
        exact nomatch hskip.symm.trans ht
      rw [Json.member?, if_neg hk]
      exact ih h
    | some u =>
      rw [hskip] at h
      obtain ⟨value, hvalue, h⟩ := exists_of_bind_eq_ok h
      obtain ⟨others, hrest, h⟩ := exists_of_bind_eq_ok h
      obtain rfl := Except.ok.inj h
      rw [Json.member?, Json.member?]
      by_cases hk : k = name
      · subst hk
        obtain rfl := Option.some.inj (hskip.symm.trans ht)
        rw [if_pos rfl, if_pos rfl]
        exact .inr ⟨member, value, rfl, rfl, hvalue⟩
      · rw [if_neg hk, if_neg hk]
        exact ih hrest

theorem exists_fillMembers
    (h : ∀ m ∈ members, ∀ t, shape.typeOf? m.1 = some t → ∃ value, t.fill m.2 = .ok value) :
    ∃ filled, shape.fillMembers members = .ok filled := by
  induction members with
  | nil => exact ⟨[], rfl⟩
  | cons first rest ih =>
    obtain ⟨k, member⟩ := first
    obtain ⟨others, hothers⟩ := ih fun m hm => h m (List.mem_cons_of_mem _ hm)
    rw [fillMembers]
    cases hskip : shape.typeOf? k with
    | none => exact ⟨others, hothers⟩
    | some u =>
      obtain ⟨value, hvalue⟩ := h _ List.mem_cons_self u hskip
      exact ⟨(k, value) :: others, by simp only [hvalue, hothers]; rfl⟩

/-- **A record is filled field by field**, each field from the member of its name. -/
theorem fill_eq_ok_iff (hshape : (shape.map Prod.fst).Nodup)
    (hmembers : (members.map Prod.fst).Nodup) {record : List Json} :
    shape.fill members = .ok record ↔
      List.Forall₂ (fun field value =>
        field.2.fillFrom field.1 (Json.member? field.1 members) = .ok value) shape record := by
  rw [← mapM_eq_ok_iff]
  -- whatever was filled from the members, the fields take the same from it
  have hfields : ∀ filled, shape.fillMembers members = .ok filled →
      shape.fill members
        = shape.mapM fun field => field.2.fillFrom field.1 (Json.member? field.1 members) := by
    intro filled hfilled
    rw [fill, hfilled]
    refine mapM_congr fun field hfield => ?_
    obtain ⟨hnone, hleft⟩ | ⟨member, value, hmember, hleft, hvalue⟩ :=
      member?_of_fillMembers hfilled ((typeOf?_eq_some_iff hshape).2 hfield)
    · rw [hleft, hnone]
      rfl
    · rw [hleft, hmember]
      exact hvalue.symm
  constructor
  · intro h
    obtain ⟨filled, hfilled, -⟩ := exists_of_bind_eq_ok h
    rwa [← hfields filled hfilled]
  · intro h
    obtain ⟨filled, hfilled⟩ : ∃ filled, shape.fillMembers members = .ok filled := by
      refine exists_fillMembers fun m hm t ht => ?_
      obtain ⟨value, hvalue⟩ := exists_of_mapM_eq_ok h ((typeOf?_eq_some_iff hshape).1 ht)
      rw [(Json.member?_eq_some_iff hmembers).2 hm] at hvalue
      exact ⟨value, hvalue⟩
    rwa [hfields filled hfilled]

end RecordShape

/-! ### The views of a row -/

namespace Row

/-- All views of a row by column name see the same columns and the same values. -/
structure ViewsAgree (row : Row) : Prop where
  /-- The map has the names that the row has. -/
  contains : ∀ name, name ∈ row.toMap.keys ↔ row.contains (.name name) = true
  /-- The keys of the map are the column names, each at the place where it comes first. -/
  keys : row.toMap.keys = row.columns.eraseDups
  value : ∀ name, row.toMap.get? name = row.get? (.name name)
  member : ∀ name, Json.member? name row.toMembers = (row.get? (.name name)).map Value.toJson
  /-- A record takes each field from the value under its name. -/
  record : ∀ (shape : RecordShape) (record : List Json), (shape.map Prod.fst).Nodup →
    (shape.fill row.toMembers = .ok record ↔
      List.Forall₂ (fun field value =>
        field.2.fillFrom field.1 ((row.get? (.name field.1)).map Value.toJson) = .ok value)
        shape record)

variable {row : Row}

theorem get?_name (hfull : row.values.length = row.columns.length)
    (hnames : row.mode.hasNames = true) (name : String) :
    row.get? (.name name) = fieldOf? row.columns row.values (.name name) := by
  rw [get?, indexOf?, if_pos hnames]
  exact lastIndex?_bind (Nat.le_of_eq hfull.symm) name

theorem contains_name (hnames : row.mode.hasNames = true) {name : String} :
    row.contains (.name name) = true ↔ name ∈ row.columns := by
  have hmem : name ∈ row.columns.drop 0 ↔ ∃ i, lastIndex? name row.columns = some i ∧ 0 ≤ i :=
    mem_drop_iff
  rw [contains, indexOf?, if_pos hnames, Option.isSome_iff_exists]
  simpa using hmem.symm

theorem keys_toMap (hfull : row.values.length = row.columns.length) :
    row.toMap.keys = row.columns.eraseDups := by
  rw [toMap, OrderedMap.keys_ofList, fields, List.map_fst_zip (Nat.le_of_eq hfull.symm)]

theorem member?_toMembers (hfull : row.values.length = row.columns.length)
    (hnames : row.mode.hasNames = true) (name : String) :
    Json.member? name row.toMembers = (row.get? (.name name)).map Value.toJson := by
  rw [toMembers, Json.member?_sortMembers, ← List.map_reverse, List.find?_map, Option.map_map,
    get?_name hfull hnames, fieldOf?, Option.map_map]
  rfl

/-- **The views of a row by column name agree.** -/
theorem views_agree (hfull : row.values.length = row.columns.length)
    (hnames : row.mode.hasNames = true) : row.ViewsAgree where
  contains name := by
    rw [keys_toMap hfull, List.mem_eraseDups, contains_name hnames]
  keys := keys_toMap hfull
  value name := by
    rw [toMap, OrderedMap.get?_ofList, get?_name hfull hnames]
    rfl
  member := member?_toMembers hfull hnames
  record shape record hshape := by
    have hmembers : (row.toMembers.map Prod.fst).Nodup := Json.nodup_sortMembers _
    rw [RecordShape.fill_eq_ok_iff hshape hmembers]
    simp only [member?_toMembers hfull hnames]

/-- A name that comes twice: the map keeps its first place, and a record that asks for it is filled
with the value of the last column, as reading by name gives it. -/
theorem views_agree_repeated :
    let row : Row := ⟨.byName, ["id", "name", "id"], [.int 1, .text "a", .int 2]⟩
    row.values.length = row.columns.length ∧ row.mode.hasNames = true ∧ row.ViewsAgree ∧
      row.toMap.keys = ["id", "name"] ∧
      RecordShape.fill [("name", .text), ("id", .int)] row.toMembers
        = .ok [.text "a", .int 2] := by
  intro row
  have hviews : row.ViewsAgree := views_agree rfl rfl
  refine ⟨rfl, rfl, hviews, by rw [hviews.keys]; decide, (hviews.record _ _ (by decide)).2 ?_⟩
  exact .cons rfl (.cons rfl .nil)

end Row

end SqlLayer
