import Mathlib.Data.List.Perm.Basic
import SqlLayer.Proofs.Toml.Documents
import SqlLayer.Settings.Toml

/-!
# Stored settings

Settings are stored as an object and read back from it.

* `Settings.fields` — **every field with its tree**, or without one where it is left out;
* `Settings.Stores`, `Settings.deserialize?_of_stores` — an object with the fields in any order is
  read as the settings;
* `Settings.Stores.of_reordered` — an object that is reordered **on any level** stores the same
  settings, but for the order of the extras;
* `Settings.restored_of_reordered` — settings are read back from the object, and from its texts in
  JSON and in TOML.
-/

namespace SqlLayer

namespace Json

/-! ### Fields that may be left out -/

/-- The members of the fields that are not left out. -/
def present (fields : List (String × Option Json)) : List (String × Json) :=
  fields.filterMap fun f => f.2.map (f.1, ·)

theorem present_append (a b : List (String × Option Json)) :
    present (a ++ b) = present a ++ present b := List.filterMap_append

theorem present_cons (name : String) (tree : Option Json) (fields : List (String × Option Json)) :
    present ((name, tree) :: fields) = (tree.map (name, ·)).toList ++ present fields := by
  cases tree <;> rfl

/-- No name is there twice that was not. -/
theorem names_present_sublist (fields : List (String × Option Json)) :
    ((present fields).map Prod.fst).Sublist (fields.map Prod.fst) := by
  induction fields with
  | nil => exact .refl _
  | cons f fields ih =>
    obtain ⟨name, tree⟩ := f
    rw [present_cons]
    cases tree with
    | none => exact ih.cons name
    | some tree => exact ih.cons_cons name

/-- Members are looked up alike in whatever order they stand. -/
theorem uniqueMember?_of_perm (names : List String) {members others : List (String × Json)}
    (h : members.Perm others) : uniqueMember? names members = uniqueMember? names others := by
  have hfilter := h.filter fun m => names.contains m.1
  unfold uniqueMember?
  generalize members.filter (fun m => names.contains m.1) = found at hfilter
  generalize others.filter (fun m => names.contains m.1) = found' at hfilter
  cases found with
  | nil => rw [List.nil_perm.1 hfilter]
  | cons m found =>
    cases found with
    | nil => rw [← List.singleton_perm.1 hfilter]
    | cons m' found =>
      have hlength := hfilter.length_eq
      cases found' with
      | nil => exact absurd hlength (by simp)
      | cons _ found' =>
        cases found' with
        | nil => exact absurd hlength (by simp)
        | cons => rfl

/-- **A field has its tree**, if no other field has one of its names. -/
theorem uniqueMember?_present {fields : List (String × Option Json)} {names : List String}
    {name : String} {tree : Option Json} (hnodup : (fields.map Prod.fst).Nodup)
    (hfield : (name, tree) ∈ fields) (hname : name ∈ names)
    (hothers : ∀ other ∈ fields.map Prod.fst, other ∈ names → other = name) :
    uniqueMember? names (present fields) = some tree := by
  obtain ⟨before, after, rfl⟩ := List.append_of_mem hfield
  rw [List.map_append, List.map_cons] at hnodup hothers
  have hnew : name ∉ before.map Prod.fst ++ after.map Prod.fst :=
    (List.nodup_cons.1 (List.nodup_middle.1 hnodup)).1
  have hnone : ∀ part : List (String × Option Json),
      part.map Prod.fst ⊆ before.map Prod.fst ++ after.map Prod.fst →
      (present part).filter (fun m => names.contains m.1) = [] := by
    intro part hpart
    rw [List.filter_eq_nil_iff]
    intro m hm hmem
    have hmem' := hpart ((names_present_sublist part).subset (List.mem_map_of_mem hm))
    have hsame := hothers m.1 (List.perm_middle.mem_iff.2 (List.mem_cons_of_mem _ hmem'))
      (by simpa using hmem)
    exact hnew (hsame ▸ hmem')
  rw [uniqueMember?, present_append, present_cons, List.filter_append, List.filter_append,
    hnone before (List.subset_append_left _ _), hnone after (List.subset_append_right _ _)]
  cases tree with
  | none => rfl
  | some tree => simp [hname]

end Json

namespace Settings

/-! ### The stored fields -/

/-- A driver-specific extra as a member. -/
def extraMember (e : String × String) : String × Json := (e.1, .text e.2)

/-- The tree of the extras, unless there are none. -/
def optionsTree? (options : OrderedMap String) : Option Json :=
  if options.isEmpty then none else some (.object (options.entries.map extraMember))

/-- The fields in order, each with its tree unless it is left out. -/
def fields (s : Settings) : List (String × Option Json) :=
  [("type", some (.text s.driver)), ("table_prefix", some (.text s.tablePrefix)),
    ("server", s.server.map .text), ("username", s.username.map .text),
    ("password", s.password.map .text), ("database", s.database.map .text),
    ("port", s.port.map fun p => .int p.toNat), ("options", optionsTree? s.options)]

/-- The members of stored settings. -/
def members (s : Settings) : List (String × Json) := Json.present s.fields

/-- The names of the fields. -/
def fieldNames : List String :=
  ["type", "table_prefix", "server", "username", "password", "database", "port", "options"]

theorem nodup_fieldNames : fieldNames.Nodup := by decide

theorem serialize_eq (s : Settings) : s.serialize = .object s.members := by
  have hnil : Json.present [] = [] := rfl
  by_cases hempty : s.options.isEmpty = true
  · simp [serialize, members, fields, Json.present_cons, hnil, optionsTree?, hempty,
      Function.comp_def]
  · simp [serialize, members, fields, Json.present_cons, hnil, optionsTree?, hempty,
      Function.comp_def, extraMember]

theorem nodup_names_members (s : Settings) : (s.members.map Prod.fst).Nodup :=
  (Json.names_present_sublist s.fields).nodup nodup_fieldNames

/-! ### Reading the fields -/

theorem optional?_text (value : Option String) :
    Json.optional? Json.text? (value.map .text) = some value := by
  cases value <;> rfl

theorem optional?_port (port : Option UInt16) :
    Json.optional? Json.port? (port.map fun p => .int p.toNat) = some port := by
  cases port with
  | none => rfl
  | some p =>
    have hlt := p.toNat_lt
    have hrange : (0 : Int) ≤ p.toNat ∧ (p.toNat : Int) < 65536 := by omega
    simp [Json.optional?, Json.port?, hrange]

theorem textMap?_extras (options : OrderedMap String) :
    Json.textMap? (.object (options.entries.map extraMember)) = some options := by
  have hentries : (options.entries.map extraMember).mapM
      (fun m => m.2.text?.map fun s => (m.1, s)) = some options.entries := by
    generalize options.entries = entries
    induction entries with
    | nil => rfl
    | cons e entries ih =>
      rw [List.map_cons, List.mapM_cons, ih]
      rfl
  simp only [Json.textMap?, hentries, Option.bind_eq_bind, Option.bind_some,
    OrderedMap.ofList_entries]

/-- **Every field is read back from its tree**, and from its absence where it is left out. -/
theorem ofFields?_fields (s : Settings) :
    ofFields? (some (.text s.driver)) (some (.text s.tablePrefix)) (s.server.map .text)
      (s.username.map .text) (s.password.map .text) (s.database.map .text)
      (s.port.map fun p => .int p.toNat) (optionsTree? s.options) = some s := by
  by_cases hempty : s.options.isEmpty = true
  · have hnone : OrderedMap.empty = s.options := by
      rw [← s.options.ofList_entries, List.isEmpty_iff.1 hempty]
      rfl
    simp [ofFields?, Json.text?, optional?_text, optional?_port, optionsTree?, hempty, hnone]
  · simp [ofFields?, Json.text?, optional?_text, optional?_port, optionsTree?, hempty,
      textMap?_extras]

/-- The tree is an object with the stored fields, in whatever order. -/
def Stores (s : Settings) (tree : Json) : Prop :=
  ∃ members, tree = .object members ∧ members.Perm s.members

/-- **What stores settings is read as them.** -/
theorem deserialize?_of_stores {s : Settings} {tree : Json} (h : s.Stores tree) :
    deserialize? tree = some s := by
  obtain ⟨members, rfl, hperm⟩ := h
  have hfield : ∀ (place : Nat) (names : List String) {name : String} {tree : Option Json},
      s.fields[place]? = some (name, tree) → name ∈ names →
      (∀ other ∈ fieldNames, other ∈ names → other = name) →
      Json.uniqueMember? names members = some tree := by
    intro place names name tree hplace hname hothers
    rw [Json.uniqueMember?_of_perm names hperm]
    exact Json.uniqueMember?_present nodup_fieldNames (List.mem_of_getElem? hplace) hname hothers
  have htype := hfield 0 ["type"] rfl (by decide) (by decide)
  have hprefix := hfield 1 ["table_prefix", "prefix"] rfl (by decide) (by decide)
  have hserver := hfield 2 ["server"] rfl (by decide) (by decide)
  have husername := hfield 3 ["username"] rfl (by decide) (by decide)
  have hpassword := hfield 4 ["password"] rfl (by decide) (by decide)
  have hdatabase := hfield 5 ["database"] rfl (by decide) (by decide)
  have hport := hfield 6 ["port"] rfl (by decide) (by decide)
  have hoptions := hfield 7 ["options"] rfl (by decide) (by decide)
  simp only [deserialize?, htype, hprefix, hserver, husername, hpassword, hdatabase, hport,
    hoptions, Option.bind_eq_bind, Option.bind_some, ofFields?_fields]

/-! ### Objects in another order -/

/-- The same settings with their extras in another order. -/
structure Shuffled (s other : Settings) : Prop where
  others : other = { s with options := other.options }
  extras : s.options.entries.Perm other.options.entries

theorem Shuffled.refl (s : Settings) : s.Shuffled s := ⟨rfl, .refl _⟩

theorem Shuffled.trans {a b c : Settings} (hab : a.Shuffled b) (hbc : b.Shuffled c) :
    a.Shuffled c := by
  refine ⟨?_, hab.extras.trans hbc.extras⟩
  rw [hbc.others, hab.others]

/-- Extras in another order have the same values. -/
theorem Shuffled.get?_eq {s other : Settings} (h : s.Shuffled other) (key : String) :
    other.options.get? key = s.options.get? key := by
  refine Option.ext fun value => ?_
  rw [OrderedMap.get?_eq_some_iff, OrderedMap.get?_eq_some_iff, h.extras.mem_iff]

theorem Shuffled.same_eq_true {s other : Settings} (h : s.Shuffled other) :
    other.same s = true := by
  have hentries := OrderedMap.sameEntries_iff.2 h.get?_eq
  rw [same, hentries, Bool.true_and, beq_iff_eq]
  rw [h.others]

/-- The members apart from the extras, which come last. -/
def fixedMembers (s : Settings) : List (String × Json) := Json.present (s.fields.take 7)

theorem members_eq (s : Settings) :
    s.members = s.fixedMembers ++ ((optionsTree? s.options).map ("options", ·)).toList := by
  show Json.present (s.fields.take 7 ++ [("options", optionsTree? s.options)]) = _
  rw [Json.present_append, Json.present_cons]
  exact congrArg _ (List.append_nil _)

/-- The other fields are texts and a port. -/
theorem plain_of_mem_fixedMembers {s : Settings} {m : String × Json} (hm : m ∈ s.fixedMembers) :
    Json.Plain m.2 ∧ m.2.isLeaf = true := by
  obtain ⟨f, hf, hmember⟩ := List.mem_filterMap.1 hm
  obtain ⟨tree, htree, rfl⟩ := Option.map_eq_some_iff.1 hmember
  have htext : ∀ value : Option String, value.map Json.text = some tree →
      Json.Plain tree ∧ tree.isLeaf = true := by
    intro value hvalue
    obtain ⟨text, -, rfl⟩ := Option.map_eq_some_iff.1 hvalue
    exact ⟨.text text, rfl⟩
  simp only [fields, List.take_succ_cons, List.take_zero, List.mem_cons, List.not_mem_nil,
    or_false] at hf
  obtain rfl | rfl | rfl | rfl | rfl | rfl | rfl := hf
  · exact htext (some s.driver) htree
  · exact htext (some s.tablePrefix) htree
  · exact htext _ htree
  · exact htext _ htree
  · exact htext _ htree
  · exact htext _ htree
  · obtain ⟨port, -, rfl⟩ := Option.map_eq_some_iff.1 htree
    have hlt := port.toNat_lt
    refine ⟨.int ?_, rfl⟩
    rw [decide_eq_false (by omega)]
    simp [Json.fitsInteger]
    omega

/-- The extras are texts. -/
theorem plain_of_mem_extras {entries : List (String × String)} {m : String × Json}
    (hm : m ∈ entries.map extraMember) : Json.Plain m.2 ∧ m.2.isLeaf = true := by
  obtain ⟨e, -, rfl⟩ := List.mem_map.1 hm
  exact ⟨.text e.2, rfl⟩

/-- A member of stored settings is a leaf, or it holds the extras. -/
theorem mem_members_cases {s : Settings} {m : String × Json} (hm : m ∈ s.members) :
    m ∈ s.fixedMembers ∨ (s.options.isEmpty = false ∧
      m = ("options", .object (s.options.entries.map extraMember))) := by
  rw [members_eq, List.mem_append] at hm
  refine hm.imp_right fun hextras => ?_
  rw [optionsTree?] at hextras
  split at hextras
  · exact nomatch hextras
  next hempty => exact ⟨Bool.eq_false_iff.2 hempty, List.mem_singleton.1 hextras⟩

theorem members_of_extras {s : Settings} (hsome : s.options.isEmpty = false) :
    s.members = s.fixedMembers ++
      [("options", .object (s.options.entries.map extraMember))] := by
  rw [members_eq, optionsTree?, hsome]
  rfl

/-- Reordering the extras alone. -/
theorem stores_of_reordered_extras {s : Settings} {before after : List (String × Json)}
    {tree : Json} (hsome : s.options.isEmpty = false)
    (hmembers : (before ++ ("options", .object (s.options.entries.map extraMember)) :: after).Perm
      s.members)
    (hextras : Json.Reordered (.object (s.options.entries.map extraMember)) tree) :
    ∃ other, s.Shuffled other ∧ other.Stores (.object (before ++ ("options", tree) :: after)) := by
  obtain ⟨others, rfl, hothers⟩ :=
    hextras.of_leaves rfl fun m hm => (plain_of_mem_extras hm).2
  -- members in another order are extras in another order
  obtain ⟨entries, rfl, hentries⟩ :
      Relation.Comp (· = List.map extraMember ·) List.Perm others s.options.entries := by
    rw [List.eq_map_comp_perm]
    exact hothers.symm
  have hnodup : (entries.map Prod.fst).Nodup :=
    (hentries.map Prod.fst).nodup_iff.2 s.options.nodup
  have hsome' : entries.isEmpty = false := hentries.isEmpty_eq.trans hsome
  let other : Settings := { s with options := ⟨entries, hnodup⟩ }
  have hrest : (before ++ after).Perm s.fixedMembers := by
    rw [members_of_extras hsome] at hmembers
    exact (List.perm_middle.symm.trans (hmembers.trans (List.perm_append_singleton _ _))).cons_inv
  refine ⟨other, ⟨rfl, hentries.symm⟩, _, rfl, ?_⟩
  rw [members_of_extras (s := other) hsome']
  exact List.perm_middle.trans ((hrest.cons _).trans (List.perm_append_singleton _ _).symm)

/-- **An object that is reordered on any level stores the same settings**, with their extras in
another order. -/
theorem Stores.of_reordered {tree other : Json} (h : Json.Reordered tree other) :
    ∀ {s : Settings}, s.Stores tree → ∃ s', s.Shuffled s' ∧ s'.Stores other := by
  induction h with
  | refl tree => exact fun hstores => ⟨_, .refl _, hstores⟩
  | trans _ _ ihfirst ihsecond =>
    intro s hstores
    obtain ⟨middle, hmiddle, hstores⟩ := ihfirst hstores
    obtain ⟨last, hlast, hstores⟩ := ihsecond hstores
    exact ⟨last, hmiddle.trans hlast, hstores⟩
  | members hperm =>
    rintro s ⟨members, htree, hmembers⟩
    obtain rfl := Json.object.inj htree
    exact ⟨s, .refl s, _, rfl, hperm.symm.trans hmembers⟩
  | value before key after hvalue _ =>
    rintro s ⟨members, htree, hmembers⟩
    obtain rfl := Json.object.inj htree
    obtain hfixed | ⟨hsome, hextras⟩ :=
      mem_members_cases (hmembers.mem_iff.1 (List.mem_append_right _ List.mem_cons_self))
    · rw [hvalue.eq_of_isLeaf (plain_of_mem_fixedMembers hfixed).2]
      exact ⟨s, .refl s, _, rfl, hmembers⟩
    · obtain ⟨rfl, rfl⟩ := Prod.mk.inj hextras
      exact stores_of_reordered_extras hsome hmembers hvalue
  | item _ _ _ _ => exact fun ⟨_, htree, _⟩ => nomatch htree

/-! ### Stored settings as texts -/

theorem stores_serialize (s : Settings) : s.Stores s.serialize :=
  ⟨s.members, s.serialize_eq, .refl _⟩

theorem plain_of_mem_members {s : Settings} {m : String × Json} (hm : m ∈ s.members) :
    Json.Plain m.2 ∧ Toml.IsShallow m.2 := by
  obtain hfixed | ⟨-, rfl⟩ := mem_members_cases hm
  · exact ⟨(plain_of_mem_fixedMembers hfixed).1, .inl (plain_of_mem_fixedMembers hfixed).2⟩
  · have hnames : (s.options.entries.map extraMember).map Prod.fst
        = s.options.entries.map Prod.fst := by
      rw [List.map_map]
      rfl
    exact ⟨.object (hnames ▸ s.options.nodup) fun i hi => (plain_of_mem_extras hi).1,
      .inr ⟨_, rfl, fun i hi => (plain_of_mem_extras hi).2⟩⟩

theorem Stores.plain {s : Settings} {tree : Json} (h : s.Stores tree) : Json.Plain tree := by
  obtain ⟨members, rfl, hperm⟩ := h
  exact .object ((hperm.map Prod.fst).nodup_iff.2 s.nodup_names_members) fun m hm =>
    (plain_of_mem_members (hperm.mem_iff.1 hm)).1

theorem Stores.exists_toml {s : Settings} {tree : Json} (h : s.Stores tree) :
    ∃ back, (Toml.write? tree).bind Toml.read? = some back ∧ tree.Reordered back := by
  have hplain := h.plain
  obtain ⟨members, rfl, hperm⟩ := h
  exact Toml.exists_read?_write hplain fun m hm => (plain_of_mem_members (hperm.mem_iff.1 hm)).2

/-- These settings are read: all fields are the same, and the extras have their keys and values, in
whatever order. -/
def IsRestored (s : Settings) (read? : Option Settings) : Prop :=
  ∃ read, read? = some read ∧ read.same s = true ∧
    ∀ key, read.options.get? key = s.options.get? key

theorem isRestored_of_reordered {s : Settings} {tree : Json} (h : s.serialize.Reordered tree) :
    s.IsRestored (deserialize? tree) := by
  obtain ⟨other, hshuffled, hstores⟩ := Stores.of_reordered h s.stores_serialize
  exact ⟨other, deserialize?_of_stores hstores, hshuffled.same_eq_true, hshuffled.get?_eq⟩

theorem isRestored_of_json {s : Settings} {tree : Json} (h : s.serialize.Reordered tree) :
    s.IsRestored ((Json.read? tree.render).bind deserialize?) := by
  obtain ⟨other, -, hstores⟩ := Stores.of_reordered h s.stores_serialize
  obtain ⟨back, hread, hback⟩ := hstores.plain.read?_render
  rw [hread, Option.bind_some]
  exact isRestored_of_reordered (h.trans hback)

theorem isRestored_of_toml {s : Settings} {tree : Json} (h : s.serialize.Reordered tree) :
    s.IsRestored ((Toml.write? tree).bind ofToml?) := by
  obtain ⟨other, -, hstores⟩ := Stores.of_reordered h s.stores_serialize
  obtain ⟨back, hread, hback⟩ := hstores.exists_toml
  show s.IsRestored ((Toml.write? tree).bind fun text => (Toml.read? text).bind deserialize?)
  rw [← Option.bind_assoc, hread, Option.bind_some]
  exact isRestored_of_reordered (h.trans hback)

/-- Every document of settings gives them back. -/
theorem survivesToml_eq_true (s : Settings) : s.survivesToml = true := by
  obtain ⟨read, hread, hsame, -⟩ := isRestored_of_toml (.refl s.serialize)
  rw [survivesToml, toToml?, hread]
  exact hsame

/-- **Settings survive being stored.** The object that they are stored as gives them back with their
extras in order; with its members in any other order, on each level, it gives them back as well, and
so do its text in JSON and its document in TOML. -/
theorem restored_of_reordered (s : Settings) {tree : Json} (h : s.serialize.Reordered tree) :
    deserialize? s.serialize = some s ∧
      s.IsRestored (deserialize? tree) ∧
      s.IsRestored ((Json.read? tree.render).bind deserialize?) ∧
      s.IsRestored ((Toml.write? tree).bind ofToml?) :=
  ⟨deserialize?_of_stores s.stores_serialize, isRestored_of_reordered h, isRestored_of_json h,
    isRestored_of_toml h⟩

/-- Settings with extras that are named like fields, and one without a name. -/
def ambiguous : Settings :=
  { new "sqlite" with
    port := some 65535
    password := some ""
    options := OrderedMap.ofList [("type", "mysql"), ("prefix", "a\n"), ("", "\x22")] }

/-- The object of these settings with its members turned around, and those of the extras too. -/
def ambiguousTree : Json :=
  .object [("options",
      .object [("", .text "\x22"), ("prefix", .text "a\n"), ("type", .text "mysql")]),
    ("port", .int 65535), ("password", .text ""), ("table_prefix", .text ""),
    ("type", .text "sqlite")]

theorem ambiguous_restored :
    ambiguous.serialize.Reordered ambiguousTree ∧
      deserialize? ambiguous.serialize = some ambiguous ∧
      ambiguous.IsRestored (deserialize? ambiguousTree) ∧
      ambiguous.IsRestored ((Json.read? ambiguousTree.render).bind deserialize?) ∧
      ambiguous.IsRestored ((Toml.write? ambiguousTree).bind ofToml?) := by
  have h : ambiguous.serialize.Reordered ambiguousTree :=
    .trans (.value (ambiguous.members.take 4) "options" []
        (.members (List.reverse_perm (ambiguous.options.entries.map extraMember)).symm))
      (.members (List.reverse_perm _).symm)
  exact ⟨h, restored_of_reordered ambiguous h⟩

end Settings

end SqlLayer
