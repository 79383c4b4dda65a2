/-!
# Maps in insertion order

A map from texts to values that lists its keys in the order in which they first came. Writing to
a key that is already there keeps the key's place and replaces its value.

* `get?_insert` — **lookup after a write**: the new value at the written key, the old one elsewhere;
* `keys_insert` — **order**: a new key goes to the end, a known key stays where it is.
-/

namespace SqlLayer

namespace Entries

variable {α : Type}

/-- The value at `key` in a list of entries: that of the first entry with the key. -/
def find? (key : String) : List (String × α) → Option α
  | [] => none
  | (k, v) :: rest => if k = key then some v else find? key rest

/-- Writes `value` at `key`, in place if the key is there and at the end otherwise. -/
def put (key : String) (value : α) : List (String × α) → List (String × α)
  | [] => [(key, value)]
  | (k, v) :: rest => if k = key then (k, value) :: rest else (k, v) :: put key value rest

theorem map_fst_put (key : String) (value : α) (entries : List (String × α)) :
    (put key value entries).map Prod.fst =
      if key ∈ entries.map Prod.fst then entries.map Prod.fst
      else entries.map Prod.fst ++ [key] := by
  induction entries with
  | nil => simp [put]
  | cons e rest ih =>
    obtain ⟨k, v⟩ := e
    by_cases h : k = key
    · simp [put, h]
    · have h' : key ≠ k := fun e => h e.symm
      by_cases hm : key ∈ rest.map Prod.fst
      · simp only [put, h, if_false, List.map_cons, ih, hm, if_true, List.mem_cons, or_true]
      · simp only [put, h, if_false, List.map_cons, ih, hm, List.mem_cons, h', or_self,
          List.cons_append]

theorem nodup_put {key : String} {value : α} {entries : List (String × α)}
    (h : (entries.map Prod.fst).Nodup) : ((put key value entries).map Prod.fst).Nodup := by
  rw [map_fst_put]
  split
  · exact h
  · rename_i hk
    refine List.nodup_append.2 ⟨h, by simp, ?_⟩
    intro a ha b hb
    simp only [List.mem_singleton] at hb
    subst hb
    exact fun e => hk (e ▸ ha)

theorem find?_put (key other : String) (value : α) (entries : List (String × α)) :
    find? other (put key value entries) =
      if other = key then some value else find? other entries := by
  induction entries with
  | nil =>
    by_cases h : other = key
    · simp [put, find?, h]
    · have h' : key ≠ other := fun e => h e.symm
      simp [put, find?, h, h']
  | cons e rest ih =>
    obtain ⟨k, v⟩ := e
    by_cases hk : k = key
    · subst hk
      by_cases h : other = k
      · simp [put, find?, h]
      · have h' : k ≠ other := fun e => h e.symm
        simp [put, find?, h, h']
    · simp only [put, hk, if_false, find?, ih]
      by_cases h : k = other
      · have h' : other ≠ key := fun e => hk (h.trans e)
        simp [h, h']
      · simp [h]

end Entries

/-- A map from texts to values in the order in which the keys first came. -/
structure OrderedMap (α : Type) where
  /-- The keys with their values, in order. -/
  entries : List (String × α)
  /-- No key has two entries. -/
  nodup : (entries.map Prod.fst).Nodup
  deriving DecidableEq

namespace OrderedMap

variable {α : Type}

/-- The map without entries. -/
def empty : OrderedMap α := ⟨[], List.nodup_nil⟩

instance : Inhabited (OrderedMap α) := ⟨empty⟩

/-- The keys, in order. -/
def keys (m : OrderedMap α) : List String := m.entries.map Prod.fst

/-- The number of keys. -/
def size (m : OrderedMap α) : Nat := m.entries.length

/-- Whether there are no keys. -/
def isEmpty (m : OrderedMap α) : Bool := m.entries.isEmpty

/-- The value at `key`. -/
def get? (m : OrderedMap α) (key : String) : Option α := Entries.find? key m.entries

/-- Writes `value` at `key`. -/
def insert (m : OrderedMap α) (key : String) (value : α) : OrderedMap α :=
  ⟨Entries.put key value m.entries, Entries.nodup_put m.nodup⟩

/-- The map that a list of writes builds. -/
def ofList (entries : List (String × α)) : OrderedMap α :=
  entries.foldl (fun m e => m.insert e.1 e.2) empty

/-- Whether two maps hold the same keys with the same values, in whatever order. -/
def sameEntries [DecidableEq α] (a b : OrderedMap α) : Bool :=
  a.size == b.size && a.entries.all fun e => b.get? e.1 == some e.2

@[simp] theorem keys_empty : (empty : OrderedMap α).keys = [] := rfl

@[simp] theorem get?_empty (key : String) : (empty : OrderedMap α).get? key = none := rfl

theorem get?_insert (m : OrderedMap α) (key other : String) (value : α) :
    (m.insert key value).get? other = if other = key then some value else m.get? other :=
  Entries.find?_put key other value m.entries

theorem keys_insert (m : OrderedMap α) (key : String) (value : α) :
    (m.insert key value).keys = if key ∈ m.keys then m.keys else m.keys ++ [key] :=
  Entries.map_fst_put key value m.entries

end OrderedMap

end SqlLayer
