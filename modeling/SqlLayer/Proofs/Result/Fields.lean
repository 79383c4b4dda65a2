import SqlLayer.Proofs.OrderedMap
import SqlLayer.Proofs.Result.Accessors
import SqlLayer.Proofs.Result.Draining

/-!
# Fields of the remaining rows

One field of the next row, a field of every remaining row, and the remaining rows as a map: all of
them are told from the rows that are left, as long as rows have one value for each column.

* `fieldOf?` — the field that a key names, where a name stands for **the last column** of that name;
* `Reading.Fetched` — so many rows were used up, by the driver and by the caller;
* `Reading.itemsUpTo_rows`, `Reading.cellsUpTo_of_cells` — the loops over the remaining rows;
* `Reading.ReadsFields`, `Reading.readsFields` — **what the three operations give and use up**.
-/

namespace SqlLayer

/-! ### Fields of one row -/

/-- The field that a key names: an ordinal counts the values, and a name stands for the last column
that has it. -/
def fieldOf? (columns : List String) (values : List Value) : ColumnKey → Option Value
  | .ordinal i => values[i]?
  | .name s => ((columns.zip values).reverse.find? fun column => column.1 = s).map Prod.snd

section

variable {columns : List String} {values : List Value}

theorem Row.lt_of_lastIndex? {s : String} {i : Nat} (h : Row.lastIndex? s columns = some i) :
    i < columns.length := by
  refine Nat.lt_of_not_le fun hle => ?_
  have hmem : s ∈ columns.drop columns.length := Row.mem_drop_iff.2 ⟨i, h, hle⟩
  rw [List.drop_length] at hmem
  exact nomatch hmem

/-- The last position of a name has the value of the last column of that name. -/
theorem Row.lastIndex?_bind (hfull : columns.length ≤ values.length) (s : String) :
    (Row.lastIndex? s columns).bind (fun i => values[i]?) = fieldOf? columns values (.name s) := by
  induction columns generalizing values with
  | nil => rfl
  | cons column rest ih =>
    cases values with
    | nil => exact absurd hfull (by simp)
    | cons v values =>
      have hle : rest.length ≤ values.length := Nat.le_of_succ_le_succ hfull
      have hrest := ih hle
      rw [fieldOf?] at hrest
      rw [fieldOf?, List.zip_cons_cons, List.reverse_cons, List.find?_append, Option.map_or,
        ← hrest, Row.lastIndex?]
      cases hlast : Row.lastIndex? s rest with
      | none => by_cases hs : column = s <;> simp [hs]
      | some i =>
        -- a later column of that name has a value, which counts
        have hi : i < values.length := Nat.lt_of_lt_of_le (Row.lt_of_lastIndex? hlast) hle
        simp [List.getElem?_eq_getElem hi]

/-- Whether there is such a field depends on the columns only. -/
theorem isSome_fieldOf? (hfull : values.length = columns.length) (key : ColumnKey) :
    (fieldOf? columns values key).isSome = match key with
      | .ordinal i => decide (i < columns.length)
      | .name s => decide (s ∈ columns) := by
  cases key with
  | ordinal i => by_cases hi : i < columns.length <;> simp [fieldOf?, hfull, hi]
  | name s =>
    have hnames : (columns.zip values).map Prod.fst = columns :=
      List.map_fst_zip (Nat.le_of_eq hfull.symm)
    rw [fieldOf?, Option.isSome_map, Bool.eq_iff_iff, List.find?_isSome, decide_eq_true_iff]
    conv_rhs => rw [← hnames, List.mem_map]
    simp only [List.mem_reverse, decide_eq_true_iff]

/-- In a row with one value for each column all ways to read a field agree. -/
theorem Row.accessorsAgree_of_full (hfull : values.length = columns.length) (key : ColumnKey) :
    Row.AccessorsAgree ⟨.byEither, columns, values⟩ key := by
  cases hindex : Row.indexOf? ⟨.byEither, columns, values⟩ key with
  | none => exact Row.accessorsAgree_of_none hindex
  | some i =>
    refine Row.accessorsAgree_of_some hindex (Nat.lt_of_not_le fun hpast => ?_)
    obtain ⟨s, -, -, hmem⟩ := Row.lacksValue_iff.2 ⟨i, hindex, hpast⟩
    rw [List.drop_eq_nil_of_le (Nat.le_of_eq hfull.symm)] at hmem
    exact nomatch hmem

theorem Row.get?_of_full (hfull : values.length = columns.length) (key : ColumnKey) :
    Row.get? ⟨.byEither, columns, values⟩ key = fieldOf? columns values key := by
  cases key with
  | ordinal i => by_cases hi : i < values.length <;>
      simp [Row.get?, Row.indexOf?, fieldOf?, Addressing.hasOrdinals, hi]
  | name s => exact Row.lastIndex?_bind (Nat.le_of_eq hfull.symm) s

theorem Row.pair_of_full (hfull : values.length = columns.length) (key value : ColumnKey) :
    Row.pair ⟨.byEither, columns, values⟩ key value
      = (((fieldOf? columns values key).map Value.display).getD "",
        (fieldOf? columns values value).getD .null) := by
  rw [Row.pair, Row.get?_of_full hfull, Row.get?_of_full hfull]

theorem Row.require_of_full (hfull : values.length = columns.length) (key : ColumnKey) :
    Row.require ⟨.byEither, columns, values⟩ key
      = if (fieldOf? columns values key).isSome then .ok ()
        else .error (.fieldNotFound key.display) := by
  rw [Row.require, (Row.accessorsAgree_of_full hfull key).contains, Row.get?_of_full hfull]

theorem Row.require_of_none (hfull : values.length = columns.length) {key : ColumnKey}
    (hfield : fieldOf? columns values key = none) :
    Row.require ⟨.byEither, columns, values⟩ key = .error (.fieldNotFound key.display) := by
  rw [Row.require_of_full hfull, hfield]
  rfl

theorem Row.require_of_some (hfull : values.length = columns.length) {key : ColumnKey} {v : Value}
    (hfield : fieldOf? columns values key = some v) :
    Row.require ⟨.byEither, columns, values⟩ key = .ok () := by
  rw [Row.require_of_full hfull, hfield]
  rfl

theorem Row.take_of_full (hfull : values.length = columns.length) {key : ColumnKey} {v : Value}
    (hfield : fieldOf? columns values key = some v) :
    Row.take ⟨.byEither, columns, values⟩ key = .value v := by
  rw [(Row.accessorsAgree_of_full hfull key).take, Row.get?_of_full hfull, hfield]

end

/-! ### The remaining rows -/

/-- Where every item has a counterpart, the items come from a list of counterparts. -/
theorem exists_map_eq_map {α β γ : Type} {f : α → γ} {g : β → γ} {l : List α}
    (h : ∀ a ∈ l, ∃ b, f a = g b) : ∃ bs : List β, l.map f = bs.map g := by
  induction l with
  | nil => exact ⟨[], rfl⟩
  | cons a rest ih =>
    obtain ⟨b, hb⟩ := h a List.mem_cons_self
    obtain ⟨bs, hbs⟩ := ih fun a' ha' => h a' (List.mem_cons_of_mem a ha')
    exact ⟨b :: bs, by rw [List.map_cons, List.map_cons, hb, hbs]⟩

namespace StoredResult

/-- The rows that are still to be fetched. -/
def remaining (s : StoredResult) : List (List Value) := s.rows.drop s.cursor

/-- The result after so many more rows. -/
def past (s : StoredResult) (n : Nat) : StoredResult := { s with cursor := s.cursor + n }

/-- The remaining rows have one value for each column. -/
def IsFull (s : StoredResult) : Prop :=
  ∀ values ∈ s.remaining, values.length = s.columns.length

variable {s : StoredResult}

theorem past_one_past (n : Nat) : (s.past 1).past n = s.past (n + 1) := by
  simp [past, Nat.add_assoc, Nat.add_comm 1]

theorem getElem?_of_remaining_nil (h : s.remaining = []) : s.rows[s.cursor]? = none := by
  rw [← List.head?_drop]
  exact congrArg List.head? h

theorem getElem?_of_remaining_cons {first : List Value} {rest : List (List Value)}
    (h : s.remaining = first :: rest) : s.rows[s.cursor]? = some first := by
  rw [← List.head?_drop]
  exact congrArg List.head? h

theorem remaining_past {first : List Value} {rest : List (List Value)}
    (h : s.remaining = first :: rest) : (s.past 1).remaining = rest := by
  have htail : s.remaining.tail = rest := congrArg List.tail h
  rw [← htail, remaining, remaining, List.tail_drop]
  rfl

theorem length_remaining_le (s : StoredResult) : s.remaining.length ≤ s.rows.length :=
  (List.drop_sublist _ _).length_le

end StoredResult

namespace Reading

variable {δ : Type} [Driver δ] [BufferedDriver δ]

/-- Between two readings of a stored result so many rows were used up, by the driver and by the
caller. -/
structure Fetched (s : StoredResult) (n : Nat) (r r' : Reading δ) : Prop where
  stored : r'.stored? = some (s.past n)
  rowNum : r'.result.rowNum = r.result.rowNum + n

variable {s : StoredResult} {r r₁ r₂ : Reading δ}

theorem Fetched.none (hstored : r.stored? = some s) : Fetched s 0 r r := ⟨hstored, rfl⟩

theorem Fetched.succ {n : Nat} (hfirst : Fetched s 1 r r₁) (hthen : Fetched (s.past 1) n r₁ r₂) :
    Fetched s (n + 1) r r₂ where
  stored := by rw [hthen.stored, StoredResult.past_one_past]
  rowNum := by rw [hthen.rowNum, hfirst.rowNum, Nat.add_assoc, Nat.add_comm 1]

/-- The next row of the remaining ones is used up. -/
theorem nextRow_of_remaining (hstored : r.stored? = some s) (mode : Addressing) {first : List Value}
    {rest : List (List Value)} (hrows : s.remaining = first :: rest) :
    ∃ r', nextRow mode r = (.ok (some ⟨mode, s.columns, first⟩), r') ∧ Fetched s 1 r r' := by
  obtain ⟨r', hnext, hstored', hnum⟩ :=
    nextRow_of_stored hstored mode (StoredResult.getElem?_of_remaining_cons hrows)
  exact ⟨r', hnext, hstored', hnum⟩

/-- **A loop over the remaining rows** gives them all and uses them up. -/
theorem itemsUpTo_rows (mode : Addressing) {limit : Nat} (hstored : r.stored? = some s)
    (hlimit : s.remaining.length < limit) :
    ∃ r', itemsUpTo (.rows mode) limit r = (.ok (s.remaining.map (Row.mk mode s.columns)), r') ∧
      Fetched s s.remaining.length r r' := by
  induction limit generalizing r s with
  | zero => exact absurd hlimit (Nat.not_lt_zero _)
  | succ limit ih =>
    cases hrows : s.remaining with
    | nil =>
      have hnext : nextRow (RowReader.rows mode).mode r = (.ok none, r) :=
        nextRow_of_stored_end hstored mode (StoredResult.getElem?_of_remaining_nil hrows)
      have hitem : nextItem (.rows mode) r = (.ok none, r) := Op.bind_of_ok hnext
      exact ⟨r, Op.bind_of_ok hitem, Fetched.none hstored⟩
    | cons first rest =>
      obtain ⟨r₁, hnext, hfetched⟩ := nextRow_of_remaining hstored mode hrows
      have hitem : nextItem (.rows mode) r = (.ok (some ⟨mode, s.columns, first⟩), r₁) :=
        Op.bind_of_ok hnext
      have hpast := StoredResult.remaining_past hrows
      rw [hrows, List.length_cons] at hlimit
      obtain ⟨r₂, hloop, hthen⟩ := ih hfetched.stored (by rw [hpast]; omega)
      rw [hpast] at hloop hthen
      refine ⟨r₂, ?_, hfetched.succ hthen⟩
      rw [itemsUpTo_of_some hitem, hloop]
      rfl

/-- **A loop over a field** gives the field of all remaining rows and uses them up, where none of
them ends before it. -/
theorem cellsUpTo_of_cells (key : ColumnKey) {limit : Nat} {cells : List Value}
    (hstored : r.stored? = some s) (hlimit : s.remaining.length < limit)
    (hcells : (s.remaining.map fun values => Row.cell? ⟨.byEither, s.columns, values⟩ key)
      = cells.map some) :
    ∃ r', cellsUpTo key limit r = (.ok (some cells), r') ∧ Fetched s s.remaining.length r r' := by
  induction limit generalizing r s cells with
  | zero => exact absurd hlimit (Nat.not_lt_zero _)
  | succ limit ih =>
    rw [cellsUpTo, Op.bind_apply]
    cases hrows : s.remaining with
    | nil =>
      rw [hrows] at hcells
      obtain rfl : cells = [] := List.map_eq_nil_iff.1 hcells.symm
      rw [nextRow_of_stored_end hstored _ (StoredResult.getElem?_of_remaining_nil hrows)]
      exact ⟨r, rfl, Fetched.none hstored⟩
    | cons first rest =>
      obtain ⟨r₁, hnext, hfetched⟩ := nextRow_of_remaining hstored .byEither hrows
      have hpast := StoredResult.remaining_past hrows
      rw [hrows, List.length_cons] at hlimit
      rw [hrows, List.map_cons] at hcells
      obtain ⟨v, cells, rfl, hcell, hrest⟩ := List.map_eq_cons_iff.1 hcells.symm
      obtain ⟨r₂, hloop, hthen⟩ :=
        ih hfetched.stored (by rw [hpast]; omega) (by rw [hpast]; exact hrest.symm)
      rw [hpast] at hthen
      refine ⟨r₂, ?_, hfetched.succ hthen⟩
      rw [hnext]
      simp only [← hcell]
      show ((fun rest => rest.map (v :: ·)) <$> cellsUpTo key limit) r₁ = _
      rw [Op.map_apply, hloop]
      rfl

/-! ### The operations -/

/-- A row of a stored result, addressed by name and by ordinal. -/
def rowOf (s : StoredResult) (values : List Value) : Row := ⟨.byEither, s.columns, values⟩

section

variable {first : List Value} {rest : List (List Value)} {key value : ColumnKey} {e : SqlError}

omit [Driver δ] [BufferedDriver δ] in
theorem require_apply {row : Row} {outcome : Except SqlError Unit}
    (h : row.require key = outcome) (r : Reading δ) :
    Op.ask (fun _ => row.require key) r = (outcome, r) := by
  rw [Op.ask_apply, h]

variable (hstored : r.stored? = some s) (hrows : s.remaining = first :: rest)
include hstored hrows

theorem oneField_of_remaining (key : ColumnKey) :
    ∃ r', oneField key r
        = (((rowOf s first).require key).map fun _ => (rowOf s first).take key, r') ∧
      Fetched s 1 r r' := by
  obtain ⟨r₁, hnext, hfetched⟩ := nextRow_of_remaining hstored .byEither hrows
  refine ⟨r₁, (Op.bind_of_ok hnext).trans ?_, hfetched⟩
  show (Op.ask (fun _ => (rowOf s first).require key) >>= fun _ =>
    pure ((rowOf s first).take key)) r₁ = _
  rw [Op.bind_apply, Op.ask_apply]
  cases (rowOf s first).require key <;> rfl

theorem column_of_lacking (hkey : (rowOf s first).require key = .error e) :
    ∃ r', column key r = (.error e, r') ∧ Fetched s 1 r r' := by
  obtain ⟨r₁, hnext, hfetched⟩ := nextRow_of_remaining hstored .byEither hrows
  exact ⟨r₁, (Op.bind_of_ok hnext).trans (Op.bind_of_error (require_apply hkey r₁)), hfetched⟩

theorem column_of_cells (hkey : (rowOf s first).require key = .ok ()) {cells : List Value}
    (hcells : (s.remaining.map fun values => (rowOf s values).cell? key) = cells.map some) :
    ∃ r', column key r = (.ok (some cells), r') ∧ Fetched s s.remaining.length r r' := by
  obtain ⟨r₁, hnext, hfetched⟩ := nextRow_of_remaining hstored .byEither hrows
  have hpast := StoredResult.remaining_past hrows
  rw [hrows, List.map_cons] at hcells
  obtain ⟨v, cells, rfl, hcell, hrest⟩ := List.map_eq_cons_iff.1 hcells.symm
  have hroom : (s.past 1).remaining.length < r₁.rowBound + 1 := by
    rw [rowBound_of_stored hfetched.stored]
    exact Nat.lt_succ_of_le (StoredResult.length_remaining_le _)
  obtain ⟨r₂, hloop, hthen⟩ :=
    cellsUpTo_of_cells key hfetched.stored hroom (by rw [hpast]; exact hrest.symm)
  rw [hpast] at hthen
  have hcell : Row.cell? ⟨.byEither, s.columns, first⟩ key = some v := hcell.symm
  refine ⟨r₂, (Op.bind_of_ok hnext).trans ((Op.bind_of_ok (require_apply hkey r₁)).trans ?_), ?_⟩
  · simp only [hcell]
    show ((fun rest => rest.map (v :: ·)) <$> cellsUpTo key (r₁.rowBound + 1)) r₁ = _
    rw [Op.map_apply, hloop]
    rfl
  · rw [hrows]
    exact hfetched.succ hthen

theorem pairs_of_lacking_key (hkey : (rowOf s first).require key = .error e) :
    ∃ r', pairs key value r = (.error e, r') ∧ Fetched s 1 r r' := by
  obtain ⟨r₁, hnext, hfetched⟩ := nextRow_of_remaining hstored .byEither hrows
  exact ⟨r₁, (Op.bind_of_ok hnext).trans (Op.bind_of_error (require_apply hkey r₁)), hfetched⟩

theorem pairs_of_lacking_value (hkey : (rowOf s first).require key = .ok ())
    (hvalue : (rowOf s first).require value = .error e) :
    ∃ r', pairs key value r = (.error e, r') ∧ Fetched s 1 r r' := by
  obtain ⟨r₁, hnext, hfetched⟩ := nextRow_of_remaining hstored .byEither hrows
  refine ⟨r₁, (Op.bind_of_ok hnext).trans ((Op.bind_of_ok (require_apply hkey r₁)).trans ?_),
    hfetched⟩
  exact Op.bind_of_error (require_apply hvalue r₁)

theorem pairs_of_rows (hkey : (rowOf s first).require key = .ok ())
    (hvalue : (rowOf s first).require value = .ok ()) :
    ∃ r', pairs key value r
        = (.ok (OrderedMap.ofList (s.remaining.map fun values => (rowOf s values).pair key value)),
          r') ∧
      Fetched s s.remaining.length r r' := by
  obtain ⟨r₁, hnext, hfetched⟩ := nextRow_of_remaining hstored .byEither hrows
  have hpast := StoredResult.remaining_past hrows
  have hroom : (s.past 1).remaining.length < r₁.rowBound + 1 := by
    rw [rowBound_of_stored hfetched.stored]
    exact Nat.lt_succ_of_le (StoredResult.length_remaining_le _)
  obtain ⟨r₂, hloop, hthen⟩ := itemsUpTo_rows .byEither hfetched.stored hroom
  rw [hpast] at hloop hthen
  refine ⟨r₂, (Op.bind_of_ok hnext).trans ((Op.bind_of_ok (require_apply hkey r₁)).trans
    ((Op.bind_of_ok (require_apply hvalue r₁)).trans ((Op.bind_of_ok hloop).trans ?_))), ?_⟩
  · rw [hrows, List.map_cons, List.map_map]
    rfl
  · rw [hrows]
    exact hfetched.succ hthen

end

/-- What a field of the next row, a field of the remaining rows, and the remaining rows as a map
are, and which rows are used up. -/
structure ReadsFields (s : StoredResult) (r : Reading δ) : Prop where
  /-- At the end there is nothing, and nothing happens. -/
  oneAtEnd : s.remaining = [] → ∀ key, oneField key r = (.ok .absent, r)
  columnAtEnd : s.remaining = [] → ∀ key, column key r = (.ok (some []), r)
  pairsAtEnd : s.remaining = [] → ∀ key value, pairs key value r = (.ok .empty, r)
  /-- A field that the next row lacks is an error, and that row is used up. -/
  oneLacking : ∀ first rest key, s.remaining = first :: rest →
    fieldOf? s.columns first key = none →
      ∃ r', oneField key r = (.error (.fieldNotFound key.display), r') ∧ Fetched s 1 r r'
  columnLacking : ∀ first rest key, s.remaining = first :: rest →
    fieldOf? s.columns first key = none →
      ∃ r', column key r = (.error (.fieldNotFound key.display), r') ∧ Fetched s 1 r r'
  /-- Of two fields that it lacks, the one for the keys is reported. -/
  pairsLackingKey : ∀ first rest key value, s.remaining = first :: rest →
    fieldOf? s.columns first key = none →
      ∃ r', pairs key value r = (.error (.fieldNotFound key.display), r') ∧ Fetched s 1 r r'
  pairsLackingValue : ∀ first rest key value, s.remaining = first :: rest →
    fieldOf? s.columns first key ≠ none → fieldOf? s.columns first value = none →
      ∃ r', pairs key value r = (.error (.fieldNotFound value.display), r') ∧ Fetched s 1 r r'
  /-- One field is that of the next row. -/
  one : ∀ first rest key v, s.remaining = first :: rest → fieldOf? s.columns first key = some v →
    ∃ r', oneField key r = (.ok (.value v), r') ∧ Fetched s 1 r r'
  /-- A field that the next row has, all remaining rows have, and they give it in their order. -/
  column : ∀ first rest key, s.remaining = first :: rest → fieldOf? s.columns first key ≠ none →
    ∃ cells r', (s.remaining.map fun values => fieldOf? s.columns values key) = cells.map some ∧
      column key r = (.ok (some cells), r') ∧ Fetched s s.remaining.length r r'
  /-- As a map they have the texts of one field in the order in which they first come, each with the
  other field of the last row that has it. -/
  pairs : ∀ first rest key value, s.remaining = first :: rest →
    fieldOf? s.columns first key ≠ none → fieldOf? s.columns first value ≠ none →
      ∃ (entries : List (Value × Value)) (m : OrderedMap Value) (r' : Reading δ),
        (s.remaining.map fun values =>
            (fieldOf? s.columns values key, fieldOf? s.columns values value))
          = entries.map (fun e => (some e.1, some e.2)) ∧
        pairs key value r = (.ok m, r') ∧
        m.keys = (entries.map fun e => e.1.display).eraseDups ∧
        (∀ text, m.get? text = (entries.reverse.find? fun e => e.1.display = text).map Prod.snd) ∧
        Fetched s s.remaining.length r r'

/-- A field that one full row has, all of them have. -/
theorem exists_field_of_mem (hfull : s.IsFull) {first : List Value} {rest : List (List Value)}
    {key : ColumnKey} (hrows : s.remaining = first :: rest)
    (hfield : fieldOf? s.columns first key ≠ none) {values : List Value}
    (hvalues : values ∈ s.remaining) : ∃ v, fieldOf? s.columns values key = some v := by
  have hfirst : first.length = s.columns.length :=
    hfull first (by rw [hrows]; exact List.mem_cons_self)
  rw [← Option.isSome_iff_exists, isSome_fieldOf? (hfull values hvalues), ← isSome_fieldOf? hfirst]
  exact Option.isSome_iff_ne_none.2 hfield

/-- **Fields are told from the remaining rows**, wherever a result stands whose remaining rows have
one value for each column. -/
theorem readsFields (hstored : r.stored? = some s) (hfull : s.IsFull) : ReadsFields s r where
  oneAtEnd hrows key := Op.bind_of_ok
    (nextRow_of_stored_end hstored _ (StoredResult.getElem?_of_remaining_nil hrows))
  columnAtEnd hrows key := Op.bind_of_ok
    (nextRow_of_stored_end hstored _ (StoredResult.getElem?_of_remaining_nil hrows))
  pairsAtEnd hrows key value := Op.bind_of_ok
    (nextRow_of_stored_end hstored _ (StoredResult.getElem?_of_remaining_nil hrows))
  oneLacking first rest key hrows hfield := by
    obtain ⟨r', hform, hfetched⟩ := oneField_of_remaining hstored hrows key
    have hfirst := hfull first (by rw [hrows]; exact List.mem_cons_self)
    rw [rowOf, Row.require_of_none hfirst hfield] at hform
    exact ⟨r', hform, hfetched⟩
  columnLacking first rest key hrows hfield := by
    have hfirst := hfull first (by rw [hrows]; exact List.mem_cons_self)
    exact column_of_lacking hstored hrows (Row.require_of_none hfirst hfield)
  pairsLackingKey first rest key value hrows hfield := by
    have hfirst := hfull first (by rw [hrows]; exact List.mem_cons_self)
    exact pairs_of_lacking_key hstored hrows (Row.require_of_none hfirst hfield)
  pairsLackingValue first rest key value hrows hkey hvalue := by
    have hfirst := hfull first (by rw [hrows]; exact List.mem_cons_self)
    obtain ⟨k, hkey⟩ := Option.ne_none_iff_exists'.1 hkey
    exact pairs_of_lacking_value hstored hrows (Row.require_of_some hfirst hkey)
      (Row.require_of_none hfirst hvalue)
  one first rest key v hrows hfield := by
    obtain ⟨r', hform, hfetched⟩ := oneField_of_remaining hstored hrows key
    have hfirst := hfull first (by rw [hrows]; exact List.mem_cons_self)
    rw [rowOf, Row.require_of_some hfirst hfield, Row.take_of_full hfirst hfield] at hform
    exact ⟨r', hform, hfetched⟩
  column first rest key hrows hfield := by
    have hfirst := hfull first (by rw [hrows]; exact List.mem_cons_self)
    obtain ⟨v, hv⟩ := Option.ne_none_iff_exists'.1 hfield
    obtain ⟨cells, hcells⟩ := exists_map_eq_map (g := some) fun values hvalues =>
      exists_field_of_mem hfull hrows hfield hvalues
    have htaken : (s.remaining.map fun values => (rowOf s values).cell? key) = cells.map some := by
      rw [← hcells]
      refine List.map_congr_left fun values hvalues => ?_
      obtain ⟨v, hv⟩ := exists_field_of_mem hfull hrows hfield hvalues
      rw [Row.cell?, rowOf, Row.take_of_full (hfull values hvalues) hv, hv]
    obtain ⟨r', hform, hfetched⟩ :=
      column_of_cells hstored hrows (Row.require_of_some hfirst hv) htaken
    exact ⟨cells, r', hcells, hform, hfetched⟩
  pairs first rest key value hrows hkey hvalue := by
    have hfirst := hfull first (by rw [hrows]; exact List.mem_cons_self)
    obtain ⟨k, hk⟩ := Option.ne_none_iff_exists'.1 hkey
    obtain ⟨v, hv⟩ := Option.ne_none_iff_exists'.1 hvalue
    obtain ⟨entries, hentries⟩ := exists_map_eq_map (l := s.remaining)
      (f := fun values => (fieldOf? s.columns values key, fieldOf? s.columns values value))
      (g := fun e : Value × Value => (some e.1, some e.2)) fun values hvalues => by
        obtain ⟨k, hk⟩ := exists_field_of_mem hfull hrows hkey hvalues
        obtain ⟨v, hv⟩ := exists_field_of_mem hfull hrows hvalue hvalues
        exact ⟨(k, v), by rw [hk, hv]⟩
    have hpairs : (s.remaining.map fun values => (rowOf s values).pair key value)
        = entries.map fun e => (e.1.display, e.2) := by
      have htexts := congrArg (List.map fun fields : Option Value × Option Value =>
        ((fields.1.map Value.display).getD "", fields.2.getD .null)) hentries
      rw [List.map_map, List.map_map] at htexts
      exact (List.map_congr_left fun values hvalues =>
        Row.pair_of_full (hfull values hvalues) key value).trans htexts
    obtain ⟨r', hform, hfetched⟩ := pairs_of_rows hstored hrows
      (Row.require_of_some hfirst hk) (Row.require_of_some hfirst hv)
    rw [hpairs] at hform
    refine ⟨entries, _, r', hentries, hform, ?_, fun text => ?_, hfetched⟩
    · rw [OrderedMap.keys_ofList, List.map_map]
      rfl
    · rw [OrderedMap.get?_ofList, ← List.map_reverse, List.find?_map, Option.map_map]
      rfl

/-- Two columns have one name, and two keys of different kinds have one text: the last column is
read, and the text keeps its first place and takes its last row's value. -/
theorem readsFields_colliding :
    let answer : StoredResult := .new ["k", "v", "k"]
      [[.null, .int 1, .int 7], [.null, .int 2, .text "x"], [.null, .int 3, .text "7"]] 0
    let asked := Recorder.execute "SELECT k" (Recorder.new ⟨[answer], [], false, false, 0⟩)
    let r : Reading Recorder :=
      ⟨{ Connection.new Registry.empty with slot := some asked.2 }, .new ⟨1⟩⟩
    r.stored? = some answer ∧ answer.IsFull ∧
      (∃ r', oneField (.name "k") r = (.ok (.value (.int 7)), r') ∧ Fetched answer 1 r r') ∧
      (∃ r', oneField (.ordinal 3) r = (.error (.fieldNotFound "3"), r') ∧ Fetched answer 1 r r') ∧
      ((pairs (.name "k") (.name "v") r).1.map fun m => (m.keys, m.get? "7"))
        = .ok (["7", "x"], some (.int 3)) := by
  intro answer asked r
  have hstored : r.stored? = some answer := by rfl
  have hfull : answer.IsFull := by
    show ∀ values ∈ answer.remaining, values.length = answer.columns.length
    decide
  have hreads : ReadsFields answer r := readsFields hstored hfull
  exact ⟨hstored, hfull, hreads.one _ _ (.name "k") (.int 7) rfl (by decide),
    hreads.oneLacking _ _ (.ordinal 3) rfl rfl, by decide⟩

end Reading

end SqlLayer
