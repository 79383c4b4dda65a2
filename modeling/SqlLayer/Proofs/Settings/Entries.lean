import SqlLayer.Proofs.OrderedMap
import SqlLayer.Proofs.Outcome
import SqlLayer.Proofs.Text.Decimal
import SqlLayer.Settings

/-!
# Settings from a list of entries

Keys may be repeated, come in any order, and one field has two keys.  A port that is none ends the
reading at once; whether there is a driver is looked at when all entries are read.

* `Settings.readPort?_eq_some_iff` — the texts that are ports;
* `Settings.Draft.read_draft`, `Settings.Draft.foldlM_read` — what **one entry** makes of a draft,
  and what all of them make of it;
* `Settings.ofEntries_cases` — the three ways in which reading can end;
* `Settings.Holds` — settings with **the last value of each key** and no other keys;
* `Settings.parameters_eq_iff` — what a driver receives: **every field as it is**, except the name
  of the driver and the table prefix;
* `Settings.EntriesRead`, `Settings.entries_read` — when entries are settings, which settings they
  are, and that their order does not count where no field is given twice.
-/

namespace SqlLayer.Settings

/-! ### Ports -/

/-- A text that writes a port: a numeral of it, with a plus sign before it or without one. -/
def WritesPort (value : String) (port : UInt16) : Prop :=
  ∃ digits, Text.Denotes digits port.toNat ∧
    (value.toList = digits ∨ value.toList = '+' :: digits)

/-- A text without a plus sign at its start. -/
def withoutPlus (value : String) : List Char :=
  match value.toList with
  | '+' :: rest => rest
  | digits => digits

theorem readPort?_eq (value : String) :
    readPort? value = if withoutPlus value ≠ [] ∧ Text.allDigits (withoutPlus value) ∧
        Text.decimal (withoutPlus value) < 65536 then
      some (UInt16.ofNat (Text.decimal (withoutPlus value))) else none := rfl

theorem toList_eq_withoutPlus (value : String) :
    value.toList = withoutPlus value ∨ value.toList = '+' :: withoutPlus value := by
  rw [withoutPlus]
  split
  · exact .inr ‹_›
  · exact .inl rfl

theorem withoutPlus_of_digits {value : String} {digits : List Char}
    (hdigits : ∀ c ∈ digits, c.isDigit = true)
    (hvalue : value.toList = digits ∨ value.toList = '+' :: digits) :
    withoutPlus value = digits := by
  obtain hvalue | hvalue := hvalue
  · cases digits with
    | nil => rw [withoutPlus, hvalue]
    | cons c rest =>
      have hplus : c ≠ '+' := by
        rintro rfl
        exact absurd (hdigits '+' List.mem_cons_self) (by decide)
      simp [withoutPlus, hvalue, hplus]
  · rw [withoutPlus, hvalue]
    rfl

/-- **What is read is the port that a text writes**, and no other text is read as one. -/
theorem readPort?_eq_some_iff {value : String} {port : UInt16} :
    readPort? value = some port ↔ WritesPort value port := by
  constructor
  · intro h
    rw [readPort?_eq, Option.ite_none_right_eq_some, Option.some.injEq] at h
    obtain ⟨⟨hne, hdigits, hlt⟩, rfl⟩ := h
    refine ⟨withoutPlus value, ?_, toList_eq_withoutPlus value⟩
    rw [UInt16.toNat_ofNat_of_lt' hlt]
    exact Text.denotes_decimal hne (List.all_eq_true.1 hdigits)
  · rintro ⟨digits, hdenotes, hvalue⟩
    have hdigits : Text.allDigits digits = true := List.all_eq_true.2 hdenotes.isDigit
    rw [readPort?_eq, withoutPlus_of_digits hdenotes.isDigit hvalue,
      if_pos ⟨hdenotes.ne_nil, hdigits, by rw [hdenotes.decimal_eq]; exact port.toNat_lt⟩,
      hdenotes.decimal_eq, UInt16.ofNat_toNat]

theorem readPort?_eq_none_iff {value : String} :
    readPort? value = none ↔ ¬ ∃ port, WritesPort value port := by
  rw [Option.eq_none_iff_forall_ne_some, not_exists]
  simp only [ne_eq, readPort?_eq_some_iff]

/-! ### The last value of a key -/

/-- The value of the last entry with one of these keys. -/
def lastOf? (keys : List String) (entries : List (String × String)) : Option String :=
  (entries.reverse.find? fun e => e.1 ∈ keys).map Prod.snd

/-- The keys of the fields. -/
def fieldKeys : List String :=
  ["type", "prefix", "table_prefix", "server", "username", "password", "database", "port"]

/-- The entries that are for the driver alone. -/
def extras (entries : List (String × String)) : List (String × String) :=
  entries.filter fun e => e.1 ∉ fieldKeys

theorem lastOf?_concat (keys : List String) (entries : List (String × String))
    (e : String × String) :
    lastOf? keys (entries ++ [e]) = if e.1 ∈ keys then some e.2 else lastOf? keys entries := by
  rw [lastOf?, List.reverse_append, List.reverse_singleton, List.singleton_append,
    List.find?_cons]
  by_cases hkey : e.1 ∈ keys
  · simp [hkey]
  · simp [hkey, lastOf?]

theorem mem_of_lastOf? {keys : List String} {entries : List (String × String)} {value : String}
    (h : lastOf? keys entries = some value) : ∃ key ∈ keys, (key, value) ∈ entries := by
  obtain ⟨e, hfind, rfl⟩ := Option.map_eq_some_iff.1 h
  exact ⟨e.1, by simpa using List.find?_some hfind,
    List.mem_reverse.1 (List.mem_of_find?_eq_some hfind)⟩

theorem isSome_lastOf? {keys : List String} {entries : List (String × String)} {key value : String}
    (hkey : key ∈ keys) (h : (key, value) ∈ entries) : (lastOf? keys entries).isSome = true := by
  rw [lastOf?, Option.isSome_map, List.find?_isSome]
  exact ⟨_, List.mem_reverse.2 h, by simpa using hkey⟩

theorem extras_concat (entries : List (String × String)) (e : String × String) :
    extras (entries ++ [e])
      = if e.1 ∈ fieldKeys then extras entries else extras entries ++ [e] := by
  rw [extras, List.filter_append, ← extras]
  by_cases hkey : e.1 ∈ fieldKeys <;> simp [hkey]

/-! ### Reading entries one by one -/

/-- The ports of a list of entries can all be read. -/
def PortsReadable (entries : List (String × String)) : Prop :=
  ∀ value, ("port", value) ∈ entries → ∃ port, WritesPort value port

/-- What entries with readable ports make of a draft without fields. -/
def draft (entries : List (String × String)) : Draft where
  driver := lastOf? ["type"] entries
  settings :=
    { driver := ""
      tablePrefix := (lastOf? ["prefix", "table_prefix"] entries).getD ""
      server := lastOf? ["server"] entries
      username := lastOf? ["username"] entries
      password := lastOf? ["password"] entries
      database := lastOf? ["database"] entries
      port := (lastOf? ["port"] entries).bind readPort?
      options := OrderedMap.ofList (extras entries) }

/-- **One more entry** is read into the draft of those before it. -/
theorem Draft.read_draft (entries : List (String × String)) {key value : String}
    (hport : key = "port" → ∃ port, WritesPort value port) :
    (draft entries).read key value = .ok (draft (entries ++ [(key, value)])) := by
  have hextras := extras_concat entries (key, value)
  by_cases hkey : key = "port"
  · obtain ⟨port, hvalue⟩ := hport hkey
    have hread := readPort?_eq_some_iff.2 hvalue
    subst hkey
    rw [if_pos (show "port" ∈ fieldKeys by decide)] at hextras
    simp [Draft.read, draft, lastOf?_concat, hextras, hread]
  · by_cases hfield : key ∈ fieldKeys
    · rw [if_pos hfield] at hextras
      simp only [fieldKeys, List.mem_cons, List.not_mem_nil, or_false, hkey] at hfield
      obtain rfl | rfl | rfl | rfl | rfl | rfl | rfl := hfield
      all_goals simp [Draft.read, draft, lastOf?_concat, hextras]
    · rw [if_neg hfield] at hextras
      simp only [fieldKeys, List.mem_cons, List.not_mem_nil, or_false, not_or] at hfield
      simp [Draft.read, draft, lastOf?_concat, hextras, hfield, setOption,
        OrderedMap.ofList_concat]

theorem Draft.foldlM_read {entries : List (String × String)} (h : PortsReadable entries) :
    entries.foldlM (fun (d : Draft) e => d.read e.1 e.2) ⟨none, new ""⟩
      = .ok (draft entries) := by
  induction entries using List.reverseRecOn with
  | nil => rfl
  | append_singleton entries e ih =>
    have hbefore : PortsReadable entries := fun value hvalue =>
      h value (List.mem_append_left _ hvalue)
    have hport : e.1 = "port" → ∃ port, WritesPort e.2 port := fun hkey =>
      h e.2 (List.mem_append_right _ (by rw [← hkey]; exact List.mem_singleton_self e))
    rw [List.foldlM_append, ih hbefore]
    show [e].foldlM (fun (d : Draft) e => d.read e.1 e.2) (draft entries) = _
    rw [List.foldlM_cons, Draft.read_draft entries hport]
    rfl

/-! ### The two ways to fail, and success -/

/-- The last entry of the driver is missing or empty. -/
def NoDriver (entries : List (String × String)) : Prop :=
  lastOf? ["type"] entries = none ∨ lastOf? ["type"] entries = some ""

theorem Draft.read_invalidPort (d : Draft) {value : String} (h : readPort? value = none) :
    d.read "port" value = .error (.invalidPort value) := by
  simp [Draft.read, h]

theorem ofEntries_of_invalidPort {before after : List (String × String)} {value : String}
    (hbefore : PortsReadable before) (hvalue : ¬ ∃ port, WritesPort value port) :
    ofEntries (before ++ ("port", value) :: after) = .error (.invalidPort value) := by
  have hrun : (before ++ ("port", value) :: after).foldlM
      (fun (d : Draft) e => d.read e.1 e.2) ⟨none, new ""⟩ = .error (.invalidPort value) := by
    rw [List.foldlM_append, Draft.foldlM_read hbefore]
    show (("port", value) :: after).foldlM (fun (d : Draft) e => d.read e.1 e.2) (draft before) = _
    rw [List.foldlM_cons, Draft.read_invalidPort _ (readPort?_eq_none_iff.2 hvalue)]
    rfl
  rw [ofEntries, hrun]
  rfl

theorem ofEntries_of_noDriver {entries : List (String × String)} (hports : PortsReadable entries)
    (hdriver : NoDriver entries) : ofEntries entries = .error .missingDriver := by
  have hdraft : (draft entries).driver = lastOf? ["type"] entries := rfl
  rw [ofEntries, Draft.foldlM_read hports]
  obtain hnone | hempty := hdriver
  · rw [hnone] at hdraft
    simp only [bind, Except.bind, hdraft]
  · rw [hempty] at hdraft
    simp only [bind, Except.bind, hdraft, if_pos]

theorem ofEntries_of_driver {entries : List (String × String)} {driver : String}
    (hports : PortsReadable entries) (hdriver : lastOf? ["type"] entries = some driver)
    (hne : driver ≠ "") :
    ofEntries entries = .ok { (draft entries).settings with driver } := by
  have hdraft : (draft entries).driver = some driver := hdriver
  rw [ofEntries, Draft.foldlM_read hports]
  simp only [bind, Except.bind, hdraft, if_neg hne]

/-- Entries without a driver, or with one that has a name. -/
theorem noDriver_or_exists (entries : List (String × String)) :
    NoDriver entries ∨ ∃ driver, lastOf? ["type"] entries = some driver ∧ driver ≠ "" := by
  cases hlast : lastOf? ["type"] entries with
  | none => exact .inl (.inl hlast)
  | some driver =>
    by_cases hempty : driver = ""
    · exact .inl (.inr (hempty ▸ hlast))
    · exact .inr ⟨driver, rfl, hempty⟩

/-- The first port that cannot be read. -/
theorem exists_invalidPort {entries : List (String × String)} (h : ¬ PortsReadable entries) :
    ∃ before value after, entries = before ++ ("port", value) :: after ∧ PortsReadable before ∧
      ¬ ∃ port, WritesPort value port := by
  induction entries with
  | nil => exact absurd (fun value hvalue => nomatch hvalue) h
  | cons e rest ih =>
    by_cases hbad : e.1 = "port" ∧ ¬ ∃ port, WritesPort e.2 port
    · exact ⟨[], e.2, rest, by rw [← hbad.1]; rfl, (fun _ hvalue => nomatch hvalue), hbad.2⟩
    · have hfirst : ∀ value, ("port", value) = e → ∃ port, WritesPort value port := by
        rintro value rfl
        exact not_not.1 fun hnot => hbad ⟨rfl, hnot⟩
      have hrest : ¬ PortsReadable rest := fun hrest => h fun value hvalue =>
        (List.mem_cons.1 hvalue).elim (hfirst value) (hrest value)
      obtain ⟨before, value, after, rfl, hbefore, hvalue⟩ := ih hrest
      refine ⟨e :: before, value, after, rfl, fun earlier hearlier => ?_, hvalue⟩
      exact (List.mem_cons.1 hearlier).elim (hfirst earlier) (hbefore earlier)

/-- **The ways in which reading can end**: at the first port that is none, without a driver behind
the last entry, or with settings. -/
theorem ofEntries_cases (entries : List (String × String)) :
    (∃ before value after, entries = before ++ ("port", value) :: after ∧
        (¬ ∃ port, WritesPort value port) ∧ ofEntries entries = .error (.invalidPort value)) ∨
      (PortsReadable entries ∧ NoDriver entries ∧ ofEntries entries = .error .missingDriver) ∨
      ∃ driver, PortsReadable entries ∧ lastOf? ["type"] entries = some driver ∧ driver ≠ "" ∧
        ofEntries entries = .ok { (draft entries).settings with driver } := by
  by_cases hports : PortsReadable entries
  · obtain hnone | ⟨driver, hdriver, hne⟩ := noDriver_or_exists entries
    · exact .inr (.inl ⟨hports, hnone, ofEntries_of_noDriver hports hnone⟩)
    · exact .inr (.inr ⟨driver, hports, hdriver, hne, ofEntries_of_driver hports hdriver hne⟩)
  · obtain ⟨before, value, after, rfl, hbefore, hvalue⟩ := exists_invalidPort hports
    exact .inl ⟨before, value, after, rfl, hvalue, ofEntries_of_invalidPort hbefore hvalue⟩

/-! ### What a driver receives -/

/-- Settings with the parameters of a driver, its name and a table prefix. -/
def ofParameters (p : Parameters) (driver tablePrefix : String) : Settings :=
  { driver, tablePrefix, server := p.server, username := p.username, password := p.password,
    database := p.database, port := p.port, options := p.options }

/-- **A driver receives the server, the username, the password, the database, the port and the
extras** as the settings have them, and nothing else of the settings. -/
theorem parameters_eq_iff {s : Settings} {p : Parameters} :
    s.parameters = p ↔ s = ofParameters p s.driver s.tablePrefix := by
  cases s
  cases p
  simp [parameters, ofParameters]

/-! ### What the settings hold -/

/-- Settings with the last value of each key: those of the fields, and apart from them the extras
in the order in which they first came. -/
structure Holds (entries : List (String × String)) (s : Settings) : Prop where
  driver : lastOf? ["type"] entries = some s.driver
  tablePrefix : s.tablePrefix = (lastOf? ["prefix", "table_prefix"] entries).getD ""
  server : s.server = lastOf? ["server"] entries
  username : s.username = lastOf? ["username"] entries
  password : s.password = lastOf? ["password"] entries
  database : s.database = lastOf? ["database"] entries
  port : Option.Rel WritesPort (lastOf? ["port"] entries) s.port
  keys : s.options.keys = ((entries.map Prod.fst).filter fun key => key ∉ fieldKeys).eraseDups
  extra : ∀ key ∉ fieldKeys, s.options.get? key = lastOf? [key] entries
  /-- No field is among the extras, and so the driver is told neither its name nor the prefix. -/
  reserved : ∀ key ∈ fieldKeys, key ∉ s.options.keys ∧ s.parameters.option? key = none

theorem get?_ofList_extras {key : String} (hkey : key ∉ fieldKeys)
    (entries : List (String × String)) :
    (OrderedMap.ofList (extras entries)).get? key = lastOf? [key] entries := by
  rw [OrderedMap.get?_ofList, extras, ← List.filter_reverse, List.find?_filter, lastOf?]
  congr 2
  funext e
  by_cases he : e.1 = key
  · simp [he, hkey]
  · simp [he]

theorem keys_ofList_extras (entries : List (String × String)) :
    (OrderedMap.ofList (extras entries)).keys
      = ((entries.map Prod.fst).filter fun key => key ∉ fieldKeys).eraseDups := by
  rw [OrderedMap.keys_ofList, extras, List.filter_map]
  rfl

theorem holds_draft {entries : List (String × String)} {driver : String}
    (hports : PortsReadable entries) (hdriver : lastOf? ["type"] entries = some driver) :
    Holds entries { (draft entries).settings with driver } where
  driver := hdriver
  tablePrefix := rfl
  server := rfl
  username := rfl
  password := rfl
  database := rfl
  port := by
    show Option.Rel WritesPort (lastOf? ["port"] entries)
      ((lastOf? ["port"] entries).bind readPort?)
    cases hlast : lastOf? ["port"] entries with
    | none => exact .none
    | some value =>
      obtain ⟨key, hkey, hvalue⟩ := mem_of_lastOf? hlast
      rw [List.mem_singleton.1 hkey] at hvalue
      obtain ⟨port, hport⟩ := hports value hvalue
      rw [Option.bind_some, readPort?_eq_some_iff.2 hport]
      exact .some hport
  keys := keys_ofList_extras entries
  extra key hkey := get?_ofList_extras hkey entries
  reserved key hkey := by
    have hnot : key ∉ (OrderedMap.ofList (extras entries)).keys := by
      rw [keys_ofList_extras, List.mem_eraseDups, List.mem_filter]
      exact fun h => absurd hkey (of_decide_eq_true h.2)
    exact ⟨hnot, OrderedMap.get?_eq_none_iff.2 hnot⟩

/-! ### The order of the entries -/

/-- The name of the field that a key is for. The table prefix has two keys. -/
def fieldName (key : String) : String := if key = "prefix" then "table_prefix" else key

/-- Two outcomes that count as equal: one error, or settings with the same fields and extras. -/
def SameOutcome (a b : Except SqlError Settings) : Prop :=
  (∃ e, a = .error e ∧ b = .error e) ∨ ∃ s t, a = .ok s ∧ b = .ok t ∧ s.same t = true

section

variable {entries other : List (String × String)}
  (hdistinct : (entries.map fun e => fieldName e.1).Nodup) (hperm : other.Perm entries)

include hdistinct in
/-- Where no field is given twice, every entry is the last one of its field. -/
theorem lastOf?_eq_some_iff {keys : List String} {value : String}
    (hkeys : ∀ key ∈ keys, ∀ key' ∈ keys, fieldName key = fieldName key') :
    lastOf? keys entries = some value ↔ ∃ key ∈ keys, (key, value) ∈ entries := by
  refine ⟨mem_of_lastOf?, fun ⟨key, hkey, hvalue⟩ => ?_⟩
  obtain ⟨value', hlast⟩ := Option.isSome_iff_exists.1 (isSome_lastOf? hkey hvalue)
  obtain ⟨key', hkey', hvalue'⟩ := mem_of_lastOf? hlast
  have hsame := List.inj_on_of_nodup_map hdistinct hvalue' hvalue (hkeys key' hkey' key hkey)
  rw [hlast, (Prod.mk.inj hsame).2]

include hdistinct hperm in
theorem lastOf?_perm {keys : List String}
    (hkeys : ∀ key ∈ keys, ∀ key' ∈ keys, fieldName key = fieldName key') :
    lastOf? keys other = lastOf? keys entries := by
  have hother : (other.map fun e => fieldName e.1).Nodup := (hperm.map _).nodup_iff.2 hdistinct
  refine Option.ext fun value => ?_
  rw [lastOf?_eq_some_iff hother hkeys, lastOf?_eq_some_iff hdistinct hkeys]
  simp only [hperm.mem_iff]

end

/-! ### The main statement -/

/-- When a list of entries is settings, and which. -/
structure EntriesRead (entries : List (String × String)) : Prop where
  fails_iff : (∃ e, ofEntries entries = .error e) ↔
    (∃ value, ("port", value) ∈ entries ∧ ¬ ∃ port, WritesPort value port) ∨ NoDriver entries
  /-- The first port that is none is reported, with or without a driver. -/
  invalidPort : ∀ before value after, entries = before ++ ("port", value) :: after →
    PortsReadable before → (¬ ∃ port, WritesPort value port) →
    ofEntries entries = .error (.invalidPort value)
  missingDriver : PortsReadable entries → NoDriver entries →
    ofEntries entries = .error .missingDriver
  holds : ∀ s, ofEntries entries = .ok s → Holds entries s
  /-- Entries of different fields may come in any order. -/
  reordered : ∀ other, other.Perm entries → (entries.map fun e => fieldName e.1).Nodup →
    SameOutcome (ofEntries other) (ofEntries entries)

theorem same_draft {entries other : List (String × String)} (driver : String)
    (hdistinct : (entries.map fun e => fieldName e.1).Nodup) (hperm : other.Perm entries) :
    Settings.same { (draft other).settings with driver } { (draft entries).settings with driver }
      = true := by
  have hlast : ∀ key, lastOf? [key] other = lastOf? [key] entries := fun key =>
    lastOf?_perm hdistinct hperm (by simp)
  have hprefix : lastOf? ["prefix", "table_prefix"] other
      = lastOf? ["prefix", "table_prefix"] entries := lastOf?_perm hdistinct hperm (by decide)
  have hextras : (OrderedMap.ofList (extras other)).sameEntries
      (OrderedMap.ofList (extras entries)) = true := by
    refine OrderedMap.sameEntries_iff.2 fun key => ?_
    by_cases hkey : key ∈ fieldKeys
    · have hnone : ∀ entries, (OrderedMap.ofList (extras entries)).get? key = none := by
        intro entries
        rw [OrderedMap.get?_eq_none_iff, keys_ofList_extras]
        simp [hkey]
      rw [hnone, hnone]
    · rw [get?_ofList_extras hkey, get?_ofList_extras hkey, hlast]
  rw [same, Bool.and_eq_true, beq_iff_eq]
  refine ⟨hextras, ?_⟩
  simp only [draft, hlast, hprefix]

theorem ofEntries_perm {entries other : List (String × String)}
    (hdistinct : (entries.map fun e => fieldName e.1).Nodup) (hperm : other.Perm entries) :
    SameOutcome (ofEntries other) (ofEntries entries) := by
  by_cases hports : PortsReadable entries
  · have hother : PortsReadable other := fun value hvalue => hports value (hperm.mem_iff.1 hvalue)
    have hlast : lastOf? ["type"] other = lastOf? ["type"] entries :=
      lastOf?_perm hdistinct hperm (by decide)
    obtain hnone | ⟨driver, hdriver, hne⟩ := noDriver_or_exists entries
    · have hnone' : NoDriver other := by rwa [NoDriver, hlast]
      exact .inl ⟨_, ofEntries_of_noDriver hother hnone', ofEntries_of_noDriver hports hnone⟩
    · exact .inr ⟨_, _, ofEntries_of_driver hother (hlast.trans hdriver) hne,
        ofEntries_of_driver hports hdriver hne, same_draft driver hdistinct hperm⟩
  · have hother : ¬ PortsReadable other := fun h =>
      hports fun value hvalue => h value (hperm.mem_iff.2 hvalue)
    obtain ⟨before, value, after, rfl, hbefore, hvalue⟩ := exists_invalidPort hports
    obtain ⟨before', value', after', rfl, hbefore', hvalue'⟩ := exists_invalidPort hother
    -- there is one port only
    have hsame : ("port", value') = ("port", value) :=
      List.inj_on_of_nodup_map hdistinct (hperm.mem_iff.1 (by simp)) (by simp) rfl
    obtain rfl : value' = value := (Prod.mk.inj hsame).2
    exact .inl ⟨_, ofEntries_of_invalidPort hbefore' hvalue,
      ofEntries_of_invalidPort hbefore hvalue⟩

/-- **Entries are settings** unless a port is none or the driver has no name; the settings hold the
last value of each key and nothing else. -/
theorem entries_read (entries : List (String × String)) : EntriesRead entries where
  fails_iff := by
    constructor
    · rintro ⟨e, he⟩
      obtain ⟨_, value, _, rfl, hvalue, -⟩ | ⟨-, hnone, -⟩ | ⟨driver, -, -, -, hok⟩ :=
        ofEntries_cases entries
      · exact .inl ⟨value, by simp, hvalue⟩
      · exact .inr hnone
      · exact nomatch he.symm.trans hok
    · intro h
      obtain ⟨_, _, _, -, -, herror⟩ | ⟨-, -, herror⟩ | ⟨driver, hports, hdriver, hne, -⟩ :=
        ofEntries_cases entries
      · exact ⟨_, herror⟩
      · exact ⟨_, herror⟩
      · obtain ⟨value, hmem, hvalue⟩ | hnone | hempty := h
        · exact absurd (hports value hmem) hvalue
        · exact nomatch hdriver.symm.trans hnone
        · exact absurd (Option.some.inj (hdriver.symm.trans hempty)) hne
  invalidPort := by
    rintro before value after rfl hbefore hvalue
    exact ofEntries_of_invalidPort hbefore hvalue
  missingDriver := ofEntries_of_noDriver
  holds s hs := by
    obtain ⟨_, _, _, -, -, herror⟩ | ⟨-, -, herror⟩ | ⟨driver, hports, hdriver, -, hok⟩ :=
      ofEntries_cases entries
    · exact nomatch hs.symm.trans herror
    · exact nomatch hs.symm.trans herror
    · obtain rfl := Except.ok.inj (hs.symm.trans hok)
      exact holds_draft hports hdriver
  reordered other hperm hdistinct := ofEntries_perm hdistinct hperm

/-- Both keys of the table prefix, and an extra that is given twice. -/
example : (ofEntries [("prefix", "a_"), ("x", "1"), ("type", "mysql"), ("table_prefix", "b_"),
    ("x", "2")]).map (fun s => (s.driver, s.tablePrefix, s.options.entries))
      = .ok ("mysql", "b_", [("x", "2")]) := by rfl

end SqlLayer.Settings
