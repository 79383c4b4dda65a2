import SqlLayer.Proofs.Connection.Bookkeeping
import SqlLayer.Proofs.Result.Persistence
import SqlLayer.Session

/-!
# The open results of a session

A session keeps its open results in slots, and a result leaves its slot on three ways: it is
released, it is dropped, or a new result takes its place.

* `Session.perm_place`, `Session.perm_of_result?` — what is in the slots, up to order;
* `Session.Orderly` — the books are in order, and **the results in the slots are those that are
  live**;
* `Session.Orderly.free`, `Session.Orderly.drop`, `Session.Orderly.dropAll` — a result that leaves
  its slot is released;
* `Session.Orderly.read` — whatever is done with a result, **it stays the one in its slot**;
* `Session.Orderly.openIn` — a new result takes the place of the one before, which is released.
-/

namespace SqlLayer.Session

variable {b : Books} {extra : List Handle} {s : Session} {slot : Nat} {r : OpenResult} {α : Type}

/-! ### Slots -/

/-- The slots are in strictly ascending order. -/
def Sorted (slots : List (Nat × OpenResult)) : Prop := (slots.map Prod.fst).Pairwise (· < ·)

/-- The handles of open results. -/
def handlesOf (slots : List (Nat × OpenResult)) : List Handle := slots.map fun e => e.2.handle

/-- Behind the first slot there are greater ones only. -/
theorem Sorted.lt_of_mem {n : Nat} {old : OpenResult} {rest : List (Nat × OpenResult)}
    (h : Sorted ((n, old) :: rest)) {e : Nat × OpenResult} (he : e ∈ rest) : n < e.1 :=
  (List.pairwise_cons.1 h).1 e.1 (List.mem_map_of_mem he)

theorem Sorted.tail {e : Nat × OpenResult} {rest : List (Nat × OpenResult)}
    (h : Sorted (e :: rest)) : Sorted rest := (List.pairwise_cons.1 h).2

theorem Sorted.filter {slots : List (Nat × OpenResult)} (h : Sorted slots)
    (keep : Nat × OpenResult → Bool) : Sorted (slots.filter keep) :=
  List.Pairwise.sublist (List.Sublist.map Prod.fst List.filter_sublist) h

/-- No slot is emptied where all are greater. -/
theorem filter_of_lt {slots : List (Nat × OpenResult)} (hlt : ∀ e ∈ slots, slot < e.1) :
    slots.filter (fun e => e.1 != slot) = slots := by
  rw [List.filter_eq_self]
  intro e he
  exact bne_iff_ne.2 (Nat.ne_of_gt (hlt e he))

/-- A result that is put into its place is in its slot, and the other slots are as before. -/
theorem perm_place {slots : List (Nat × OpenResult)} (h : Sorted slots) (slot : Nat)
    (r : OpenResult) :
    (place slot r slots).Perm ((slot, r) :: slots.filter fun e => e.1 != slot) := by
  induction slots with
  | nil => exact .refl _
  | cons e rest ih =>
    obtain ⟨n, old⟩ := e
    rw [place]
    by_cases heq : n = slot
    · subst heq
      rw [if_pos rfl, List.filter_cons_of_neg (by simp), filter_of_lt fun e he => h.lt_of_mem he]
    rw [if_neg heq, List.filter_cons_of_pos (by simpa using heq)]
    by_cases hlt : slot < n
    · rw [if_pos hlt, filter_of_lt fun e he => Nat.lt_trans hlt (h.lt_of_mem he)]
    · rw [if_neg hlt]
      exact ((ih h.tail).cons (n, old)).trans (.swap _ _ _)

theorem Sorted.place {slots : List (Nat × OpenResult)} (h : Sorted slots) (slot : Nat)
    (r : OpenResult) : Sorted (place slot r slots) := by
  induction slots with
  | nil => exact List.pairwise_singleton _ _
  | cons e rest ih =>
    obtain ⟨n, old⟩ := e
    rw [Session.place]
    by_cases heq : n = slot
    · subst heq
      rw [if_pos rfl]
      exact h
    rw [if_neg heq]
    by_cases hlt : slot < n
    · rw [if_pos hlt]
      refine List.pairwise_cons.2 ⟨fun k hk => ?_, h⟩
      obtain ⟨e, he, rfl⟩ := List.mem_map.1 hk
      rcases List.mem_cons.1 he with rfl | hrest
      · exact hlt
      · exact Nat.lt_trans hlt (h.lt_of_mem hrest)
    · rw [if_neg hlt]
      refine List.pairwise_cons.2 ⟨fun k hk => ?_, ih h.tail⟩
      obtain ⟨e, he, rfl⟩ := List.mem_map.1 hk
      rcases List.mem_cons.1 ((perm_place h.tail slot r).mem_iff.1 he) with rfl | hrest
      · show n < slot
        omega
      · exact h.lt_of_mem (List.mem_filter.1 hrest).1

/-- What is in the slots beside one of them. -/
theorem perm_of_result? (h : Sorted s.slots) (hr : s.result? slot = some r) :
    s.slots.Perm ((slot, r) :: s.slots.filter fun e => e.1 != slot) := by
  obtain ⟨connection, slots⟩ := s
  simp only [result?] at hr ⊢
  induction slots with
  | nil => cases hr
  | cons e rest ih =>
    obtain ⟨n, old⟩ := e
    by_cases heq : n = slot
    · subst heq
      rw [List.find?_cons_of_pos (by simp)] at hr
      rw [List.filter_cons_of_neg (by simp), filter_of_lt fun e he => h.lt_of_mem he]
      cases hr
      exact .refl _
    · rw [List.find?_cons_of_neg (by simpa using heq)] at hr
      rw [List.filter_cons_of_pos (by simpa using heq)]
      exact ((ih h.tail hr).cons (n, old)).trans (.swap _ _ _)

/-! ### Sessions in order -/

/-- The books of a session are in order. Live are the results in the slots, and those of `extra`,
which have no slot yet. -/
structure Orderly (b : Books) (extra : List Handle) (s : Session) : Prop where
  sorted : Sorted s.slots
  connection : s.connection.Orderly b (extra ++ handlesOf s.slots)

theorem Orderly.perm_handles (h : s.Orderly b extra) (hr : s.result? slot = some r) :
    (extra ++ handlesOf s.slots).Perm
      (r.handle :: (extra ++ handlesOf (s.slots.filter fun e => e.1 != slot))) :=
  (((perm_of_result? h.sorted hr).map _).append_left extra).trans List.perm_middle

/-! ### Leaving a slot -/

theorem free_snd (slot : Nat) (r : OpenResult) (s : Session) :
    (free slot r s).2 = ⟨(Connection.useDriver (Driver.free r.handle) s.connection).2,
      s.slots.filter fun e => e.1 != slot⟩ := rfl

/-- A result that is released. -/
theorem Orderly.free (h : s.Orderly b extra) (hr : s.result? slot = some r) :
    (Session.free slot r s).2.Orderly b extra := by
  rw [free_snd]
  exact ⟨h.sorted.filter _, (h.connection.perm (h.perm_handles hr)).free⟩

/-- A result that is dropped. -/
theorem Orderly.drop (h : s.Orderly b extra) (slot : Nat) : (s.drop slot).Orderly b extra := by
  rw [Session.drop]
  split
  · exact h.free ‹_›
  · exact h

theorem slots_drop (slot : Nat) (s : Session) :
    (s.drop slot).slots = s.slots.filter fun e => e.1 != slot := by
  rw [Session.drop]
  split
  · rfl
  · rename_i hnone
    rw [result?, Option.map_eq_none_iff, List.find?_eq_none] at hnone
    rw [eq_comm, List.filter_eq_self]
    intro e he
    simpa using hnone e he

theorem Orderly.drops (h : s.Orderly b extra) (slots : List Nat) :
    (slots.foldl (fun s slot => s.drop slot) s).Orderly b extra := by
  induction slots generalizing s with
  | nil => exact h
  | cons slot slots ih => exact ih (h.drop slot)

theorem slots_drops (slots : List Nat) (s : Session) :
    (slots.foldl (fun s slot => s.drop slot) s).slots
      = s.slots.filter fun e => !slots.contains e.1 := by
  induction slots generalizing s with
  | nil => simp
  | cons slot slots ih =>
    rw [List.foldl_cons, ih, slots_drop, List.filter_filter]
    congr 1
    funext e
    by_cases he : e.1 = slot <;> simp [he]

/-- **All results are dropped.** -/
theorem Orderly.dropAll (h : s.Orderly b extra) : s.dropAll.Orderly b extra :=
  h.drops (s.slots.map Prod.fst)

theorem slots_dropAll (s : Session) : s.dropAll.slots = [] := by
  rw [Session.dropAll, slots_drops, List.filter_eq_nil_iff]
  intro e he
  have hmem : e.1 ∈ s.slots.map Prod.fst := List.mem_map_of_mem he
  simpa using ⟨e.2, he⟩

/-! ### Reading a result -/

/-- Whatever is done with a result, it keeps what reading keeps. -/
theorem keeps_read {p : Reading AnyDriver → Prop} (hp : Reading.Persistent p)
    (command : ReadCommand) : Op.Keeps p (Session.read command) := by
  cases command with
  | item type => exact (hp.nextItem type.reader).map _
  | items type => exact (hp.remainingItems type.reader).map _
  | pairs key value => exact (hp.pairs key value).map _
  | field key => exact (hp.oneField key).map _
  | column key => exact (hp.column key).map _
  | seek row => exact (hp.seek row).map _
  | count => exact Reading.keeps_count.map _
  | changedRows => exact Reading.keeps_changedRows.map _
  | handle => exact Op.keeps_ask _
  | iterate type steps =>
    intro r hr
    have hstart := Cursor.reading_start (f := type.reader) hp hr
    show p (Session.iterate type steps r).2
    rw [Session.iterate]
    split <;> rename_i hform <;> rw [hform] at hstart
    · exact hstart.1
    · exact Cursor.reading_run hp steps (hstart.2 _ rfl)

/-- Reading a result of a connection in order. -/
theorem persistent_orderly {hs : List Handle} {k : Handle} (hk : k ∈ hs) :
    Reading.Persistent fun reading : Reading AnyDriver =>
      reading.connection.Orderly b hs ∧ reading.result.handle = k := by
  refine Reading.persistent_of_onResult (fun mode reading hreading => ?_)
    (fun row reading hreading => ?_) fun n reading hreading => hreading
  · exact ⟨hreading.1.fetch reading.result.handle mode, hreading.2⟩
  · exact ⟨hreading.1.seek (hreading.2 ▸ hk) row, hreading.2⟩

/-- **Whatever is done with a result**, it stays open in its slot. -/
theorem Orderly.read (h : s.Orderly b extra) (hr : s.result? slot = some r)
    (command : ReadCommand) :
    (Session.onResult slot r (Session.read command) s).2.Orderly b extra := by
  have hperm := h.perm_handles hr
  have hk : r.handle ∈ extra ++ handlesOf s.slots := hperm.mem_iff.2 (List.mem_cons_self ..)
  obtain ⟨hconnection, hhandle⟩ := keeps_read (persistent_orderly (b := b) hk) command
    ⟨s.connection, r⟩ ⟨h.connection, rfl⟩
  have hsnd : (Session.onResult slot r (Session.read command) s).2
      = ⟨(Session.read command ⟨s.connection, r⟩).2.connection,
          place slot (Session.read command ⟨s.connection, r⟩).2.result s.slots⟩ := rfl
  rw [hsnd]
  refine ⟨h.sorted.place slot _, hconnection.perm (hperm.trans ?_)⟩
  refine List.Perm.symm ((((perm_place h.sorted slot _).map _).append_left extra).trans ?_)
  exact List.perm_middle.trans (.of_eq (congrArg (· :: _) hhandle))

/-! ### Opening a result -/

theorem openIn_apply (slot : Nat) (statement : Op (Connection AnyDriver) Handle) (s : Session) :
    Session.openIn slot statement s =
      match statement s.connection with
      | (.ok k, c) =>
        (.ok (.new k), (({ s with connection := c } : Session).drop slot).put slot (.new k))
      | (.error e, c) => (.error e, { s with connection := c }) := by
  rw [Session.openIn, Op.bind_apply, Session.onConnection, Op.onPart]
  cases statement s.connection with
  | mk outcome c => cases outcome <;> rfl

/-- **A new result** takes the slot, and the one that was there is released. -/
theorem Orderly.openIn (h : s.Orderly b []) (b' : Handle → Books) (slot : Nat)
    {statement : Op (Connection AnyDriver) Handle}
    (hstatement : match statement s.connection with
      | (.ok k, c) => c.Orderly (b' k) (k :: handlesOf s.slots)
      | (.error _, c) => c.Orderly b (handlesOf s.slots)) :
    match Session.openIn slot statement s with
    | (.ok o, s') => s'.Orderly (b' o.handle) []
    | (.error _, s') => s'.Orderly b [] := by
  rw [openIn_apply]
  cases hform : statement s.connection with
  | mk outcome c =>
    rw [hform] at hstatement
    cases outcome with
    | error e => exact ⟨h.sorted, hstatement⟩
    | ok k =>
      have hextra : ({ s with connection := c } : Session).Orderly (b' k) [k] :=
        ⟨h.sorted, hstatement⟩
      have hdrop := hextra.drop slot
      have hslots : (({ s with connection := c } : Session).drop slot).slots
          = s.slots.filter fun e => e.1 != slot := slots_drop slot _
      refine ⟨hdrop.sorted.place slot _, hdrop.connection.perm ?_⟩
      refine List.Perm.symm (((perm_place hdrop.sorted slot _).map _).trans (.of_eq ?_))
      rw [hslots, List.filter_filter]
      simp [handlesOf, OpenResult.new]

end SqlLayer.Session
