import SqlLayer.Driver.Recording
import SqlLayer.Proofs.Numeral.Longest

/-!
# Statements on transactions and savepoints

A savepoint name stands in a statement without quotes.  Names are checked in three steps (there is
one, its characters, its first character), which together are the grammar `[A-Za-z_][A-Za-z0-9_]*`.
A statement is one to four words with single blanks between them, and so **no name can make a
statement into another one**.

* `savepointNames`, `savepointFault?_eq_none_iff` — the grammar, and that the checks are
  the grammar;
* `TransactionStep.words`, `TransactionStep.statement_eq_ok_iff` — the words of a statement;
* `TransactionStep.ofStatement?` — operation and savepoint **read back from a statement**;
* `Recorder.transaction_of_isSavepointName`, `Recorder.transaction_of_refused` — the recording
  driver checks the same names by itself;
* `TransactionStep.StatementRule`, `TransactionStep.statement_rule` — all of it, for every operation
  and every savepoint.
-/

namespace SqlLayer

open Computability Numeral

/-! ### Savepoint names -/

/-- An ASCII letter or an underscore. -/
def startsSavepoint (c : Char) : Bool :=
  ('A'.toNat ≤ c.toNat ∧ c.toNat ≤ 'Z'.toNat) ∨ ('a'.toNat ≤ c.toNat ∧ c.toNat ≤ 'z'.toNat) ∨
    c = '_'

/-- An ASCII letter, an underscore or an ASCII digit. -/
def continuesSavepoint (c : Char) : Bool :=
  startsSavepoint c ∨ ('0'.toNat ≤ c.toNat ∧ c.toNat ≤ '9'.toNat)

/-- The names `[A-Za-z_][A-Za-z0-9_]*`. -/
def savepointNames : Language Char := oneOf startsSavepoint * (oneOf continuesSavepoint)∗

/-- A savepoint is absent or has a name of the grammar. -/
def IsSavepointName (savepoint : Option String) : Prop :=
  ∀ name ∈ savepoint, name.toList ∈ savepointNames

theorem mem_savepointNames {s : List Char} :
    s ∈ savepointNames ↔ ∃ first rest, s = first :: rest ∧ startsSavepoint first = true ∧
      ∀ c ∈ rest, continuesSavepoint c = true := by
  rw [savepointNames, Language.mem_mul]
  constructor
  · rintro ⟨_, ⟨first, hfirst, rfl⟩, rest, hrest, rfl⟩
    exact ⟨first, rest, rfl, hfirst, mem_oneOf_star.1 hrest⟩
  · rintro ⟨first, rest, rfl, hfirst, hrest⟩
    exact ⟨[first], ⟨first, hfirst, rfl⟩, rest, mem_oneOf_star.2 hrest, rfl⟩

theorem isSavepointChar_eq (c : Char) : isSavepointChar c = continuesSavepoint c := by
  have hupper : c.isUpper = true ↔ 'A'.toNat ≤ c.toNat ∧ c.toNat ≤ 'Z'.toNat := by
    delta Char.isUpper
    simp [UInt32.le_iff_toNat_le]
  have hlower : c.isLower = true ↔ 'a'.toNat ≤ c.toNat ∧ c.toNat ≤ 'z'.toNat := by
    delta Char.isLower
    simp [UInt32.le_iff_toNat_le]
  show (c.isUpper || c.isLower || c.isDigit || c == '_') = continuesSavepoint c
  rw [Bool.eq_iff_iff]
  simp only [continuesSavepoint, startsSavepoint, Bool.or_eq_true, decide_eq_true_eq, beq_iff_eq,
    hupper, hlower, Char.isDigit_iff_toNat]
  grind

/-- The characters that start a name are those of names without the digits. -/
theorem startsSavepoint_iff {c : Char} :
    startsSavepoint c = true ↔ continuesSavepoint c = true ∧ c.isDigit = false := by
  have hdisjoint : startsSavepoint c = true → ¬ ('0'.toNat ≤ c.toNat ∧ c.toNat ≤ '9'.toNat) := by
    simp only [startsSavepoint, decide_eq_true_eq]
    rintro (⟨hlow, -⟩ | ⟨hlow, -⟩ | rfl) ⟨-, hdigit⟩
    · exact absurd (Nat.le_trans hlow hdigit) (by decide)
    · exact absurd (Nat.le_trans hlow hdigit) (by decide)
    · exact absurd hdigit (by decide)
  rw [continuesSavepoint, decide_eq_true_iff, ← Bool.not_eq_true, Char.isDigit_iff_toNat]
  constructor
  · intro h
    exact ⟨.inl h, hdisjoint h⟩
  · rintro ⟨h | h, hnot⟩
    · exact h
    · exact absurd h hnot

/-- **The checks are the grammar.** -/
theorem savepointFault?_eq_none_iff {name : String} :
    savepointFault? name = none ↔ name.toList ∈ savepointNames := by
  rw [savepointFault?, mem_savepointNames]
  cases name.toList with
  | nil => simp
  | cons first rest =>
    have hchars : (first :: rest).all isSavepointChar = true ↔
        continuesSavepoint first = true ∧ ∀ c ∈ rest, continuesSavepoint c = true := by
      rw [List.all_eq_true, List.forall_mem_cons]
      simp only [isSavepointChar_eq]
    have hname : (∃ first' rest', first :: rest = first' :: rest' ∧ startsSavepoint first' = true ∧
        ∀ c ∈ rest', continuesSavepoint c = true) ↔
          (first :: rest).all isSavepointChar = true ∧ first.isDigit = false := by
      rw [hchars]
      constructor
      · rintro ⟨_, _, heq, hfirst, hrest⟩
        obtain ⟨rfl, rfl⟩ := List.cons.inj heq
        obtain ⟨hfirst, hdigit⟩ := startsSavepoint_iff.1 hfirst
        exact ⟨⟨hfirst, hrest⟩, hdigit⟩
      · rintro ⟨⟨hfirst, hrest⟩, hdigit⟩
        exact ⟨first, rest, rfl, startsSavepoint_iff.2 ⟨hfirst, hdigit⟩, hrest⟩
    rw [hname]
    show (if (!(first :: rest).all isSavepointChar) = true then
        some (SavepointFault.invalidCharacter name)
      else if first.isDigit = true then some (SavepointFault.leadingDigit name)
      else none) = none ↔ _
    cases (first :: rest).all isSavepointChar <;> cases first.isDigit <;> simp

theorem checkSavepoint_of_mem {name : String} (h : name.toList ∈ savepointNames) :
    checkSavepoint name = .ok () := by
  rw [checkSavepoint, savepointFault?_eq_none_iff.2 h]

theorem checkSavepoint_of_not_mem {name : String} (h : name.toList ∉ savepointNames) :
    ∃ reason, checkSavepoint name = .error (.usage reason) := by
  obtain ⟨fault, hfault⟩ := Option.ne_none_iff_exists'.1 (mt savepointFault?_eq_none_iff.1 h)
  exact ⟨fault.message, by rw [checkSavepoint, hfault]⟩

theorem exists_checkSavepoint_eq_error {savepoint : Option String}
    (h : ¬ IsSavepointName savepoint) :
    ∃ reason, savepoint.map checkSavepoint = some (.error (.usage reason)) := by
  cases savepoint with
  | none => exact absurd (fun name hname => nomatch hname) h
  | some name =>
    obtain ⟨reason, hreason⟩ := checkSavepoint_of_not_mem fun hname =>
      h fun _ heq => Option.some.inj heq ▸ hname
    exact ⟨reason, congrArg some hreason⟩

/-! ### The words of a statement -/

namespace TransactionStep

/-- The words of a statement. -/
def words : TransactionStep → Option String → List String
  | .begin, none => ["BEGIN"]
  | .commit, none => ["COMMIT"]
  | .rollback, none => ["ROLLBACK"]
  | .begin, some name => ["SAVEPOINT", name]
  | .commit, some name => ["RELEASE", "SAVEPOINT", name]
  | .rollback, some name => ["ROLLBACK", "TO", "SAVEPOINT", name]

/-- The operation and the savepoint that words are about. -/
def ofWords? : List String → Option (TransactionStep × Option String)
  | ["BEGIN"] => some (.begin, none)
  | ["COMMIT"] => some (.commit, none)
  | ["ROLLBACK"] => some (.rollback, none)
  | ["SAVEPOINT", name] => some (.begin, some name)
  | ["RELEASE", "SAVEPOINT", name] => some (.commit, some name)
  | ["ROLLBACK", "TO", "SAVEPOINT", name] => some (.rollback, some name)
  | _ => none

/-- The operation and the savepoint that a statement is about. -/
def ofStatement? (text : String) : Option (TransactionStep × Option String) :=
  ofWords? ((text.toList.splitOn ' ').map String.ofList)

variable {op : TransactionStep} {savepoint : Option String} {text : String}

theorem ofWords?_words (op : TransactionStep) (savepoint : Option String) :
    ofWords? (op.words savepoint) = some (op, savepoint) := by
  cases savepoint <;> cases op <;> rfl

theorem words_ne_nil (op : TransactionStep) (savepoint : Option String) :
    op.words savepoint ≠ [] := by
  cases savepoint <;> cases op <;> exact List.cons_ne_nil _ _

/-- The words that stand in statements by themselves. -/
def keywords : List String := ["BEGIN", "COMMIT", "ROLLBACK", "SAVEPOINT", "RELEASE", "TO"]

theorem mem_keywords_or_eq {word : String} (h : word ∈ op.words savepoint) :
    word ∈ keywords ∨ savepoint = some word := by
  cases savepoint with
  | none =>
    left
    cases op <;> rw [List.mem_singleton.1 h] <;> decide
  | some name => cases op <;> simp only [words, keywords, List.mem_cons, List.not_mem_nil,
      Option.some.injEq, or_false] at h ⊢ <;> tauto

/-- No blank stands in a word. -/
theorem word_of_mem_words (hname : IsSavepointName savepoint) {word : String}
    (h : word ∈ op.words savepoint) :
    word.toList ≠ [] ∧ ∀ c ∈ word.toList, continuesSavepoint c = true := by
  have hkeywords : ∀ word ∈ keywords,
      word.toList ≠ [] ∧ word.toList.all continuesSavepoint = true := by decide
  obtain hkeyword | rfl := mem_keywords_or_eq h
  · obtain ⟨hne, hchars⟩ := hkeywords word hkeyword
    exact ⟨hne, List.all_eq_true.1 hchars⟩
  · obtain ⟨first, rest, heq, hfirst, hrest⟩ := mem_savepointNames.1 (hname word rfl)
    rw [heq]
    refine ⟨List.cons_ne_nil _ _, List.forall_mem_cons.2 ⟨?_, hrest⟩⟩
    exact (startsSavepoint_iff.1 hfirst).1

theorem intercalate_words_none (op : TransactionStep) :
    " ".intercalate (op.words none) = op.plainStatement := by
  cases op <;> rfl

theorem intercalate_words_some (op : TransactionStep) (name : String) :
    " ".intercalate (op.words (some name)) = op.savepointWords ++ name := by
  rw [← String.toList_inj, String.toList_intercalate, String.toList_append]
  cases op <;> simp [words, savepointWords, List.intercalate]

/-- **A statement is its words with blanks between them**, if the savepoint has a name. -/
theorem statement_eq_ok_iff : op.statement savepoint = .ok text ↔
    IsSavepointName savepoint ∧ text = " ".intercalate (op.words savepoint) := by
  cases savepoint with
  | none =>
    have hname : IsSavepointName none := fun name hname => nomatch hname
    rw [statement, intercalate_words_none, Except.ok.injEq, eq_comm]
    exact ⟨fun h => ⟨hname, h⟩, And.right⟩
  | some name =>
    rw [statement, intercalate_words_some]
    by_cases hname : name.toList ∈ savepointNames
    · rw [checkSavepoint_of_mem hname, Except.map, Except.ok.injEq, eq_comm]
      exact ⟨fun h => ⟨fun _ heq => Option.some.inj heq ▸ hname, h⟩, And.right⟩
    · obtain ⟨reason, hreason⟩ := checkSavepoint_of_not_mem hname
      rw [hreason]
      exact ⟨fun h => (nomatch h), fun h => absurd (h.1 name rfl) hname⟩

theorem statement_of_error {e : SqlError} (h : savepoint.map checkSavepoint = some (.error e)) :
    op.statement savepoint = .error e := by
  obtain ⟨name, rfl, hname⟩ := Option.map_eq_some_iff.1 h
  rw [statement, hname]
  rfl

/-- **The words of a statement are read back** from it. -/
theorem splitOn_statement (h : op.statement savepoint = .ok text) :
    (text.toList.splitOn ' ').map String.ofList = op.words savepoint := by
  obtain ⟨hname, rfl⟩ := statement_eq_ok_iff.1 h
  have hblank : ∀ word ∈ (op.words savepoint).map String.toList, ' ' ∉ word := by
    intro chars hchars hmem
    obtain ⟨word, hword, rfl⟩ := List.mem_map.1 hchars
    exact absurd ((word_of_mem_words hname hword).2 ' ' hmem) (by decide)
  have hne : (op.words savepoint).map String.toList ≠ [] :=
    mt List.map_eq_nil_iff.1 (words_ne_nil op savepoint)
  rw [String.toList_intercalate, show (" ").toList = [' '] from rfl,
    List.splitOn_intercalate ' ' hblank hne]
  simp

theorem ofStatement?_eq (h : op.statement savepoint = .ok text) :
    ofStatement? text = some (op, savepoint) := by
  rw [ofStatement?, splitOn_statement h, ofWords?_words]

end TransactionStep

/-! ### The recording driver -/

namespace Recorder

variable {r : Recorder} {op : TransactionStep} {savepoint : Option String}

/-- A name of the grammar is accepted: the call is logged, and it fails only as an undoing that was
told to fail. -/
theorem transaction_of_isSavepointName (hconnected : r.connected = true)
    (h : IsSavepointName savepoint) :
    Recorder.transaction op savepoint r
      = (if op = .rollback ∧ r.script.failRollback then .error rollbackError else .ok (),
        r.record (.transaction op savepoint)) := by
  have hchecked : savepoint.map checkSavepoint = savepoint.map fun _ => .ok () := by
    cases savepoint with
    | none => rfl
    | some name => rw [Option.map_some, Option.map_some, checkSavepoint_of_mem (h name rfl)]
  rw [Recorder.transaction, if_pos hconnected, hchecked]
  have hscript : ∀ call, (r.record call).script = r.script := fun _ => rfl
  cases savepoint <;> simp only [Option.map_none, Option.map_some, hscript] <;> split <;> rfl

/-- Any other name is refused, and nothing is logged. -/
theorem transaction_of_refused (hconnected : r.connected = true) {e : SqlError}
    (h : savepoint.map checkSavepoint = some (.error e)) :
    Recorder.transaction op savepoint r = (.error e, r) := by
  rw [Recorder.transaction, if_pos hconnected, h]

end Recorder

/-! ### The main statement -/

namespace TransactionStep

/-- The statement of an operation on a transaction or on a savepoint. -/
structure StatementRule (op : TransactionStep) (savepoint : Option String) : Prop where
  isOk_iff : (∃ text, op.statement savepoint = .ok text) ↔ IsSavepointName savepoint
  /-- Words of letters, digits and underscores with single blanks between them. -/
  spelling : ∀ text, op.statement savepoint = .ok text → ∃ words : List (List Char),
    words ≠ [] ∧ text.toList = [' '].intercalate words ∧
      ∀ word ∈ words, word ≠ [] ∧ ∀ c ∈ word, continuesSavepoint c = true
  recovered : ∀ text, op.statement savepoint = .ok text → ofStatement? text = some (op, savepoint)
  unambiguous : ∀ text op' savepoint', op.statement savepoint = .ok text →
    op'.statement savepoint' = .ok text → op' = op ∧ savepoint' = savepoint
  /-- The recording driver logs the operation and nothing else. -/
  recorded : IsSavepointName savepoint → ∀ r : Recorder, r.connected = true →
    Recorder.transaction op savepoint r
      = (if op = .rollback ∧ r.script.failRollback then .error Recorder.rollbackError else .ok (),
        r.record (.transaction op savepoint))
  /-- Both refuse a name for the same reason, and the driver is left as it was. -/
  refused : ¬ IsSavepointName savepoint → ∃ reason,
    op.statement savepoint = .error (.usage reason) ∧
      ∀ r : Recorder, r.connected = true →
        Recorder.transaction op savepoint r = (.error (.usage reason), r)

/-- **Savepoint names cannot change a statement**: exactly the names of the grammar make one, each
operation and savepoint has a statement of its own, and the recording driver goes by the same
names. -/
theorem statement_rule (op : TransactionStep) (savepoint : Option String) :
    op.StatementRule savepoint where
  isOk_iff := by
    constructor
    · rintro ⟨text, htext⟩
      exact (statement_eq_ok_iff.1 htext).1
    · intro h
      exact ⟨_, statement_eq_ok_iff.2 ⟨h, rfl⟩⟩
  spelling text htext := by
    obtain ⟨hname, rfl⟩ := statement_eq_ok_iff.1 htext
    refine ⟨(op.words savepoint).map String.toList,
      mt List.map_eq_nil_iff.1 (words_ne_nil op savepoint), String.toList_intercalate, ?_⟩
    intro chars hchars
    obtain ⟨word, hword, rfl⟩ := List.mem_map.1 hchars
    exact word_of_mem_words hname hword
  recovered text := ofStatement?_eq
  unambiguous text op' savepoint' htext htext' := by
    have hsame := (ofStatement?_eq htext').symm.trans (ofStatement?_eq htext)
    exact Prod.mk.inj (Option.some.inj hsame)
  recorded h r hconnected := Recorder.transaction_of_isSavepointName hconnected h
  refused h := by
    obtain ⟨reason, hrefused⟩ := exists_checkSavepoint_eq_error h
    exact ⟨reason, statement_of_error hrefused, fun r hconnected =>
      Recorder.transaction_of_refused hconnected hrefused⟩

end TransactionStep

end SqlLayer
