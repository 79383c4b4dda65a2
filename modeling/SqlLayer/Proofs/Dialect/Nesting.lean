import Mathlib.Data.List.Infix
import SqlLayer.Proofs.Dialect.Scanning

/-!
# Parentheses outside of quotes

A parenthesis counts if the scanner is outside of quotes there.  A statement may be cut at each
` AND ` that stands in no parentheses and in no quotes, and a text that is put in parentheses stays
in one part, **as long as its own parentheses are balanced**.

* `writtenText_scan` — the pieces of a statement make up the statement;
* `Dialect.scan_append` — a text whose quotes are closed is scanned by itself, where no quote
  follows;
* `Dialect.Balanced` — a text that closes its quotes and its parentheses, and no others;
* `Dialect.conjuncts` — the parts of a statement between its ` AND `s, which make up the statement
  (`Dialect.intercalate_conjuncts`);
* `Dialect.conjuncts_parenthesized` — **balanced texts in parentheses are those parts again**.
-/

namespace SqlLayer

/-! ### Pieces as they are written -/

/-- A piece as it is written. -/
def Piece.written : Piece → List Char
  | .outside c => [c]
  | .quoted quote body => quote :: (body ++ [quote])
  | .unclosed quote body => quote :: body

/-- Pieces as they are written. -/
def writtenText (pieces : List Piece) : List Char := pieces.flatMap Piece.written

/-- What the scanner has read since the last piece that is complete. -/
def ScanMode.written : ScanMode → List Char
  | .outside => []
  | .inside quote body => quote :: body
  | .skipping quote body => quote :: body
  | .closing quote body => quote :: (body ++ [quote])

theorem writtenText_cons (p : Piece) (rest : List Piece) :
    writtenText (p :: rest) = p.written ++ writtenText rest := List.flatMap_cons

theorem writtenText_append (a b : List Piece) :
    writtenText (a ++ b) = writtenText a ++ writtenText b := List.flatMap_append

/-- At the end of the statement nothing is lost. -/
theorem ScanMode.writtenText_pending (m : ScanMode) : writtenText m.pending = m.written := by
  cases m <;> simp [pending, ScanMode.written, writtenText, Piece.written]

namespace Dialect

/-- One character outside of quotes. -/
theorem written_scanOutside (c : Char) :
    writtenText (scanOutside c).1 ++ (scanOutside c).2.written = [c] := by
  rw [scanOutside]
  split <;> rfl

/-- **One character**: it is in the pieces that it completes, or in what is read after them. -/
theorem written_scanChar (d : Dialect) (m : ScanMode) (c : Char) :
    writtenText (d.scanChar m c).1 ++ (d.scanChar m c).2.written = m.written ++ [c] := by
  cases m with
  | outside => exact written_scanOutside c
  | inside quote body =>
    rw [scanChar]
    split_ifs with hquote
    · simp [writtenText, ScanMode.written, hquote]
    · rfl
    · rfl
  | skipping quote body => rfl
  | closing quote body =>
    rw [scanChar]
    split_ifs with hquote
    · simp [writtenText, ScanMode.written, hquote]
    · rw [writtenText_cons, List.append_assoc, written_scanOutside]
      rfl

theorem written_scanFrom (d : Dialect) (m : ScanMode) (text : List Char) :
    writtenText (d.scanFrom m text).1 ++ (d.scanFrom m text).2.written = m.written ++ text := by
  induction text generalizing m with
  | nil => simp [writtenText]
  | cons c text ih =>
    rw [scanFrom_cons, writtenText_append, List.append_assoc, ih, ← List.append_assoc,
      written_scanChar, List.append_assoc, List.singleton_append]

/-- **The pieces of a statement make up the statement.** -/
theorem writtenText_scan (d : Dialect) (text : List Char) : writtenText (d.scan text) = text := by
  rw [scan, scanRest, writtenText_append, ScanMode.writtenText_pending, written_scanFrom]
  rfl

end Dialect

/-- Whether a piece is complete. -/
def Piece.isClosed : Piece → Bool
  | .unclosed .. => false
  | _ => true

namespace Dialect

/-- Where no quote is open, the scanner starts anew, if no quote follows that would be the second
half of a doubled one. -/
theorem scanRest_of_isClosed (d : Dialect) {m : ScanMode} {rest : List Char}
    (hclosed : ∀ p ∈ m.pending, p.isClosed = true) (hquote : ∀ q ∈ m.quote?, isQuote q = true)
    (hrest : ∀ c ∈ rest.head?, isQuote c = false) :
    d.scanRest m rest = m.pending ++ d.scan rest := by
  cases m with
  | outside => rfl
  | inside quote body => exact Bool.noConfusion (hclosed _ (List.mem_singleton_self _))
  | skipping quote body => exact Bool.noConfusion (hclosed _ (List.mem_singleton_self _))
  | closing quote body =>
    refine scanRest_closing d fun hsame => ?_
    have hother := hrest quote hsame
    rw [hquote quote rfl] at hother
    exact Bool.noConfusion hother

/-- **A text whose quotes are closed** is scanned by itself. -/
theorem scan_append (d : Dialect) {text rest : List Char}
    (hclosed : ∀ p ∈ d.scan text, p.isClosed = true)
    (hrest : ∀ c ∈ rest.head?, isQuote c = false) :
    d.scan (text ++ rest) = d.scan text ++ d.scan rest := by
  have hstart : ∀ q ∈ ScanMode.outside.quote?, isQuote q = true := by simp [ScanMode.quote?]
  have hquote := isQuote_scanFrom d hstart text
  have hpending := fun p hp => hclosed p (List.mem_append_right _ hp)
  rw [scan, scanRest_append, scanRest_of_isClosed d hpending hquote hrest, ← List.append_assoc]
  rfl

/-- Characters that are no quotes are pieces by themselves. -/
theorem scan_outside_append (d : Dialect) {text : List Char} (h : text.any isQuote = false)
    (rest : List Char) : d.scan (text ++ rest) = text.map .outside ++ d.scan rest := by
  have hnone (c : Char) (hc : c ∈ text) : isQuote c = false := by
    simpa using List.any_eq_false.1 h c hc
  rw [scan, scanRest_append, scanFrom_outside d hnone]
  rfl

end Dialect

/-! ### Nesting -/

/-- How a piece changes the nesting. -/
def Piece.rise : Piece → Int
  | .outside c => if c = '(' then 1 else if c = ')' then -1 else 0
  | _ => 0

/-- The number of parentheses that are open behind some pieces. -/
def nesting : List Piece → Int
  | [] => 0
  | p :: rest => p.rise + nesting rest

@[simp] theorem nesting_nil : nesting [] = 0 := rfl

@[simp] theorem nesting_cons (p : Piece) (rest : List Piece) :
    nesting (p :: rest) = p.rise + nesting rest := rfl

/-- A text that closes its quotes and its parentheses, and no others. -/
structure Dialect.Balanced (d : Dialect) (text : List Char) : Prop where
  closed : ∀ p ∈ d.scan text, p.isClosed = true
  inside : ∀ before, before <+: d.scan text → 0 ≤ nesting before
  level : nesting (d.scan text) = 0

theorem Dialect.balanced_iff {d : Dialect} {text : List Char} :
    d.Balanced text ↔ (∀ p ∈ d.scan text, p.isClosed = true) ∧
      (∀ before ∈ (d.scan text).inits, 0 ≤ nesting before) ∧ nesting (d.scan text) = 0 := by
  simp only [List.mem_inits]
  exact ⟨fun h => ⟨h.closed, h.inside, h.level⟩, fun h => ⟨h.1, h.2.1, h.2.2⟩⟩

instance (d : Dialect) (text : List Char) : Decidable (d.Balanced text) :=
  decidable_of_iff _ Dialect.balanced_iff.symm

/-! ### Cutting at ` AND ` -/

/-- The parts of a statement between the ` AND `s outside of parentheses, where a number of them is
open in front. -/
def conjunctPieces : Int → List Piece → List (List Piece)
  | _, [] => [[]]
  | 0, .outside ' ' :: .outside 'A' :: .outside 'N' :: .outside 'D' :: .outside ' ' :: rest =>
    [] :: conjunctPieces 0 rest
  | level, p :: rest => (conjunctPieces (level + p.rise) rest).modifyHead (p :: ·)

/-- The parts of a statement between the ` AND `s that stand in no parentheses and in no quotes. -/
def Dialect.conjuncts (d : Dialect) (text : List Char) : List (List Char) :=
  (conjunctPieces 0 (d.scan text)).map writtenText

/-- The pieces of a separator. -/
def andPieces : List Piece := " AND ".toList.map .outside

theorem conjunctPieces_and (rest : List Piece) :
    conjunctPieces 0 (andPieces ++ rest) = [] :: conjunctPieces 0 rest := rfl

/-- Within parentheses nothing is cut. -/
theorem conjunctPieces_cons_of_ne {level : Int} (h : level ≠ 0) (p : Piece) (rest : List Piece) :
    conjunctPieces level (p :: rest)
      = (conjunctPieces (level + p.rise) rest).modifyHead (p :: ·) := by
  rw [conjunctPieces]
  exact fun _ hlevel => absurd hlevel h

/-- Nor is anything cut in front of something else than a blank. -/
theorem conjunctPieces_cons_of_ne_blank (level : Int) {p : Piece} (h : p ≠ .outside ' ')
    (rest : List Piece) :
    conjunctPieces level (p :: rest)
      = (conjunctPieces (level + p.rise) rest).modifyHead (p :: ·) := by
  rw [conjunctPieces]
  exact fun _ _ hblank => absurd hblank h

/-- Pieces between which all of the parentheses are never closed stay in one part. -/
theorem conjunctPieces_append {level : Int} {pieces : List Piece} (rest : List Piece)
    (h : ∀ before, before <+: pieces → 0 < level + nesting before) :
    conjunctPieces level (pieces ++ rest)
      = (conjunctPieces (level + nesting pieces) rest).modifyHead (pieces ++ ·) := by
  induction pieces generalizing level with
  | nil =>
    rw [nesting_nil, Int.add_zero]
    exact (congrFun List.modifyHead_id _).symm
  | cons p pieces ih =>
    have hlevel : 0 < level := by simpa using h [] (List.nil_prefix)
    have hinside (before : List Piece) (hbefore : before <+: pieces) :
        0 < level + p.rise + nesting before := by
      have hmore := h (p :: before) (List.cons_prefix_cons.2 ⟨rfl, hbefore⟩)
      rwa [nesting_cons, ← Int.add_assoc] at hmore
    rw [List.cons_append, conjunctPieces_cons_of_ne (Int.ne_of_gt hlevel), ih hinside,
      List.modifyHead_modifyHead, nesting_cons, Int.add_assoc]
    rfl

theorem conjunctPieces_ne_nil (level : Int) (pieces : List Piece) :
    conjunctPieces level pieces ≠ [] := by
  fun_induction conjunctPieces level pieces with
  | case1 => simp
  | case2 => simp
  | case3 _ _ _ _ ih => simpa using ih

/-- **The parts make up the statement.** -/
theorem intercalate_conjunctPieces (level : Int) (pieces : List Piece) :
    " AND ".toList.intercalate ((conjunctPieces level pieces).map writtenText)
      = writtenText pieces := by
  fun_induction conjunctPieces level pieces with
  | case1 => rfl
  | case2 rest ih =>
    rw [List.map_cons, List.intercalate_cons_of_ne_nil, ih]
    · rfl
    · simpa using conjunctPieces_ne_nil 0 rest
  | case3 level p rest _ ih =>
    obtain ⟨part, parts, hparts⟩ := List.exists_cons_of_ne_nil
      (conjunctPieces_ne_nil (level + p.rise) rest)
    rw [hparts] at ih ⊢
    rw [List.modifyHead_cons, List.map_cons, writtenText_cons, writtenText_cons, ← ih]
    cases parts with
    | nil =>
      rw [List.map_nil, List.intercalate_singleton, List.map_singleton, List.intercalate_singleton]
    | cons next parts =>
      rw [List.map_cons, List.map_cons, List.intercalate_cons_cons, List.map_cons,
        List.intercalate_cons_cons, List.append_assoc, List.append_assoc, List.append_assoc]

namespace Dialect

/-- **The parts of a statement** and the ` AND `s between them are the statement. -/
theorem intercalate_conjuncts (d : Dialect) (text : List Char) :
    " AND ".toList.intercalate (d.conjuncts text) = text := by
  rw [conjuncts, intercalate_conjunctPieces, writtenText_scan]

/-- A text in one pair of parentheses. -/
def parenthesized (text : List Char) : List Char := '(' :: (text ++ [')'])

/-- The pieces of a balanced text in parentheses. -/
def parenthesizedPieces (d : Dialect) (text : List Char) : List Piece :=
  .outside '(' :: (d.scan text ++ [.outside ')'])

theorem writtenText_parenthesizedPieces (d : Dialect) (text : List Char) :
    writtenText (d.parenthesizedPieces text) = parenthesized text := by
  rw [parenthesizedPieces, writtenText_cons, writtenText_append, writtenText_scan]
  rfl

theorem Balanced.scan_parenthesized_append {d : Dialect} {text : List Char} (h : d.Balanced text)
    (rest : List Char) :
    d.scan (parenthesized text ++ rest) = d.parenthesizedPieces text ++ d.scan rest := by
  have hopen : d.scan (parenthesized text ++ rest)
      = .outside '(' :: d.scan (text ++ ([')'] ++ rest)) := by
    rw [parenthesized, List.cons_append, List.append_assoc]
    exact @scan_outside_append d ['('] (by decide) (text ++ ([')'] ++ rest))
  have hclose : d.scan ([')'] ++ rest) = .outside ')' :: d.scan rest :=
    d.scan_outside_append (by decide) rest
  have hparenthesis : ∀ c ∈ ([')'] ++ rest).head?, isQuote c = false := by
    rintro c ⟨⟩
    rfl
  rw [hopen, d.scan_append h.closed hparenthesis, hclose, parenthesizedPieces, List.cons_append,
    List.append_assoc, List.singleton_append]

/-- **A balanced text in parentheses** stays in one part. -/
theorem Balanced.conjunctPieces_parenthesized {d : Dialect} {text : List Char} (h : d.Balanced text)
    (rest : List Piece) :
    conjunctPieces 0 (d.parenthesizedPieces text ++ rest)
      = (conjunctPieces 0 rest).modifyHead (d.parenthesizedPieces text ++ ·) := by
  have hinside (before : List Piece) (hbefore : before <+: d.scan text) :
      0 < (0 + (Piece.outside '(').rise) + nesting before := by
    have hlevel := h.inside before hbefore
    have hopen : (Piece.outside '(').rise = 1 := rfl
    omega
  have hclose (level : Int) : conjunctPieces level (.outside ')' :: rest)
      = (conjunctPieces (level + -1) rest).modifyHead (.outside ')' :: ·) :=
    conjunctPieces_cons_of_ne_blank level (by decide) rest
  have hlevel : 0 + (Piece.outside '(').rise + 0 + -1 = 0 := by decide
  rw [parenthesizedPieces, List.cons_append, conjunctPieces_cons_of_ne_blank 0 (by decide),
    List.append_assoc, conjunctPieces_append _ hinside, h.level, List.singleton_append, hclose,
    List.modifyHead_modifyHead, List.modifyHead_modifyHead, hlevel]
  refine congrArg (List.modifyHead · _) (funext fun part => ?_)
  simp

/-- The last part. -/
theorem Balanced.conjuncts_last {d : Dialect} {text : List Char} (h : d.Balanced text) :
    d.conjuncts (parenthesized text) = [parenthesized text] := by
  have hscan := h.scan_parenthesized_append []
  have hparts := h.conjunctPieces_parenthesized []
  rw [List.append_nil] at hscan hparts
  rw [conjuncts, hscan, show d.scan [] = [] from rfl, List.append_nil, hparts, conjunctPieces,
    List.modifyHead_cons, List.map_singleton, List.append_nil, writtenText_parenthesizedPieces]

/-- A part with others behind it. -/
theorem Balanced.conjuncts_and {d : Dialect} {text : List Char} (h : d.Balanced text)
    (rest : List Char) :
    d.conjuncts (parenthesized text ++ (" AND ".toList ++ rest))
      = parenthesized text :: d.conjuncts rest := by
  have hand : d.scan (" AND ".toList ++ rest) = andPieces ++ d.scan rest :=
    d.scan_outside_append (by decide) rest
  rw [conjuncts, h.scan_parenthesized_append, hand, h.conjunctPieces_parenthesized,
    conjunctPieces_and, List.modifyHead_cons, List.map_cons, List.append_nil,
    writtenText_parenthesizedPieces, conjuncts]

/-- **Balanced texts in parentheses**, with an ` AND ` between one and the next, are the parts of
the statement that they make. -/
theorem conjuncts_parenthesized (d : Dialect) {texts : List (List Char)} (hne : texts ≠ [])
    (h : ∀ text ∈ texts, d.Balanced text) :
    d.conjuncts (" AND ".toList.intercalate (texts.map parenthesized))
      = texts.map parenthesized := by
  induction texts with
  | nil => exact absurd rfl hne
  | cons text texts ih =>
    have htext := h text List.mem_cons_self
    cases texts with
    | nil => rw [List.map_singleton, List.intercalate_singleton, htext.conjuncts_last]
    | cons next texts =>
      have hrest := ih (List.cons_ne_nil _ _) fun text ht => h text (List.mem_cons_of_mem _ ht)
      rw [List.map_cons, List.map_cons, List.intercalate_cons_cons, List.append_assoc,
        htext.conjuncts_and, ← List.map_cons, hrest]

end Dialect

end SqlLayer
