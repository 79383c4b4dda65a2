import Mathlib.Data.List.Chain
import SqlLayer.Fragment

/-!
# The pieces of a template

* `Token.written` — a piece as it stands in its template;
* `flatMap_written_tokens` — the pieces of a template, written one after another, **are the
  template**;
* `isDigit_of_mem_tokens` — there are only digits behind the percent sign of a placeholder;
* `IsCut` — what makes pieces those of a template: written one after another they are the template,
  no plain character is a percent sign, and behind the digits of a placeholder there is no digit;
* `isCut_iff` — **every template has one such cut**, and the scan finds it.
-/

namespace SqlLayer

/-- A piece as it stands in its template. -/
def Token.written : Token → List Char
  | .plain c => [c]
  | .placeholder digits => '%' :: digits

theorem Token.written_ne_nil (t : Token) : t.written ≠ [] := by
  cases t <;> simp [Token.written]

/-- Plain characters are written as they are. -/
theorem flatMap_written_plain (s : List Char) : (s.map Token.plain).flatMap Token.written = s := by
  induction s with
  | nil => rfl
  | cons c s ih => rw [List.map_cons, List.flatMap_cons, ih]; rfl

/-- Nothing is lost when a character is put in front of a cut template. -/
theorem written_push (c : Char) (cut : List Char × List Token) :
    (Token.push c cut).1 ++ (Token.push c cut).2.flatMap Token.written
      = c :: (cut.1 ++ cut.2.flatMap Token.written) := by
  unfold Token.push
  split
  · rename_i hc
    rw [hc]
    rfl
  · split
    · rfl
    · simp [Token.written, flatMap_written_plain]

theorem written_cutTemplate (template : List Char) :
    (cutTemplate template).1 ++ (cutTemplate template).2.flatMap Token.written = template := by
  induction template with
  | nil => rfl
  | cons c template ih =>
    show (Token.push c (cutTemplate template)).1
      ++ (Token.push c (cutTemplate template)).2.flatMap Token.written = c :: template
    rw [written_push, ih]

/-- **The pieces of a template make it up.** -/
theorem flatMap_written_tokens (template : List Char) :
    (tokens template).flatMap Token.written = template := by
  rw [tokens, List.flatMap_append, flatMap_written_plain, written_cutTemplate]

/-- The leading characters of a cut template are digits, and so are those of its placeholders. -/
def CutInDigits (cut : List Char × List Token) : Prop :=
  (∀ c ∈ cut.1, c.isDigit = true) ∧
    ∀ digits, .placeholder digits ∈ cut.2 → ∀ c ∈ digits, c.isDigit = true

theorem cutInDigits_push {cut : List Char × List Token} (h : CutInDigits cut) (c : Char) :
    CutInDigits (Token.push c cut) := by
  obtain ⟨hlead, hrest⟩ := h
  unfold Token.push
  split
  · refine ⟨by simp, ?_⟩
    intro digits hmem
    rcases List.mem_cons.1 hmem with heq | hmem
    · cases heq
      exact hlead
    · exact hrest digits hmem
  · split
    · rename_i hc
      refine ⟨?_, hrest⟩
      intro e he
      rcases List.mem_cons.1 he with rfl | he
      · exact hc
      · exact hlead e he
    · refine ⟨by simp, ?_⟩
      intro digits hmem
      simp only [List.mem_cons, reduceCtorEq, List.mem_append, List.mem_map, and_false,
        exists_false, false_or] at hmem
      exact hrest digits hmem

theorem cutInDigits_cutTemplate (template : List Char) : CutInDigits (cutTemplate template) := by
  induction template with
  | nil => exact ⟨by simp [cutTemplate], by simp [cutTemplate]⟩
  | cons c template ih => exact cutInDigits_push ih c

/-- **Only digits** stand behind the percent sign of a placeholder. -/
theorem isDigit_of_mem_tokens {template digits : List Char}
    (h : .placeholder digits ∈ tokens template) : ∀ c ∈ digits, c.isDigit = true := by
  simp only [tokens, List.mem_append, List.mem_map, reduceCtorEq, and_false, exists_false,
    false_or] at h
  exact (cutInDigits_cutTemplate template).2 digits h

/-! ### The cut -/

/-- What may follow a piece: behind a placeholder, no digit is left over. -/
def Token.FollowedBy : Token → Token → Prop
  | .placeholder _, .plain c => c.isDigit = false
  | _, _ => True

/-- The pieces of a template: plain characters, and percent signs with the longest run of digits
behind them. -/
structure IsCut (template : List Char) (ts : List Token) : Prop where
  whole : ts.flatMap Token.written = template
  literal : ∀ c, .plain c ∈ ts → c ≠ '%'
  digits : ∀ digits, .placeholder digits ∈ ts → ∀ c ∈ digits, c.isDigit = true
  longest : ts.IsChain Token.FollowedBy

/-! ### The scan cuts -/

/-- The pieces of a template after its leading digits: they are cut as they should be, and behind a
percent sign that is put in front none of them leaves a digit over. -/
structure CutInPieces (cut : List Char × List Token) : Prop where
  literal : ∀ c, .plain c ∈ cut.2 → c ≠ '%'
  longest : cut.2.IsChain Token.FollowedBy
  head : ∀ t ∈ cut.2.head?, ∀ digits, Token.FollowedBy (.placeholder digits) t

/-- Anything may follow plain characters. -/
theorem isChain_plain (s : List Char) {ts : List Token} (h : ts.IsChain Token.FollowedBy) :
    (s.map Token.plain ++ ts).IsChain Token.FollowedBy := by
  induction s with
  | nil => exact h
  | cons c s ih => exact List.isChain_cons.2 ⟨fun _ _ => trivial, ih⟩

/-- Leading digits are no percent signs. -/
theorem literal_of_cutInPieces {cut : List Char × List Token} (hdigits : CutInDigits cut)
    (h : CutInPieces cut) {c : Char} (hc : .plain c ∈ cut.1.map Token.plain ++ cut.2) :
    c ≠ '%' := by
  obtain hlead | hrest := List.mem_append.1 hc
  · obtain ⟨c', hc', heq⟩ := List.mem_map.1 hlead
    cases heq
    rintro rfl
    exact absurd (hdigits.1 '%' hc') (by decide)
  · exact h.literal c hrest

theorem cutInPieces_push {cut : List Char × List Token} (hdigits : CutInDigits cut)
    (h : CutInPieces cut) (c : Char) : CutInPieces (Token.push c cut) := by
  unfold Token.push
  split
  · -- the digits so far are all those behind the percent sign
    refine ⟨?_, List.isChain_cons.2 ⟨fun t ht => h.head t ht cut.1, h.longest⟩, ?_⟩
    · intro c' hc'
      obtain hc' | hc' := List.mem_cons.1 hc'
      · cases hc'
      · exact h.literal c' hc'
    · rintro t ⟨⟩ digits
      trivial
  · rename_i hpercent
    split
    · exact ⟨h.literal, h.longest, h.head⟩
    · rename_i hdigit
      refine ⟨?_, isChain_plain (c :: cut.1) h.longest, ?_⟩
      · intro c' hc'
        obtain hc' | hc' := List.mem_cons.1 hc'
        · cases hc'
          exact hpercent
        · exact literal_of_cutInPieces hdigits h hc'
      · rintro t ⟨⟩ digits
        exact eq_false_of_ne_true hdigit

theorem cutInPieces_cutTemplate (template : List Char) : CutInPieces (cutTemplate template) := by
  induction template with
  | nil => exact ⟨by simp [cutTemplate], .nil, by simp [cutTemplate]⟩
  | cons c template ih => exact cutInPieces_push (cutInDigits_cutTemplate template) ih c

theorem isCut_tokens (template : List Char) : IsCut template (tokens template) where
  whole := flatMap_written_tokens template
  literal _ hc :=
    literal_of_cutInPieces (cutInDigits_cutTemplate template) (cutInPieces_cutTemplate template) hc
  digits _ hdigits := isDigit_of_mem_tokens hdigits
  longest := isChain_plain _ (cutInPieces_cutTemplate template).longest

/-! ### There is no other cut -/

/-- Digits belong to what the template is cut into in front of its first piece. -/
theorem cutTemplate_digits {digits : List Char} (hdigits : ∀ c ∈ digits, c.isDigit = true)
    (s : List Char) :
    cutTemplate (digits ++ s) = (digits ++ (cutTemplate s).1, (cutTemplate s).2) := by
  induction digits with
  | nil => rfl
  | cons c digits ih =>
    have hc : c.isDigit = true := hdigits c List.mem_cons_self
    have hpercent : c ≠ '%' := by
      rintro rfl
      exact absurd hc (by decide)
    show Token.push c (cutTemplate (digits ++ s)) = _
    rw [ih fun e he => hdigits e (List.mem_cons_of_mem c he), Token.push, if_neg hpercent,
      if_pos hc]
    rfl

/-- Without a digit in front, a template is cut into its pieces only. -/
theorem cutTemplate_of_head {s : List Char} (hhead : ∀ c ∈ s.head?, c.isDigit = false) :
    cutTemplate s = ([], tokens s) := by
  have hlead : (cutTemplate s).1 = [] := by
    cases s with
    | nil => rfl
    | cons c s =>
      have hc : ¬ c.isDigit = true := by simp [hhead c rfl]
      show (Token.push c (cutTemplate s)).1 = []
      rw [Token.push, if_neg hc]
      split <;> rfl
  have htokens : tokens s = (cutTemplate s).2 := by
    rw [tokens, hlead]
    rfl
  rw [htokens, ← hlead]

theorem tokens_plain {c : Char} (h : c ≠ '%') (s : List Char) :
    tokens (c :: s) = .plain c :: tokens s := by
  have hpush : cutTemplate (c :: s) = Token.push c (cutTemplate s) := rfl
  rw [tokens, tokens, hpush, Token.push, if_neg h]
  split <;> rfl

theorem tokens_placeholder {digits s : List Char} (hdigits : ∀ c ∈ digits, c.isDigit = true)
    (hhead : ∀ c ∈ s.head?, c.isDigit = false) :
    tokens ('%' :: (digits ++ s)) = .placeholder digits :: tokens s := by
  have hpush :
      cutTemplate ('%' :: (digits ++ s)) = Token.push '%' (cutTemplate (digits ++ s)) := rfl
  rw [tokens, hpush, cutTemplate_digits hdigits, cutTemplate_of_head hhead, Token.push, if_pos rfl,
    List.append_nil]
  rfl

/-- What is written behind a placeholder does not go on with a digit. -/
theorem head?_written_of_chain {digits : List Char} {ts : List Token}
    (h : (Token.placeholder digits :: ts).IsChain Token.FollowedBy) :
    ∀ c ∈ (ts.flatMap Token.written).head?, c.isDigit = false := by
  cases ts with
  | nil => simp
  | cons t ts =>
    have hnext : Token.FollowedBy (.placeholder digits) t := h.rel
    cases t with
    | plain c =>
      rintro c' ⟨⟩
      exact hnext
    | placeholder digits' =>
      rintro c' ⟨⟩
      rfl

/-- By induction over the pieces, of which the scan finds the first one first. -/
theorem IsCut.eq_tokens {template : List Char} {ts : List Token} (h : IsCut template ts) :
    ts = tokens template := by
  induction ts generalizing template with
  | nil =>
    obtain rfl := h.whole
    rfl
  | cons t ts ih =>
    obtain rfl := h.whole
    have hrest : ts = tokens (ts.flatMap Token.written) := by
      refine ih ⟨rfl, ?_, ?_, (List.isChain_cons.1 h.longest).2⟩
      · exact fun c hc => h.literal c (List.mem_cons_of_mem t hc)
      · exact fun digits hd => h.digits digits (List.mem_cons_of_mem t hd)
    cases t with
    | plain c =>
      show _ = tokens (c :: ts.flatMap Token.written)
      rw [tokens_plain (h.literal c List.mem_cons_self), ← hrest]
    | placeholder digits =>
      show _ = tokens ('%' :: (digits ++ ts.flatMap Token.written))
      rw [tokens_placeholder (h.digits digits List.mem_cons_self)
        (head?_written_of_chain h.longest), ← hrest]

/-- **A text is cut in one way**, the one in which the scan cuts it. -/
theorem isCut_iff {template : List Char} {ts : List Token} :
    IsCut template ts ↔ ts = tokens template := by
  constructor
  · exact IsCut.eq_tokens
  · rintro rfl
    exact isCut_tokens template

end SqlLayer
