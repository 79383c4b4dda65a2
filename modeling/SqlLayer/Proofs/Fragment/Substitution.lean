import Mathlib.Data.List.Forall2
import SqlLayer.Proofs.Fragment.Template
import SqlLayer.Proofs.Text.Decimal

/-!
# What a fragment is written as

Rendering scans a text; here it is told without a scan what comes out.  A template is resolved, cut
and written piece by piece, each of the three by a relation with one outcome.

* `Resolves` — the first marker of a text is replaced, then the first one of what is behind it,
  until none is left;
* `Token.Becomes` — a placeholder whose digits denote a number from 1 to the number of arguments
  becomes that argument, escaped, and everything else stands as it is;
* `Fragment.Writes` — what is resolved is cut (`IsCut`), and each piece becomes what it becomes;
* `Fragment.render_eq_iff_writes` — **a fragment is rendered as what it is written as**, so what is
  put in is neither resolved nor cut again.
-/

namespace SqlLayer

/-! ### The table prefix -/

/-- The marker that stands for the table prefix. -/
def marker : List Char := ['#', '_', '_']

/-- Where a marker stands between two texts, it is the first one: none begins before it. -/
def IsFirstMarker (before after : List Char) : Prop :=
  ∀ before' after', before' ++ marker ++ after' = before ++ marker ++ after →
    before.length ≤ before'.length

/-- A text and what it is when the table prefix has been put in. -/
inductive Resolves (tablePrefix : List Char) : List Char → List Char → Prop
  /-- There is no marker. -/
  | unmarked {s : List Char} : ¬ marker <:+: s → Resolves tablePrefix s s
  /-- The first marker is replaced, and the text goes on behind it. -/
  | marked {before after out : List Char} : IsFirstMarker before after →
      Resolves tablePrefix after out →
      Resolves tablePrefix (before ++ marker ++ after) (before ++ tablePrefix ++ out)

/-- A character at which no marker begins stays. -/
theorem resolveChars_cons (tablePrefix : List Char) {c : Char} {s : List Char}
    (h : ¬ marker <+: c :: s) :
    resolveChars tablePrefix (c :: s) = c :: resolveChars tablePrefix s := by
  rw [resolveChars]
  rintro rest rfl rfl
  exact h ⟨rest, rfl⟩

/-- A marker at the front is replaced. -/
theorem resolveChars_marker (tablePrefix s : List Char) :
    resolveChars tablePrefix (marker ++ s) = tablePrefix ++ resolveChars tablePrefix s := rfl

theorem resolveChars_of_unmarked (tablePrefix : List Char) {s : List Char}
    (h : ¬ marker <:+: s) : resolveChars tablePrefix s = s := by
  induction s with
  | nil => rfl
  | cons c s ih =>
    obtain ⟨hhere, hrest⟩ := not_or.1 (mt List.infix_cons_iff.2 h)
    rw [resolveChars_cons tablePrefix hhere, ih hrest]

/-- No marker begins at the first character of a text whose first marker comes later. -/
theorem IsFirstMarker.not_isPrefix {c : Char} {before after : List Char}
    (h : IsFirstMarker (c :: before) after) : ¬ marker <+: c :: (before ++ marker ++ after) := by
  rintro ⟨after', hafter'⟩
  have hlength := h [] after' hafter'
  exact absurd hlength (by simp)

/-- The first marker of a text is the first one of its tail, if it is not at the front. -/
theorem IsFirstMarker.tail {c : Char} {before after : List Char}
    (h : IsFirstMarker (c :: before) after) : IsFirstMarker before after := by
  intro before' after' heq
  have hlength := h (c :: before') after' (congrArg (List.cons c) heq)
  simpa using hlength

/-- The first marker stays the first one behind a character at which no marker begins. -/
theorem IsFirstMarker.cons {c : Char} {before after : List Char} (h : IsFirstMarker before after)
    (hc : ¬ marker <+: c :: (before ++ marker ++ after)) : IsFirstMarker (c :: before) after := by
  intro before' after' heq
  cases before' with
  | nil => exact absurd ⟨after', heq⟩ hc
  | cons c' before' =>
    have hlength := h before' after' (List.cons.inj heq).2
    simpa using hlength

theorem resolveChars_of_isFirstMarker (tablePrefix : List Char) {before after : List Char}
    (h : IsFirstMarker before after) :
    resolveChars tablePrefix (before ++ marker ++ after)
      = before ++ tablePrefix ++ resolveChars tablePrefix after := by
  induction before with
  | nil => exact resolveChars_marker tablePrefix after
  | cons c before ih =>
    show resolveChars tablePrefix (c :: (before ++ marker ++ after)) = _
    rw [resolveChars_cons tablePrefix h.not_isPrefix, ih h.tail]
    rfl

/-- A character at which no marker begins may be put in front. -/
theorem Resolves.cons {tablePrefix s out : List Char} {c : Char} (h : Resolves tablePrefix s out)
    (hc : ¬ marker <+: c :: s) : Resolves tablePrefix (c :: s) (c :: out) := by
  cases h with
  | unmarked hs =>
    refine .unmarked fun hmarker => ?_
    exact (List.infix_cons_iff.1 hmarker).elim hc hs
  | marked hfirst hafter => exact .marked (hfirst.cons hc) hafter

theorem resolves_resolveChars (tablePrefix s : List Char) :
    Resolves tablePrefix s (resolveChars tablePrefix s) := by
  fun_induction resolveChars tablePrefix s with
  | case1 s ih =>
    have hfirst : IsFirstMarker [] s := fun _ _ _ => Nat.zero_le _
    exact .marked hfirst ih
  | case2 c s hc ih =>
    refine ih.cons ?_
    rintro ⟨rest, hrest⟩
    obtain ⟨hhash, hrest⟩ := List.cons.inj hrest
    exact hc rest hhash.symm hrest.symm
  | case3 => exact .unmarked (by simp [marker])

/-- **A text is resolved in one way**, the one in which the scan resolves it. -/
theorem resolves_iff {tablePrefix s out : List Char} :
    Resolves tablePrefix s out ↔ out = resolveChars tablePrefix s := by
  constructor
  · intro h
    induction h with
    | unmarked hs => exact (resolveChars_of_unmarked tablePrefix hs).symm
    | marked hfirst _ ih => rw [resolveChars_of_isFirstMarker tablePrefix hfirst, ← ih]
  · rintro rfl
    exact resolves_resolveChars tablePrefix s

/-- Every marker makes a text longer by what the prefix is longer than the marker. -/
theorem Resolves.exists_length {tablePrefix s out : List Char} (h : Resolves tablePrefix s out) :
    ∃ n, (marker <:+: s → 0 < n) ∧
      out.length + n * marker.length = s.length + n * tablePrefix.length := by
  induction h with
  | unmarked hs => exact ⟨0, fun hmarker => absurd hmarker hs, by rw [Nat.zero_mul, Nat.zero_mul]⟩
  | marked hfirst _ ih =>
    obtain ⟨n, -, hlength⟩ := ih
    refine ⟨n + 1, fun _ => Nat.succ_pos n, ?_⟩
    simp only [List.length_append, Nat.succ_mul]
    omega

/-- Only the marker itself can stand for a marker and leave the text as it is. -/
theorem Resolves.eq_marker {tablePrefix s out : List Char} (h : Resolves tablePrefix s out)
    (hsame : out = s) (hmarked : marker <:+: s) : tablePrefix = marker := by
  obtain ⟨n, hpos, hlength⟩ := h.exists_length
  have hprefix : tablePrefix.length = marker.length := by
    rw [hsame] at hlength
    exact (Nat.eq_of_mul_eq_mul_left (hpos hmarked) (Nat.add_left_cancel hlength)).symm
  cases h with
  | unmarked hs => exact absurd hmarked hs
  | marked hfirst _ =>
    rw [List.append_assoc, List.append_assoc] at hsame
    exact (List.append_inj (List.append_cancel_left hsame) hprefix).1

/-- **Which texts stay as they are**: those without a marker, or all if the prefix is the marker. -/
theorem resolveChars_eq_self_iff {tablePrefix s : List Char} :
    resolveChars tablePrefix s = s ↔ ¬ marker <:+: s ∨ tablePrefix = marker := by
  constructor
  · intro hsame
    exact or_iff_not_imp_left.2 fun hmarked =>
      (resolves_resolveChars tablePrefix s).eq_marker hsame (Classical.not_not.1 hmarked)
  · rintro (hunmarked | rfl)
    · exact resolveChars_of_unmarked tablePrefix hunmarked
    · fun_induction resolveChars marker s with
      | case1 s ih => rw [ih]; rfl
      | case2 c s hc ih => rw [ih]
      | case3 => rfl

/-! ### The pieces -/

/-- What a piece of a template becomes. -/
inductive Token.Becomes (ctx : RenderContext) (args : List Arg) : Token → List Char → Prop
  | plain (c : Char) : Becomes ctx args (.plain c) [c]
  /-- The digits denote the number of an argument. -/
  | argument {digits : List Char} {n : Nat} {arg : Arg} : Text.Denotes digits n → 1 ≤ n →
      args[n - 1]? = some arg →
      Becomes ctx args (.placeholder digits) (ctx.escape arg.value arg.tag).toList
  /-- There are no digits, or they denote no number of an argument. -/
  | unmatched {digits : List Char} :
      (∀ n, 1 ≤ n → n ≤ args.length → ¬ Text.Denotes digits n) →
      Becomes ctx args (.placeholder digits) ('%' :: digits)

/-- The argument that digits name, by the number that they denote. -/
theorem argument?_of_denotes {args : List Arg} {digits : List Char} {n : Nat}
    (h : Text.Denotes digits n) (hn : 1 ≤ n) : argument? args digits = args[n - 1]? := by
  obtain ⟨m, rfl⟩ : ∃ m, n = m + 1 := ⟨n - 1, by omega⟩
  rw [argument?, h.decimal_eq]
  rfl

/-- Digits that name an argument denote its number. -/
theorem denotes_of_argument? {args : List Arg} {digits : List Char} {arg : Arg}
    (hdigits : ∀ c ∈ digits, c.isDigit = true) (h : argument? args digits = some arg) :
    ∃ n, Text.Denotes digits n ∧ 1 ≤ n ∧ args[n - 1]? = some arg := by
  have hne : digits ≠ [] := by
    rintro rfl
    exact absurd h (by simp [argument?, Text.decimal])
  have hdenotes := Text.denotes_decimal hne hdigits
  rw [argument?] at h
  split at h
  · exact absurd h (by simp)
  · rename_i n hn
    rw [hn] at hdenotes
    exact ⟨n + 1, hdenotes, Nat.le_add_left 1 n, h⟩

/-- **A piece becomes one text**, the one that it is rendered as. -/
theorem becomes_iff {ctx : RenderContext} {args : List Arg} {t : Token} {piece : List Char}
    (hdigits : ∀ digits, t = .placeholder digits → ∀ c ∈ digits, c.isDigit = true) :
    t.Becomes ctx args piece ↔ piece = t.render ctx args := by
  constructor
  · intro h
    cases h with
    | plain c => rfl
    | argument hdenotes hn harg =>
      rw [Token.render, argument?_of_denotes hdenotes hn, harg]
    | @unmatched digits hnone =>
      have harg : argument? args digits = none := by
        cases harg : argument? args digits with
        | none => rfl
        | some arg =>
          obtain ⟨n, hdenotes, hn, hget⟩ := denotes_of_argument? (hdigits digits rfl) harg
          obtain ⟨hlt, -⟩ := List.getElem?_eq_some_iff.1 hget
          exact absurd hdenotes (hnone n hn (by omega))
      rw [Token.render, harg]
  · rintro rfl
    cases t with
    | plain c => exact .plain c
    | placeholder digits =>
      rw [Token.render]
      cases harg : argument? args digits with
      | some arg =>
        obtain ⟨n, hdenotes, hn, hget⟩ := denotes_of_argument? (hdigits digits rfl) harg
        exact .argument hdenotes hn hget
      | none =>
        refine .unmatched fun n hn hle hdenotes => ?_
        rw [argument?_of_denotes hdenotes hn, List.getElem?_eq_none_iff] at harg
        omega

/-- The pieces become what they are rendered as, one by one. -/
theorem forall₂_becomes_iff {ctx : RenderContext} {args : List Arg} {ts : List Token}
    {pieces : List (List Char)}
    (hdigits : ∀ digits, .placeholder digits ∈ ts → ∀ c ∈ digits, c.isDigit = true) :
    List.Forall₂ (Token.Becomes ctx args) ts pieces ↔ pieces = ts.map (Token.render ctx args) := by
  induction ts generalizing pieces with
  | nil => exact List.forall₂_nil_left_iff
  | cons t ts ih =>
    have hhere : ∀ digits, t = .placeholder digits → ∀ c ∈ digits, c.isDigit = true := by
      rintro digits rfl
      exact hdigits digits List.mem_cons_self
    have hrest := fun digits hd => hdigits digits (List.mem_cons_of_mem t hd)
    rw [List.forall₂_cons_left_iff, List.map_cons]
    constructor
    · rintro ⟨piece, pieces, hpiece, hpieces, rfl⟩
      rw [(becomes_iff hhere).1 hpiece, (ih hrest).1 hpieces]
    · rintro rfl
      exact ⟨_, _, (becomes_iff hhere).2 rfl, (ih hrest).2 rfl, rfl⟩

/-! ### The main statement -/

namespace Fragment

/-- What a fragment is written as: other text as it is; a template resolved, cut, and piece by
piece. -/
inductive Writes (ctx : RenderContext) : Fragment → List Char → Prop
  | verbatim (text : String) : Writes ctx (.verbatim text) text.toList
  | template {text : String} {args : List Arg} {resolved : List Char} {ts : List Token}
      {pieces : List (List Char)} : Resolves ctx.tablePrefix.toList text.toList resolved →
      IsCut resolved ts → List.Forall₂ (Token.Becomes ctx args) ts pieces →
      Writes ctx (.template text args) pieces.flatten

theorem writes_iff {ctx : RenderContext} {e : Fragment} {out : List Char} :
    e.Writes ctx out ↔ out = (e.render ctx).toList := by
  constructor
  · intro h
    cases h with
    | verbatim text => rfl
    | template hresolved hcut hpieces =>
      obtain rfl := resolves_iff.1 hresolved
      obtain rfl := isCut_iff.1 hcut
      obtain rfl := (forall₂_becomes_iff hcut.digits).1 hpieces
      rw [render, String.toList_ofList, fillIn, List.flatMap_def]
  · rintro rfl
    cases e with
    | verbatim text => exact .verbatim text
    | template text args =>
      have hcut := isCut_tokens (resolveChars ctx.tablePrefix.toList text.toList)
      rw [render, String.toList_ofList, fillIn, List.flatMap_def]
      exact .template (resolves_iff.2 rfl) hcut ((forall₂_becomes_iff hcut.digits).2 rfl)

/-- **A fragment is rendered as what it is written as.**  A text is resolved in one way and cut in
one way, and rendering gives the pieces of the cut one after another: the escaped argument for a
placeholder whose digits denote its number, and every other piece as it stands.  What an argument is
escaped to is a piece of the outcome, whatever it holds; other text than a template is the whole
outcome. -/
theorem render_eq_iff_writes (ctx : RenderContext) (e : Fragment) :
    (∀ s, ∃! resolved, Resolves ctx.tablePrefix.toList s resolved) ∧
    (∀ s, ∃! ts, IsCut s ts) ∧
    ∀ out : String, e.render ctx = out ↔ e.Writes ctx out.toList := by
  refine ⟨?_, ?_, ?_⟩
  · intro s
    exact ⟨_, resolves_iff.2 rfl, fun _ h => resolves_iff.1 h⟩
  · intro s
    exact ⟨_, isCut_iff.2 rfl, fun _ h => isCut_iff.1 h⟩
  · intro out
    rw [writes_iff, String.toList_inj, eq_comm]

/-- What an argument is escaped to is not looked at again, and zeros before a numeral change
nothing. -/
example : render ⟨fun _ _ => "'%1#__'", "app_"⟩
    (.template "#__t = %001 AND %0 < %2%" [.plain .null]) = "app_t = '%1#__' AND %0 < %2%" := by
  decide

end Fragment

end SqlLayer
