import Mathlib.Data.List.Chain
import SqlLayer.Proofs.Fragment.Injection
import SqlLayer.Proofs.Text.Decimal

/-!
# Comments between a template and its arguments

Two minus signs in a row open a comment.  An integer has at most one of them, in front of its
digits, so that a comment can only begin where a minus sign of the template meets the sign of an
argument.

* `opensComment_flatMap_iff` — pieces without a comment open one **where two of them meet**;
* `Token.render_placeholder` — what an integer puts into a placeholder;
* `Dialect.opensComment_render_iff` — a filled template opens a comment **exactly where a negative
  integer stands directly behind a minus sign**;
* `Dialect.negative_behind_minus` — a subtraction of a negative integer.
-/

namespace SqlLayer

/-- An integer that is not declared to be anything else. -/
def Arg.IsInteger (a : Arg) : Prop :=
  (∃ n, a.value = .int n) ∧ (a.tag = none ∨ a.tag = some .int)

/-- The digits of a placeholder name a negative integer. -/
def NamesNegative (args : List Arg) (digits : List Char) : Prop :=
  ∃ arg n, argument? args digits = some arg ∧ arg.value = .int n ∧ n.toInt < 0

/-- Two minus signs stand next to each other. -/
def OpensComment (s : List Char) : Prop := ['-', '-'] <:+: s

instance (s : List Char) : Decidable (OpensComment s) :=
  decidable_of_iff (Text.hasSlice ['-', '-'] s = true) Text.hasSlice_iff

/-! ### Neighbours -/

theorem isChain_iff_neighbours {α : Type} {R : α → α → Prop} {l : List α} :
    l.IsChain R ↔ ∀ a b, [a, b] <:+: l → R a b := by
  rw [List.isChain_iff_forall_rel_of_append_cons_cons]
  constructor
  · rintro h a b ⟨before, after, hl⟩
    exact h (by simpa using hl.symm)
  · rintro h a b before after hl
    exact h a b ⟨before, after, by simp [hl]⟩

theorem opensComment_iff {s : List Char} :
    OpensComment s ↔ ¬ s.IsChain fun a b => ¬ (a = '-' ∧ b = '-') := by
  rw [isChain_iff_neighbours]
  constructor
  · exact fun h hall => hall '-' '-' h ⟨rfl, rfl⟩
  · intro h
    simp only [not_forall, not_not] at h
    obtain ⟨a, b, hpair, rfl, rfl⟩ := h
    exact hpair

/-- A text with at most one minus sign opens no comment. -/
theorem not_opensComment_of_not_mem {c : Char} {rest : List Char} (h : '-' ∉ rest) :
    ¬ OpensComment (c :: rest) := by
  intro hopens
  have hcount := hopens.sublist.count_le '-'
  have hrest : rest.count '-' = 0 := List.count_eq_zero.2 h
  have hfirst : (c :: rest).count '-' ≤ rest.count '-' + 1 := by
    rw [List.count_cons]
    split <;> omega
  have htwo : ['-', '-'].count '-' = 2 := rfl
  omega

/-- **Pieces without a comment** open one where the end of one and the start of the next are minus
signs. -/
theorem opensComment_flatMap_iff {ts : List Token} {g : Token → List Char}
    (hne : ∀ t ∈ ts, g t ≠ []) (hpieces : ∀ t ∈ ts, ¬ OpensComment (g t)) :
    OpensComment (ts.flatMap g) ↔
      ∃ t u, [t, u] <:+: ts ∧ (g t).getLast? = some '-' ∧ (g u).head? = some '-' := by
  have hmem : [] ∉ ts.map g := by
    simp only [List.mem_map, not_exists, not_and]
    exact hne
  have hinside : ∀ s ∈ ts.map g, s.IsChain fun a b => ¬ (a = '-' ∧ b = '-') := by
    intro s hs
    obtain ⟨t, ht, rfl⟩ := List.mem_map.1 hs
    exact not_not.1 fun h => hpieces t ht (opensComment_iff.2 h)
  rw [opensComment_iff, List.flatMap_def, List.isChain_flatten hmem, and_iff_right hinside,
    List.isChain_map, isChain_iff_neighbours]
  constructor
  · intro h
    simp only [not_forall, not_not] at h
    obtain ⟨t, u, hpair, a, ha, b, hb, rfl, rfl⟩ := h
    exact ⟨t, u, hpair, ha, hb⟩
  · rintro ⟨t, u, hpair, ht, hu⟩ hall
    exact hall t u hpair '-' ht '-' hu ⟨rfl, rfl⟩

/-! ### Integers in placeholders -/

theorem escape_of_integer (d : Dialect) (now : DateTime) {arg : Arg} {n : Int64}
    (hvalue : arg.value = .int n) (htag : arg.tag = none ∨ arg.tag = some .int) :
    d.escape now arg.value arg.tag = toString n.toInt := by
  rw [hvalue]
  obtain h | h := htag <;> rw [h] <;> rfl

/-- A placeholder becomes a text whose minus sign, if there is one, is the sign of a negative
integer. -/
theorem Token.render_placeholder (d : Dialect) (now : DateTime) (tablePrefix : String)
    {args : List Arg} (hargs : ∀ arg ∈ args, arg.IsInteger) {digits : List Char}
    (hdigits : ∀ c ∈ digits, c.isDigit = true) :
    ∃ c rest, Token.render ⟨d.escape now, tablePrefix⟩ args (.placeholder digits) = c :: rest ∧
      '-' ∉ rest ∧ (c = '-' ↔ NamesNegative args digits) ∧ (c = '-' → rest ≠ []) := by
  cases harg : argument? args digits with
  | none =>
    refine ⟨'%', digits, by simp only [Token.render, harg], fun hmem => ?_, ?_, fun h => ?_⟩
    · exact absurd (hdigits '-' hmem) (by decide)
    · refine ⟨fun h => absurd h (by decide), ?_⟩
      rintro ⟨arg, n, hnamed, -⟩
      cases harg.symm.trans hnamed
    · exact absurd h (by decide)
  | some arg =>
    obtain ⟨⟨n, hvalue⟩, htag⟩ := hargs arg (mem_of_argument? harg)
    have hform : Token.render ⟨d.escape now, tablePrefix⟩ args (.placeholder digits)
        = (toString n.toInt).toList := by
      simp only [Token.render, harg, escape_of_integer d now hvalue htag]
    have hnamed : NamesNegative args digits ↔ n.toInt < 0 := by
      constructor
      · rintro ⟨arg', n', harg', hvalue', hneg⟩
        obtain rfl := Option.some.inj (harg.symm.trans harg')
        obtain rfl := Value.int.inj (hvalue.symm.trans hvalue')
        exact hneg
      · exact fun hneg => ⟨arg, n, harg, hvalue, hneg⟩
    rw [hform, hnamed]
    by_cases hneg : n.toInt < 0
    · rw [Text.toList_toString_of_neg hneg]
      exact ⟨'-', _, rfl, Text.minus_not_mem_toDigits _, iff_of_true rfl hneg,
        fun _ => Nat.toDigits_ne_nil⟩
    · rw [Text.toList_toString_of_nonneg (Int.not_lt.1 hneg)]
      have hminus := Text.minus_not_mem_toDigits n.toInt.toNat
      cases hdigits' : Nat.toDigits 10 n.toInt.toNat with
      | nil => exact absurd hdigits' Nat.toDigits_ne_nil
      | cons c rest =>
        rw [hdigits', List.mem_cons, not_or] at hminus
        exact ⟨c, rest, rfl, hminus.2, iff_of_false (Ne.symm hminus.1) hneg,
          fun h => absurd h.symm hminus.1⟩

section

variable {d : Dialect} {now : DateTime} {tablePrefix : String} {args : List Arg} {ts : List Token}

theorem Token.not_opensComment_render (hargs : ∀ arg ∈ args, arg.IsInteger)
    (hdigits : ∀ digits, .placeholder digits ∈ ts → ∀ c ∈ digits, c.isDigit = true)
    {t : Token} (ht : t ∈ ts) :
    Token.render ⟨d.escape now, tablePrefix⟩ args t ≠ [] ∧
      ¬ OpensComment (Token.render ⟨d.escape now, tablePrefix⟩ args t) := by
  cases t with
  | plain c => exact ⟨by simp [Token.render], not_opensComment_of_not_mem (by simp)⟩
  | placeholder digits =>
    obtain ⟨c, rest, hform, hrest, -⟩ :=
      Token.render_placeholder d now tablePrefix hargs (hdigits digits ht)
    rw [hform]
    exact ⟨by simp, not_opensComment_of_not_mem hrest⟩

/-- A piece of a filled template ends in a minus sign only if it is one of the template. -/
theorem Token.getLast?_render (hargs : ∀ arg ∈ args, arg.IsInteger)
    (hdigits : ∀ digits, .placeholder digits ∈ ts → ∀ c ∈ digits, c.isDigit = true)
    {t : Token} (ht : t ∈ ts) :
    (Token.render ⟨d.escape now, tablePrefix⟩ args t).getLast? = some '-' ↔ t = .plain '-' := by
  cases t with
  | plain c => simp [Token.render]
  | placeholder digits =>
    obtain ⟨c, rest, hform, hrest, -, hne⟩ :=
      Token.render_placeholder d now tablePrefix hargs (hdigits digits ht)
    refine ⟨fun hlast => ?_, Token.noConfusion⟩
    rw [hform] at hlast
    have hmem := List.mem_of_getLast? hlast
    rcases List.mem_cons.1 hmem with hc | hmem
    · rw [List.getLast?_cons_of_ne_nil (hne hc.symm)] at hlast
      exact absurd (List.mem_of_getLast? hlast) hrest
    · exact absurd hmem hrest

/-- A piece of a filled template starts with a minus sign if it is one of the template, or a
negative integer. -/
theorem Token.head?_render (hargs : ∀ arg ∈ args, arg.IsInteger)
    (hdigits : ∀ digits, .placeholder digits ∈ ts → ∀ c ∈ digits, c.isDigit = true)
    {t : Token} (ht : t ∈ ts) :
    (Token.render ⟨d.escape now, tablePrefix⟩ args t).head? = some '-' ↔
      t = .plain '-' ∨ ∃ digits, t = .placeholder digits ∧ NamesNegative args digits := by
  cases t with
  | plain c => simp [Token.render]
  | placeholder digits =>
    obtain ⟨c, rest, hform, -, hnamed, -⟩ :=
      Token.render_placeholder d now tablePrefix hargs (hdigits digits ht)
    rw [hform, List.head?_cons, Option.some.injEq, hnamed]
    simp

end

/-! ### The main statement -/

namespace Dialect

theorem opensComment_of_plain {ts : List Token} (h : [.plain '-', .plain '-'] <:+: ts) :
    OpensComment (ts.flatMap Token.written) := by
  obtain ⟨before, after, rfl⟩ := h
  exact ⟨before.flatMap Token.written, after.flatMap Token.written, by simp [Token.written]⟩

/-- **Where integers open a comment.**  A template that opens no comment by itself, with integers
for its placeholders, opens one exactly where a placeholder that names a negative integer stands
directly behind a minus sign. -/
theorem opensComment_render_iff (d : Dialect) (now : DateTime) (tablePrefix template : String)
    (args : List Arg) (hargs : ∀ arg ∈ args, arg.IsInteger)
    (htemplate : ¬ OpensComment (resolveMarker tablePrefix template).toList) :
    OpensComment (Fragment.render ⟨d.escape now, tablePrefix⟩ (.template template args)).toList ↔
      ∃ digits, [.plain '-', .placeholder digits] <:+: templateTokens tablePrefix template ∧
        NamesNegative args digits := by
  have hdigits : ∀ digits, .placeholder digits ∈ templateTokens tablePrefix template →
      ∀ c ∈ digits, c.isDigit = true := fun digits hmem => isDigit_of_mem_tokens hmem
  rw [toList_render_template, opensComment_flatMap_iff
    (fun t ht => (Token.not_opensComment_render hargs hdigits ht).1)
    (fun t ht => (Token.not_opensComment_render hargs hdigits ht).2)]
  constructor
  · rintro ⟨t, u, hpair, hlast, hhead⟩
    have ht : t ∈ templateTokens tablePrefix template := hpair.subset (by simp)
    have hu : u ∈ templateTokens tablePrefix template := hpair.subset (by simp)
    obtain rfl := (Token.getLast?_render hargs hdigits ht).1 hlast
    obtain rfl | ⟨digits, rfl, hnamed⟩ := (Token.head?_render hargs hdigits hu).1 hhead
    · -- the template itself has no two minus signs in a row
      rw [toList_resolveMarker] at htemplate
      exact absurd (opensComment_of_plain hpair) htemplate
    · exact ⟨digits, hpair, hnamed⟩
  · rintro ⟨digits, hpair, hnamed⟩
    have ht : .plain '-' ∈ templateTokens tablePrefix template := hpair.subset (by simp)
    have hu : .placeholder digits ∈ templateTokens tablePrefix template := hpair.subset (by simp)
    exact ⟨_, _, hpair, (Token.getLast?_render hargs hdigits ht).2 rfl,
      (Token.head?_render hargs hdigits hu).2 (.inr ⟨digits, rfl, hnamed⟩)⟩

/-- An integer that is not negative may stand behind a minus sign. -/
theorem opensComment_render_positive :
    (∀ arg ∈ [Arg.plain (.int 3)], arg.IsInteger) ∧
      ¬ OpensComment (resolveMarker "t" "#__a-%1").toList ∧
      ¬ OpensComment (Fragment.render ⟨mysql.escape default, "t"⟩
        (.template "#__a-%1" [.plain (.int 3)])).toList := by
  have hargs : ∀ arg ∈ [Arg.plain (.int 3)], arg.IsInteger := by
    intro arg harg
    rcases List.mem_singleton.1 harg with rfl
    exact ⟨⟨3, rfl⟩, .inl rfl⟩
  have htemplate : ¬ OpensComment (resolveMarker "t" "#__a-%1").toList := by decide
  refine ⟨hargs, htemplate, fun hopens => ?_⟩
  obtain ⟨digits, -, arg, n, harg, hvalue, hneg⟩ :=
    (opensComment_render_iff mysql default "t" "#__a-%1" _ hargs htemplate).1 hopens
  obtain rfl := List.mem_singleton.1 (mem_of_argument? harg)
  obtain rfl := Value.int.inj hvalue
  exact absurd hneg (by decide)

/-- The difference to a negative integer: what stands behind the placeholder becomes a comment. -/
theorem negative_behind_minus :
    (∀ arg ∈ [Arg.plain (.int (-3))], arg.IsInteger) ∧
      ¬ OpensComment (resolveMarker "" "a = 5-%1 AND b").toList ∧
      Fragment.render ⟨sqlite.escape default, ""⟩ (.template "a = 5-%1 AND b" [.plain (.int (-3))])
        = "a = 5--3 AND b" ∧
      OpensComment "a = 5--3 AND b".toList := by
  refine ⟨fun arg harg => ?_, by decide, by decide, by decide⟩
  rcases List.mem_singleton.1 harg with rfl
  exact ⟨⟨-3, rfl⟩, .inl rfl⟩

end Dialect

end SqlLayer
