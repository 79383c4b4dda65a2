import Mathlib.Data.List.Forall2
import SqlLayer.Proofs.Dialect.Literal
import SqlLayer.Proofs.Dialect.Scanning
import SqlLayer.Proofs.Fragment.Template

/-!
# Texts cannot leave their placeholders

A template is scanned once, before any argument is known: `templateScan` gives its own pieces, with
a hole where an argument goes.  If every hole stands outside of quotes, next to neither a quote nor
another hole, the filled template is scanned into the same pieces, **with one quoted token in each
hole**, which stands for the text of its argument.  What the arguments hold does not matter.

* `scanRest_template` — the template's own pieces, with the placeholders as they are written;
* `forall₂_fills` — the pieces of the filled template, by induction over those of the template;
* `scan_filled_template` — **both for every template of that kind**, and that arguments with other
  texts leave the unquoted text as it is.
-/

namespace SqlLayer

/-- A text that may be declared to be an identifier. -/
def Arg.IsQuotable (a : Arg) : Prop :=
  (∃ s, a.value = .text s) ∧
    (a.tag = none ∨ a.tag = some .text ∨ a.tag = some .field ∨ a.tag = some .table)

/-- The quote around an argument that is a text. -/
def Arg.quoteIn (d : Dialect) (a : Arg) : Char :=
  if a.tag = some .field ∨ a.tag = some .table then d.identifierQuote else '\x27'

/-- A placeholder names one of the arguments. -/
theorem mem_of_argument? {args : List Arg} {digits : List Char} {arg : Arg}
    (h : argument? args digits = some arg) : arg ∈ args := by
  unfold argument? at h
  split at h
  · exact absurd h (by simp)
  · exact List.mem_of_getElem? h

/-- Whether a piece of a template is a placeholder with an argument. -/
def Token.isFilled (args : List Arg) : Token → Bool
  | .plain _ => false
  | .placeholder digits => (argument? args digits).isSome

/-- A piece of a scanned template: one of its own, or a hole for the argument that some digits
name. -/
inductive TemplatePiece where
  | own (p : Piece)
  | hole (digits : List Char)
  deriving DecidableEq

/-- A piece of a scanned template as the template itself shows it. -/
def TemplatePiece.written : TemplatePiece → List Piece
  | .own p => [p]
  | .hole digits => ('%' :: digits).map .outside

/-- What stands in a filled template for a piece: its own pieces as they are, and for a hole one
quoted token that stands for the text of the argument. -/
inductive Fills (d : Dialect) (args : List Arg) : TemplatePiece → Piece → Prop
  | own (p : Piece) : Fills d args (.own p) p
  | hole {digits : List Char} {arg : Arg} {text : String} {body : List Char} :
      argument? args digits = some arg → arg.value = .text text →
      d.decode? (arg.quoteIn d) body = some text.toList →
      Fills d args (.hole digits) (.quoted (arg.quoteIn d) body)

namespace Dialect

/-- The pieces of a template from some place on, where the scanner is in a given mode.  The scanner
goes over a placeholder as over any other text. -/
def templateScan (d : Dialect) (args : List Arg) : ScanMode → List Token → List TemplatePiece
  | m, [] => m.pending.map .own
  | m, t :: rest =>
    let here := d.scanFrom m t.written
    match t with
    | .plain _ => here.1.map .own ++ d.templateScan args here.2 rest
    | .placeholder digits =>
      (if (argument? args digits).isSome then [.hole digits] else here.1.map .own)
        ++ d.templateScan args here.2 rest

/-- Every placeholder with an argument starts outside of quotes, and stands next to neither a quote
nor another such placeholder. -/
def HolesApart (d : Dialect) (args : List Arg) (ts : List Token) : Prop :=
  ∀ (i : Nat) (h : i < ts.length), ts[i].isFilled args = true →
    let before := ts.take i
    let after := ts.drop (i + 1)
    (d.scanFrom .outside (before.flatMap Token.written)).2.isOutside = true ∧
    (∀ c ∈ (before.flatMap Token.written).getLast?, isQuote c = false) ∧
    (∀ c ∈ (after.flatMap Token.written).head?, isQuote c = false) ∧
    (∀ u ∈ before.getLast?, u.isFilled args = false) ∧
    (∀ u ∈ after.head?, u.isFilled args = false)

instance (d : Dialect) (args : List Arg) (ts : List Token) : Decidable (d.HolesApart args ts) :=
  -- only the characters that are there are looked at, not all characters
  have (o : Option Char) : Decidable (∀ c ∈ o, isQuote c = false) := o.decidableForallMem
  inferInstanceAs (Decidable (∀ (i : Nat) (_ : i < ts.length), _))

/-! ### The same, from one piece to the next -/

/-- Every placeholder with an argument starts strictly outside of quotes, and neither a quote nor
another such placeholder follows it. -/
def HolesApartFrom (d : Dialect) (args : List Arg) : ScanMode → List Token → Prop
  | _, [] => True
  | m, t :: rest =>
    (t.isFilled args = true → m = .outside ∧
      (∀ c ∈ (rest.flatMap Token.written).head?, isQuote c = false) ∧
      (∀ u ∈ rest.head?, u.isFilled args = false)) ∧
    d.HolesApartFrom args (d.scanFrom m t.written).2 rest

/-- A template may be gone through from left to right. -/
theorem HolesApart.from {d : Dialect} {args : List Arg} {ts : List Token}
    (h : d.HolesApart args ts) (before after : List Token) (hts : ts = before ++ after) :
    d.HolesApartFrom args (d.scanFrom .outside (before.flatMap Token.written)).2 after := by
  induction after generalizing before with
  | nil => trivial
  | cons t rest ih =>
    refine ⟨?_, ?_⟩
    · intro ht
      have hlength : before.length < ts.length := by simp [hts]
      have hfilled : ts[before.length].isFilled args = true := by simpa [hts] using ht
      obtain ⟨hout, hlast, hhead, -, hnext⟩ := h before.length hlength hfilled
      have hbefore : ts.take before.length = before := by simp [hts]
      have hafter : ts.drop (before.length + 1) = rest := by simp [hts]
      rw [hbefore] at hout hlast
      rw [hafter] at hhead hnext
      exact ⟨eq_outside_of_isOutside d _ hout hlast, hhead, hnext⟩
    · have hstep := ih (before ++ [t]) (by rw [hts, List.append_assoc]; rfl)
      rw [List.flatMap_append, scanFrom_append] at hstep
      simpa using hstep

/-! ### The template by itself -/

/-- The characters of a placeholder are no quotes. -/
theorem isQuote_of_mem_placeholder {digits : List Char} (h : ∀ c ∈ digits, c.isDigit = true) :
    ∀ c ∈ '%' :: digits, isQuote c = false := by
  intro c hc
  rcases List.mem_cons.1 hc with rfl | hc
  · rfl
  · have hd := h c hc
    unfold isQuote
    rw [Bool.or_eq_false_iff, Bool.or_eq_false_iff]
    refine ⟨⟨?_, ?_⟩, ?_⟩ <;> rw [beq_eq_false_iff_ne] <;> rintro rfl <;>
      exact absurd hd (by decide)

/-- A piece of a template that takes no argument is scanned as it is. -/
theorem templateScan_of_not_filled (d : Dialect) {args : List Arg} (m : ScanMode) {t : Token}
    (ht : t.isFilled args = false) (rest : List Token) :
    d.templateScan args m (t :: rest)
      = (d.scanFrom m t.written).1.map .own
        ++ d.templateScan args (d.scanFrom m t.written).2 rest := by
  cases t with
  | plain c => rfl
  | placeholder digits =>
    have hnone : (argument? args digits).isSome = false := ht
    rw [templateScan, hnone]
    rfl

/-- A placeholder with an argument is a hole, and the scanner stays outside. -/
theorem templateScan_of_filled (d : Dialect) {args : List Arg} {digits : List Char}
    (hdigits : ∀ c ∈ digits, c.isDigit = true) (hsome : (argument? args digits).isSome = true)
    (rest : List Token) :
    d.templateScan args .outside (.placeholder digits :: rest)
      = .hole digits :: d.templateScan args .outside rest := by
  rw [templateScan, hsome, if_pos rfl, Token.written,
    scanFrom_outside d (isQuote_of_mem_placeholder hdigits)]
  rfl

/-- **The template's own pieces**, with the placeholders as they are written. -/
theorem scanRest_template (d : Dialect) {args : List Arg} (ts : List Token) (m : ScanMode)
    (hdigits : ∀ digits, .placeholder digits ∈ ts → ∀ c ∈ digits, c.isDigit = true)
    (hapart : d.HolesApartFrom args m ts) :
    d.scanRest m (ts.flatMap Token.written)
      = (d.templateScan args m ts).flatMap TemplatePiece.written := by
  have hown : ∀ ps : List Piece, (ps.map TemplatePiece.own).flatMap TemplatePiece.written = ps := by
    intro ps
    induction ps with
    | nil => rfl
    | cons p ps ih => rw [List.map_cons, List.flatMap_cons, ih]; rfl
  induction ts generalizing m with
  | nil => exact (hown m.pending).symm
  | cons t rest ih =>
    obtain ⟨hhere, hrest⟩ := hapart
    have ihrest := ih (d.scanFrom m t.written).2
      (fun digits hmem => hdigits digits (List.mem_cons_of_mem t hmem)) hrest
    rw [List.flatMap_cons, scanRest_append, ihrest]
    cases hfill : t.isFilled args with
    | false =>
      rw [templateScan_of_not_filled d m hfill, List.flatMap_append, hown]
    | true =>
      obtain ⟨rfl, -, -⟩ := hhere hfill
      cases t with
      | plain c => exact absurd hfill (by simp [Token.isFilled])
      | placeholder digits =>
        have hd := hdigits digits List.mem_cons_self
        rw [templateScan_of_filled d hd hfill, Token.written,
          scanFrom_outside d (isQuote_of_mem_placeholder hd)]
        rfl

/-! ### The filled template -/

/-- An argument that is a text is written as one quoted token that stands for it. -/
theorem escape_quotable (d : Dialect) (now : DateTime) {arg : Arg} (h : arg.IsQuotable) :
    ∃ text body, arg.value = .text text ∧
      d.scanFrom .outside (d.escape now arg.value arg.tag).toList
        = ([], .closing (arg.quoteIn d) body) ∧
      d.decode? (arg.quoteIn d) body = some text.toList := by
  obtain ⟨⟨text, hvalue⟩, htag⟩ := h
  rw [← or_assoc] at htag
  obtain htext | hname := htag
  · have hquote : arg.quoteIn d = '\x27' := by
      obtain h | h := htext <;> simp [Arg.quoteIn, h]
    refine ⟨text, text.toList.flatMap d.textEscape, hvalue, ?_, ?_⟩
    · rw [hvalue, escape_of_text d now text htext, hquote, scanFrom_textChars]
    · rw [hquote, decode?_textEscape]
  · have hquote : arg.quoteIn d = d.identifierQuote := if_pos hname
    refine ⟨text, text.toList.flatMap (doubleQuote d.identifierQuote), hvalue, ?_, ?_⟩
    · rw [hvalue, escape_of_identifier d now text hname, hquote, scanFrom_identifierChars]
    · rw [hquote, decode?_identifier]

/-- The quote around an argument is a quote. -/
theorem isQuote_quoteIn (d : Dialect) (arg : Arg) : isQuote (arg.quoteIn d) = true := by
  unfold Arg.quoteIn
  split
  · cases d <;> rfl
  · rfl

/-- A piece that takes no argument stands as it is in the filled template. -/
theorem render_of_not_filled (ctx : RenderContext) {args : List Arg} {t : Token}
    (ht : t.isFilled args = false) : t.render ctx args = t.written := by
  cases t with
  | plain c => rfl
  | placeholder digits =>
    have hnone : argument? args digits = none := by simpa [Token.isFilled] using ht
    rw [Token.render, hnone]
    rfl

/-- If the template goes on with no quote and no hole, the filled template goes on with no quote. -/
theorem isQuote_head?_render (ctx : RenderContext) {args : List Arg} {ts : List Token}
    (hhead : ∀ c ∈ (ts.flatMap Token.written).head?, isQuote c = false)
    (hnext : ∀ u ∈ ts.head?, u.isFilled args = false) :
    ∀ c ∈ (ts.flatMap (Token.render ctx args)).head?, isQuote c = false := by
  cases ts with
  | nil => simp
  | cons u rest =>
    have hu : u.render ctx args = u.written := render_of_not_filled ctx (hnext u rfl)
    obtain ⟨c, chars, hchars⟩ := List.exists_cons_of_ne_nil u.written_ne_nil
    simp only [List.flatMap_cons, hu, hchars, List.cons_append, List.head?_cons] at hhead ⊢
    exact hhead

/-- **One quoted token in each hole.**  By induction over the pieces of the template; a hole leaves
the scanner behind a closing quote, and what follows the hole completes the token. -/
theorem forall₂_fills (d : Dialect) (now : DateTime) (tablePrefix : String) {args : List Arg}
    (hargs : ∀ arg ∈ args, arg.IsQuotable) (ts : List Token) (m : ScanMode)
    (hdigits : ∀ digits, .placeholder digits ∈ ts → ∀ c ∈ digits, c.isDigit = true)
    (hapart : d.HolesApartFrom args m ts) :
    List.Forall₂ (Fills d args) (d.templateScan args m ts)
      (d.scanRest m (ts.flatMap (Token.render ⟨d.escape now, tablePrefix⟩ args))) := by
  have hown : ∀ ps : List Piece, List.Forall₂ (Fills d args) (ps.map .own) ps := by
    intro ps
    induction ps with
    | nil => exact .nil
    | cons p ps ih => exact .cons (.own p) ih
  induction ts generalizing m with
  | nil => exact hown m.pending
  | cons t rest ih =>
    obtain ⟨hhere, hrest⟩ := hapart
    have hdigits' : ∀ digits, .placeholder digits ∈ rest → ∀ c ∈ digits, c.isDigit = true :=
      fun digits hmem => hdigits digits (List.mem_cons_of_mem t hmem)
    have ihrest := ih (d.scanFrom m t.written).2 hdigits' hrest
    rw [List.flatMap_cons]
    cases hfill : t.isFilled args with
    | false =>
      rw [templateScan_of_not_filled d m hfill, render_of_not_filled _ hfill, scanRest_append]
      exact List.rel_append (hown _) ihrest
    | true =>
      obtain ⟨rfl, hhead, hnext⟩ := hhere hfill
      cases t with
      | plain c => exact absurd hfill (by simp [Token.isFilled])
      | placeholder digits =>
        have hd := hdigits digits List.mem_cons_self
        obtain ⟨arg, harg⟩ := Option.isSome_iff_exists.1 hfill
        obtain ⟨text, body, hvalue, hscan, hdecode⟩ :=
          escape_quotable d now (hargs arg (mem_of_argument? harg))
        have hclose : (rest.flatMap (Token.render ⟨d.escape now, tablePrefix⟩ args)).head?
            ≠ some (arg.quoteIn d) := by
          intro h
          have hq := isQuote_head?_render _ hhead hnext _ h
          rw [isQuote_quoteIn] at hq
          exact absurd hq (by decide)
        rw [Token.written, scanFrom_outside d (isQuote_of_mem_placeholder hd)] at ihrest
        rw [templateScan_of_filled d hd hfill, Token.render, harg]
        show List.Forall₂ (Fills d args) _
          (d.scanRest .outside ((d.escape now arg.value arg.tag).toList ++ _))
        rw [scanRest_append, hscan, List.nil_append, scanRest_closing d hclose]
        exact .cons (.hole harg hvalue hdecode) ihrest

/-! ### Two lists of arguments -/

/-- The unquoted text of a scanned template. -/
def templateText (pieces : List TemplatePiece) : List Char :=
  unquotedText (pieces.filterMap fun
    | .own p => some p
    | .hole _ => none)

/-- Arguments bring no unquoted text. -/
theorem unquotedText_of_fills {d : Dialect} {args : List Arg} {pieces : List TemplatePiece}
    {filled : List Piece} (h : List.Forall₂ (Fills d args) pieces filled) :
    unquotedText filled = templateText pieces := by
  induction h with
  | nil => rfl
  | @cons piece p pieces filled hp _ ih =>
    cases hp with
    | own =>
      cases p with
      | outside c => exact congrArg (List.cons c) ih
      | quoted quote body => exact ih
      | unclosed quote body => exact ih
    | hole => exact ih

/-- Which placeholders have an argument depends on the number of arguments only. -/
theorem isSome_argument?_congr {args args' : List Arg} (h : args'.length = args.length)
    (digits : List Char) : (argument? args' digits).isSome = (argument? args digits).isSome := by
  unfold argument?
  split
  · rfl
  · rename_i n _
    rw [Bool.eq_iff_iff, isSome_getElem?, isSome_getElem?, h]

theorem isFilled_congr {args args' : List Arg} (h : args'.length = args.length) (t : Token) :
    t.isFilled args' = t.isFilled args := by
  cases t with
  | plain c => rfl
  | placeholder digits => exact isSome_argument?_congr h digits

theorem templateScan_congr (d : Dialect) {args args' : List Arg} (h : args'.length = args.length)
    (m : ScanMode) (ts : List Token) : d.templateScan args' m ts = d.templateScan args m ts := by
  induction ts generalizing m with
  | nil => rfl
  | cons t rest ih =>
    cases t with
    | plain c => simp only [templateScan, ih]
    | placeholder digits => simp only [templateScan, ih, isSome_argument?_congr h]

theorem HolesApart.congr {d : Dialect} {args args' : List Arg} {ts : List Token}
    (hapart : d.HolesApart args ts) (h : args'.length = args.length) : d.HolesApart args' ts := by
  intro i hi ht
  rw [isFilled_congr h] at ht
  simp only [isFilled_congr h]
  exact hapart i hi ht

/-! ### The main statement -/

/-- The tokens of a template with its table prefix resolved. -/
def templateTokens (tablePrefix template : String) : List Token :=
  tokens (resolveChars tablePrefix.toList template.toList)

/-- The resolved template is written as its tokens are. -/
theorem toList_resolveMarker (tablePrefix template : String) :
    (resolveMarker tablePrefix template).toList
      = (templateTokens tablePrefix template).flatMap Token.written := by
  rw [templateTokens, flatMap_written_tokens]
  exact String.toList_ofList

/-- A filled template is rendered token by token. -/
theorem toList_render_template (d : Dialect) (now : DateTime) (tablePrefix template : String)
    (args : List Arg) :
    (Fragment.render ⟨d.escape now, tablePrefix⟩ (.template template args)).toList
      = (templateTokens tablePrefix template).flatMap
          (Token.render ⟨d.escape now, tablePrefix⟩ args) := String.toList_ofList

/-- The pieces of a filled template. -/
theorem forall₂_fills_render (d : Dialect) (now : DateTime) (tablePrefix template : String)
    {args : List Arg} (hargs : ∀ arg ∈ args, arg.IsQuotable)
    (hapart : d.HolesApart args (templateTokens tablePrefix template)) :
    List.Forall₂ (Fills d args)
      (d.templateScan args .outside (templateTokens tablePrefix template))
      (d.scan (Fragment.render ⟨d.escape now, tablePrefix⟩ (.template template args)).toList) := by
  rw [toList_render_template]
  exact forall₂_fills d now tablePrefix hargs _ .outside
    (fun digits hmem => isDigit_of_mem_tokens hmem) (hapart.from [] _ rfl)

/-- **Injection safety.**  Where every argument is a text, and every placeholder of an argument
stands outside of quotes and next to neither a quote nor another one: the resolved template is
scanned into pieces of its own and placeholders, and the filled template into the same pieces, with
one quoted token in each hole that stands for the text of its argument.  Other texts under the same
tags leave the unquoted text as it is. -/
theorem scan_filled_template (d : Dialect) (now : DateTime) (tablePrefix template : String)
    (args : List Arg) (hargs : ∀ arg ∈ args, arg.IsQuotable)
    (hapart : d.HolesApart args (templateTokens tablePrefix template)) :
    d.scan (resolveMarker tablePrefix template).toList
      = (d.templateScan args .outside (templateTokens tablePrefix template)).flatMap
          TemplatePiece.written ∧
    List.Forall₂ (Fills d args)
      (d.templateScan args .outside (templateTokens tablePrefix template))
      (d.scan (Fragment.render ⟨d.escape now, tablePrefix⟩ (.template template args)).toList) ∧
    ∀ args' : List Arg, args'.map Arg.tag = args.map Arg.tag →
      (∀ arg ∈ args', arg.IsQuotable) →
      unquotedText
          (d.scan (Fragment.render ⟨d.escape now, tablePrefix⟩ (.template template args')).toList)
        = unquotedText (d.scan
            (Fragment.render ⟨d.escape now, tablePrefix⟩ (.template template args)).toList) := by
  have hfills := forall₂_fills_render d now tablePrefix template hargs hapart
  refine ⟨?_, hfills, ?_⟩
  · have htext : (resolveMarker tablePrefix template).toList
        = (templateTokens tablePrefix template).flatMap Token.written := by
      rw [templateTokens, flatMap_written_tokens]
      exact String.toList_ofList
    rw [htext]
    exact scanRest_template d _ .outside (fun digits hmem => isDigit_of_mem_tokens hmem)
      (hapart.from [] _ rfl)
  · intro args' htags hargs'
    have hlength : args'.length = args.length := by simpa using congrArg List.length htags
    have hfills' := forall₂_fills_render d now tablePrefix template hargs' (hapart.congr hlength)
    rw [templateScan_congr d hlength] at hfills'
    rw [unquotedText_of_fills hfills, unquotedText_of_fills hfills']

/-- A text that looks like the end of a literal and a comment is as harmless as an empty one. -/
theorem scan_filled_template_hostile :
    (∀ arg ∈ [Arg.plain (.text "\\' -- %1")], arg.IsQuotable) ∧
      mysql.HolesApart [.plain (.text "\\' -- %1")] (templateTokens "a" "#__n = %1") ∧
      unquotedText (mysql.scan (Fragment.render ⟨mysql.escape default, "a"⟩
          (.template "#__n = %1" [.plain (.text "")])).toList)
        = unquotedText (mysql.scan (Fragment.render ⟨mysql.escape default, "a"⟩
          (.template "#__n = %1" [.plain (.text "\\' -- %1")])).toList) := by
  have hargs : ∀ a : String, ∀ arg ∈ [Arg.plain (.text a)], arg.IsQuotable := by
    intro a arg harg
    rcases List.mem_singleton.1 harg with rfl
    exact ⟨⟨a, rfl⟩, .inl rfl⟩
  have hapart : mysql.HolesApart [.plain (.text "\\' -- %1")] (templateTokens "a" "#__n = %1") := by
    decide
  exact ⟨hargs _, hapart,
    (scan_filled_template mysql default "a" "#__n = %1" _ (hargs _) hapart).2.2
      [.plain (.text "")] rfl (hargs _)⟩

end Dialect

end SqlLayer
