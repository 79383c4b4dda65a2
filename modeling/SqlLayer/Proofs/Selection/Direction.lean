import SqlLayer.Proofs.Text.Blank
import SqlLayer.Selection

/-!
# The direction of a sort column

A sort column may end in a direction word behind blanks, and then sorts by what stands before them.
The word is found in any case and compared with `DESC` in any case, but these are two notions of
case: **a direction word with a long s is found and taken off, and then is not the one it was found
as**.

* `isDirection_iff` — the words that are found, the two with a long s among them;
* `splitDirection_of_wordBehind`, `wordBehind_of_splitDirection` — where a sort column is cut, and
  when;
* `DirectionRule` — the rule for sort columns as it is meant;
* `Selection.order_directionRule_iff` — **the texts for which it holds**;
* `Selection.order_longS` — one for which it does not.
-/

namespace SqlLayer

/-! ### Direction words -/

/-- The two direction words. -/
def directionWord (descending : Bool) : List Char :=
  if descending then "DESC".toList else "ASC".toList

/-- The direction words with a long s. -/
def longDirectionWord (descending : Bool) : List Char :=
  if descending then "DEſC".toList else "AſC".toList

/-- The long s is the only letter beyond ASCII that is found as one of a direction word. -/
theorem foldLetter_eq (c : Char) : foldLetter c = if c.toLower = 'ſ' then 's' else c.toLower := by
  rw [foldLetter]
  by_cases hlong : c = 'ſ'
  · rw [if_pos hlong, if_pos (by rw [hlong]; decide)]
  · rw [if_neg hlong, if_neg]
    intro hlower
    obtain hsame | ⟨-, hhigh, hnat⟩ := Text.toLower_cases c
    · exact hlong (hsame.symm.trans hlower)
    · have hlongNat : c.toLower.toNat = 383 := congrArg Char.toNat hlower
      omega

/-- An s of either kind as one, as direction words are found. -/
def foldLong (c : Char) : Char := if c = 'ſ' then 's' else c

theorem foldLong_eq_s_iff {c : Char} : foldLong c = 's' ↔ c = 's' ∨ c = 'ſ' := by
  rw [foldLong]
  split <;> simp_all

theorem foldLong_eq_iff {c letter : Char} (hs : letter ≠ 's') (hlong : letter ≠ 'ſ') :
    foldLong c = letter ↔ c = letter := by
  rw [foldLong]
  split <;> grind

/-- Found as a direction word is the word itself, and the one with a long s. -/
theorem map_foldLong_eq_iff {lower : List Char} {descending : Bool} :
    lower.map foldLong = (directionWord descending).map Char.toLower ↔
      lower = (directionWord descending).map Char.toLower ∨
        lower = (longDirectionWord descending).map Char.toLower := by
  cases descending with
  | false =>
    have hword : (directionWord false).map Char.toLower = ['a', 's', 'c'] := by decide
    have hlong : (longDirectionWord false).map Char.toLower = ['a', 'ſ', 'c'] := by decide
    rw [hword, hlong]
    simp [List.map_eq_cons_iff, foldLong_eq_s_iff, foldLong_eq_iff, and_or_left, exists_or]
  | true =>
    have hword : (directionWord true).map Char.toLower = ['d', 'e', 's', 'c'] := by decide
    have hlong : (longDirectionWord true).map Char.toLower = ['d', 'e', 'ſ', 'c'] := by decide
    rw [hword, hlong]
    simp [List.map_eq_cons_iff, foldLong_eq_s_iff, foldLong_eq_iff, and_or_left, exists_or]

/-- The words that are found. -/
theorem isDirection_iff {word : List Char} :
    isDirection word = true ↔
      ∃ descending, Text.sameLetters word (directionWord descending) = true ∨
        Text.sameLetters word (longDirectionWord descending) = true := by
  have hfold : word.map foldLetter = (word.map Char.toLower).map foldLong := by
    rw [List.map_map]
    exact List.map_congr_left fun c _ => foldLetter_eq c
  have hascending : ['a', 's', 'c'] = (directionWord false).map Char.toLower := by decide
  have hdescending : ['d', 'e', 's', 'c'] = (directionWord true).map Char.toLower := by decide
  simp only [isDirection, hfold, hascending, hdescending, Bool.or_eq_true, beq_iff_eq,
    map_foldLong_eq_iff, Text.sameLetters, Bool.exists_bool]

/-- The two direction words differ in more than case. -/
theorem sameLetters_directionWord_iff {word : List Char} {descending : Bool}
    (h : Text.sameLetters word (directionWord descending) = true) (other : Bool) :
    Text.sameLetters word (directionWord other) = true ↔ descending = other := by
  rw [Text.sameLetters, beq_iff_eq] at *
  rw [h]
  cases descending <;> cases other <;> decide

/-- With a long s, a direction word is neither of the two. -/
theorem not_sameLetters_directionWord {word : List Char} {descending : Bool}
    (h : Text.sameLetters word (longDirectionWord descending) = true) (other : Bool) :
    Text.sameLetters word (directionWord other) = false := by
  rw [Text.sameLetters, beq_iff_eq] at h
  unfold Text.sameLetters
  rw [h]
  cases descending <;> cases other <;> decide

/-- There are no blanks in a direction word. -/
theorem isBlank_of_isDirection {word : List Char} (h : isDirection word = true) :
    ∀ c ∈ word, Text.isBlank c = false := by
  obtain ⟨descending, hword | hword⟩ := isDirection_iff.1 h
  all_goals exact Text.isBlank_of_sameLetters hword (by cases descending <;> decide)

/-! ### Where a sort column is cut -/

/-- The cut is in front of the last word. -/
theorem splitDirection_eq (text : List Char) :
    splitDirection text =
      if isDirection (Text.lastWord text) = true ∧ Text.beforeLastWord text ≠ [] then
        some (Text.beforeLastWord text, Text.lastWord text)
      else none := by
  have hparts := Text.beforeLastWord_append_lastWord text
  have hcut : text.take (text.length - (Text.lastWord text).length) = Text.beforeLastWord text := by
    have hlength := congrArg List.length hparts
    rw [List.length_append] at hlength
    rw [List.prefix_iff_eq_take.1 ⟨_, hparts⟩]
    congr 1
    omega
  simp only [← hcut, splitDirection, Bool.and_eq_true, Bool.not_eq_true', List.isEmpty_eq_false_iff]
  rfl

/-- A text that ends in a direction word is cut there. -/
theorem splitDirection_of_wordBehind {text before word : List Char}
    (h : Text.WordBehind text before word) (hword : isDirection word = true) :
    ∃ blanks, (∀ c ∈ blanks, Text.isBlank c = true) ∧
      splitDirection text = some (before ++ blanks, word) := by
  have hlast := Text.lastWord_of_wordBehind h (isBlank_of_isDirection hword)
  have hparts := Text.beforeLastWord_append_lastWord text
  obtain ⟨blanks, htext, hne, hblank⟩ := h
  have hfront : Text.beforeLastWord text = before ++ blanks := by
    rw [hlast, htext, ← List.append_assoc] at hparts
    rw [htext, ← List.append_assoc]
    exact List.append_cancel_right hparts
  refine ⟨blanks, hblank, ?_⟩
  rw [splitDirection_eq, hlast, hfront, if_pos ⟨hword, by simp [hne]⟩]

/-- A text is cut only in front of a direction word behind blanks. -/
theorem wordBehind_of_splitDirection {text cut word : List Char}
    (h : splitDirection text = some (cut, word)) :
    isDirection word = true ∧ ∃ before, Text.WordBehind text before word := by
  rw [splitDirection_eq] at h
  split at h
  case isFalse => exact absurd h (by simp)
  case isTrue hfound =>
    obtain ⟨hword, hne⟩ := hfound
    cases h
    exact ⟨hword, Text.wordBehind_lastWord hne⟩

/-- The sort entry for what stands in front of a direction word. -/
def SortKey.ofFront (before : List Char) (descending : Bool) : SortKey :=
  .column (ColumnRef.ofText (String.ofList (Text.trim before))) descending

/-- **A text that ends in a direction word** sorts by what stands before it, downwards if the word
is `DESC`. -/
theorem SortKey.ofText_of_wordBehind {text : String} {before word : List Char}
    (h : Text.WordBehind text.toList before word) (hword : isDirection word = true) :
    SortKey.ofText text = .ofFront before (Text.sameLetters word (directionWord true)) := by
  obtain ⟨blanks, hblank, hcut⟩ := splitDirection_of_wordBehind h hword
  have hupper : Text.sameLetters word ['d', 'e', 's', 'c']
      = Text.sameLetters word (directionWord true) := by
    have hlower : (['d', 'e', 's', 'c'] : List Char).map Char.toLower
        = (directionWord true).map Char.toLower := by decide
    unfold Text.sameLetters
    rw [hlower]
  rw [SortKey.ofText, hcut]
  dsimp only
  rw [Text.trim_append_blanks before hblank, hupper, SortKey.ofFront]

/-- The sort entry of a text that ends in `ASC` or `DESC`. -/
theorem SortKey.ofText_of_endsInWord {text : String} {before : List Char} {descending : Bool}
    (h : Text.EndsInWord text.toList before (directionWord descending)) :
    SortKey.ofText text = .ofFront before descending := by
  obtain ⟨written, hbehind, hsame⟩ := h
  have hdescending := sameLetters_directionWord_iff hsame true
  rw [SortKey.ofText_of_wordBehind hbehind (isDirection_iff.2 ⟨descending, .inl hsame⟩)]
  congr 1
  cases descending <;> simpa using hdescending

/-- The sort entry of a text that ends in one of them with a long s. -/
theorem SortKey.ofText_of_endsInLongWord {text : String} {before : List Char} {descending : Bool}
    (h : Text.EndsInWord text.toList before (longDirectionWord descending)) :
    SortKey.ofText text = .ofFront before false := by
  obtain ⟨written, hbehind, hsame⟩ := h
  rw [SortKey.ofText_of_wordBehind hbehind (isDirection_iff.2 ⟨descending, .inr hsame⟩),
    not_sameLetters_directionWord hsame true]

/-- The sort entry of every other text is the text. -/
theorem SortKey.ofText_of_not_endsInWord {text : String}
    (h : ∀ descending before, ¬Text.EndsInWord text.toList before (directionWord descending))
    (hlong : ∀ descending before,
      ¬Text.EndsInWord text.toList before (longDirectionWord descending)) :
    SortKey.ofText text = .column (.name text) false := by
  rw [SortKey.ofText]
  split
  case h_2 => rfl
  case h_1 cut word hcut =>
    obtain ⟨hword, before, hbehind⟩ := wordBehind_of_splitDirection hcut
    obtain ⟨descending, hsame | hsame⟩ := isDirection_iff.1 hword
    · exact absurd ⟨word, hbehind, hsame⟩ (h descending before)
    · exact absurd ⟨word, hbehind, hsame⟩ (hlong descending before)

/-! ### The rule -/

/-- The sort entry that a text is meant to write: a direction word in any case counts behind any
blanks, the last one if there are several, and a text without one is a name as it is. -/
structure DirectionRule (text : String) (key : SortKey) : Prop where
  word : ∀ descending before,
    Text.EndsInWord text.toList before (directionWord descending) → key = .ofFront before descending
  otherwise :
    (∀ descending before, ¬Text.EndsInWord text.toList before (directionWord descending)) →
      key = .column (.name text) false

/-- What stands in front of the last word is shorter than the text. -/
theorem SortKey.ofFront_ne {text : String} {before word : List Char}
    (h : Text.WordBehind text.toList before word) (descending : Bool) :
    SortKey.ofFront before descending ≠ .column (.name text) false := by
  obtain ⟨blanks, htext, hne, -⟩ := h
  have hshorter : (Text.trim before).length < text.toList.length := by
    have hstart : (Text.trimStart before).length ≤ before.length := List.length_dropWhile_le _ _
    have hend : (Text.trim before).length ≤ (Text.trimStart before).length := by
      have h := List.length_dropWhile_le Text.isBlank (Text.trimStart before).reverse
      rwa [List.length_reverse, ← List.length_reverse] at h
    have hblanks := List.length_pos_iff.2 hne
    rw [htext, List.length_append, List.length_append]
    omega
  intro hsame
  injection hsame with hfield
  rw [ColumnRef.ofText] at hfield
  split at hfield
  · exact ColumnRef.noConfusion hfield
  · injection hfield with hname
    rw [← hname, String.toList_ofList] at hshorter
    exact lt_irrefl _ hshorter

/-- The rule holds of a sort entry as long as there is no long s in the direction word. -/
theorem directionRule_ofText_iff (text : String) :
    DirectionRule text (SortKey.ofText text) ↔
      ∀ descending before,
        ¬Text.EndsInWord text.toList before (longDirectionWord descending) := by
  constructor
  · rintro ⟨-, hotherwise⟩ descending before hlong
    have hkey := SortKey.ofText_of_endsInLongWord hlong
    have hlast := hlong.sameLetters_lastWord (by cases descending <;> decide)
    obtain ⟨written, hbehind, -⟩ := hlong
    refine SortKey.ofFront_ne hbehind false ?_
    rw [← hkey]
    refine hotherwise fun other front hother => ?_
    -- the last word would be one with a long s and one without
    have hlast' := hother.sameLetters_lastWord (by cases other <;> decide)
    rw [not_sameLetters_directionWord hlast other] at hlast'
    exact Bool.noConfusion hlast'
  · intro hlong
    exact ⟨fun descending before hword => SortKey.ofText_of_endsInWord hword,
      fun hword => SortKey.ofText_of_not_endsInWord hword hlong⟩

/-! ### The main statement -/

/-- What is in hashes ends in one. -/
theorem Fragment.getLast?_of_insideHashes? {text inside : List Char}
    (h : Fragment.insideHashes? text = some inside) : text.getLast? = some '#' := by
  unfold Fragment.insideHashes? at h
  split at h
  case h_2 => exact absurd h (by simp)
  case h_1 rest =>
    split at h
    case isFalse => exact absurd h (by simp)
    case isTrue hlast => rw [List.getLast?_cons, hlast.1, Option.getD_some]

/-- A text that ends in a direction word is not in hashes. -/
theorem Fragment.ofHashText?_of_endsInWord {text : String} {before : List Char} {descending : Bool}
    (h : Text.EndsInWord text.toList before (directionWord descending)) :
    Fragment.ofHashText? text = none := by
  obtain ⟨written, ⟨blanks, htext, -, -⟩, hsame⟩ := h
  rw [Text.sameLetters, beq_iff_eq] at hsame
  rw [Fragment.ofHashText?, Option.map_eq_none_iff, Option.eq_none_iff_forall_ne_some]
  intro inside hinside
  have hlast := Fragment.getLast?_of_insideHashes? hinside
  have hne : written ≠ [] := by
    rintro rfl
    cases descending <;> exact absurd hsame (by decide)
  rw [htext, ← List.append_assoc, List.getLast?_append_of_ne_nil _ hne] at hlast
  have hhash : '#' ∈ (directionWord descending).map Char.toLower := by
    rw [← hsame]
    exact List.mem_map.2 ⟨'#', List.mem_of_getLast? hlast, by decide⟩
  cases descending <;> exact absurd hhash (by decide)

namespace Selection

/-- **When the sort direction of a column follows the rule.**  A text in no hashes adds one sort
entry.  It is the one that the rule asks for, exactly if the text does not end in a direction word
with a long s; there it is ascending, for what stands in front.  How a direction word and the blanks
are written does not matter. -/
theorem order_directionRule_iff {text : String} (hname : Fragment.ofHashText? text = none)
    (tablePrefix : String) (s : Selection) :
    ∃ key, apply tablePrefix (.order [OutputColumn.ofText text]) s
        = (.ok (), { s with order := s.order ++ [key] }) ∧
      (DirectionRule text key ↔
        ∀ descending before,
          ¬Text.EndsInWord text.toList before (longDirectionWord descending)) ∧
      (∀ descending before,
        Text.EndsInWord text.toList before (longDirectionWord descending) →
          key = .ofFront before false) ∧
      ∀ descending before,
        Text.EndsInWord text.toList before (directionWord descending) →
          ∀ other : String, Text.EndsInWord other.toList before (directionWord descending) →
            apply tablePrefix (.order [OutputColumn.ofText other]) s
              = (.ok (), { s with order := s.order ++ [key] }) := by
  have happly {text : String} (hname : Fragment.ofHashText? text = none) :
      apply tablePrefix (.order [OutputColumn.ofText text]) s
        = (.ok (), { s with order := s.order ++ [SortKey.ofText text] }) := by
    rw [apply, OutputColumn.ofText, ColumnRef.ofText, hname]
    rfl
  refine ⟨SortKey.ofText text, happly hname, directionRule_ofText_iff text, ?_, ?_⟩
  · exact fun descending before hlong => SortKey.ofText_of_endsInLongWord hlong
  · intro descending before hword other hother
    rw [happly (Fragment.ofHashText?_of_endsInWord hother), SortKey.ofText_of_endsInWord hother,
      SortKey.ofText_of_endsInWord hword]

/-- The last of two direction words counts. -/
theorem order_last_word :
    Fragment.ofHashText? "a DESC  aSc" = none ∧
      apply "" (.order [OutputColumn.ofText "a DESC  aSc"]) empty
        = (.ok (), { empty with order := [.column (.name "a DESC") false] }) := by
  have hname : Fragment.ofHashText? "a DESC  aSc" = none := by decide
  have hword : Text.EndsInWord "a DESC  aSc".toList "a DESC".toList (directionWord false) :=
    ⟨"aSc".toList, ⟨"  ".toList, by decide, by decide, List.all_eq_true.1 (by decide)⟩, by decide⟩
  have hlong (descending : Bool) (before : List Char) :
      ¬Text.EndsInWord "a DESC  aSc".toList before (longDirectionWord descending) := by
    intro h
    have hlast := h.sameLetters_lastWord (by cases descending <;> decide)
    cases descending <;> exact absurd hlast (by decide)
  obtain ⟨key, happly, hrule, -, -⟩ := order_directionRule_iff hname "" empty
  have hkey := (hrule.2 hlong).word false _ hword
  refine ⟨hname, ?_⟩
  rw [happly, hkey]
  rfl

/-- A direction word with a long s is taken off, and its direction is lost. -/
theorem order_longS :
    Fragment.ofHashText? "x deſc" = none ∧
      (∀ descending before,
        ¬Text.EndsInWord "x deſc".toList before (directionWord descending)) ∧
      apply "" (.order [OutputColumn.ofText "x deſc"]) empty
        = (.ok (), { empty with order := [.column (.name "x") false] }) ∧
      ¬DirectionRule "x deſc" (.column (.name "x") false) := by
  have hword (descending : Bool) (before : List Char) :
      ¬Text.EndsInWord "x deſc".toList before (directionWord descending) := by
    intro h
    have hlast := h.sameLetters_lastWord (by cases descending <;> decide)
    cases descending <;> exact absurd hlast (by decide)
  refine ⟨by decide, hword, by rfl, fun hrule => ?_⟩
  exact absurd (hrule.otherwise hword) (by decide)

end Selection

end SqlLayer
