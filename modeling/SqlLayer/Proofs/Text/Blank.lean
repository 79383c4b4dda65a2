import Mathlib.Data.List.DropRight
import Mathlib.Data.List.TakeWhile
import SqlLayer.Text.Blank
import SqlLayer.Text.Search

/-!
# Blanks around words

* `trimStart_append`, `trim_append_blanks` — blanks before and behind a text are trimmed;
* `WordBehind`, `EndsInWord` — a text with blanks and a word at its end, as it is written and in any
  case;
* `lastWord_of_wordBehind`, `wordBehind_lastWord` — that word is **the last one of the text**.
-/

namespace SqlLayer.Text

/-! ### Trimming -/

/-- Blanks before something else are skipped. -/
theorem trimStart_append {blanks rest : List Char} (hblank : ∀ c ∈ blanks, isBlank c = true)
    (hrest : ∀ c ∈ rest.head?, isBlank c = false) : trimStart (blanks ++ rest) = rest := by
  rw [trimStart, List.dropWhile_append_of_pos hblank]
  cases rest with
  | nil => rfl
  | cons c rest => rw [List.dropWhile_cons_of_neg (by simp [hrest c rfl])]

/-- A digit is no blank. -/
theorem isBlank_of_isDigit {c : Char} (h : c.isDigit = true) : isBlank c = false := by
  obtain ⟨hlow, hhigh⟩ := Char.isDigit_iff_toNat.1 h
  have hlow : 48 ≤ c.toNat := hlow
  have hhigh : c.toNat ≤ 57 := hhigh
  simp only [isBlank, Bool.or_eq_false_iff, Bool.and_eq_false_iff, beq_eq_false_iff_ne,
    decide_eq_false_iff_not]
  omega

/-- Only the capital letters of ASCII have another case. -/
theorem toLower_cases (c : Char) :
    c.toLower = c ∨ 65 ≤ c.toNat ∧ c.toNat ≤ 90 ∧ c.toLower.toNat = c.toNat + 32 := by
  by_cases hletter : c.val ≥ 'A'.val ∧ c.val ≤ 'Z'.val
  · have hlow : 65 ≤ c.toNat := hletter.1
    have hhigh : c.toNat ≤ 90 := hletter.2
    have hlower : c.toLower.toNat = (c.toNat + 32) % 2 ^ 32 := congrArg Char.toNat (dif_pos hletter)
    omega
  · exact .inl (dif_neg hletter)

/-- Blanks have no other case. -/
theorem toLower_of_isBlank {c : Char} (h : isBlank c = true) : c.toLower = c := by
  obtain hsame | ⟨hlow, hhigh, -⟩ := toLower_cases c
  · exact hsame
  · simp only [isBlank, Bool.or_eq_true, Bool.and_eq_true, beq_iff_eq, decide_eq_true_eq] at h
    omega

/-- Blanks behind a text are trimmed. -/
theorem trim_append_blanks (text : List Char) {blanks : List Char}
    (h : ∀ c ∈ blanks, isBlank c = true) : trim (text ++ blanks) = trim text := by
  have hend (front : List Char) : trimEnd (front ++ blanks) = trimEnd front := by
    rw [trimEnd, List.reverse_append, List.dropWhile_append_of_pos, trimEnd]
    exact fun c hc => h c (List.mem_reverse.1 hc)
  rw [trim, trimStart, List.dropWhile_append, trim, trimStart]
  split
  case isTrue hempty => rw [List.isEmpty_iff.1 hempty, List.dropWhile_eq_nil_iff.2 h]
  case isFalse => exact hend _

/-! ### The last word of a text -/

/-- A text with a word at its end, some blanks in front of it, and `before` in front of them. -/
def WordBehind (text before word : List Char) : Prop :=
  ∃ blanks, text = before ++ (blanks ++ word) ∧ blanks ≠ [] ∧ ∀ c ∈ blanks, isBlank c = true

/-- The same with a word that is written in any case of the ASCII letters. -/
def EndsInWord (text before word : List Char) : Prop :=
  ∃ written, WordBehind text before written ∧ sameLetters written word = true

/-- The end of a text behind its last blank. -/
def lastWord (text : List Char) : List Char := text.rtakeWhile fun c => !isBlank c

/-- A text up to its last blank. -/
def beforeLastWord (text : List Char) : List Char := text.rdropWhile fun c => !isBlank c

theorem beforeLastWord_append_lastWord (text : List Char) :
    beforeLastWord text ++ lastWord text = text :=
  List.rdropWhile_append_rtakeWhile

/-- If a text has a blank, its last word is behind one. -/
theorem wordBehind_lastWord {text : List Char} (h : beforeLastWord text ≠ []) :
    ∃ before, WordBehind text before (lastWord text) := by
  have hblank := List.rdropWhile_last_not (fun c => !isBlank c) text h
  rw [Bool.not_eq_true', Bool.not_eq_false] at hblank
  refine ⟨(beforeLastWord text).dropLast, [(beforeLastWord text).getLast h], ?_, by simp, ?_⟩
  · rw [← List.append_assoc, List.dropLast_append_getLast, beforeLastWord_append_lastWord]
  · intro c hc
    rw [List.mem_singleton.1 hc]
    exact hblank

/-- A word without blanks that is behind one is the last one. -/
theorem lastWord_of_wordBehind {text before word : List Char} (h : WordBehind text before word)
    (hword : ∀ c ∈ word, isBlank c = false) : lastWord text = word := by
  obtain ⟨blanks, rfl, hne, hblank⟩ := h
  obtain ⟨front, b, rfl⟩ := (List.eq_nil_or_concat' blanks).resolve_left hne
  have hb : isBlank b = true := hblank b (by simp)
  rw [lastWord, List.rtakeWhile, List.reverse_append, List.reverse_append, List.append_assoc,
    List.takeWhile_append_of_pos (by simpa using hword)]
  simp [hb]

/-- The characters of a word in another case are no blanks if those of the word are none. -/
theorem isBlank_of_sameLetters {written word : List Char} (h : sameLetters written word = true)
    (hword : (word.map Char.toLower).any isBlank = false) :
    ∀ c ∈ written, isBlank c = false := by
  intro c hc
  rw [sameLetters, beq_iff_eq] at h
  have hlower := List.any_eq_false.1 hword c.toLower (h ▸ List.mem_map_of_mem hc)
  by_contra hblank
  rw [Bool.not_eq_false] at hblank
  exact hlower (by rw [toLower_of_isBlank hblank, hblank])

/-- The last word of a text that ends in a word. -/
theorem EndsInWord.sameLetters_lastWord {text before word : List Char}
    (h : EndsInWord text before word) (hword : (word.map Char.toLower).any isBlank = false) :
    sameLetters (lastWord text) word = true := by
  obtain ⟨written, hbehind, hsame⟩ := h
  rwa [lastWord_of_wordBehind hbehind (isBlank_of_sameLetters hsame hword)]

end SqlLayer.Text
