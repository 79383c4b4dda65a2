/-!
# Search within a text

* `hasSlice` — whether one text occurs inside another;
* `sameLetters` — equality up to the case of ASCII letters;
* `allDigits` — a text of ASCII digits only;
* `decimal` — the number that a run of ASCII digits denotes;
* `decimalWhile` — the number that the first of them denote, as long as there is room.
-/

namespace SqlLayer.Text

/-- Whether `pattern` occurs somewhere in the text. -/
def hasSlice (pattern : List Char) : List Char → Bool
  | [] => pattern.isEmpty
  | c :: rest => pattern.isPrefixOf (c :: rest) || hasSlice pattern rest

/-- A text occurs in another exactly when it is a contiguous part of it. -/
theorem hasSlice_iff {pattern s : List Char} : hasSlice pattern s = true ↔ pattern <:+: s := by
  induction s with
  | nil => simp [hasSlice]
  | cons c rest ih => simp [hasSlice, ih, List.infix_cons_iff]

/-- Equality up to the case of ASCII letters. -/
def sameLetters (a b : List Char) : Bool := a.map Char.toLower == b.map Char.toLower

/-- A text of ASCII digits only. -/
def allDigits (s : List Char) : Bool := s.all Char.isDigit

/-- The number that a run of ASCII digits denotes. -/
def decimal (digits : List Char) : Nat := Nat.ofDigitChars 10 digits 0

/-- Puts digits behind a number, as long as there is room: the new number, and the digits that were
left. `room n d` tells whether the digit `d` may follow the number `n`. -/
def decimalWhile (room : Nat → Nat → Bool) (n : Nat) : List Char → Nat × List Char
  | [] => (n, [])
  | c :: rest =>
    let d := c.toNat - '0'.toNat
    if room n d then decimalWhile room (10 * n + d) rest else (n, c :: rest)

/-- Where there is always room, every digit counts. -/
theorem decimalWhile_true (n : Nat) (digits : List Char) :
    decimalWhile (fun _ _ => true) n digits = (Nat.ofDigitChars 10 digits n, []) := by
  induction digits generalizing n with
  | nil => simp [decimalWhile]
  | cons c rest ih => simp [decimalWhile, ih, Nat.ofDigitChars_cons]

end SqlLayer.Text
