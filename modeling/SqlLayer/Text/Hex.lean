/-!
# Hexadecimal digits

* `hexValue?` — the value of a digit of either case;
* `fourHexDigits` — a number in at least four digits.
-/

namespace SqlLayer.Text

/-- The value of a hexadecimal digit. -/
def hexValue? (c : Char) : Option Nat :=
  if c.isDigit then some (c.toNat - '0'.toNat)
  else if 'a' ≤ c ∧ c ≤ 'f' then some (c.toNat - 'a'.toNat + 10)
  else if 'A' ≤ c ∧ c ≤ 'F' then some (c.toNat - 'A'.toNat + 10)
  else none

/-- A number in at least four hexadecimal digits, filled up with zeros. -/
def fourHexDigits (n : Nat) : List Char :=
  let digits := Nat.toDigits 16 n
  List.replicate (4 - digits.length) '0' ++ digits

theorem length_fourHexDigits : ∀ n < 128, (fourHexDigits n).length = 4 := by decide

/-- The digits of a character code of seven bits are read back. -/
theorem mapM_hexValue?_fourHexDigits :
    ∀ n < 128, (fourHexDigits n).mapM hexValue? = some [0, 0, n / 16, n % 16] := by decide

end SqlLayer.Text
