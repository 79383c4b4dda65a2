import SqlLayer.Text.Hidden

/-!
# Texts between double quotes, for diagnostics

A quote, a backslash and the common controls have two-character escapes, every other character
without a visible form is written by its code point, and all else stands for itself.
-/

namespace SqlLayer.Text

/-- The escape of one character. -/
def quotedChar (c : Char) : List Char :=
  if c = '\x22' then ['\\', '\x22']
  else if c = '\\' then ['\\', '\\']
  else if c = '\n' then ['\\', 'n']
  else if c = '\r' then ['\\', 'r']
  else if c = '\t' then ['\\', 't']
  else if c = '\x00' then ['\\', '0']
  else if isHidden c then ['\\', 'u', '\x7b'] ++ Nat.toDigits 16 c.toNat ++ ['\x7d']
  else [c]

/-- A text between double quotes. -/
def quoted (s : String) : String :=
  String.ofList ('\x22' :: (s.toList.flatMap quotedChar ++ ['\x22']))

end SqlLayer.Text
