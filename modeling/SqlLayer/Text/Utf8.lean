/-!
# UTF-8, leniently

* `encode` — the bytes of a text;
* `decodeLossy` — the text of any byte sequence, where the longest part of a character that cannot
  be completed becomes one replacement character.
-/

namespace SqlLayer.Text

/-- The bytes of a text. -/
def encode (s : List Char) : List UInt8 := s.flatMap String.utf8EncodeChar

/-- The character that stands for bytes that are no character. -/
def replacement : Char := '\uFFFD'

/-- Whether a byte continues a character. -/
def isTail (b : UInt8) : Bool := 0x80 ≤ b && b ≤ 0xBF

/-- Whether `b` may follow the first byte `a` of a character of three bytes. -/
def secondOfThree (a b : UInt8) : Bool :=
  if a = 0xE0 then 0xA0 ≤ b && b ≤ 0xBF
  else if a = 0xED then 0x80 ≤ b && b ≤ 0x9F
  else isTail b

/-- Whether `b` may follow the first byte `a` of a character of four bytes. -/
def secondOfFour (a b : UInt8) : Bool :=
  if a = 0xF0 then 0x90 ≤ b && b ≤ 0xBF
  else if a = 0xF4 then 0x80 ≤ b && b ≤ 0x8F
  else isTail b

/-- The six payload bits of a continuation byte. -/
def payload (b : UInt8) : Nat := b.toNat % 64

/-- The text of a byte sequence. -/
def decodeLossy : List UInt8 → List Char
  | [] => []
  | a :: rest =>
    if a < 0x80 then Char.ofNat a.toNat :: decodeLossy rest
    else if 0xC2 ≤ a && a ≤ 0xDF then
      match rest with
      | b :: rest₂ =>
        if isTail b then Char.ofNat (a.toNat % 32 * 64 + payload b) :: decodeLossy rest₂
        else replacement :: decodeLossy (b :: rest₂)
      | [] => [replacement]
    else if 0xE0 ≤ a && a ≤ 0xEF then
      match rest with
      | b :: rest₂ =>
        if secondOfThree a b then
          match rest₂ with
          | c :: rest₃ =>
            if isTail c then
              Char.ofNat ((a.toNat % 16 * 64 + payload b) * 64 + payload c) :: decodeLossy rest₃
            else replacement :: decodeLossy (c :: rest₃)
          | [] => [replacement]
        else replacement :: decodeLossy (b :: rest₂)
      | [] => [replacement]
    else if 0xF0 ≤ a && a ≤ 0xF4 then
      match rest with
      | b :: rest₂ =>
        if secondOfFour a b then
          match rest₂ with
          | c :: rest₃ =>
            if isTail c then
              match rest₃ with
              | d :: rest₄ =>
                if isTail d then
                  Char.ofNat
                    (((a.toNat % 8 * 64 + payload b) * 64 + payload c) * 64 + payload d) ::
                    decodeLossy rest₄
                else replacement :: decodeLossy (d :: rest₄)
              | [] => [replacement]
            else replacement :: decodeLossy (c :: rest₃)
          | [] => [replacement]
        else replacement :: decodeLossy (b :: rest₂)
      | [] => [replacement]
    else replacement :: decodeLossy rest

end SqlLayer.Text
