import SqlLayer.Proofs.Dialect.Reading
import SqlLayer.Proofs.Text.Decimal

/-!
# Escaped values are single literals

Whatever a value holds, its escaped form under a kind is **one literal that reads back** as the
value.  Integers are decimal numbers, texts and identifiers stay between their quotes, bytes are
hexadecimal digits, and a moment in seconds is the engine's call on a decimal number.

* `hexBytes?_flatMap_hexByte` — bytes are read back from their digits;
* `Dialect.escape_reads_back` — **the escaped form of every value**, kind by kind.
-/

namespace SqlLayer

/-! ### Bytes -/

/-- The bytes that a value is written as: its own, or those of its plain text. -/
def Value.octets : Value → List UInt8
  | .bytes b => b
  | v => Text.encode v.display.toList

/-- A hexadecimal digit is read back. -/
theorem hexValue?_hexDigit : ∀ n < 16, Text.hexValue? (hexDigit n) = some n := by decide

/-- Bytes are read back from their hexadecimal digits. -/
theorem hexBytes?_flatMap_hexByte (bytes : List UInt8) :
    Sqlite.hexBytes? (bytes.flatMap hexByte) = some bytes := by
  induction bytes with
  | nil => rfl
  | cons b bytes ih =>
    have hb : b.toNat < 256 := b.toNat_lt
    have hhigh : Text.hexValue? (hexDigit (b.toNat / 16)) = some (b.toNat / 16) :=
      hexValue?_hexDigit _ (by omega)
    have hlow : Text.hexValue? (hexDigit (b.toNat % 16)) = some (b.toNat % 16) :=
      hexValue?_hexDigit _ (by omega)
    have hbyte : UInt8.ofNat (16 * (b.toNat / 16) + b.toNat % 16) = b := by
      rw [Nat.div_add_mod, UInt8.ofNat_toNat]
    simp only [List.flatMap_cons, hexByte, List.cons_append, List.nil_append, Sqlite.hexBytes?,
      hhigh, hlow, ih, Option.bind_eq_bind, Option.bind_some, hbyte]

/-- There are two digits for every byte. -/
theorem length_flatMap_hexByte (bytes : List UInt8) :
    (bytes.flatMap hexByte).length = 2 * bytes.length := by
  induction bytes with
  | nil => rfl
  | cons b bytes ih =>
    rw [List.flatMap_cons, List.length_append, ih]
    show 2 + 2 * bytes.length = 2 * (bytes.length + 1)
    omega

namespace Dialect

/-! ### Kind by kind -/

/-- The kind decides how a value is escaped. -/
theorem escape_of_kind {d : Dialect} {now : DateTime} {v : Value} {tag : Option SqlKind}
    {kind : SqlKind} (h : tag.or (SqlKind.ofValue? v) = some kind) :
    d.escape now v tag = d.escapeTagged now v kind := by
  rw [escape, h]

/-- A text that is no identifier is written as a text literal. -/
theorem escape_of_text (d : Dialect) (now : DateTime) {tag : Option SqlKind} (text : String)
    (htag : tag = none ∨ tag = some .text) :
    (d.escape now (.text text) tag).toList = d.textChars text.toList := by
  have hform : d.escape now (.text text) tag = d.textLiteral text := by
    obtain rfl | rfl := htag <;> rfl
  rw [hform]
  exact String.toList_ofList

/-- A text that is an identifier is quoted as one. -/
theorem escape_of_identifier (d : Dialect) (now : DateTime) {tag : Option SqlKind} (name : String)
    (htag : tag = some .field ∨ tag = some .table) :
    (d.escape now (.text name) tag).toList = d.identifierChars name.toList := by
  have hform : d.escape now (.text name) tag = d.identifierLiteral name := by
    obtain rfl | rfl := htag <;> rfl
  rw [hform]
  exact String.toList_ofList

/-- Every dialect writes bytes in the same way. -/
theorem escapeTagged_blob (d : Dialect) (now : DateTime) (v : Value) :
    (d.escapeTagged now v .blob).toList
      = 'X' :: '\x27' :: (v.octets.flatMap hexByte ++ ['\x27']) := by
  cases v <;> simp [escapeTagged, blobLiteral, Value.octets]

/-- No control character is left in a text of MySQL. -/
theorem isControl_of_mem_textChars {text : List Char} {c : Char}
    (h : c ∈ mysql.textChars text) : isControl c = false := by
  simp only [textChars, List.mem_cons, List.mem_append, List.mem_flatMap, List.not_mem_nil,
    or_false] at h
  obtain rfl | ⟨a, -, ha⟩ | rfl := h
  · rfl
  · exact isControl_of_mem_backslashEscape ha
  · rfl

/-- The words around the seconds in the call that turns them into a moment. -/
def unixTimeFrame : Dialect → String × String
  | .mysql => ("FROM_UNIXTIME(", ")")
  | .sqlite => ("datetime(", ", 'unixepoch')")
  | .recording => ("FROM_UNIXTIME(", ")")

theorem unixTimeCall_eq (d : Dialect) (seconds : Int64) :
    d.unixTimeCall seconds
      = d.unixTimeFrame.1 ++ toString seconds.toInt ++ d.unixTimeFrame.2 := by
  cases d <;> rfl

/-! ### The main statement -/

/-- **Every value reads back from its escaped form.**  An integer is a decimal number; a text is one
text literal and an identifier one quoted identifier, whatever stands behind it; bytes are an even
number of hexadecimal digits; seconds are the decimal argument of the engine's call.  A text of
MySQL moreover holds no control character of `isControl`. -/
theorem escape_reads_back (d : Dialect) (now : DateTime) (v : Value) (tag : Option SqlKind)
    (kind : SqlKind) (hkind : tag.or (SqlKind.ofValue? v) = some kind) :
    (kind = .int →
      Text.signedDecimal? (d.escape now v tag).toList = some v.toInt.toInt) ∧
    (kind = .text →
      (∀ rest : List Char, rest.head? ≠ some '\x27' →
        d.readText ((d.escape now v tag).toList ++ rest) = some (v.display.toList, rest)) ∧
      (d = .mysql → ∀ c ∈ (d.escape now v tag).toList, isControl c = false)) ∧
    (kind = .blob →
      ∃ digits : List Char,
        (d.escape now v tag).toList = 'X' :: '\x27' :: (digits ++ ['\x27']) ∧
        2 ∣ digits.length ∧ Sqlite.hexBytes? digits = some v.octets) ∧
    (kind = .field ∨ kind = .table →
      ∀ rest : List Char, rest.head? ≠ some d.identifierQuote →
        d.readIdentifier ((d.escape now v tag).toList ++ rest)
          = some (v.display.toList, rest)) ∧
    (kind = .unixTime →
      ∃ seconds : String,
        d.escape now v tag = d.unixTimeFrame.1 ++ seconds ++ d.unixTimeFrame.2 ∧
        Text.signedDecimal? seconds.toList = some v.toInt.toInt) := by
  rw [escape_of_kind hkind]
  refine ⟨?_, ?_, ?_, ?_, ?_⟩
  · rintro rfl
    exact Text.signedDecimal?_toString v.toInt.toInt
  · rintro rfl
    have hform : (d.escapeTagged now v .text).toList = d.textChars v.display.toList :=
      String.toList_ofList
    rw [hform]
    refine ⟨fun rest hrest => readText_textChars d _ hrest, ?_⟩
    rintro rfl c hc
    exact isControl_of_mem_textChars hc
  · rintro rfl
    refine ⟨v.octets.flatMap hexByte, escapeTagged_blob d now v, ?_, hexBytes?_flatMap_hexByte _⟩
    rw [length_flatMap_hexByte]
    exact Nat.dvd_mul_right 2 _
  · intro hident
    have hform : (d.escapeTagged now v kind).toList = d.identifierChars v.display.toList := by
      obtain rfl | rfl := hident <;> exact String.toList_ofList
    intro rest hrest
    rw [hform]
    exact readIdentifier_identifierChars d _ hrest
  · rintro rfl
    exact ⟨toString v.toInt.toInt, unixTimeCall_eq d v.toInt,
      Text.signedDecimal?_toString v.toInt.toInt⟩

/-- A text that ends in a backslash and a quote stays inside its own quotes. -/
theorem escape_reads_back_backslash :
    (some SqlKind.text).or (SqlKind.ofValue? (.text "a\\'")) = some .text ∧
      mysql.readText ((mysql.escape default (.text "a\\'") (some .text)).toList ++ [' ', ';'])
        = some (['a', '\\', '\x27'], [' ', ';']) :=
  ⟨rfl, ((escape_reads_back .mysql default (.text "a\\'") (some .text) .text rfl).2.1 rfl).1
    [' ', ';'] (by decide)⟩

end Dialect

end SqlLayer
