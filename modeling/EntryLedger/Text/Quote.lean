import EntryLedger.Text.Glyph

/-!
# Quoted text

Diagnostics show a character or a text between quotes.  Named escapes are
used for NUL, tab, line feed, carriage return, the backslash and the quote in
use; other characters that are not seen as they stand are written by their
code point.
-/

namespace EntryLedger.Quote

/-- The lower-case hexadecimal digits of a code point, without leading zeros. -/
def codePoint (number : Nat) : String :=
  String.ofList (Nat.toDigits 16 number)

/-- A character as it stands between quotes of the kind `mark`. -/
def escape (mark char : Char) : String :=
  if char = '\x00' then "\\0"
  else if char = '\t' then "\\t"
  else if char = '\n' then "\\n"
  else if char = '\r' then "\\r"
  else if char = '\\' then "\\\\"
  else if char = mark then "\\" ++ char.toString
  else if Glyph.isSeen char then char.toString
  else "\\u\x7b" ++ codePoint char.toNat ++ "\x7d"

/-- A character between single quotes. -/
def character (char : Char) : String :=
  "'" ++ escape '\'' char ++ "'"

/-- The name of a file between double quotes. -/
def fileName (name : String) : String :=
  "\"" ++ String.join (name.toList.map (escape '"')) ++ "\""

end EntryLedger.Quote
