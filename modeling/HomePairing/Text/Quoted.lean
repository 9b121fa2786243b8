import HomePairing.Text.Hex
import HomePairing.Text.Printable

/-!
# Quoted text and byte rows

The descriptions of keys, sessions and accessories show text between double
quotes and bytes as rows of two-digit numbers. A quote inside the text, a
backslash and everything that is not printable is written as an escape, so a
description stays on one line whatever the identifiers in it are.
-/

namespace HomePairing.Text

/-- Bytes as a row: `[0a, ff]`. -/
def byteRow (bytes : Bytes) : String :=
  "[" ++ String.intercalate ", " (bytes.map hexByte) ++ "]"

/-- How one character is written between quotes. -/
def escapeChar (c : Char) : String :=
  if c = '"' then "\\\""
  else if c = '\\' then "\\\\"
  else if c = '\n' then "\\n"
  else if c = '\r' then "\\r"
  else if c = '\t' then "\\t"
  else if c = Char.ofNat 0 then "\\0"
  else if isPrintable c then String.singleton c
  else "\\u\x7b" ++ hexDigits c.toNat ++ "\x7d"

/-- A text between double quotes, with escapes. -/
def quote (text : String) : String :=
  "\"" ++ String.join (text.toList.map escapeChar) ++ "\""

end HomePairing.Text
