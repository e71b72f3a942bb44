/-
# Quoted texts

A text between double quotes, as it is shown in diagnostics.  Quotes and backslashes are escaped,
the usual control characters have short escapes, and any other character that does not print by
itself is written as its code point.
-/
import MemWatch.Text.CharRange
import MemWatch.Text.Numeral
import MemWatch.Text.UnprintableTable

namespace MemWatch.Text

/-- The escape of a character by its code point, in lower-case hexadecimal. -/
def codePointEscape (c : Char) : List Char :=
  ['\\', 'u', '\x7b'] ++ (Numeral.digits 16 c.toNat).map Char.toLower ++ ['\x7d']

/-- A character as it stands between the quotes. -/
def quotedChar (c : Char) : List Char :=
  if c = '\x00' then ['\\', '0']
  else if c = '\t' then ['\\', 't']
  else if c = '\r' then ['\\', 'r']
  else if c = '\n' then ['\\', 'n']
  else if c = '"' then ['\\', '"']
  else if c = '\\' then ['\\', '\\']
  else if inRanges unprintableRanges c then codePointEscape c
  else [c]

/-- A text between double quotes. -/
def quoted (text : String) : String :=
  "\"" ++ String.ofList (text.toList.flatMap quotedChar) ++ "\""

end MemWatch.Text
