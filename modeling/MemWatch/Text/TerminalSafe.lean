/-
# Texts for a terminal

Diagnostics may quote what someone else has chosen, and a terminal obeys some control characters
instead of showing them.  Those that can start or take part in a control sequence are spelled out:
the bell, the backspace, the form feed, the escape, the delete, and the control characters from
U+0080 to U+009F.  All other characters stand for themselves, line ends and tabs included.
-/
import MemWatch.Text.Quoted

namespace MemWatch.Text

/-- The characters of one byte that are spelled out. -/
def obeyedControls : List Char :=
  ['\x07', '\x08', '\x0c', '\x1b', '\x7f']

/-- The escape of a character by two lower-case hexadecimal digits. -/
def byteEscape (c : Char) : List Char :=
  ['\\', 'x'] ++ (Numeral.padLeft 2 '0' (Numeral.digits 16 c.toNat)).map Char.toLower

/-- A character as it is sent to a terminal. -/
def terminalSafeChar (c : Char) : List Char :=
  if c ∈ obeyedControls then byteEscape c
  else if 0x80 ≤ c.toNat ∧ c.toNat ≤ 0x9f then codePointEscape c
  else [c]

/-- A text with nothing in it that a terminal would obey. -/
def terminalSafe (text : String) : String :=
  String.ofList (text.toList.flatMap terminalSafeChar)

end MemWatch.Text
