/-
# Texts in 16-bit units

A character above the first 65536 code points is a pair of units: a high one, then a low one.  A
unit of a pair that stands alone is read as the replacement character.
-/
import MemWatch.Text.Utf8

namespace MemWatch.Text.Utf16

/-- The units of a character. -/
def ofChar (c : Char) : List UInt16 :=
  if c.toNat < 0x10000 then [UInt16.ofNat c.toNat]
  else
    let n := c.toNat - 0x10000
    [UInt16.ofNat (0xD800 + n / 0x400), UInt16.ofNat (0xDC00 + n % 0x400)]

/-- The units of a text. -/
def encode (text : String) : List UInt16 :=
  text.toList.flatMap ofChar

/-- The unit is the first of a pair. -/
def isHigh (u : UInt16) : Bool :=
  decide (0xD800 ≤ u.toNat ∧ u.toNat ≤ 0xDBFF)

/-- The unit is the second of a pair. -/
def isLow (u : UInt16) : Bool :=
  decide (0xDC00 ≤ u.toNat ∧ u.toNat ≤ 0xDFFF)

/-- The character of a pair of units. -/
def pair (high low : UInt16) : Char :=
  Char.ofNat (0x10000 + (high.toNat - 0xD800) * 0x400 + (low.toNat - 0xDC00))

/-- The characters of a sequence of units. -/
def decodeChars : List UInt16 → List Char
  | [] => []
  | [u] => [if isHigh u || isLow u then Utf8.replacement else Char.ofNat u.toNat]
  | u :: v :: rest =>
    if isHigh u && isLow v then pair u v :: decodeChars rest
    else
      (if isHigh u || isLow u then Utf8.replacement else Char.ofNat u.toNat)
        :: decodeChars (v :: rest)

/-- The text of a sequence of units. -/
def decode (units : List UInt16) : String :=
  String.ofList (decodeChars units)

end MemWatch.Text.Utf16
