/-
# Decoding bytes as text

Every byte string is read as text.  Where the bytes break off a character, the longest part that
could still have become one is replaced by a single replacement character, and reading goes on at
the next byte.
-/
import MemWatch.Bytes

namespace MemWatch.Text.Utf8

/-- The character that stands for bytes or units that encode none. -/
def replacement : Char := '\uFFFD'

/-- An unfinished character: how many bytes are still owed, the least and the greatest value of the
next one, and the number that the bytes so far spell. -/
structure Partial where
  owed : Nat
  low : Nat
  high : Nat
  code : Nat
deriving DecidableEq, Repr

/-- What a byte means at the start of a character. -/
inductive Lead where
  /-- It is a character by itself. -/
  | single (c : Char)
  /-- It starts a longer character. -/
  | opens (p : Partial)
  /-- No character starts with it. -/
  | invalid
deriving DecidableEq, Repr

/-- The meaning of the first byte of a character.  The bounds on the second byte leave out overlong
forms, surrogates and numbers above the last code point. -/
def lead (b : Nat) : Lead :=
  if b ≤ 0x7F then .single (Char.ofNat b)
  else if 0xC2 ≤ b ∧ b ≤ 0xDF then .opens ⟨1, 0x80, 0xBF, b - 0xC0⟩
  else if b = 0xE0 then .opens ⟨2, 0xA0, 0xBF, 0⟩
  else if b = 0xED then .opens ⟨2, 0x80, 0x9F, 0xD⟩
  else if 0xE1 ≤ b ∧ b ≤ 0xEF then .opens ⟨2, 0x80, 0xBF, b - 0xE0⟩
  else if b = 0xF0 then .opens ⟨3, 0x90, 0xBF, 0⟩
  else if 0xF1 ≤ b ∧ b ≤ 0xF3 then .opens ⟨3, 0x80, 0xBF, b - 0xF0⟩
  else if b = 0xF4 then .opens ⟨3, 0x80, 0x8F, 4⟩
  else .invalid

/-- Reads a byte where a character may start: the characters it completes, and what it opens. -/
def begin? (b : Nat) : List Char × Option Partial :=
  match lead b with
  | .single c => ([c], none)
  | .opens p => ([], some p)
  | .invalid => ([replacement], none)

/-- Reads one byte after a possibly unfinished character. -/
def advance (state : Option Partial) (b : Nat) : List Char × Option Partial :=
  match state with
  | none => begin? b
  | some p =>
    if p.low ≤ b ∧ b ≤ p.high then
      let code := p.code * 64 + (b - 0x80)
      if p.owed ≤ 1 then ([Char.ofNat code], none)
      else ([], some ⟨p.owed - 1, 0x80, 0xBF, code⟩)
    else
      let (chars, next) := begin? b
      (replacement :: chars, next)

/-- Reads the rest of a byte string after a possibly unfinished character. -/
def decodeFrom (state : Option Partial) : Bytes → List Char
  | [] => if state.isSome then [replacement] else []
  | b :: rest =>
    let (chars, next) := advance state b.toNat
    chars ++ decodeFrom next rest

/-- The text that a byte string is read as. -/
def decode (bytes : Bytes) : String :=
  String.ofList (decodeFrom none bytes)

end MemWatch.Text.Utf8
