/-
# Reading address expressions

An address expression is an optional `+`, any number of `#`, an optional type letter with a colon,
a hexadecimal address, and optionally `=` and a value.  A value is a decimal number, a hexadecimal
number after `0x`, or a reference such as `R1`; any number of `-` may stand in front, and they
negate a number once and mean nothing for a reference.

An expression is first cut into its parts, which always succeeds, and the parts are then checked in
a fixed order: offset marks, type letter, value, address.
-/
import MemWatch.Entry.Basic
import MemWatch.Log

namespace MemWatch

/-! ## Errors -/

/-- What is wrong with an address expression. -/
inductive ParseFault where
  /-- More than one `+`. -/
  | repeatedOffset
  /-- A letter in front of the colon that names no type. -/
  | invalidType (letter : Char)
  /-- A value that is neither a number nor a reference. -/
  | invalidValue (text : List Char)
  /-- A value that starts like a reference and is none. -/
  | invalidReference (text : List Char)
  /-- An address that is not a hexadecimal number of 64 bits. -/
  | invalidAddress (text : List Char)
deriving DecidableEq, Repr

/-- The wording of a fault. -/
def ParseFault.message : ParseFault → String
  | repeatedOffset => "offset marker `+` specified more than once"
  | invalidType letter => "invalid value type `" ++ String.singleton letter ++ "`"
  | invalidValue text => "invalid value `" ++ String.ofList text ++ "`"
  | invalidReference text => "invalid reference `" ++ String.ofList text ++ "`"
  | invalidAddress text => "invalid address `" ++ String.ofList text ++ "`"

/-- A fault and the byte of the expression at which it was found. -/
structure ParseError where
  fault : ParseFault
  position : Nat
deriving DecidableEq, Repr

/-- The wording of the error. -/
def ParseError.message (e : ParseError) : String :=
  e.fault.message

/-! ## Parts of an expression -/

/-- The number of bytes that the characters take up in UTF-8. -/
def byteLength : List Char → Nat
  | [] => 0
  | c :: rest => c.utf8Size + byteLength rest

/-- An address expression cut into parts. -/
structure Expression where
  /-- The number of leading `+`. -/
  offsetMarks : Nat
  /-- The number of `#` after them. -/
  pointerMarks : Nat
  /-- The character in front of a colon in second place. -/
  typeLetter : Option Char
  /-- The characters up to the first `=`, or to the end. -/
  address : List Char
  /-- The characters after the first `=`. -/
  value : Option (List Char)
deriving DecidableEq, Repr

namespace Expression

/-- The number of leading occurrences of a character, and what follows them. -/
def countLeading (c : Char) : List Char → Nat × List Char
  | [] => (0, [])
  | d :: rest =>
    if d = c then
      let (n, tail) := countLeading c rest
      (n + 1, tail)
    else (0, d :: rest)

/-- Splits a type prefix off: a character of one byte other than a colon, and then a colon. -/
def splitType : List Char → Option Char × List Char
  | c :: ':' :: rest =>
    if c ≠ ':' ∧ c.utf8Size = 1 then (some c, rest) else (none, c :: ':' :: rest)
  | text => (none, text)

/-- Splits a text at its first `=`. -/
def splitValue : List Char → List Char × Option (List Char)
  | [] => ([], none)
  | c :: rest =>
    if c = '=' then ([], some rest)
    else
      let (address, value) := splitValue rest
      (c :: address, value)

/-- Cuts an expression into its parts. -/
def ofChars (text : List Char) : Expression :=
  let (offsetMarks, text) := countLeading '+' text
  let (pointerMarks, text) := countLeading '#' text
  let (typeLetter, text) := splitType text
  let (address, value) := splitValue text
  { offsetMarks, pointerMarks, typeLetter, address, value }

/-- The byte at which the type letter stands, or would stand. -/
def typePosition (x : Expression) : Nat :=
  x.offsetMarks + x.pointerMarks

/-- The byte at which the address starts. -/
def addressPosition (x : Expression) : Nat :=
  x.typePosition + if x.typeLetter.isSome then 2 else 0

/-- The byte at which the value starts. -/
def valuePosition (x : Expression) : Nat :=
  x.addressPosition + byteLength x.address + 1

end Expression

/-! ## Values -/

/-- The text without its leading minus signs. -/
def dropSigns (text : List Char) : List Char :=
  text.dropWhile (· = '-')

/-- The value of a number without sign.  A hexadecimal number is any 64 bits, and is negated with
wrap-around; a decimal number has to fit as it is, sign included. -/
def literal? (negative : Bool) : List Char → Option Int64
  | '0' :: 'x' :: text => hexLiteral text
  | '0' :: 'X' :: text => hexLiteral text
  | text =>
    (Numeral.valueBelow? 10 (UInt64.size / 2 + if negative then 1 else 0) text).map fun (n : Nat) =>
      .ofInt (if negative then -(n : Int) else n)
where
  /-- The value of the digits after the base marker. -/
  hexLiteral (text : List Char) : Option Int64 :=
    (Numeral.valueBelow? 16 UInt64.size text).map fun (n : Nat) =>
      .ofInt (if negative then -(n : Int) else n)

/-- The id that the digits after the letter of a reference spell. -/
def referenceId? (digits : List Char) : Option RefId :=
  (Numeral.valueBelow? 10 UInt64.size digits).bind RefId.ofNat?

/-- Reads the text after `=`. -/
def EntryValue.ofChars (text : List Char) : Except ParseFault EntryValue :=
  let body := dropSigns text
  match literal? (text.head? == some '-') body with
  | some value => .ok (.literal value)
  | none =>
    match body with
    | c :: digits =>
      if c = 'R' ∨ c = 'r' then
        match referenceId? digits with
        | some id => .ok (.reference id)
        | none => .error (.invalidReference body)
      else .error (.invalidValue body)
    | [] => .error (.invalidValue body)

/-! ## Entries -/

namespace Expression

/-- The type that the letter names; without a letter it is the default. -/
def type (x : Expression) : Except ParseError ValueType :=
  match x.typeLetter with
  | none => .ok default
  | some c =>
    match ValueType.ofLetter? c with
    | some t => .ok t
    | none => .error ⟨.invalidType c, x.typePosition⟩

/-- The value to write, if there is one. -/
def entryValue (x : Expression) : Except ParseError (Option EntryValue) :=
  match x.value with
  | none => .ok none
  | some text =>
    match EntryValue.ofChars text with
    | .ok v => .ok (some v)
    | .error fault => .error ⟨fault, x.valuePosition⟩

/-- The address as a number. -/
def entryAddress (x : Expression) : Except ParseError Address :=
  match Address.ofHex? x.address with
  | some a => .ok a
  | none => .error ⟨.invalidAddress x.address, x.addressPosition⟩

/-- Checks the parts of an expression in order. -/
def entry (x : Expression) : Except ParseError Entry := do
  if 2 ≤ x.offsetMarks then
    throw ⟨.repeatedOffset, x.offsetMarks⟩
  let type ← x.type
  let value ← x.entryValue
  let address ← x.entryAddress
  return { isOffset := x.offsetMarks == 1, pointerLevels := x.pointerMarks, type, address, value }

/-- The diagnostics of checking the parts, which end at the first fault. -/
def notes (x : Expression) : List LogRecord :=
  if 2 ≤ x.offsetMarks then []
  else
    (if x.offsetMarks = 1 then [.debug "address is a base address offset"] else []) ++
    (if 0 < x.pointerMarks then
      [.debug ("address is a pointer with " ++ Numeral.decimal x.pointerMarks ++ " levels")]
    else []) ++
    match x.type with
    | .error _ => []
    | .ok type =>
      (if x.typeLetter.isSome then [.debug ("address has type specifier: " ++ type.name)]
      else []) ++
      match x.value with
      | some text => [.debug ("address is written to with: " ++ String.ofList text)]
      | none => [.debug "address is only monitored"]

end Expression

namespace Entry

/-- Reads an address expression. -/
def parse (token : String) : Except ParseError Entry :=
  (Expression.ofChars token.toList).entry

/-- The diagnostics of reading an address expression. -/
def parseNotes (token : String) : List LogRecord :=
  .debug ("processing address argument: " ++ token) :: (Expression.ofChars token.toList).notes

end Entry

end MemWatch
