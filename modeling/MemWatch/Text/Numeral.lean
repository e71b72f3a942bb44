/-
# Numerals

Positional numerals over characters, in any base up to sixteen.  Writing uses upper-case letters
and no leading zeros; reading accepts both cases and any number of leading zeros, and puts no limit
on the value, which is for the caller to check.
-/

namespace MemWatch.Numeral

/-! ## Digits -/

/-- The character of a digit below sixteen. -/
def digitChar (d : Nat) : Char :=
  if d < 10 then Char.ofNat (48 + d) else Char.ofNat (55 + d)

/-- The digit that a character stands for in base `b`, if it is one. -/
def digit? (b : Nat) (c : Char) : Option Nat :=
  let d :=
    if 48 ≤ c.toNat ∧ c.toNat ≤ 57 then c.toNat - 48
    else if 65 ≤ c.toNat ∧ c.toNat ≤ 70 then c.toNat - 55
    else if 97 ≤ c.toNat ∧ c.toNat ≤ 102 then c.toNat - 87
    else b
  if d < b then some d else none

/-! ## Writing -/

/-- The numeral of `n` in base `b`, most significant digit first. -/
def digits (b n : Nat) : List Char :=
  if b < 2 ∨ n < b then [digitChar n]
  else digits b (n / b) ++ [digitChar (n % b)]
termination_by n
decreasing_by
  rename_i h
  exact Nat.div_lt_self (by omega) (by omega)

/-- A text filled up on the left to `width` characters. -/
def padLeft (width : Nat) (fill : Char) (text : List Char) : List Char :=
  List.replicate (width - text.length) fill ++ text

/-- The decimal numeral of a natural number. -/
def decimal (n : Nat) : String :=
  String.ofList (digits 10 n)

/-- The decimal numeral of an integer, with a sign in front of negative ones only. -/
def signed (i : Int) : String :=
  if i < 0 then "-" ++ decimal i.natAbs else decimal i.natAbs

/-- The upper-case hexadecimal numeral of a natural number. -/
def hex (n : Nat) : String :=
  String.ofList (digits 16 n)

/-- The decimal numeral of `n` with zeros in front up to `width` digits. -/
def zeroPadded (width n : Nat) : String :=
  String.ofList (padLeft width '0' (digits 10 n))

/-! ## Reading -/

/-- The value of a run of digits that follow digits of value `acc`, if they all are digits. -/
def accumulate (b acc : Nat) : List Char → Option Nat
  | [] => some acc
  | c :: rest =>
    match digit? b c with
    | some d => accumulate b (acc * b + d) rest
    | none => none

/-- The value of a numeral in base `b`: at least one character, and digits only. -/
def value? (b : Nat) : List Char → Option Nat
  | [] => none
  | c :: rest => accumulate b 0 (c :: rest)

/-- The value of a numeral that is below a limit. -/
def valueBelow? (b limit : Nat) (text : List Char) : Option Nat :=
  match value? b text with
  | some n => if n < limit then some n else none
  | none => none

end MemWatch.Numeral
