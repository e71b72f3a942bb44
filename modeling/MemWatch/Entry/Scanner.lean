/-
# Scanning address expressions

The reader with a cursor.  A text is a run of bytes, the cursor is a byte of it, and every part of
the text is a slice that is given by bytes.  A slice can only be taken between characters; one that
would start or end inside a character does not exist, and then the scanner gives no answer at all.

The parts come in the order of the text, so the type letter is checked before the value is looked
for, and the value before the address.
-/
import MemWatch.Entry.Parser

namespace MemWatch

/-! ## Slices -/

/-- The text behind its first `n` bytes, if a character starts there or the text ends there. -/
def dropBytes? : Nat → List Char → Option (List Char)
  | 0, text => some text
  | _ + 1, [] => none
  | n + 1, c :: rest => if c.utf8Size ≤ n + 1 then dropBytes? (n + 1 - c.utf8Size) rest else none

/-- The first `n` bytes of the text, if a character starts behind them or the text ends there. -/
def takeBytes? : Nat → List Char → Option (List Char)
  | 0, _ => some []
  | _ + 1, [] => none
  | n + 1, c :: rest =>
    if c.utf8Size ≤ n + 1 then (takeBytes? (n + 1 - c.utf8Size) rest).map (c :: ·) else none

/-- The byte at which a character occurs first. -/
def findByte? (mark : Char) : List Char → Option Nat
  | [] => none
  | c :: rest => if c = mark then some 0 else (findByte? mark rest).map (c.utf8Size + ·)

@[simp] theorem byteLength_append (front back : List Char) :
    byteLength (front ++ back) = byteLength front + byteLength back := by
  induction front with
  | nil => simp [byteLength]
  | cons c front ih => simp [byteLength, ih, Nat.add_assoc]

/-- A slice ends where a character ends. -/
theorem exists_append_of_dropBytes? {n : Nat} {text rest : List Char}
    (h : dropBytes? n text = some rest) :
    ∃ front, text = front ++ rest ∧ byteLength front = n := by
  induction n, text using dropBytes?.induct with
  | case1 text =>
    obtain rfl : text = rest := by simpa [dropBytes?] using h
    exact ⟨[], rfl, rfl⟩
  | case2 n => simp [dropBytes?] at h
  | case3 n c tail hsize ih =>
    obtain ⟨front, rfl, hfront⟩ := ih (by simpa [dropBytes?, hsize] using h)
    exact ⟨c :: front, rfl, by simp only [byteLength]; omega⟩
  | case4 n c tail hsize => simp [dropBytes?, hsize] at h

/-! ## The cursor -/

/-- A text and a byte of it. -/
structure Scanner where
  /-- The whole text. -/
  input : List Char
  /-- The byte that comes next. -/
  pos : Nat
deriving DecidableEq, Repr

namespace Scanner

/-- The text from the cursor on. -/
def rest? (s : Scanner) : Option (List Char) :=
  dropBytes? s.pos s.input

/-- Moves the cursor on by `n` bytes, at most to the end of the text. -/
def step (s : Scanner) (n : Nat) : Scanner :=
  { s with pos := min (s.pos + n) (byteLength s.input) }

/-- Moving over a character leaves less of the text. -/
theorem step_lt {s : Scanner} {c : Char} {rest : List Char} (h : s.rest? = some (c :: rest)) :
    byteLength s.input - (s.step c.utf8Size).pos < byteLength s.input - s.pos := by
  obtain ⟨front, htext, hfront⟩ := exists_append_of_dropBytes? h
  have hlength : byteLength s.input = s.pos + (c.utf8Size + byteLength rest) := by
    rw [htext, byteLength_append, hfront, byteLength]
  have hpos := c.utf8Size_pos
  simp only [step]
  omega

/-- Moves over every leading occurrence of a character and counts them. -/
def eatWhile (mark : Char) (s : Scanner) : Option (Nat × Scanner) :=
  match _h : s.rest? with
  | none => none
  | some [] => some (0, s)
  | some (c :: _) =>
    if c = mark then
      (eatWhile mark (s.step c.utf8Size)).map fun (count, s) => (count + 1, s)
    else some (0, s)
termination_by byteLength s.input - s.pos
decreasing_by
  exact step_lt _h

/-- The type that a prefix names; without a colon in second place there is none. -/
def scanType (s : Scanner) : Option (Except ParseError (ValueType × Scanner)) := do
  let rest ← s.rest?
  if findByte? ':' rest = some 1 then
    match rest with
    | [] => some (.ok (default, s))
    | c :: _ =>
      match ValueType.ofLetter? c with
      | some t => some (.ok (t, s.step 2))
      | none => some (.error ⟨.invalidType c, s.pos⟩)
  else some (.ok (default, s))

/-- The address and the text behind it, which has to be a value.  The value is checked first. -/
def scanParts (s : Scanner) : Option (Except ParseError (List Char × Option EntryValue)) := do
  let rest ← s.rest?
  match findByte? '=' rest with
  | some i =>
    let text ← dropBytes? (i + 1) rest
    match EntryValue.ofChars text with
    | .error fault => some (.error ⟨fault, s.pos + i + 1⟩)
    | .ok v =>
      let address ← takeBytes? i rest
      some (.ok (address, some v))
  | none => some (.ok (rest, none))

/-- Reads an address expression from its start. -/
def scan (text : List Char) : Option (Except ParseError Entry) := do
  let (plus, s) ← eatWhile '+' ⟨text, 0⟩
  if 2 ≤ plus then
    some (.error ⟨.repeatedOffset, s.pos⟩)
  else
    let (levels, s) ← eatWhile '#' s
    match ← s.scanType with
    | .error e => some (.error e)
    | .ok (type, s) =>
      match ← s.scanParts with
      | .error e => some (.error e)
      | .ok (address, value) =>
        match Address.ofHex? address with
        | none => some (.error ⟨.invalidAddress address, s.pos⟩)
        | some a =>
          some (.ok { isOffset := plus == 1, pointerLevels := levels, type, address := a, value })

end Scanner

example : dropBytes? 1 ['é', '1'] = none := by decide

end MemWatch
