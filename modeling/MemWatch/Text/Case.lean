/-
# Case mapping

Upper- and lower-casing of whole texts, by the full mapping of each character.  A capital sigma is
lower-cased by its place: at the end of a word it becomes a final sigma.
-/
import MemWatch.Text.CharRange
import MemWatch.Text.CaseTable

namespace MemWatch.Text

/-! ## Single characters -/

/-- The image of a code point under a table of runs. -/
def mapRuns : List CaseRun → Nat → Nat
  | [], n => n
  | run :: rest, n =>
    if n ≤ run.last then
      if run.first ≤ n ∧ (n - run.first) % run.step = 0 then (Int.ofNat n + run.delta).toNat else n
    else mapRuns rest n

/-- The image of a character: its expansion if it has one, else its image under the runs. -/
def mapChar (runs : List CaseRun) (expansions : List (Nat × List Nat)) (c : Char) : List Char :=
  match expansions.lookup c.toNat with
  | some codes => codes.map Char.ofNat
  | none => [Char.ofNat (mapRuns runs c.toNat)]

/-- The lower-case image of a character that stands alone. -/
def lowerChar (c : Char) : List Char :=
  mapChar lowerRuns lowerExpansions c

/-- The upper-case image of a character. -/
def upperChar (c : Char) : List Char :=
  mapChar upperRuns upperExpansions c

/-! ## Whole texts -/

/-- The nearest character that is not passed over is cased. -/
def reachesCased : List Char → Bool
  | [] => false
  | c :: rest =>
    if inRanges caseIgnorableRanges c then reachesCased rest else inRanges casedRanges c

/-- Lower-cases the rest of a text; `before` holds the characters before it, nearest first. -/
def lowerFrom (before : List Char) : List Char → List Char
  | [] => []
  | c :: rest =>
    (if c = 'Σ' then [if reachesCased before && !reachesCased rest then 'ς' else 'σ']
      else lowerChar c) ++ lowerFrom (c :: before) rest

/-- The lower-case form of a text. -/
def lower (text : String) : String :=
  String.ofList (lowerFrom [] text.toList)

/-- The upper-case form of a text. -/
def upper (text : String) : String :=
  String.ofList (text.toList.flatMap upperChar)

end MemWatch.Text
