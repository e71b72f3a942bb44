/-
# Sets of characters given by ranges

A set of characters is written as the list of its code point ranges, in ascending order.
-/

namespace MemWatch.Text

/-- The character lies in one of the ranges; the search ends at the first range that reaches it. -/
def inRanges : List (Nat × Nat) → Char → Bool
  | [], _ => false
  | (first, last) :: rest, c =>
    if c.toNat ≤ last then decide (first ≤ c.toNat) else inRanges rest c

end MemWatch.Text
