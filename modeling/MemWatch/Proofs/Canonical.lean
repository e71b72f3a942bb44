/-
# Canonical address expressions

The canonical expression of an entry is one of the texts that denote it, so reading it gives the
entry back.  The number of a referenced entry has to fit in 64 bits, as every number that is read
does.

Main statement: canonical expressions are read back, differ for different entries, and do not change
when they are read and written again.
-/
import MemWatch.Proofs.Grammar

namespace MemWatch

open Expression Numeral

theorem Address.spells_hex (a : Address) : Spells 16 a.hex.toList a.toNat := by
  rw [hex, Numeral.hex, String.toList_ofList]
  exact Numeral.spells_hex a.toNat

namespace Entry

/-- The number of the entry that is referenced, if any, has 64 bits. -/
def HasWordReference (e : Entry) : Prop :=
  ∀ id, e.value = some (.reference id) → id.val < 2 ^ 64

/-! ## Parts of the canonical expression -/

/-- The type letter stands in front of the address unless it is that of the default type. -/
theorem prefixDenotes_letter (t : ValueType) :
    PrefixDenotes (if t = default then [] else [t.letter, ':']) t := by
  split
  · rename_i ht
    rw [ht]
    exact .empty
  · exact .letter (Or.inl rfl)

/-- The decimal numeral of a signed number denotes it; the smallest number needs its sign to
fit. -/
theorem valueDenotes_signed (v : Int64) :
    ValueDenotes (signed v.toInt).toList (.literal v) := by
  have hmin : -2 ^ 63 ≤ v.toInt := Int64.le_toInt v
  have hmax : v.toInt < 2 ^ 63 := Int64.toInt_lt v
  have hdigits := spells_decimal v.toInt.natAbs
  rw [toList_signed]
  split
  · have hv : v.toInt = if 1 ≤ 1 then -(v.toInt.natAbs : Int) else v.toInt.natAbs := by
      rw [if_pos (by omega)]
      omega
    simpa using ValueDenotes.decimal 1 hdigits (by omega) hv
  · have hv : v.toInt = if 1 ≤ 0 then -(v.toInt.natAbs : Int) else v.toInt.natAbs := by
      rw [if_neg (by omega)]
      omega
    simpa using ValueDenotes.decimal 0 hdigits (by omega) hv

/-- The text of an id denotes a reference to it. -/
theorem valueDenotes_reference {id : RefId} (h : id.val < 2 ^ 64) :
    ValueDenotes id.text.toList (.reference id) := by
  have hdigits := spells_decimal id.val
  simpa [RefId.text, decimal] using
    ValueDenotes.reference 0 (Or.inl rfl) hdigits h

/-- The part behind the address denotes the value. -/
theorem suffixDenotes_valueSuffix {e : Entry} (h : e.HasWordReference) :
    SuffixDenotes e.valueSuffix.toList e.value := by
  unfold valueSuffix
  cases hvalue : e.value with
  | none => exact .empty
  | some v =>
    show SuffixDenotes ("=" ++ v.text).toList (some v)
    rw [String.toList_append]
    refine .value ?_
    cases v with
    | literal v => exact valueDenotes_signed v
    | reference id => exact valueDenotes_reference (h id hvalue)

/-! ## Reading canonical expressions -/

/-- **The canonical expression of an entry denotes it.** -/
theorem denotes_text {e : Entry} (h : e.HasWordReference) : Denotes e.text.toList e := by
  refine ⟨_, _, _, ?_, prefixDenotes_letter e.type, e.address.spells_hex,
    suffixDenotes_valueSuffix h⟩
  simp only [text, marks, String.toList_append, String.toList_ofList]

/-- Canonical expressions are read back. -/
theorem parse_text {e : Entry} (h : e.HasWordReference) : parse e.text = .ok e :=
  (denotes_text h).entry_ofChars

/-- Every entry that was read references a number of 64 bits, if any. -/
theorem hasWordReference_of_parse {token : String} {e : Entry} (h : parse token = .ok e) :
    e.HasWordReference := by
  obtain ⟨typePart, address, valuePart, -, -, -, hvalue⟩ := denotes_of_entry_ofChars h
  intro id hid
  rw [hid] at hvalue
  cases hvalue with
  | value hv =>
    cases hv with
    | reference _ _ _ hfit => exact hfit

/-- **Round trip.**  The canonical expression of an entry is read as that entry, so it determines
the entry; and an entry that was read is read again from its canonical expression, whose own
canonical expression is the same text. -/
theorem canonical_text_round_trip :
    (∀ e : Entry, e.HasWordReference → parse e.text = .ok e) ∧
    (∀ e e' : Entry, e.HasWordReference → e'.HasWordReference → e.text = e'.text → e = e') ∧
    (∀ token e, parse token = .ok e →
      parse e.text = .ok e ∧ (parse e.text).map text = .ok e.text) := by
  refine ⟨fun e h => parse_text h, fun e e' h h' htext => ?_, fun token e h => ?_⟩
  · have hread := parse_text h
    rw [htext, parse_text h'] at hread
    exact (Except.ok.inj hread).symm
  · have hread := parse_text (hasWordReference_of_parse h)
    rw [hread]
    exact ⟨rfl, rfl⟩

end Entry

end MemWatch
