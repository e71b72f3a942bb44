/-
# Texts of addresses

An address has two texts, a short one and a padded one.  Both spell its number, as does every text
that is read as the address, and so they differ only in the zeros in front and in the case of their
digits.

Main statement: both texts of an address are read back, the padded one without its base marker; the
padded one holds all of the short one behind its zeros; and the short one is what every text that is
read as the address comes down to.
-/
import Mathlib
import MemWatch.Error
import MemWatch.Proofs.Canonical
import MemWatch.Proofs.LeadingZeros

namespace MemWatch.Address

open Numeral

variable {a : Address} {text : String}

/-! ## Reading -/

/-- A text is read as the address whose number it spells. -/
theorem parse_eq_ok_iff_spells : parse text = .ok a ↔ Spells 16 text.toList a.toNat := by
  have hsize : a.toNat < UInt64.size := a.toNat_lt
  unfold parse
  cases hread : ofHex? text.toList with
  | none =>
    rw [ofHex?, Option.map_eq_none_iff] at hread
    constructor
    · intro h
      simp at h
    · intro hspells
      rw [valueBelow?_eq_some_iff.mpr ⟨hspells, hsize⟩] at hread
      simp at hread
  | some a' =>
    rw [ofHex?, Option.map_eq_some_iff] at hread
    obtain ⟨n, hn, rfl⟩ := hread
    obtain ⟨hspells, hlt⟩ := valueBelow?_eq_some_iff.mp hn
    have htoNat : (ofNat n).toNat = n := (toNat_ofNat n).trans (Nat.mod_eq_of_lt hlt)
    constructor
    · intro heq
      obtain rfl := Except.ok.inj heq
      rwa [htoNat]
    · intro hspells'
      rw [hspells.unique hspells', ofNat_toNat]

/-! ## Writing -/

/-- The digits of the padded text: those of the short one, with zeros in front. -/
def paddedDigits (a : Address) : String :=
  String.ofList (padLeft 8 '0' a.hex.toList)

/-- The padded text is a base marker and digits. -/
theorem padded_eq (a : Address) : a.padded = "0x" ++ a.paddedDigits := by
  rw [padded, paddedDigits, hex, Numeral.hex, String.toList_ofList]

theorem spells_paddedDigits (a : Address) : Spells 16 a.paddedDigits.toList a.toNat := by
  rw [paddedDigits, String.toList_ofList]
  exact a.spells_hex.padLeft (by decide) 8

theorem length_paddedDigits (a : Address) : a.paddedDigits.length = max 8 a.hex.length := by
  rw [paddedDigits, String.length_ofList, length_padLeft, String.length_toList]

/-- The short text stands whole behind some zeros. -/
theorem exists_paddedDigits_eq (a : Address) :
    ∃ zeros, a.paddedDigits.toList = List.replicate zeros '0' ++ a.hex.toList := by
  refine ⟨8 - a.hex.toList.length, ?_⟩
  rw [paddedDigits, String.toList_ofList, padLeft]

/-- **Texts of addresses.**  The short text of an address is read back, and so are the digits of the
padded one behind the base marker, of which there are eight or more: zeros, and the whole short text.
Every text that is read as the address is the short one, in upper case and without the zeros in
front. -/
theorem texts_read_back :
    (∀ a : Address, parse a.hex = .ok a) ∧
    (∀ a : Address, ∃ digits, a.padded = "0x" ++ digits ∧ parse digits = .ok a ∧
      8 ≤ digits.length ∧ digits.length = max 8 a.hex.length ∧
      ∃ zeros, digits.toList = List.replicate zeros '0' ++ a.hex.toList) ∧
    ∀ text a, parse text = .ok a → a.hex.toList = withoutZeros (Text.upper text).toList := by
  refine ⟨fun a => parse_eq_ok_iff_spells.mpr a.spells_hex, fun a => ?_, fun text a h => ?_⟩
  · refine ⟨a.paddedDigits, a.padded_eq, parse_eq_ok_iff_spells.mpr a.spells_paddedDigits, ?_,
      a.length_paddedDigits, a.exists_paddedDigits_eq⟩
    rw [length_paddedDigits]
    exact Nat.le_max_left 8 _
  · have hspells := parse_eq_ok_iff_spells.mp h
    rw [Text.upper, String.toList_ofList, hspells.withoutZeros_eq (by decide) (by decide), hex,
      Numeral.hex, String.toList_ofList]

/-- Of more digits than 64 bits have all but six are zeros, and the others are written in upper
case. -/
theorem long_text_is_shortened :
    parse "00000000000000000000c0fFEe" = .ok (.ofNat 0xC0FFEE) ∧
      (ofNat 0xC0FFEE).hex.toList =
        withoutZeros (Text.upper "00000000000000000000c0fFEe").toList ∧
      (ofNat 0xC0FFEE).hex = "C0FFEE" := by
  have hread : parse "00000000000000000000c0fFEe" = .ok (.ofNat 0xC0FFEE) := by cbv
  exact ⟨hread, texts_read_back.2.2 _ _ hread, by cbv⟩

end MemWatch.Address
