/-
# Leading zeros

A number has many numerals, which differ in the zeros in front and in the case of their digits.  The
numeral that is written is the one without zeros in front, in upper case; a numeral that is filled
up to a width gets zeros in front and loses nothing.
-/
import Mathlib.Data.List.TakeWhile
import MemWatch.Proofs.Numeral
import MemWatch.Text.Case

namespace MemWatch.Numeral

variable {b d k m n width : Nat} {c : Char} {text : List Char} {ds : List Nat}

/-! ## Digits of numbers -/

/-- Writing a number of more than one digit: the last digit stands behind the others. -/
theorem digits_add_mul (hb : 2 ≤ b) (hd : d < b) (m : Nat) :
    digits b (d + b * m) = if m = 0 then [digitChar d] else digits b m ++ [digitChar d] := by
  by_cases hm : m = 0
  · rw [if_pos hm, hm, Nat.mul_zero, Nat.add_zero, digits, if_pos (Or.inr hd)]
  · have hpos : 0 < b := by omega
    have hle : b ≤ b * m := Nat.le_mul_of_pos_right b (Nat.pos_of_ne_zero hm)
    rw [if_neg hm, digits, if_neg (by omega), Nat.add_mul_div_left d m hpos,
      Nat.div_eq_of_lt hd, Nat.zero_add, Nat.add_mul_mod_self_left, Nat.mod_eq_of_lt hd]

/-- A single zero is the numeral of zero only. -/
theorem digits_eq_zero_iff (hb : 2 ≤ b) (hb' : b ≤ 16) : digits b n = ['0'] ↔ n = 0 := by
  constructor
  · intro h
    have hspells := spells_digits hb hb' n
    rw [h] at hspells
    exact hspells.unique (spells_singleton ⟨by omega, Or.inl rfl⟩)
  · rintro rfl
    rw [digits, if_pos (Or.inr (by omega))]
    rfl

/-- A number below a power of the base has no more digits than the exponent says. -/
theorem length_digits_le (hk : 0 < k) (h : n < b ^ k) : (digits b n).length ≤ k := by
  -- induction on the digits that there may be
  induction k generalizing n with
  | zero => exact absurd hk (Nat.lt_irrefl 0)
  | succ k ih =>
    rw [digits]
    split
    · exact hk
    · rename_i hlarge
      have hk : 0 < k := by
        apply Nat.pos_of_ne_zero
        rintro rfl
        rw [Nat.zero_add, Nat.pow_one] at h
        omega
      have hdiv : n / b < b ^ k := by
        apply Nat.div_lt_of_lt_mul
        rwa [Nat.pow_succ, Nat.mul_comm] at h
      rw [List.length_append, List.length_singleton]
      exact Nat.succ_le_succ (ih hk hdiv)

/-! ## The shortest numeral -/

/-- A numeral without the zeros in front of it; if it is nothing but zeros, one of them is left. -/
def withoutZeros (text : List Char) : List Char :=
  match text.dropWhile (· == '0') with
  | [] => ['0']
  | rest => rest

/-- What a further character at the end changes. -/
theorem withoutZeros_concat (text : List Char) (c : Char) :
    withoutZeros (text ++ [c]) =
      if withoutZeros text = ['0'] then [c] else withoutZeros text ++ [c] := by
  unfold withoutZeros
  rw [List.dropWhile_append]
  cases hrest : text.dropWhile (· == '0') with
  | nil =>
    by_cases hc : c = '0'
    · simp [hc]
    · simp [hc]
  | cons x rest =>
    have hx : x ≠ '0' := by
      have hfirst := List.head_dropWhile_not (p := (· == '0')) (l := text)
        (by rw [hrest]; exact List.cons_ne_nil x rest)
      simpa [hrest] using hfirst
    simp [hx]

/-- In upper case a digit is the character that is written for it. -/
theorem upperChar_of_isDigit (hb : b ≤ 16) (h : IsDigit b c d) :
    Text.upperChar c = [digitChar d] := by
  obtain ⟨hd, hc⟩ := h
  have hlt : d < 16 := by omega
  clear hd
  rcases hc with hc | hc
  all_goals
    interval_cases d <;> · simp at hc; subst hc; decide

/-- A run of digits, the last one in front, is in upper case the numeral of its number behind some
zeros. -/
theorem withoutZeros_reverse (h : List.Forall₂ (IsDigit b) text ds) (hb : 2 ≤ b) (hb' : b ≤ 16) :
    withoutZeros (text.reverse.flatMap Text.upperChar) = digits b (Nat.ofDigits b ds) := by
  induction h with
  | nil => exact ((digits_eq_zero_iff hb hb').mpr rfl).symm
  | cons hd _ ih =>
    rw [List.reverse_cons, List.flatMap_append, List.flatMap_singleton,
      upperChar_of_isDigit hb' hd, withoutZeros_concat, ih, Nat.ofDigits_cons,
      digits_add_mul hb hd.1]
    exact if_congr (digits_eq_zero_iff hb hb') rfl rfl

/-- **The shortest numeral.**  Every text that spells a number is, in upper case and without the zeros
in front, the numeral of the number. -/
theorem Spells.withoutZeros_eq (h : Spells b text n) (hb : 2 ≤ b) (hb' : b ≤ 16) :
    withoutZeros (text.flatMap Text.upperChar) = digits b n := by
  obtain ⟨-, ds, hds, rfl⟩ := h
  have hreverse := withoutZeros_reverse (List.forall₂_reverse_iff.mpr hds) hb hb'
  rwa [List.reverse_reverse] at hreverse

/-! ## Filling up -/

theorem length_padLeft (width : Nat) (fill : Char) (text : List Char) :
    (padLeft width fill text).length = max width text.length := by
  rw [padLeft, List.length_append, List.length_replicate]
  omega

theorem length_zeroPadded (hwidth : 0 < width) (h : n < 10 ^ width) :
    (zeroPadded width n).toList.length = width := by
  rw [zeroPadded, String.toList_ofList, length_padLeft]
  exact Nat.max_eq_left (length_digits_le hwidth h)

theorem spells_zeroPadded (width n : Nat) : Spells 10 (zeroPadded width n).toList n := by
  rw [zeroPadded, String.toList_ofList]
  exact (spells_decimal n).padLeft (by decide) width

end MemWatch.Numeral
