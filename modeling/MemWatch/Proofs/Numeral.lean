/-
# What numerals spell

A run of digits spells a number, most significant digit first.  Reading a numeral finds the number
that it spells, and the numeral that is written for a number spells it, in every base up to
sixteen.
-/
import Mathlib.Data.List.Forall2
import Mathlib.Data.Nat.Digits.Defs
import Mathlib.Tactic.IntervalCases
import Mathlib.Tactic.Ring
import MemWatch.Text.Numeral

namespace MemWatch.Numeral

variable {b n d : Nat} {c : Char} {text : List Char}

/-! ## Digits -/

/-- The character `c` stands for the digit `d` of base `b`; letters count in either case. -/
def IsDigit (b : Nat) (c : Char) (d : Nat) : Prop :=
  d < b ∧ ("0123456789ABCDEF".toList[d]? = some c ∨ "0123456789abcdef".toList[d]? = some c)

/-- The text is a run of one digit or more, and the number that it spells is `n`. -/
def Spells (b : Nat) (text : List Char) (n : Nat) : Prop :=
  text ≠ [] ∧ ∃ ds, List.Forall₂ (IsDigit b) text ds ∧ Nat.ofDigits b ds.reverse = n

/-- The three runs of characters that stand for digits. -/
theorem digit?_eq_some_iff_toNat :
    digit? b c = some d ↔ d < b ∧
      (c.toNat = 48 + d ∧ d < 10 ∨ c.toNat = 55 + d ∧ 10 ≤ d ∧ d < 16 ∨
        c.toNat = 87 + d ∧ 10 ≤ d ∧ d < 16) := by
  unfold digit?
  simp only [Option.ite_none_right_eq_some, Option.some.injEq]
  split
  · omega
  · split
    · omega
    · split <;> omega

/-- A digit is read as what it stands for. -/
theorem digit?_eq_some_iff : digit? b c = some d ↔ IsDigit b c d := by
  rw [digit?_eq_some_iff_toNat, IsDigit]
  constructor
  · rintro ⟨hd, h⟩
    refine ⟨hd, ?_⟩
    rw [← Char.ofNat_toNat c]
    clear hd
    rcases h with ⟨h, hlt⟩ | ⟨h, hge, hlt⟩ | ⟨h, hge, hlt⟩
    all_goals
      rw [h]
      clear h
      interval_cases d <;> decide
  · rintro ⟨hd, h⟩
    have hlt : d < 16 := by
      rcases h with h | h <;> exact (List.getElem?_eq_some_iff.mp h).1
    refine ⟨hd, ?_⟩
    clear hd
    rcases h with h | h
    all_goals
      interval_cases d <;> · simp at h; subst h; decide

/-- The character that is written for a digit stands for it. -/
theorem isDigit_digitChar (hd : d < b) (hb : b ≤ 16) : IsDigit b (digitChar d) d := by
  refine ⟨hd, Or.inl ?_⟩
  have hlt : d < 16 := by omega
  clear hd
  interval_cases d <;> decide

/-! ## Reading -/

/-- One more digit at the top of a number that is spelled from the bottom. -/
theorem ofDigits_concat_mul_add (b acc d : Nat) (ds : List Nat) :
    Nat.ofDigits b (ds ++ [acc * b + d]) = Nat.ofDigits b (ds ++ [d] ++ [acc]) := by
  simp only [Nat.ofDigits_append, Nat.ofDigits_singleton, List.length_append, List.length_singleton]
  ring

/-- Reading on with `acc` read so far: `acc` stands above all further digits. -/
theorem accumulate_eq_some_iff {acc : Nat} :
    accumulate b acc text = some n ↔
      ∃ ds, List.Forall₂ (IsDigit b) text ds ∧ Nat.ofDigits b (ds.reverse ++ [acc]) = n := by
  induction text generalizing acc with
  | nil => simp [accumulate]
  | cons c rest ih =>
    rw [accumulate]
    constructor
    · intro h
      cases hd : digit? b c with
      | none => simp [hd] at h
      | some d =>
        -- what was read so far and this digit stand above the digits that follow
        simp only [hd, ih] at h
        obtain ⟨ds, hds, hn⟩ := h
        refine ⟨d :: ds, .cons (digit?_eq_some_iff.mp hd) hds, ?_⟩
        rw [List.reverse_cons, ← ofDigits_concat_mul_add, hn]
    · rintro ⟨ds, hds, hn⟩
      cases hds with
      | @cons _ d _ ds hd hds =>
        rw [List.reverse_cons, ← ofDigits_concat_mul_add] at hn
        simp only [digit?_eq_some_iff.mpr hd]
        exact ih.mpr ⟨ds, hds, hn⟩

/-- **Reading.**  A text is read as the number that it spells. -/
theorem value?_eq_some_iff : value? b text = some n ↔ Spells b text n := by
  cases text with
  | nil => simp [value?, Spells]
  | cons c rest =>
    rw [value?, accumulate_eq_some_iff, Spells]
    simp [Nat.ofDigits_append]

/-- With a limit a text is read as the number that it spells, if that is below the limit. -/
theorem valueBelow?_eq_some_iff {limit : Nat} :
    valueBelow? b limit text = some n ↔ Spells b text n ∧ n < limit := by
  rw [valueBelow?, ← value?_eq_some_iff]
  cases value? b text with
  | none => simp
  | some m =>
    simp only [Option.ite_none_right_eq_some, Option.some.injEq]
    constructor
    · rintro ⟨hlt, rfl⟩
      exact ⟨rfl, hlt⟩
    · rintro ⟨rfl, hlt⟩
      exact ⟨hlt, rfl⟩

/-- Every character of a numeral stands for a digit. -/
theorem Spells.isDigit_of_mem (h : Spells b text n) (hc : c ∈ text) : ∃ d, IsDigit b c d := by
  obtain ⟨-, ds, hds, -⟩ := h
  induction hds with
  | nil => simp at hc
  | @cons a d text ds hd _ ih =>
    rcases List.mem_cons.mp hc with rfl | hc
    · exact ⟨d, hd⟩
    · exact ih hc

theorem Spells.digit?_ne_none (h : Spells b text n) (hc : c ∈ text) : digit? b c ≠ none := by
  obtain ⟨d, hd⟩ := h.isDigit_of_mem hc
  rw [digit?_eq_some_iff.mpr hd]
  simp

theorem Spells.unique {m : Nat} (h : Spells b text m) (h' : Spells b text n) : m = n := by
  rw [← value?_eq_some_iff] at h h'
  exact Option.some.inj (h.symm.trans h')

/-! ## Writing -/

theorem spells_singleton (h : IsDigit b c d) : Spells b [c] d :=
  ⟨by simp, [d], .cons h .nil, by simp⟩

theorem Spells.concat (h : Spells b text n) (hd : IsDigit b c d) :
    Spells b (text ++ [c]) (b * n + d) := by
  obtain ⟨-, ds, hds, rfl⟩ := h
  refine ⟨by simp, ds ++ [d], List.rel_append hds (.cons hd .nil), ?_⟩
  rw [List.reverse_concat, Nat.ofDigits_cons]
  exact Nat.add_comm _ _

/-- **Writing.**  The numeral of a number spells it. -/
theorem spells_digits (hb : 2 ≤ b) (hb' : b ≤ 16) (n : Nat) : Spells b (digits b n) n := by
  fun_induction digits b n with
  | case1 n h =>
    exact spells_singleton (isDigit_digitChar (by omega) hb')
  | case2 n h ih =>
    have hdigit := isDigit_digitChar (d := n % b) (Nat.mod_lt n (by omega)) hb'
    have hspells := ih.concat hdigit
    rwa [Nat.div_add_mod] at hspells

theorem spells_decimal (n : Nat) : Spells 10 (digits 10 n) n :=
  spells_digits (by decide) (by decide) n

theorem spells_hex (n : Nat) : Spells 16 (digits 16 n) n :=
  spells_digits (by decide) (by decide) n

theorem digits_ten_inj {m : Nat} (h : digits 10 m = digits 10 n) : m = n := by
  have hm := spells_decimal m
  rw [h] at hm
  exact hm.unique (spells_decimal n)

/-- The characters of a signed number: a sign if it is negative, and the digits of its size. -/
theorem toList_signed (i : Int) :
    (signed i).toList = (if i < 0 then ['-'] else []) ++ digits 10 i.natAbs := by
  unfold signed decimal
  split
  · simp
  · rw [String.toList_ofList, List.nil_append]

theorem Spells.zero_cons (h : Spells b text n) (hb : 0 < b) : Spells b ('0' :: text) n := by
  obtain ⟨-, ds, hds, rfl⟩ := h
  refine ⟨by simp, 0 :: ds, .cons ⟨hb, Or.inl rfl⟩ hds, ?_⟩
  rw [List.reverse_cons, Nat.ofDigits_append_zero]

/-- A numeral that is filled up with zeros spells the same number. -/
theorem Spells.padLeft (h : Spells b text n) (hb : 0 < b) (width : Nat) :
    Spells b (padLeft width '0' text) n := by
  unfold Numeral.padLeft
  induction width - text.length with
  | zero => exact h
  | succ k ih =>
    rw [List.replicate_succ, List.cons_append]
    exact ih.zero_cons hb

end MemWatch.Numeral
