/-
# Endings in lower case

Lower-casing maps every character to a run of its own, which may be longer than one character.  All
the same, a text ends in certain characters of seven bits after lower-casing exactly if it ends in
them up to the case of letters of seven bits before: no other character hides or fakes them.  The
one exception is the letter `k`, which is the image of the Kelvin sign as well.
-/
import Mathlib.Data.List.Basic
import Mathlib.Data.List.Induction
import MemWatch.Text.Case

namespace MemWatch.Text

variable {c d : Char} {text low image : List Char}

/-! ## Images of characters -/

/-- A character with the run of characters that takes its place in lower case. -/
def IsImage (c : Char) (image : List Char) : Prop :=
  if c = 'Σ' then image = ['ς'] ∨ image = ['σ'] else image = lowerChar c

/-- A character with seven bits is lower-cased by itself. -/
theorem lowerChar_of_lt (h : c.toNat < 128) : lowerChar c = [c.toLower] := by
  have hall : ∀ n < 128, lowerChar (.ofNat n) = [(Char.ofNat n).toLower] := by decide +kernel
  rw [← Char.ofNat_toNat c]
  exact hall c.toNat h

/-- The run maps code points above seven bits, and their images are characters above seven bits,
or the only image is the letter `k`. -/
def CaseRun.StaysAbove (r : CaseRun) : Prop :=
  128 ≤ r.first ∧ (128 ≤ r.first + r.delta ∨ r.first = r.last ∧ r.first + r.delta = 'k'.toNat) ∧
    (r.last + r.delta < 0xD800 ∨ 0xDFFF < r.first + r.delta ∧ r.last + r.delta < 0x110000)

/-- Runs that stay above seven bits lead to characters there, or to the letter `k`. -/
theorem mapRuns_of_le {runs : List CaseRun} {n : Nat}
    (hruns : ∀ r ∈ runs, r.last < 128 ∨ r.StaysAbove) (h : 128 ≤ n) (hvalid : n.isValidChar) :
    (mapRuns runs n).isValidChar ∧ (mapRuns runs n = 'k'.toNat ∨ 128 ≤ mapRuns runs n) := by
  induction runs with
  | nil => exact ⟨hvalid, .inr h⟩
  | cons r rest ih =>
    obtain ⟨hr, hrest⟩ := List.forall_mem_cons.mp hruns
    rw [mapRuns]
    split_ifs with hlast hfirst
    · obtain hlt | ⟨-, himage, hchars⟩ := hr
      · omega
      · simp only [Nat.isValidChar, Int.ofNat_eq_natCast]
        omega
    · exact ⟨hvalid, .inr h⟩
    · exact ih hrest

/-- No run but that of the letters of seven bits touches code points of seven bits, apart from that
of the Kelvin sign. -/
theorem staysAbove_lowerRuns : ∀ r ∈ lowerRuns, r.last < 128 ∨ r.StaysAbove := by
  unfold CaseRun.StaysAbove
  decide +kernel

/-- The image of a character above seven bits ends above seven bits, or is the letter `k`. -/
theorem exists_last_lowerChar (h : 128 ≤ c.toNat) :
    ∃ front last, lowerChar c = front ++ [last] ∧ (last = 'k' ∨ 128 ≤ last.toNat) := by
  unfold lowerChar mapChar
  by_cases hdotted : c.toNat = 304
  · refine ⟨['i'], '\u0307', ?_, .inr (by decide)⟩
    rw [hdotted]
    decide
  · have hnone : lowerExpansions.lookup c.toNat = none := by simp [lowerExpansions, hdotted]
    obtain ⟨hvalid, himage⟩ := mapRuns_of_le staysAbove_lowerRuns h c.valid
    have hnat : (Char.ofNat (mapRuns lowerRuns c.toNat)).toNat = mapRuns lowerRuns c.toNat := by
      rw [Char.ofNat, dif_pos hvalid]
      rfl
    rw [hnone]
    refine ⟨[], _, rfl, himage.imp (fun hk => ?_) fun hle => hnat.symm ▸ hle⟩
    rw [hk]
    rfl

/-- A character of seven bits has itself in lower case for its image, and the image of any other one
ends above seven bits or is the letter `k`. -/
theorem IsImage.cases (h : IsImage c image) :
    c.toNat < 128 ∧ image = [c.toLower] ∨
      128 ≤ c.toNat ∧ ∃ front last, image = front ++ [last] ∧ (last = 'k' ∨ 128 ≤ last.toNat) := by
  unfold IsImage at h
  split_ifs at h with hsigma
  · subst hsigma
    refine .inr ⟨by decide, [], ?_⟩
    rcases h with rfl | rfl
    · exact ⟨_, rfl, .inr (by decide)⟩
    · exact ⟨_, rfl, .inr (by decide)⟩
  · subst h
    by_cases hc : c.toNat < 128
    · exact .inl ⟨hc, lowerChar_of_lt hc⟩
    · exact .inr ⟨Nat.le_of_not_lt hc, exists_last_lowerChar (Nat.le_of_not_lt hc)⟩

/-! ## Images of texts -/

/-- A text with the images of its characters one after the other. -/
inductive Lowers : List Char → List Char → Prop where
  | nil : Lowers [] []
  | cons {c : Char} {image text low : List Char} (h : IsImage c image) (hrest : Lowers text low) :
      Lowers (c :: text) (image ++ low)

/-- A text is lower-cased by images of its characters. -/
theorem lowers_lowerFrom (before text : List Char) : Lowers text (lowerFrom before text) := by
  induction text generalizing before with
  | nil => exact .nil
  | cons c rest ih =>
    refine .cons ?_ (ih (c :: before))
    unfold IsImage
    split_ifs <;> simp

/-- The images of a text in two parts are those of the parts. -/
theorem Lowers.exists_append {front back : List Char} (h : Lowers (front ++ back) low) :
    ∃ low₁ low₂, low = low₁ ++ low₂ ∧ Lowers front low₁ ∧ Lowers back low₂ := by
  induction front generalizing low with
  | nil => exact ⟨[], low, rfl, .nil, h⟩
  | cons c front ih =>
    cases h with
    | cons himage hrest =>
      obtain ⟨low₁, low₂, rfl, hfront, hback⟩ := ih hrest
      exact ⟨_, low₂, (List.append_assoc _ _ _).symm, .cons himage hfront, hback⟩

/-- The image of a single character. -/
theorem Lowers.isImage (h : Lowers [c] low) : IsImage c low := by
  cases h with
  | cons himage hrest =>
    cases hrest
    rwa [List.append_nil]

/-- A text of characters of seven bits is lower-cased character by character. -/
theorem Lowers.eq_map (h : Lowers text low) (hlt : ∀ c ∈ text, c.toNat < 128) :
    low = text.map Char.toLower := by
  induction h with
  | nil => rfl
  | cons himage _ ih =>
    obtain ⟨hc, hrest⟩ := List.forall_mem_cons.mp hlt
    rcases himage.cases with ⟨-, rfl⟩ | ⟨hle, -⟩
    · rw [ih hrest]
      rfl
    · omega

/-- Other characters than capital letters of seven bits stay as they are. -/
theorem toLower_of_not_upper (h : c.toNat < 65 ∨ 90 < c.toNat) : c.toLower = c := by
  unfold Char.toLower
  refine dif_neg fun hletter => ?_
  have hge : 65 ≤ c.toNat := hletter.1
  have hle : c.toNat ≤ 90 := hletter.2
  omega

/-- Texts with a common ending have the last character in common, and an ending before it. -/
theorem of_suffix_concat {ending front : List Char} (h : ending ++ [d] <:+ front ++ [c]) :
    d = c ∧ ending <:+ front := by
  rcases List.suffix_concat_iff.mp h with hnil | ⟨rest, hrest, hsuffix⟩
  · simp at hnil
  · obtain ⟨rfl, rfl⟩ := List.append_singleton_inj.mp hrest
    exact ⟨rfl, hsuffix⟩

/-- A text whose images end in characters of seven bits other than `k` ends in them itself, up to the
case of letters of seven bits. -/
theorem Lowers.exists_ending {ending : List Char} (h : Lowers text low)
    (hending : ∀ d ∈ ending, d.toNat < 128 ∧ d ≠ 'k') (hsuffix : ending <:+ low) :
    ∃ last, last <:+ text ∧ last.map Char.toLower = ending := by
  -- induction on the ending from its last character on
  induction ending using List.reverseRecOn generalizing text low with
  | nil => exact ⟨[], List.nil_suffix, rfl⟩
  | append_singleton ending d ih =>
    rcases List.eq_nil_or_concat' text with rfl | ⟨front, c, rfl⟩
    · cases h
      simp at hsuffix
    · obtain ⟨low₁, low₂, rfl, hfront, hlast⟩ := h.exists_append
      obtain ⟨hlt, hk⟩ := hending d (List.mem_append_right _ List.mem_cons_self)
      rcases hlast.isImage.cases with ⟨-, rfl⟩ | ⟨-, start, e, rfl, he⟩
      · obtain ⟨rfl, hrest⟩ := of_suffix_concat hsuffix
        obtain ⟨last, hlast, rfl⟩ :=
          ih hfront (fun e he => hending e (List.mem_append_left _ he)) hrest
        refine ⟨last ++ [c], List.suffix_concat_iff.mpr (.inr ⟨last, rfl, hlast⟩), ?_⟩
        rw [List.map_append, List.map_singleton]
      · -- the image of any other character ends in none of them
        rw [← List.append_assoc] at hsuffix
        obtain ⟨rfl, -⟩ := of_suffix_concat hsuffix
        exact absurd he (not_or.mpr ⟨hk, Nat.not_le_of_lt hlt⟩)

/-- **Endings.**  In lower case a text ends in characters of seven bits other than `k` exactly if it
ends in them up to the case of letters of seven bits. -/
theorem isSuffix_lowerFrom_iff {ending : List Char}
    (hending : ∀ d ∈ ending, d.toNat < 128 ∧ d ≠ 'k') (before text : List Char) :
    ending <:+ lowerFrom before text ↔ ∃ last, last <:+ text ∧ last.map Char.toLower = ending := by
  have hlow := lowers_lowerFrom before text
  constructor
  · exact hlow.exists_ending hending
  · rintro ⟨last, ⟨front, rfl⟩, rfl⟩
    obtain ⟨low₁, low₂, heq, -, hlast⟩ := hlow.exists_append
    rw [heq, hlast.eq_map]
    · exact List.suffix_append _ _
    · intro c hc
      by_contra hge
      have hlt := (hending _ (List.mem_map_of_mem hc)).1
      rw [toLower_of_not_upper (by omega)] at hlt
      exact hge hlt

end MemWatch.Text
