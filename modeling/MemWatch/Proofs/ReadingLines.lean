/-
# What the line of a reading tells

The line of a reading starts with the id of the entry.  Behind it stand the address and the value
that were read, or, if nothing was read, the canonical expression of the entry and two question
marks.  All of it is found again in the line: the id ends at the first blank, the address at the
first equals sign behind it, every numeral spells one number, and no other line ends in question
marks.

The canonical expression may hold a value, with an equals sign of its own, and a reference to any
entry, even one whose number is too large to be read again.  So it is not read here, it is only cut
into its parts.

Main statement: two lines are equal exactly if the ids are and both readings found the same value at
the same address, or both failed for equal entries.
-/
import MemWatch.EntrySet.Cycle
import MemWatch.Proofs.AddressTexts
import MemWatch.Proofs.Ranges

namespace MemWatch

open Expression Numeral

/-! ## Signed numbers -/

theorem Numeral.toList_signed_ne_nil (i : Int) : (signed i).toList ≠ [] := by
  rw [toList_signed]
  exact List.append_ne_nil_of_right_ne_nil _ (spells_decimal i.natAbs).1

/-- No character other than the sign and the figures stands in a signed number. -/
theorem Numeral.not_mem_signed {c : Char} (i : Int) (hsign : c ≠ '-')
    (hdigit : digit? 10 c = none) : c ∉ (signed i).toList := by
  intro hmem
  rw [toList_signed, List.mem_append] at hmem
  rcases hmem with hmem | hmem
  · split at hmem
    · exact hsign (List.mem_singleton.mp hmem)
    · exact absurd hmem List.not_mem_nil
  · exact (spells_decimal i.natAbs).digit?_ne_none hmem hdigit

/-- The sign stands in front of negative numbers only. -/
theorem Numeral.sign_mem_signed_iff {i : Int} : '-' ∈ (signed i).toList ↔ i < 0 := by
  have hdigits : '-' ∉ digits 10 i.natAbs :=
    not_mem_of_spells (spells_decimal _) (by decide)
  rw [toList_signed, List.mem_append]
  by_cases hneg : i < 0 <;> simp [hneg, hdigits]

/-- Different signed numbers have different texts. -/
theorem Numeral.signed_inj {i j : Int} (h : signed i = signed j) : i = j := by
  have hsign : i < 0 ↔ j < 0 := by
    rw [← sign_mem_signed_iff, h, sign_mem_signed_iff]
  -- with the same sign in front of both, the digits are the same
  have hsize : i.natAbs = j.natAbs := by
    have hchars := congrArg String.toList h
    rw [toList_signed, toList_signed, if_congr hsign rfl rfl] at hchars
    exact digits_ten_inj (List.append_cancel_left hchars)
  omega

/-! ## Ids and addresses -/

theorem RefId.text_inj {i j : RefId} (h : i.text = j.text) : i = j := by
  rw [text, text, String.append_right_inj, decimal, decimal, String.ofList_inj] at h
  exact (RefId.mk.injEq ..).mpr (digits_ten_inj h)

/-- The text of an id is one word. -/
theorem RefId.blank_notMem_text (i : RefId) : ' ' ∉ i.text.toList := by
  have hdigits : ' ' ∉ digits 10 i.val :=
    not_mem_of_spells (spells_decimal _) (by decide)
  simp [text, decimal, hdigits]

/-- The long text of an address spells its number behind a base marker. -/
theorem Address.exists_spells_padded (a : Address) :
    ∃ text, a.padded.toList = '0' :: 'x' :: text ∧ Spells 16 text a.toNat := by
  refine ⟨a.paddedDigits.toList, ?_, a.spells_paddedDigits⟩
  rw [padded_eq, String.toList_append]
  rfl

theorem Address.padded_inj {a b : Address} (h : a.padded = b.padded) : a = b := by
  obtain ⟨text, htext, ha⟩ := a.exists_spells_padded
  obtain ⟨text', htext', hb⟩ := b.exists_spells_padded
  rw [h, htext'] at htext
  obtain rfl : text' = text := by simpa using htext
  exact toNat_inj (ha.unique hb)

/-- No equals sign stands in the long text of an address. -/
theorem Address.equals_notMem_padded (a : Address) : '=' ∉ a.padded.toList := by
  obtain ⟨text, htext, hspells⟩ := a.exists_spells_padded
  rw [htext]
  simpa using not_mem_of_spells hspells (m := '=') (by decide)

/-! ## Canonical expressions -/

/-- Different values have different texts: the letter of a reference stands in no number. -/
theorem EntryValue.text_inj {v w : EntryValue} (h : v.text = w.text) : v = w := by
  have hletter (i : Int) : 'R' ∉ (signed i).toList := not_mem_signed i (by decide) (by decide)
  have href (id : RefId) : 'R' ∈ id.text.toList := by simp [RefId.text]
  cases v with
  | literal v =>
    cases w with
    | literal w => rw [Int64.toInt_inj.mp (signed_inj h)]
    | reference id =>
      exact absurd (h ▸ href id : 'R' ∈ (literal v).text.toList) (hletter v.toInt)
  | reference id =>
    cases w with
    | literal w =>
      exact absurd (h ▸ href id : 'R' ∈ (literal w).text.toList) (hletter w.toInt)
    | reference id' => rw [RefId.text_inj h]

namespace Entry

/-- The parts of the canonical expression of an entry. -/
def parts (e : Entry) : Expression where
  offsetMarks := if e.isOffset then 1 else 0
  pointerMarks := e.pointerLevels
  typeLetter := if e.type = default then none else some e.type.letter
  address := e.address.hex.toList
  value := e.value.map fun v => v.text.toList

theorem prefixText_parts (e : Entry) :
    prefixText e.parts.typeLetter = if e.type = default then [] else [e.type.letter, ':'] := by
  show prefixText (if e.type = default then none else some e.type.letter) = _
  split <;> rfl

theorem suffixText_parts (e : Entry) : suffixText e.parts.value = e.valueSuffix.toList := by
  unfold parts valueSuffix
  cases e.value with
  | none => rfl
  | some v => simp [suffixText]

theorem text_parts (e : Entry) : e.parts.text = e.text.toList := by
  rw [text_of_offsetMarks e.isOffset rfl, prefixText_parts, suffixText_parts]
  simp [text, marks, parts]

/-- The canonical expression is cut into its parts. -/
theorem ofChars_text (e : Entry) : ofChars e.text.toList = e.parts := by
  rw [← text_parts]
  apply Expression.ofChars_text e.address.spells_hex
  intro c hc
  have hletter : c = e.type.letter := by
    unfold parts at hc
    split at hc <;> simp_all
  exact letter_spec (Or.inl hletter)

theorem type_parts (e : Entry) : e.parts.type = .ok e.type := by
  rw [type_eq_ok_iff, prefixText_parts]
  exact prefixDenotes_letter e.type

theorem entryAddress_parts (e : Entry) : e.parts.entryAddress = .ok e.address :=
  entryAddress_eq_ok_iff.mpr e.address.spells_hex

/-- Different entries have different parts. -/
theorem parts_inj {e f : Entry} (h : e.parts = f.parts) : e = f := by
  have hoffset : e.isOffset = f.isOffset := by
    have hmarks : (if e.isOffset then 1 else 0) = if f.isOffset then 1 else 0 :=
      congrArg Expression.offsetMarks h
    cases he : e.isOffset <;> cases hf : f.isOffset <;> simp [he, hf] at hmarks ⊢
  have hlevels : e.pointerLevels = f.pointerLevels := congrArg Expression.pointerMarks h
  have htype : e.type = f.type := Except.ok.inj (by rw [← type_parts, h, type_parts])
  have haddress : e.address = f.address :=
    Except.ok.inj (by rw [← entryAddress_parts, h, entryAddress_parts])
  have hvalue : e.value = f.value := by
    refine Option.map_injective (fun v w hvw => ?_) (congrArg Expression.value h)
    exact EntryValue.text_inj (String.toList_inj.mp hvw)
  exact (mk.injEq ..).mpr ⟨hoffset, hlevels, htype, haddress, hvalue⟩

/-- **Canonical expressions.**  Different entries have different canonical expressions, whatever
entries they reference. -/
theorem text_inj {e f : Entry} (h : e.text = f.text) : e = f := by
  apply parts_inj
  rw [← ofChars_text, h, ofChars_text]

end Entry

/-! ## Cutting a line -/

/-- A text is cut in one way only at the first place where a mark stands. -/
theorem append_mark_inj {mark : Char} {sep front front' back back' : String}
    (hsep : sep.toList = [mark]) (hfront : mark ∉ front.toList) (hfront' : mark ∉ front'.toList) :
    front ++ (sep ++ back) = front' ++ (sep ++ back') ↔ front = front' ∧ back = back' := by
  constructor
  · intro h
    have hchars := congrArg String.toList h
    simp only [String.toList_append, hsep, List.singleton_append] at hchars
    -- the first place of the mark tells the length of what stands in front of it
    have hplace := congrArg (List.idxOf mark) hchars
    rw [List.idxOf_append_of_notMem hfront, List.idxOf_append_of_notMem hfront',
      List.idxOf_cons_self, List.idxOf_cons_self] at hplace
    obtain ⟨hf, hb⟩ := List.append_inj hchars hplace
    exact ⟨String.toList_inj.mp hf, String.toList_inj.mp (List.cons_inj_right mark |>.mp hb)⟩
  · rintro ⟨rfl, rfl⟩
    rfl

namespace Reading

/-- What the line of a reading says behind the id. -/
def finding (r : Reading) : String :=
  match r.result with
  | .ok (a, v) => a.padded ++ ("=" ++ signed v.toInt)
  | .error _ => r.entry.text ++ "=??"

/-- A line is an id, a blank and what was found. -/
theorem line_eq (r : Reading) : r.line = r.id.text ++ (" " ++ r.finding) := by
  unfold line finding
  rcases r.result with e | ⟨a, v⟩ <;> simp only [String.append_assoc]

theorem line_inj {r r' : Reading} :
    r.line = r'.line ↔ r.id = r'.id ∧ r.finding = r'.finding := by
  rw [line_eq, line_eq,
    append_mark_inj (by decide) r.id.blank_notMem_text r'.id.blank_notMem_text]
  exact and_congr_left' ⟨RefId.text_inj, congrArg RefId.text⟩

/-- A reading failed exactly if its line ends in two question marks behind an equals sign. -/
theorem exists_error_iff (r : Reading) :
    (∃ e, r.result = .error e) ↔ ∃ front, r.line = front ++ "=??" := by
  unfold line
  cases r.result with
  | error e =>
    constructor
    · intro _
      exact ⟨r.id.text ++ " " ++ r.entry.text, rfl⟩
    · intro _
      exact ⟨e, rfl⟩
  | ok found =>
    obtain ⟨a, v⟩ := found
    constructor
    · rintro ⟨e, h⟩
      exact absurd h nofun
    · rintro ⟨front, h⟩
      -- the line ends as the number does, and no question mark stands in that
      have hlast := congrArg (fun line => line.toList.getLast?) h
      simp only [String.toList_append] at hlast
      rw [List.getLast?_append_of_ne_nil _ (toList_signed_ne_nil _),
        List.getLast?_append_of_ne_nil _ (by decide)] at hlast
      exact absurd (List.mem_of_getLast? hlast) (not_mem_signed _ (by decide) (by decide))

variable {r r' : Reading}

/-- Lines of readings that found something. -/
theorem finding_eq_iff_of_ok {a a' : Address} {v v' : Int64} (h : r.result = .ok (a, v))
    (h' : r'.result = .ok (a', v')) : r.finding = r'.finding ↔ a = a' ∧ v = v' := by
  unfold finding
  rw [h, h']
  simp only
  rw [append_mark_inj (by decide) a.equals_notMem_padded a'.equals_notMem_padded]
  constructor
  · rintro ⟨ha, hv⟩
    exact ⟨Address.padded_inj ha, Int64.toInt_inj.mp (signed_inj hv)⟩
  · rintro ⟨rfl, rfl⟩
    exact ⟨rfl, rfl⟩

/-- Lines of readings that failed. -/
theorem finding_eq_iff_of_error {e e' : Error} (h : r.result = .error e)
    (h' : r'.result = .error e') : r.finding = r'.finding ↔ r.entry = r'.entry := by
  unfold finding
  rw [h, h']
  simp only
  rw [String.append_left_inj]
  exact ⟨Entry.text_inj, congrArg Entry.text⟩

/-- A reading that failed has another line than one that found something. -/
theorem line_ne_of_error_of_ok {e : Error} {found : Address × Int64} (h : r.result = .error e)
    (h' : r'.result = .ok found) : r.line ≠ r'.line := by
  intro hline
  have hmarks := r.exists_error_iff.mp ⟨e, h⟩
  rw [hline] at hmarks
  obtain ⟨e', he'⟩ := r'.exists_error_iff.mpr hmarks
  rw [h'] at he'
  exact absurd he' nofun

/-- **Lines tell readings apart.**  The lines of two readings are equal exactly if their ids are and
either both found the same value at the same address, or both failed for equal entries.  No reading
that failed has the line of one that did not, whatever the value of its entry looks like. -/
theorem lines_tell_apart (r r' : Reading) :
    (r.line = r'.line ↔ r.id = r'.id ∧
      ((∃ a v, r.result = .ok (a, v) ∧ r'.result = .ok (a, v)) ∨
        (∃ e e', r.result = .error e ∧ r'.result = .error e') ∧ r.entry = r'.entry)) ∧
    ((∃ e, r.result = .error e) → (∃ a v, r'.result = .ok (a, v)) → r.line ≠ r'.line) := by
  refine ⟨⟨?_, ?_⟩, ?_⟩
  · intro hline
    obtain ⟨hid, hfinding⟩ := line_inj.mp hline
    refine ⟨hid, ?_⟩
    cases h : r.result with
    | ok found =>
      cases h' : r'.result with
      | ok found' =>
        rcases found, found' with ⟨⟨a, v⟩, ⟨a', v'⟩⟩
        obtain ⟨rfl, rfl⟩ := (finding_eq_iff_of_ok h h').mp hfinding
        exact Or.inl ⟨_, _, rfl, rfl⟩
      | error e' => exact absurd hline.symm (line_ne_of_error_of_ok h' h)
    | error e =>
      cases h' : r'.result with
      | ok found' => exact absurd hline (line_ne_of_error_of_ok h h')
      | error e' =>
        exact Or.inr ⟨⟨e, e', rfl, rfl⟩, (finding_eq_iff_of_error h h').mp hfinding⟩
  · rintro ⟨hid, ⟨a, v, h, h'⟩ | ⟨⟨e, e', h, h'⟩, hentry⟩⟩
    · exact line_inj.mpr ⟨hid, (finding_eq_iff_of_ok h h').mpr ⟨rfl, rfl⟩⟩
    · exact line_inj.mpr ⟨hid, (finding_eq_iff_of_error h h').mpr hentry⟩
  · rintro ⟨e, h⟩ ⟨a, v, h'⟩
    exact line_ne_of_error_of_ok h h'

end Reading

end MemWatch
