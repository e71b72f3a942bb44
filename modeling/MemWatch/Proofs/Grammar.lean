/-
# The grammar of address expressions

Which texts are address expressions, and which entry each of them denotes, said without the
reader.  The reader cuts a text into parts and checks the parts; cutting loses nothing, so the
reader and the grammar can be compared part by part.

Main statement: a text is read as an entry exactly if the grammar says that it denotes that entry.
-/
import MemWatch.Entry.Parser
import MemWatch.Proofs.Numeral

namespace MemWatch.Expression

open Numeral

/-! ## The grammar -/

/-- A type prefix: nothing, which stands for the default type, or the letter of the type in either
case and a colon. -/
inductive PrefixDenotes : List Char → ValueType → Prop where
  | empty : PrefixDenotes [] .i32
  | letter {c : Char} {t : ValueType} (hc : c = t.letter ∨ c = t.letter.toLower) :
      PrefixDenotes [c, ':'] t

/-- A value: any number of minus signs, and then a decimal number, a hexadecimal number behind
`0x`, or the number of an entry behind `R`. -/
inductive ValueDenotes : List Char → EntryValue → Prop where
  /-- A signed number of 64 bits. -/
  | decimal (signs : Nat) {digits : List Char} {n : Nat} {v : Int64} (hdigits : Spells 10 digits n)
      (hfit : n ≤ 2 ^ 63 - 1 ∨ n = 2 ^ 63 ∧ 1 ≤ signs)
      (hv : v.toInt = if 1 ≤ signs then -(n : Int) else n) :
      ValueDenotes (List.replicate signs '-' ++ digits) (.literal v)
  /-- Any 64 bits, taken as a signed number and then negated with wrap-around. -/
  | hexadecimal (signs : Nat) {x : Char} {digits : List Char} {n : Nat} (hx : x = 'x' ∨ x = 'X')
      (hdigits : Spells 16 digits n) (hfit : n < 2 ^ 64) :
      ValueDenotes (List.replicate signs '-' ++ '0' :: x :: digits)
        (.literal (if 1 ≤ signs then -(UInt64.ofNat n).toInt64 else (UInt64.ofNat n).toInt64))
  /-- The signs mean nothing. -/
  | reference (signs : Nat) {r : Char} {digits : List Char} {id : RefId} (hr : r = 'R' ∨ r = 'r')
      (hdigits : Spells 10 digits id.val) (hfit : id.val < 2 ^ 64) :
      ValueDenotes (List.replicate signs '-' ++ r :: digits) (.reference id)

/-- The part behind the address: nothing, or `=` and a value. -/
inductive SuffixDenotes : List Char → Option EntryValue → Prop where
  | empty : SuffixDenotes [] none
  | value {text : List Char} {v : EntryValue} (hv : ValueDenotes text v) :
      SuffixDenotes ('=' :: text) (some v)

/-- The text is an address expression for the entry: an optional `+`, as many `#` as there are
pointer levels, the type prefix, the address in hexadecimal, and the value. -/
def Denotes (text : List Char) (e : Entry) : Prop :=
  ∃ typePart addressPart valuePart,
    text = (if e.isOffset then ['+'] else []) ++ List.replicate e.pointerLevels '#' ++ typePart ++
      addressPart ++ valuePart ∧
    PrefixDenotes typePart e.type ∧ Spells 16 addressPart e.address.toNat ∧
    SuffixDenotes valuePart e.value

/-! ## Leading characters -/

/-- A run of a character is counted up to where it ends. -/
theorem countLeading_replicate_append {c : Char} (n : Nat) {rest : List Char}
    (h : rest.head? ≠ some c) : countLeading c (List.replicate n c ++ rest) = (n, rest) := by
  induction n with
  | zero =>
    cases rest with
    | nil => rfl
    | cons d rest =>
      have hd : d ≠ c := by simpa using h
      simp [countLeading, hd]
  | succ n ih => simp [List.replicate_succ, countLeading, ih]

/-- Counting cuts a text into a run of the character and the rest, which starts otherwise. -/
theorem replicate_append_countLeading (c : Char) (text : List Char) :
    List.replicate (countLeading c text).1 c ++ (countLeading c text).2 = text ∧
      (countLeading c text).2.head? ≠ some c := by
  induction text with
  | nil => simp [countLeading]
  | cons d rest ih =>
    by_cases hd : d = c
    · subst hd
      simpa [countLeading, List.replicate_succ] using ih
    · simp [countLeading, hd]

/-! ## The parts of a text -/

/-- The text of a type prefix. -/
def prefixText : Option Char → List Char
  | some c => [c, ':']
  | none => []

/-- The text of the part behind the address. -/
def suffixText : Option (List Char) → List Char
  | some text => '=' :: text
  | none => []

/-- The text that was cut into the parts. -/
def text (x : Expression) : List Char :=
  List.replicate x.offsetMarks '+' ++ (List.replicate x.pointerMarks '#' ++
    (prefixText x.typeLetter ++ (x.address ++ suffixText x.value)))

/-- Splitting the type prefix off loses nothing. -/
theorem prefixText_splitType (text : List Char) :
    prefixText (splitType text).1 ++ (splitType text).2 = text := by
  unfold splitType
  split
  · split <;> rfl
  · rfl

/-- Splitting the value off loses nothing. -/
theorem append_suffixText_splitValue (text : List Char) :
    (splitValue text).1 ++ suffixText (splitValue text).2 = text := by
  induction text with
  | nil => rfl
  | cons c rest ih =>
    by_cases hc : c = '='
    · simp [splitValue, hc, suffixText]
    · simpa [splitValue, hc] using ih

/-- The address ends at the first `=`. -/
theorem splitValue_append {address : List Char} (h : '=' ∉ address) (value : Option (List Char)) :
    splitValue (address ++ suffixText value) = (address, value) := by
  induction address with
  | nil => cases value <;> simp [suffixText, splitValue]
  | cons c address ih =>
    simp only [List.mem_cons, not_or] at h
    have hc : c ≠ '=' := Ne.symm h.1
    simp [splitValue, hc, ih h.2]

/-- **Cutting loses nothing.**  The parts of a text make up the text. -/
theorem text_ofChars (t : List Char) : (ofChars t).text = t := by
  simp only [text, ofChars]
  rw [append_suffixText_splitValue, prefixText_splitType,
    (replicate_append_countLeading '#' _).1, (replicate_append_countLeading '+' _).1]

/-! ## Letters and digits -/

/-- Digits are letters or figures, so no mark of the grammar is one. -/
theorem isAlphanum_of_isDigit {b d : Nat} {c : Char} (h : IsDigit b c d) : c.isAlphanum = true := by
  have hlt : d < 16 := by
    rcases h.2 with h | h <;> exact (List.getElem?_eq_some_iff.mp h).1
  rcases h with ⟨-, h | h⟩
  all_goals
    interval_cases d <;> · simp at h; subst h; decide

/-- The letters of the types, in either case. -/
theorem ofLetter?_eq_some_iff {c : Char} {t : ValueType} :
    ValueType.ofLetter? c = some t ↔ c = t.letter ∨ c = t.letter.toLower := by
  unfold ValueType.ofLetter?
  constructor
  · intro h
    repeat' split at h
    all_goals simp at h
    all_goals subst h; assumption
  · rintro (rfl | rfl) <;> cases t <;> decide

/-- The letter of a type takes up one byte and is no colon. -/
theorem letter_spec {c : Char} {t : ValueType} (h : c = t.letter ∨ c = t.letter.toLower) :
    c.isAlphanum = true ∧ c.utf8Size = 1 := by
  rcases h with rfl | rfl <;> cases t <;> decide

/-- A text that starts with a letter or figure starts with no mark. -/
theorem head?_ne_of_isAlphanum {c m : Char} {rest : List Char} (hc : c.isAlphanum = true)
    (hm : m.isAlphanum = false) : (c :: rest).head? ≠ some m := by
  rintro h
  obtain rfl : c = m := by simpa using h
  rw [hc] at hm
  exact absurd hm (by simp)

/-- A numeral starts with a letter or figure. -/
theorem exists_cons_of_spells {b n : Nat} {text : List Char} (h : Spells b text n) :
    ∃ c rest, text = c :: rest ∧ c.isAlphanum = true := by
  cases text with
  | nil => exact absurd rfl h.1
  | cons c rest =>
    obtain ⟨d, hd⟩ := h.isDigit_of_mem List.mem_cons_self
    exact ⟨c, rest, rfl, isAlphanum_of_isDigit hd⟩

/-- What is no letter and no figure stands in no numeral. -/
theorem not_mem_of_spells {b n : Nat} {m : Char} {text : List Char} (h : Spells b text n)
    (hm : m.isAlphanum = false) : m ∉ text := by
  intro hmem
  obtain ⟨d, hd⟩ := h.isDigit_of_mem hmem
  rw [isAlphanum_of_isDigit hd] at hm
  exact absurd hm (by simp)

/-- An address without a type prefix is not taken for one: no colon follows its first digit. -/
theorem splitType_address {address : List Char} {n : Nat} (h : Spells 16 address n)
    (value : Option (List Char)) :
    splitType (address ++ suffixText value) = (none, address ++ suffixText value) := by
  have hcolon : ':' ∉ address := not_mem_of_spells h (by decide)
  obtain ⟨c, rest, rfl, -⟩ := exists_cons_of_spells h
  unfold splitType
  split
  · rename_i d tail heq
    exfalso
    cases rest with
    | nil => cases value <;> simp [suffixText] at heq
    | cons d' rest =>
      obtain ⟨-, rfl, -⟩ : c = d ∧ d' = ':' ∧ _ := by simpa using heq
      simp at hcolon
  · rfl

/-- A type letter and a colon are split off. -/
theorem splitType_prefix {c : Char} (hc : c.isAlphanum = true ∧ c.utf8Size = 1)
    (rest : List Char) : splitType (c :: ':' :: rest) = (some c, rest) := by
  have hcolon : c ≠ ':' := by
    rintro rfl
    exact absurd hc.1 (by decide)
  simp [splitType, hcolon, hc.2]

/-- **Parts are found again.**  A text that is made up of an address in hexadecimal and of a type
letter, if it has one, is cut into the parts that it was made of. -/
theorem ofChars_text {x : Expression} {n : Nat} (haddress : Spells 16 x.address n)
    (hletter : ∀ c, x.typeLetter = some c → c.isAlphanum = true ∧ c.utf8Size = 1) :
    ofChars x.text = x := by
  obtain ⟨offsetMarks, pointerMarks, typeLetter, address, value⟩ := x
  simp only at haddress hletter
  -- a letter or figure follows the marks, so counting them stops there
  have hstart : ∃ c rest, prefixText typeLetter ++ (address ++ suffixText value) = c :: rest ∧
      c.isAlphanum = true := by
    cases typeLetter with
    | none =>
      obtain ⟨c, rest, rfl, hc⟩ := exists_cons_of_spells haddress
      exact ⟨c, rest ++ suffixText value, rfl, hc⟩
    | some c => exact ⟨c, _, rfl, (hletter c rfl).1⟩
  have hsplit : splitType (prefixText typeLetter ++ (address ++ suffixText value)) =
      (typeLetter, address ++ suffixText value) := by
    cases typeLetter with
    | none => exact splitType_address haddress value
    | some c => exact splitType_prefix (hletter c rfl) _
  have hvalue : splitValue (address ++ suffixText value) = (address, value) :=
    splitValue_append (not_mem_of_spells haddress (by decide)) value
  obtain ⟨c, rest, hcons, hc⟩ := hstart
  have hpointers : (prefixText typeLetter ++ (address ++ suffixText value)).head? ≠ some '#' := by
    rw [hcons]
    exact head?_ne_of_isAlphanum hc (by decide)
  have hoffset : (List.replicate pointerMarks '#' ++
      (prefixText typeLetter ++ (address ++ suffixText value))).head? ≠ some '+' := by
    cases pointerMarks with
    | zero =>
      rw [List.replicate_zero, List.nil_append, hcons]
      exact head?_ne_of_isAlphanum hc (by decide)
    | succ k => simp [List.replicate_succ]
  simp only [text, ofChars, countLeading_replicate_append offsetMarks hoffset,
    countLeading_replicate_append pointerMarks hpointers, hsplit, hvalue]

/-! ## Values -/

/-- A decimal number that fits, as a signed number. -/
theorem ofInt_eq_iff {negative : Bool} {n : Nat} {v : Int64}
    (hfit : n < 2 ^ 63 + if negative then 1 else 0) :
    Int64.ofInt (if negative then -(n : Int) else n) = v ↔
      v.toInt = if negative then -(n : Int) else n := by
  have hrange : (Int64.ofInt (if negative then -(n : Int) else n)).toInt =
      if negative then -(n : Int) else n := by
    apply Int64.toInt_ofInt_of_le <;> cases negative <;> simp_all <;> omega
  constructor
  · rintro rfl
    exact hrange
  · intro hv
    exact Int64.toInt_inj.mp (hrange.trans hv.symm)

/-- Which texts are decimal numbers. -/
theorem decimal_eq_some_iff {negative : Bool} {text : List Char} {v : Int64} :
    ((valueBelow? 10 (UInt64.size / 2 + if negative then 1 else 0) text).map fun (n : Nat) =>
      Int64.ofInt (if negative then -(n : Int) else n)) = some v ↔
    ∃ n, Spells 10 text n ∧ (n ≤ 2 ^ 63 - 1 ∨ n = 2 ^ 63 ∧ negative = true) ∧
      v.toInt = if negative then -(n : Int) else n := by
  have hsize : UInt64.size / 2 = 2 ^ 63 := by decide
  rw [Option.map_eq_some_iff, hsize]
  constructor
  · rintro ⟨n, hn, hv⟩
    obtain ⟨hspell, hfit⟩ := valueBelow?_eq_some_iff.mp hn
    refine ⟨n, hspell, ?_, (ofInt_eq_iff hfit).mp hv⟩
    cases negative <;> simp_all <;> omega
  · rintro ⟨n, hspell, hfit, hv⟩
    have hlt : n < 2 ^ 63 + if negative then 1 else 0 := by
      cases negative <;> simp_all <;> omega
    exact ⟨n, valueBelow?_eq_some_iff.mpr ⟨hspell, hlt⟩, (ofInt_eq_iff hlt).mpr hv⟩

/-- Which texts are hexadecimal numbers. -/
theorem hexLiteral_eq_some_iff {negative : Bool} {text : List Char} {v : Int64} :
    literal?.hexLiteral negative text = some v ↔
    ∃ n, Spells 16 text n ∧ n < 2 ^ 64 ∧
      v = if negative then -(UInt64.ofNat n).toInt64 else (UInt64.ofNat n).toInt64 := by
  have hof : ∀ n : Nat, Int64.ofInt (if negative then -(n : Int) else n) =
      if negative then -(UInt64.ofNat n).toInt64 else (UInt64.ofNat n).toInt64 := by
    intro n
    cases negative with
    | false => simp [Int64.ofInt_eq_ofNat]
    | true => simp [Int64.ofInt_neg, Int64.ofInt_eq_ofNat]
  have hsize : UInt64.size = 2 ^ 64 := rfl
  simp only [literal?.hexLiteral, Option.map_eq_some_iff, valueBelow?_eq_some_iff, hof, hsize,
    and_assoc, eq_comm (b := v)]

/-- The base marker of a hexadecimal number is no decimal number. -/
theorem not_spells_marker {x : Char} {rest : List Char} {n : Nat} (hx : x = 'x' ∨ x = 'X') :
    ¬ Spells 10 ('0' :: x :: rest) n := by
  intro h
  have hdigit := h.digit?_ne_none (c := x) (by simp)
  rcases hx with rfl | rfl <;> exact hdigit (by decide)

/-- A text is a number: a decimal one, or one behind the hexadecimal base marker. -/
def IsLiteral (negative : Bool) (text : List Char) (v : Int64) : Prop :=
  (∃ n, Spells 10 text n ∧ (n ≤ 2 ^ 63 - 1 ∨ n = 2 ^ 63 ∧ negative = true) ∧
    v.toInt = if negative then -(n : Int) else n) ∨
  ∃ x digits n, text = '0' :: x :: digits ∧ (x = 'x' ∨ x = 'X') ∧ Spells 16 digits n ∧
    n < 2 ^ 64 ∧ v = if negative then -(UInt64.ofNat n).toInt64 else (UInt64.ofNat n).toInt64

/-- Behind the base marker a text is a hexadecimal number or none. -/
theorem isLiteral_marker_iff {negative : Bool} {x : Char} {rest : List Char} {v : Int64}
    (hx : x = 'x' ∨ x = 'X') :
    IsLiteral negative ('0' :: x :: rest) v ↔ literal?.hexLiteral negative rest = some v := by
  rw [hexLiteral_eq_some_iff]
  constructor
  · rintro (⟨n, hspell, -⟩ | ⟨x', digits, n, heq, -, hspell, hfit, hv⟩)
    · exact absurd hspell (not_spells_marker hx)
    · obtain ⟨-, rfl⟩ : x = x' ∧ rest = digits := by simpa using heq
      exact ⟨n, hspell, hfit, hv⟩
  · rintro ⟨n, hspell, hfit, hv⟩
    exact Or.inr ⟨x, rest, n, rfl, hx, hspell, hfit, hv⟩

/-- Which texts are numbers. -/
theorem literal?_eq_some_iff {negative : Bool} {text : List Char} {v : Int64} :
    literal? negative text = some v ↔ IsLiteral negative text v := by
  unfold literal?
  split
  · exact (isLiteral_marker_iff (Or.inl rfl)).symm
  · exact (isLiteral_marker_iff (Or.inr rfl)).symm
  · rename_i hlower hupper
    rw [decimal_eq_some_iff]
    constructor
    · exact Or.inl
    · rintro (h | ⟨x, digits, n, heq, rfl | rfl, -⟩)
      · exact h
      · exact absurd heq (hlower digits)
      · exact absurd heq (hupper digits)

/-- Signs are dropped up to the first character that is none. -/
theorem exists_replicate_append_dropSigns (text : List Char) :
    ∃ signs, text = List.replicate signs '-' ++ dropSigns text ∧
      (text.head? == some '-') = decide (1 ≤ signs) := by
  induction text with
  | nil => exact ⟨0, by simp [dropSigns]⟩
  | cons c rest ih =>
    by_cases hc : c = '-'
    · subst hc
      obtain ⟨signs, htext, -⟩ := ih
      have hdrop : dropSigns ('-' :: rest) = dropSigns rest := by simp [dropSigns]
      refine ⟨signs + 1, ?_, by simp⟩
      rw [hdrop, List.replicate_succ, List.cons_append, ← htext]
    · have hdrop : dropSigns (c :: rest) = c :: rest := by simp [dropSigns, hc]
      exact ⟨0, by simp [hdrop, hc]⟩

/-- Signs in front of a text that starts otherwise are dropped. -/
theorem dropSigns_replicate_append (signs : Nat) {text : List Char}
    (h : text.head? ≠ some '-') : dropSigns (List.replicate signs '-' ++ text) = text := by
  induction signs with
  | zero =>
    cases text with
    | nil => rfl
    | cons c rest =>
      have hc : c ≠ '-' := by simpa using h
      simp [dropSigns, hc]
  | succ n ih => simpa [dropSigns, List.replicate_succ] using ih

/-- The signs tell whether a number is negative. -/
theorem head?_replicate_append (signs : Nat) {text : List Char} (h : text.head? ≠ some '-') :
    ((List.replicate signs '-' ++ text).head? == some '-') = decide (1 ≤ signs) := by
  cases signs with
  | zero => simpa using h
  | succ n => simp [List.replicate_succ]

/-- Which digits spell the id of an entry. -/
theorem referenceId?_eq_some_iff {digits : List Char} {id : RefId} :
    referenceId? digits = some id ↔ Spells 10 digits id.val ∧ id.val < 2 ^ 64 := by
  have hsize : UInt64.size = 2 ^ 64 := rfl
  simp only [referenceId?, Option.bind_eq_some_iff, valueBelow?_eq_some_iff, hsize, RefId.ofNat?]
  constructor
  · rintro ⟨n, h, hid⟩
    split at hid
    · obtain rfl := Option.some.inj hid
      exact h
    · simp at hid
  · intro h
    exact ⟨id.val, h, dif_pos id.pos⟩

/-- The letter of a reference starts no number. -/
theorem literal?_reference (negative : Bool) {r : Char} (hr : r = 'R' ∨ r = 'r')
    (digits : List Char) : literal? negative (r :: digits) = none := by
  rw [Option.eq_none_iff_forall_ne_some]
  intro v hv
  rcases literal?_eq_some_iff.mp hv with ⟨n, hspell, -⟩ | ⟨x, rest, n, heq, -⟩
  · have hdigit := hspell.digit?_ne_none List.mem_cons_self
    rcases hr with rfl | rfl <;> exact hdigit (by decide)
  · rcases hr with rfl | rfl <;> simp at heq

/-- What is read behind `=` is a value that the text denotes. -/
theorem valueDenotes_of_ofChars {text : List Char} {v : EntryValue}
    (h : EntryValue.ofChars text = .ok v) : ValueDenotes text v := by
  obtain ⟨signs, htext, hsign⟩ := exists_replicate_append_dropSigns text
  rw [EntryValue.ofChars, hsign] at h
  rw [htext]
  generalize dropSigns text = body at h
  cases hlit : literal? (decide (1 ≤ signs)) body with
  | some w =>
    simp only [hlit, Except.ok.injEq] at h
    subst h
    rcases literal?_eq_some_iff.mp hlit with
      ⟨n, hspell, hfit, hv⟩ | ⟨x, digits, n, rfl, hx, hspell, hfit, rfl⟩
    · exact .decimal signs hspell (by simpa using hfit) (by simpa using hv)
    · simpa using ValueDenotes.hexadecimal signs hx hspell hfit
  | none =>
    -- what is no number has to be a reference; all other branches fail
    simp only [hlit] at h
    split at h
    · rename_i c digits
      split at h
      · rename_i hr
        split at h
        · rename_i id hid
          obtain rfl := Except.ok.inj h
          obtain ⟨hspell, hfit⟩ := referenceId?_eq_some_iff.mp hid
          exact .reference signs hr hspell hfit
        · simp at h
      · simp at h
    · simp at h

/-- The value that a text denotes is read behind `=`. -/
theorem ValueDenotes.ofChars {text : List Char} {v : EntryValue} (h : ValueDenotes text v) :
    EntryValue.ofChars text = .ok v := by
  -- in every case the signs are dropped up to the part that starts otherwise
  cases h with
  | @decimal signs digits n v hspell hfit hv =>
    obtain ⟨c, rest, hcons, hc⟩ := exists_cons_of_spells hspell
    have hhead : digits.head? ≠ some '-' := by
      rw [hcons]
      exact head?_ne_of_isAlphanum hc (by decide)
    have hlit : literal? (decide (1 ≤ signs)) digits = some v :=
      literal?_eq_some_iff.mpr (Or.inl ⟨n, hspell, by simpa using hfit, by simpa using hv⟩)
    simp only [EntryValue.ofChars, dropSigns_replicate_append signs hhead,
      head?_replicate_append signs hhead, hlit]
  | @hexadecimal signs x digits n hx hspell hfit =>
    have hhead : ('0' :: x :: digits).head? ≠ some '-' := by simp
    have hlit : literal? (decide (1 ≤ signs)) ('0' :: x :: digits) = some _ :=
      literal?_eq_some_iff.mpr (Or.inr ⟨x, digits, n, rfl, hx, hspell, hfit, rfl⟩)
    simp only [EntryValue.ofChars, dropSigns_replicate_append signs hhead,
      head?_replicate_append signs hhead, hlit]
    simp
  | @reference signs r digits id hr hspell hfit =>
    have hhead : (r :: digits).head? ≠ some '-' := by
      rcases hr with rfl | rfl <;> simp
    simp only [EntryValue.ofChars, dropSigns_replicate_append signs hhead,
      head?_replicate_append signs hhead, literal?_reference _ hr, if_pos hr,
      referenceId?_eq_some_iff.mpr ⟨hspell, hfit⟩]

/-- **Values.**  A text behind `=` is read as the value that it denotes. -/
theorem ofChars_value_eq_ok_iff {text : List Char} {v : EntryValue} :
    EntryValue.ofChars text = .ok v ↔ ValueDenotes text v :=
  ⟨valueDenotes_of_ofChars, ValueDenotes.ofChars⟩

/-! ## Entries -/

/-- The type that is named is the one that the prefix denotes. -/
theorem type_eq_ok_iff {x : Expression} {t : ValueType} :
    x.type = .ok t ↔ PrefixDenotes (prefixText x.typeLetter) t := by
  unfold type
  constructor
  · intro h
    split at h
    · rename_i hnone
      obtain rfl := Except.ok.inj h
      rw [hnone]
      exact .empty
    · rename_i c hsome
      rw [hsome]
      split at h
      · rename_i t' ht
        obtain rfl := Except.ok.inj h
        exact .letter (ofLetter?_eq_some_iff.mp ht)
      · simp at h
  · intro h
    cases hletter : x.typeLetter with
    | none =>
      rw [hletter] at h
      cases h
      rfl
    | some c =>
      rw [hletter] at h
      cases h with
      | letter hc => simp only [ofLetter?_eq_some_iff.mpr hc]

/-- The value to write is the one that the part behind the address denotes. -/
theorem entryValue_eq_ok_iff {x : Expression} {v : Option EntryValue} :
    x.entryValue = .ok v ↔ SuffixDenotes (suffixText x.value) v := by
  unfold entryValue
  constructor
  · intro h
    split at h
    · rename_i hnone
      obtain rfl := Except.ok.inj h
      rw [hnone]
      exact .empty
    · rename_i text hsome
      rw [hsome]
      split at h
      · rename_i w hw
        obtain rfl := Except.ok.inj h
        exact .value (ofChars_value_eq_ok_iff.mp hw)
      · simp at h
  · intro h
    cases hvalue : x.value with
    | none =>
      rw [hvalue] at h
      cases h
      rfl
    | some text =>
      rw [hvalue] at h
      cases h with
      | value hv => simp only [ofChars_value_eq_ok_iff.mpr hv]

/-- The address is the number that its digits spell. -/
theorem entryAddress_eq_ok_iff {x : Expression} {a : Address} :
    x.entryAddress = .ok a ↔ Spells 16 x.address a.toNat := by
  have hhex : Address.ofHex? x.address = some a ↔ Spells 16 x.address a.toNat := by
    simp only [Address.ofHex?, Option.map_eq_some_iff, valueBelow?_eq_some_iff]
    constructor
    · rintro ⟨n, ⟨hspell, hfit⟩, rfl⟩
      rwa [Address.toNat_ofNat, Nat.mod_eq_of_lt hfit]
    · intro hspell
      exact ⟨a.toNat, ⟨hspell, a.toNat_lt⟩, Address.ofNat_toNat a⟩
  rw [← hhex, entryAddress]
  cases Address.ofHex? x.address <;> simp

/-- **Checking.**  The parts are an entry exactly if each of them denotes its part of the entry. -/
theorem entry_eq_ok_iff {x : Expression} {e : Entry} :
    x.entry = .ok e ↔
      x.offsetMarks = (if e.isOffset then 1 else 0) ∧ x.pointerMarks = e.pointerLevels ∧
        x.type = .ok e.type ∧ x.entryAddress = .ok e.address ∧ x.entryValue = .ok e.value := by
  obtain ⟨isOffset, pointerLevels, type, address, value⟩ := e
  unfold entry
  by_cases hmarks : 2 ≤ x.offsetMarks
  · have hne : x.offsetMarks ≠ if isOffset then 1 else 0 := by
      cases isOffset <;> simp <;> omega
    simp [hmarks, hne, bind, Except.bind, throw, throwThe, MonadExceptOf.throw]
  · have hoffset : (x.offsetMarks == 1) = isOffset ↔
        x.offsetMarks = if isOffset then 1 else 0 := by
      cases isOffset with
      | true => simp
      | false =>
        simp
        omega
    cases x.type <;> cases x.entryValue <;> cases x.entryAddress <;>
      simp [hmarks, hoffset, bind, Except.bind, pure, Except.pure]

/-- A type prefix is made up of a type letter, if it is not empty. -/
theorem PrefixDenotes.exists_letter {typePart : List Char} {t : ValueType}
    (h : PrefixDenotes typePart t) : ∃ letter, typePart = prefixText letter ∧
      ∀ c, letter = some c → c.isAlphanum = true ∧ c.utf8Size = 1 := by
  cases h with
  | empty => exact ⟨none, rfl, by simp⟩
  | @letter c t hc =>
    refine ⟨some c, rfl, fun d hd => ?_⟩
    obtain rfl := Option.some.inj hd
    exact letter_spec hc

/-- The part behind the address is made up of a text behind `=`, if it is not empty. -/
theorem SuffixDenotes.exists_text {valuePart : List Char} {v : Option EntryValue}
    (h : SuffixDenotes valuePart v) : ∃ value, valuePart = suffixText value := by
  cases h with
  | empty => exact ⟨none, rfl⟩
  | @value text v _ => exact ⟨some text, rfl⟩

/-- The text of the parts of an entry. -/
theorem text_of_offsetMarks {x : Expression} (isOffset : Bool)
    (h : x.offsetMarks = if isOffset then 1 else 0) :
    x.text = (if isOffset then ['+'] else []) ++ List.replicate x.pointerMarks '#' ++
      prefixText x.typeLetter ++ x.address ++ suffixText x.value := by
  rw [text, h]
  cases isOffset <;> simp

/-- A text whose parts are an entry denotes the entry. -/
theorem denotes_of_entry_ofChars {t : List Char} {e : Entry} (h : (ofChars t).entry = .ok e) :
    Denotes t e := by
  obtain ⟨hoffset, hlevels, htype, haddress, hvalue⟩ := entry_eq_ok_iff.mp h
  refine ⟨_, _, _, ?_, type_eq_ok_iff.mp htype, entryAddress_eq_ok_iff.mp haddress,
    entryValue_eq_ok_iff.mp hvalue⟩
  rw [← hlevels, ← text_of_offsetMarks _ hoffset, text_ofChars]

/-- A text that denotes an entry is cut into the parts of that entry. -/
theorem Denotes.entry_ofChars {t : List Char} {e : Entry} (h : Denotes t e) :
    (ofChars t).entry = .ok e := by
  obtain ⟨typePart, address, valuePart, rfl, htype, haddress, hvalue⟩ := h
  obtain ⟨letter, rfl, hletter⟩ := htype.exists_letter
  obtain ⟨value, rfl⟩ := hvalue.exists_text
  let x : Expression := ⟨if e.isOffset then 1 else 0, e.pointerLevels, letter, address, value⟩
  have hx : x.entry = .ok e := entry_eq_ok_iff.mpr ⟨rfl, rfl, type_eq_ok_iff.mpr htype,
    entryAddress_eq_ok_iff.mpr haddress, entryValue_eq_ok_iff.mpr hvalue⟩
  have htext := text_of_offsetMarks (x := x) e.isOffset rfl
  rw [← htext, ofChars_text haddress hletter, hx]

/-- **Reading address expressions.**  A text is read as an entry exactly if it denotes that
entry. -/
theorem parse_eq_ok_iff_denotes (t : String) (e : Entry) :
    Entry.parse t = .ok e ↔ Denotes t.toList e :=
  ⟨denotes_of_entry_ofChars, Denotes.entry_ofChars⟩

example : Entry.parse "+##S:402F=R1" =
    .ok ⟨true, 2, .i16, ⟨0x402F⟩, some (.reference ⟨1, by decide⟩)⟩ := by decide

end MemWatch.Expression
