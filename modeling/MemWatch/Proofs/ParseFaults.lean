/-
# The first fault of an address expression

What is reported about a text that is no address expression, said without the reader: which fault,
and at which byte.  Faults are looked for in a fixed order, which is not the order of the text,
since the value is judged before the address in front of it.

The scanner is compared with the reader part by part.  It stands between two characters at all
times, so each of its slices exists, and what it answers is what the reader answers.

Main statement: a text is refused with an error exactly if that error is its first fault; the error
points between two characters; and the scanner never cuts a character in two.
-/
import MemWatch.Entry.Scanner
import MemWatch.Proofs.Grammar

namespace MemWatch.Expression

open Numeral

/-! ## Faults -/

/-- The text starts with so many `+` and then so many `#`, and the rest follows. -/
structure Marks (text : List Char) (plus levels : Nat) (rest : List Char) : Prop where
  text_eq : text = List.replicate plus '+' ++ (List.replicate levels '#' ++ rest)
  no_plus : (List.replicate levels '#' ++ rest).head? ≠ some '+'
  no_level : rest.head? ≠ some '#'

/-- The mark occurs first between the two parts of the text. -/
structure Cut (mark : Char) (text front back : List Char) : Prop where
  text_eq : text = front ++ mark :: back
  first : mark ∉ front

/-- A type prefix of so many bytes is read off the text, and the body follows. -/
inductive TypeRead (text : List Char) : Nat → List Char → Prop where
  /-- The first colon is not the second byte, so there is no prefix. -/
  | none (hcolon : ∀ front back, Cut ':' text front back → byteLength front ≠ 1) :
      TypeRead text 0 text
  | letter {c : Char} {t : ValueType} {body : List Char} (hcolon : Cut ':' text [c] body)
      (hbyte : byteLength [c] = 1) (hc : c = t.letter ∨ c = t.letter.toLower) :
      TypeRead text 2 body

/-- Everything in front of the address is in order, and the body follows at byte `q`. -/
def Opens (text : List Char) (q : Nat) (body : List Char) : Prop :=
  ∃ plus levels rest skip, Marks text plus levels rest ∧ plus ≤ 1 ∧ TypeRead rest skip body ∧
    q = plus + levels + skip

/-- What is wrong with a text that is no value: it is taken for a reference if it starts like
one. -/
def valueFault (text : List Char) : ParseFault :=
  if (dropSigns text).head? = some 'R' ∨ (dropSigns text).head? = some 'r' then
    .invalidReference (dropSigns text)
  else .invalidValue (dropSigns text)

/-- The first fault of the text. -/
inductive FirstFault (text : List Char) : ParseError → Prop where
  | repeatedOffset {plus levels : Nat} {rest : List Char} (hmarks : Marks text plus levels rest)
      (hplus : 2 ≤ plus) : FirstFault text ⟨.repeatedOffset, plus⟩
  | invalidType {plus levels : Nat} {rest back : List Char} {c : Char}
      (hmarks : Marks text plus levels rest) (hplus : plus ≤ 1) (hcolon : Cut ':' rest [c] back)
      (hbyte : byteLength [c] = 1)
      (hletter : ∀ t : ValueType, c ≠ t.letter ∧ c ≠ t.letter.toLower) :
      FirstFault text ⟨.invalidType c, plus + levels⟩
  /-- The address in front of the value may be anything. -/
  | invalidValue {q : Nat} {body address value : List Char} (hopens : Opens text q body)
      (hcut : Cut '=' body address value) (hvalue : ∀ v, ¬ ValueDenotes value v) :
      FirstFault text ⟨valueFault value, q + byteLength address + 1⟩
  | invalidAddress {q : Nat} {body address : List Char} {value : Option (List Char)}
      (hopens : Opens text q body) (hbody : body = address ++ suffixText value)
      (hfirst : '=' ∉ address) (hvalue : ∀ t, value = some t → ∃ v, ValueDenotes t v)
      (haddress : ∀ a : Address, ¬ Spells 16 address a.toNat) :
      FirstFault text ⟨.invalidAddress address, q⟩

/-! ## Cutting at the marks -/

/-- Every text starts with some number of marks. -/
theorem exists_marks (text : List Char) : ∃ plus levels rest, Marks text plus levels rest := by
  obtain ⟨hplus, hnoplus⟩ := replicate_append_countLeading '+' text
  obtain ⟨hlevels, hnolevel⟩ := replicate_append_countLeading '#' (countLeading '+' text).2
  refine ⟨(countLeading '+' text).1, (countLeading '#' (countLeading '+' text).2).1, _, ?_, ?_,
    hnolevel⟩
  · rw [hlevels, hplus]
  · rwa [hlevels]

/-- A type prefix is split off exactly if the first colon is the second byte. -/
theorem splitType_eq_some_iff {text body : List Char} {c : Char} :
    splitType text = (some c, body) ↔ Cut ':' text [c] body ∧ byteLength [c] = 1 := by
  have hbyte : byteLength [c] = 1 ↔ c.utf8Size = 1 := by simp [byteLength]
  rw [hbyte]
  constructor
  · intro h
    unfold splitType at h
    split at h
    · split at h
      · rename_i hc
        obtain ⟨rfl, rfl⟩ : _ = c ∧ _ = body := by simpa using h
        exact ⟨⟨rfl, by simpa using Ne.symm hc.1⟩, hc.2⟩
      · simp at h
    · simp at h
  · rintro ⟨⟨rfl, hfirst⟩, hc⟩
    have hcolon : c ≠ ':' := by simpa [eq_comm] using hfirst
    simp [splitType, hcolon, hc]

/-- A text that occupies one byte is one character. -/
theorem exists_eq_singleton {text : List Char} (h : byteLength text = 1) : ∃ c, text = [c] := by
  match text, h with
  | [c], _ => exact ⟨c, rfl⟩
  | c :: d :: rest, h =>
    have hc := c.utf8Size_pos
    have hd := d.utf8Size_pos
    simp only [byteLength] at h
    omega

/-- Nothing is split off exactly if the first colon is not the second byte. -/
theorem splitType_eq_none_iff {text body : List Char} :
    splitType text = (none, body) ↔
      body = text ∧ ∀ front back, Cut ':' text front back → byteLength front ≠ 1 := by
  constructor
  · intro h
    refine ⟨by simpa [h, prefixText] using prefixText_splitType text, ?_⟩
    intro front back hcut hbyte
    obtain ⟨c, rfl⟩ := exists_eq_singleton hbyte
    simp [splitType_eq_some_iff.mpr ⟨hcut, hbyte⟩] at h
  · rintro ⟨rfl, hcolon⟩
    rcases h : splitType body with ⟨letter, rest⟩
    cases letter with
    | none => simpa [h, prefixText] using prefixText_splitType body
    | some c =>
      obtain ⟨hcut, hbyte⟩ := splitType_eq_some_iff.mp h
      exact absurd hbyte (hcolon _ _ hcut)

/-- The prefix that is split off names a type, or there is none. -/
theorem typeRead_iff {text body : List Char} {skip : Nat} :
    TypeRead text skip body ↔ ∃ letter, splitType text = (letter, body) ∧
      (∀ c, letter = some c → ∃ t : ValueType, c = t.letter ∨ c = t.letter.toLower) ∧
      skip = if letter.isSome then 2 else 0 := by
  constructor
  · rintro (hcolon | ⟨hcolon, hbyte, hc⟩)
    · exact ⟨none, splitType_eq_none_iff.mpr ⟨rfl, hcolon⟩, by simp, rfl⟩
    · refine ⟨_, splitType_eq_some_iff.mpr ⟨hcolon, hbyte⟩, ?_, rfl⟩
      rintro _ ⟨⟩
      exact ⟨_, hc⟩
  · rintro ⟨_ | c, hsplit, hletter, rfl⟩
    · obtain ⟨rfl, hcolon⟩ := splitType_eq_none_iff.mp hsplit
      exact .none hcolon
    · obtain ⟨hcolon, hbyte⟩ := splitType_eq_some_iff.mp hsplit
      obtain ⟨t, ht⟩ := hletter c rfl
      exact .letter hcolon hbyte ht

/-- The address ends at the first `=`, or at the end. -/
theorem splitValue_eq_iff {text address : List Char} {value : Option (List Char)} :
    splitValue text = (address, value) ↔ text = address ++ suffixText value ∧ '=' ∉ address := by
  constructor
  · intro h
    refine ⟨by simpa [h] using (append_suffixText_splitValue text).symm, ?_⟩
    have hfirst : '=' ∉ (splitValue text).1 := by
      clear h
      induction text with
      | nil => simp [splitValue]
      | cons c rest ih =>
        by_cases hc : c = '='
        · simp [splitValue, hc]
        · simpa [splitValue, hc, eq_comm] using ih
    simpa [h] using hfirst
  · rintro ⟨rfl, hfirst⟩
    exact splitValue_append hfirst value

/-! ## Where the parts lie -/

/-- The text from the address on. -/
def body (x : Expression) : List Char :=
  x.address ++ suffixText x.value

/-- The text behind the marks. -/
def unmarked (x : Expression) : List Char :=
  prefixText x.typeLetter ++ x.body

/-- The parts of a text are what is left when the parts in front of them are split off. -/
theorem Marks.parts {text rest : List Char} {plus levels : Nat} (h : Marks text plus levels rest) :
    (ofChars text).offsetMarks = plus ∧ (ofChars text).pointerMarks = levels ∧
      (ofChars text).unmarked = rest ∧
      splitType rest = ((ofChars text).typeLetter, (ofChars text).body) ∧
      splitValue (ofChars text).body = ((ofChars text).address, (ofChars text).value) := by
  have hparts : ofChars text = ⟨plus, levels, (splitType rest).1,
      (splitValue (splitType rest).2).1, (splitValue (splitType rest).2).2⟩ := by
    rw [h.text_eq]
    simp only [ofChars, countLeading_replicate_append plus h.no_plus,
      countLeading_replicate_append levels h.no_level]
  simp only [hparts, unmarked, body, append_suffixText_splitValue, prefixText_splitType, and_self]

/-- A text is marked as its parts say, and in no other way. -/
theorem marks_iff {text rest : List Char} {plus levels : Nat} :
    Marks text plus levels rest ↔ plus = (ofChars text).offsetMarks ∧
      levels = (ofChars text).pointerMarks ∧ rest = (ofChars text).unmarked := by
  constructor
  · intro h
    obtain ⟨hplus, hlevels, hrest, -⟩ := h.parts
    exact ⟨hplus.symm, hlevels.symm, hrest.symm⟩
  · rintro ⟨rfl, rfl, rfl⟩
    obtain ⟨plus, levels, rest, h⟩ := exists_marks text
    obtain ⟨hplus, hlevels, hrest, -⟩ := h.parts
    rwa [hplus, hlevels, hrest]

/-- The type letter is what is split off behind the marks. -/
theorem splitType_unmarked (text : List Char) : splitType (ofChars text).unmarked =
    ((ofChars text).typeLetter, (ofChars text).body) :=
  (marks_iff.mpr ⟨rfl, rfl, rfl⟩).parts.2.2.2.1

/-- The address and the value are what the body splits into. -/
theorem splitValue_body (text : List Char) : splitValue (ofChars text).body =
    ((ofChars text).address, (ofChars text).value) :=
  (marks_iff.mpr ⟨rfl, rfl, rfl⟩).parts.2.2.2.2

/-! ## What is wrong with a part -/

/-- Texts that are no value, and what is wrong with them. -/
theorem ofChars_value_eq_error_iff {text : List Char} {fault : ParseFault} :
    EntryValue.ofChars text = .error fault ↔
      (∀ v, ¬ ValueDenotes text v) ∧ fault = valueFault text := by
  have hfault : ∀ f, EntryValue.ofChars text = .error f → f = valueFault text := by
    intro f h
    rw [EntryValue.ofChars] at h
    rw [valueFault]
    generalize dropSigns text = body at h ⊢
    cases hlit : literal? (text.head? == some '-') body with
    | some v => simp [hlit] at h
    | none =>
      simp only [hlit] at h
      cases body with
      | nil => simpa [eq_comm] using h
      | cons c digits =>
        simp only [List.head?_cons, Option.some.injEq]
        by_cases hc : c = 'R' ∨ c = 'r'
        · simp only [if_pos hc] at h ⊢
          cases hid : referenceId? digits <;> simp_all
        · simpa [if_neg hc, eq_comm] using h
  constructor
  · intro h
    refine ⟨fun v hv => ?_, hfault fault h⟩
    rw [ofChars_value_eq_ok_iff.mpr hv] at h
    simp at h
  · rintro ⟨hvalue, rfl⟩
    cases h : EntryValue.ofChars text with
    | ok v => exact absurd (ofChars_value_eq_ok_iff.mp h) (hvalue v)
    | error f => rw [hfault f h]

/-- What is wrong with a type letter. -/
theorem type_eq_error_iff {x : Expression} {e : ParseError} :
    x.type = .error e ↔ ∃ c, x.typeLetter = some c ∧
      (∀ t : ValueType, c ≠ t.letter ∧ c ≠ t.letter.toLower) ∧
      e = ⟨.invalidType c, x.typePosition⟩ := by
  unfold type
  cases x.typeLetter with
  | none => simp
  | some c =>
    cases h : ValueType.ofLetter? c with
    | none =>
      have hc : ∀ t : ValueType, c ≠ t.letter ∧ c ≠ t.letter.toLower := by
        intro t
        rw [← not_or, ← ofLetter?_eq_some_iff, h]
        simp
      simp [h, hc, eq_comm]
    | some t =>
      have hc : ¬ ∀ t : ValueType, c ≠ t.letter ∧ c ≠ t.letter.toLower := by
        intro hc
        have ht := ofLetter?_eq_some_iff.mp h
        exact not_or.mpr (hc t) ht
      simp [h, hc]

/-- What is wrong with a value. -/
theorem entryValue_eq_error_iff {x : Expression} {e : ParseError} :
    x.entryValue = .error e ↔ ∃ text, x.value = some text ∧ (∀ v, ¬ ValueDenotes text v) ∧
      e = ⟨valueFault text, x.valuePosition⟩ := by
  unfold entryValue
  cases x.value with
  | none => simp
  | some text =>
    cases h : EntryValue.ofChars text with
    | ok v =>
      have hvalue : ¬ ∀ v, ¬ ValueDenotes text v := fun hno => hno v (ofChars_value_eq_ok_iff.mp h)
      simp [h, hvalue]
    | error fault =>
      obtain ⟨hvalue, rfl⟩ := ofChars_value_eq_error_iff.mp h
      simp [h, hvalue, eq_comm]

/-- What is wrong with an address. -/
theorem entryAddress_eq_error_iff {x : Expression} {e : ParseError} :
    x.entryAddress = .error e ↔ (∀ a : Address, ¬ Spells 16 x.address a.toNat) ∧
      e = ⟨.invalidAddress x.address, x.addressPosition⟩ := by
  simp only [← entryAddress_eq_ok_iff]
  unfold entryAddress
  cases Address.ofHex? x.address <;> simp [eq_comm]

/-- **The order of the checks.**  The fault of an earlier part hides those of the later ones. -/
theorem entry_eq_error_iff {x : Expression} {e : ParseError} :
    x.entry = .error e ↔
      2 ≤ x.offsetMarks ∧ e = ⟨.repeatedOffset, x.offsetMarks⟩ ∨
      x.offsetMarks ≤ 1 ∧ (x.type = .error e ∨
        (∃ t, x.type = .ok t) ∧ (x.entryValue = .error e ∨
          (∃ v, x.entryValue = .ok v) ∧ x.entryAddress = .error e)) := by
  unfold entry
  by_cases hmarks : 2 ≤ x.offsetMarks
  · have hle : ¬ x.offsetMarks ≤ 1 := by omega
    simp [hmarks, hle, bind, Except.bind, throw, throwThe, MonadExceptOf.throw, eq_comm]
  · have hle : x.offsetMarks ≤ 1 := by omega
    cases x.type <;> cases x.entryValue <;> cases x.entryAddress <;>
      simp [hmarks, hle, bind, Except.bind, pure, Except.pure]

/-! ## What is wrong with a text -/

/-- A letter names a type exactly if the prefix in front of the body is in order. -/
theorem exists_type_eq_ok_iff {x : Expression} : (∃ t, x.type = .ok t) ↔
    ∀ c, x.typeLetter = some c → ∃ t : ValueType, c = t.letter ∨ c = t.letter.toLower := by
  unfold type
  cases x.typeLetter with
  | none => simp
  | some c =>
    simp only [Option.some.injEq, forall_eq', ← ofLetter?_eq_some_iff]
    cases ValueType.ofLetter? c <;> simp

/-- What is in front of the address is in order exactly if its checks succeed. -/
theorem opens_iff {text body : List Char} {q : Nat} :
    Opens text q body ↔ (ofChars text).offsetMarks ≤ 1 ∧ (∃ t, (ofChars text).type = .ok t) ∧
      q = (ofChars text).addressPosition ∧ body = (ofChars text).body := by
  constructor
  · rintro ⟨plus, levels, rest, skip, hmarks, hplus, htype, rfl⟩
    obtain ⟨rfl, rfl, rfl⟩ := marks_iff.mp hmarks
    obtain ⟨letter, hsplit, hletter, rfl⟩ := typeRead_iff.mp htype
    rw [splitType_unmarked, Prod.mk.injEq] at hsplit
    obtain ⟨rfl, rfl⟩ := hsplit
    exact ⟨hplus, exists_type_eq_ok_iff.mpr hletter, rfl, rfl⟩
  · rintro ⟨hplus, htype, rfl, rfl⟩
    exact ⟨_, _, _, _, marks_iff.mpr ⟨rfl, rfl, rfl⟩, hplus, typeRead_iff.mpr
      ⟨_, splitType_unmarked text, exists_type_eq_ok_iff.mp htype, rfl⟩, rfl⟩

/-- The value of a body is in order if there is none, or if it denotes one. -/
theorem exists_entryValue_eq_ok_iff {x : Expression} : (∃ v, x.entryValue = .ok v) ↔
    ∀ t, x.value = some t → ∃ v, ValueDenotes t v := by
  unfold entryValue
  cases x.value with
  | none => simp
  | some t =>
    simp only [Option.some.injEq, forall_eq', ← ofChars_value_eq_ok_iff]
    cases EntryValue.ofChars t <;> simp

/-- **Refusals.**  A text is refused with an error exactly if that error is its first fault. -/
theorem entry_ofChars_eq_error_iff {text : List Char} {e : ParseError} :
    (ofChars text).entry = .error e ↔ FirstFault text e := by
  have hmarks : Marks text _ _ _ := marks_iff.mpr ⟨rfl, rfl, rfl⟩
  have hsplit := splitValue_body text
  rw [entry_eq_error_iff]
  constructor
  · rintro (⟨hplus, rfl⟩ | ⟨hplus, htype | ⟨htype, hvalue | ⟨hvalue, haddress⟩⟩⟩)
    · exact .repeatedOffset hmarks hplus
    · obtain ⟨c, hc, hletter, rfl⟩ := type_eq_error_iff.mp htype
      have hprefix := splitType_unmarked text
      rw [hc] at hprefix
      obtain ⟨hcolon, hbyte⟩ := splitType_eq_some_iff.mp hprefix
      exact .invalidType hmarks hplus hcolon hbyte hletter
    · obtain ⟨value, hsome, hno, rfl⟩ := entryValue_eq_error_iff.mp hvalue
      rw [hsome] at hsplit
      obtain ⟨hbody, hfirst⟩ := splitValue_eq_iff.mp hsplit
      exact .invalidValue (opens_iff.mpr ⟨hplus, htype, rfl, rfl⟩) ⟨hbody, hfirst⟩ hno
    · obtain ⟨hno, rfl⟩ := entryAddress_eq_error_iff.mp haddress
      obtain ⟨hbody, hfirst⟩ := splitValue_eq_iff.mp hsplit
      exact .invalidAddress (opens_iff.mpr ⟨hplus, htype, rfl, rfl⟩) hbody hfirst
        (exists_entryValue_eq_ok_iff.mp hvalue) hno
  · rintro (⟨hstart, hplus⟩ | ⟨hstart, hplus, hcolon, hbyte, hletter⟩ |
      ⟨hopens, hcut, hno⟩ | ⟨hopens, hbody, hfirst, hvalue, hno⟩)
    · obtain ⟨rfl, rfl, rfl⟩ := marks_iff.mp hstart
      exact Or.inl ⟨hplus, rfl⟩
    · obtain ⟨rfl, rfl, rfl⟩ := marks_iff.mp hstart
      have hprefix := splitType_eq_some_iff.mpr ⟨hcolon, hbyte⟩
      rw [splitType_unmarked, Prod.mk.injEq] at hprefix
      exact Or.inr ⟨hplus, Or.inl (type_eq_error_iff.mpr ⟨_, hprefix.1, hletter, rfl⟩)⟩
    · obtain ⟨hplus, htype, rfl, rfl⟩ := opens_iff.mp hopens
      have hbody : splitValue (ofChars text).body = (_, some _) :=
        splitValue_eq_iff.mpr ⟨hcut.text_eq, hcut.first⟩
      rw [hbody, Prod.mk.injEq] at hsplit
      obtain ⟨rfl, hsome⟩ := hsplit
      exact Or.inr ⟨hplus, Or.inr ⟨htype, Or.inl
        (entryValue_eq_error_iff.mpr ⟨_, hsome.symm, hno, rfl⟩)⟩⟩
    · obtain ⟨hplus, htype, rfl, rfl⟩ := opens_iff.mp hopens
      rw [splitValue_eq_iff.mpr ⟨hbody, hfirst⟩, Prod.mk.injEq] at hsplit
      obtain ⟨rfl, rfl⟩ := hsplit
      exact Or.inr ⟨hplus, Or.inr ⟨htype, Or.inr ⟨exists_entryValue_eq_ok_iff.mpr hvalue,
        entryAddress_eq_error_iff.mpr ⟨hno, rfl⟩⟩⟩⟩

/-! ## Where errors point -/

theorem byteLength_replicate (n : Nat) {c : Char} (hc : c.utf8Size = 1) :
    byteLength (List.replicate n c) = n := by
  induction n with
  | zero => rfl
  | succ n ih => simp [List.replicate_succ, byteLength, ih, hc, Nat.add_comm]

/-- The bytes of the type prefix that is split off. -/
theorem byteLength_prefixText {text body : List Char} {letter : Option Char}
    (h : splitType text = (letter, body)) :
    byteLength (prefixText letter) = if letter.isSome then 2 else 0 := by
  cases letter with
  | none => rfl
  | some c =>
    have hbyte := (splitType_eq_some_iff.mp h).2
    have hmark : ':'.utf8Size = 1 := by decide
    simp only [byteLength] at hbyte
    simp [prefixText, byteLength, hmark]
    omega

/-- The body starts between two characters. -/
theorem Opens.exists_append {text body : List Char} {q : Nat} (h : Opens text q body) :
    ∃ front, text = front ++ body ∧ byteLength front = q := by
  obtain ⟨plus, levels, rest, skip, hmarks, -, htype, rfl⟩ := h
  obtain ⟨letter, hsplit, -, rfl⟩ := typeRead_iff.mp htype
  have hrest : prefixText letter ++ body = rest := by
    simpa [hsplit] using prefixText_splitType rest
  refine ⟨List.replicate plus '+' ++ List.replicate levels '#' ++ prefixText letter, ?_, ?_⟩
  · rw [hmarks.text_eq, ← hrest]
    simp
  · simp only [byteLength_append, byteLength_replicate plus (c := '+') (by decide),
      byteLength_replicate levels (c := '#') (by decide), byteLength_prefixText hsplit]

/-- **Positions.**  The first fault lies between two characters of the text, or at its end. -/
theorem FirstFault.exists_append {text : List Char} {e : ParseError} (h : FirstFault text e) :
    ∃ front back, text = front ++ back ∧ byteLength front = e.position := by
  cases h with
  | @repeatedOffset plus levels rest hmarks hplus =>
    exact ⟨_, _, hmarks.text_eq, byteLength_replicate plus (by decide)⟩
  | @invalidType plus levels rest back c hmarks =>
    refine ⟨List.replicate plus '+' ++ List.replicate levels '#', rest, ?_, ?_⟩
    · rw [hmarks.text_eq, List.append_assoc]
    · simp only [byteLength_append, byteLength_replicate plus (c := '+') (by decide),
        byteLength_replicate levels (c := '#') (by decide)]
  | @invalidValue q body address value hopens hcut =>
    obtain ⟨front, rfl, rfl⟩ := hopens.exists_append
    refine ⟨front ++ address ++ ['='], value, ?_, ?_⟩
    · rw [hcut.text_eq]
      simp
    · have hmark : byteLength ['='] = 1 := by decide
      simp only [byteLength_append, hmark]
  | @invalidAddress q body address value hopens =>
    obtain ⟨front, rfl, rfl⟩ := hopens.exists_append
    exact ⟨front, body, rfl, rfl⟩

theorem byteLength_eq_utf8ByteSize (text : List Char) :
    byteLength text = (String.ofList text).utf8ByteSize := by
  induction text with
  | nil => rfl
  | cons c rest ih =>
    rw [byteLength, ih, String.ofList_cons, String.utf8ByteSize_append,
      String.utf8ByteSize_singleton]

end MemWatch.Expression

namespace MemWatch.Scanner

open Expression

/-! ## Slices between characters -/

/-- What follows a text is the slice from its last byte on. -/
theorem dropBytes?_append (front rest : List Char) :
    dropBytes? (byteLength front) (front ++ rest) = some rest := by
  induction front with
  | nil => simp [byteLength, dropBytes?]
  | cons c front ih =>
    obtain ⟨n, hn⟩ : ∃ n, c.utf8Size + byteLength front = n + 1 :=
      ⟨c.utf8Size + byteLength front - 1, by have := c.utf8Size_pos; omega⟩
    have hle : c.utf8Size ≤ n + 1 := by omega
    have hrest : n + 1 - c.utf8Size = byteLength front := by omega
    rw [byteLength, hn, List.cons_append, dropBytes?, if_pos hle, hrest, ih]

/-- A text in front of another one is the slice up to its last byte. -/
theorem takeBytes?_append (front rest : List Char) :
    takeBytes? (byteLength front) (front ++ rest) = some front := by
  induction front with
  | nil => simp [byteLength, takeBytes?]
  | cons c front ih =>
    obtain ⟨n, hn⟩ : ∃ n, c.utf8Size + byteLength front = n + 1 :=
      ⟨c.utf8Size + byteLength front - 1, by have := c.utf8Size_pos; omega⟩
    have hle : c.utf8Size ≤ n + 1 := by omega
    have hrest : n + 1 - c.utf8Size = byteLength front := by omega
    rw [byteLength, hn, List.cons_append, takeBytes?, if_pos hle, hrest, ih]
    rfl

/-- The byte that is found is the one at which the text is cut. -/
theorem findByte?_of_cut {mark : Char} {text front back : List Char}
    (h : Cut mark text front back) : findByte? mark text = some (byteLength front) := by
  obtain ⟨rfl, hfirst⟩ := h
  induction front with
  | nil => simp [findByte?, byteLength]
  | cons c front ih =>
    simp only [List.mem_cons, not_or] at hfirst
    simp [findByte?, byteLength, Ne.symm hfirst.1, ih hfirst.2]

/-- Nothing is found if the character does not occur. -/
theorem findByte?_eq_none {mark : Char} {text : List Char} (h : mark ∉ text) :
    findByte? mark text = none := by
  induction text with
  | nil => rfl
  | cons c rest ih =>
    simp only [List.mem_cons, not_or] at h
    simp [findByte?, Ne.symm h.1, ih h.2]

/-- A character that is found cuts the text there. -/
theorem exists_cut_of_findByte? {mark : Char} {text : List Char} {i : Nat}
    (h : findByte? mark text = some i) :
    ∃ front back, Cut mark text front back ∧ byteLength front = i := by
  induction text generalizing i with
  | nil => simp [findByte?] at h
  | cons c rest ih =>
    by_cases hc : c = mark
    · obtain rfl : 0 = i := by simpa [findByte?, hc] using h
      exact ⟨[], rest, ⟨by simp [hc], by simp⟩, rfl⟩
    · simp only [findByte?, if_neg hc, Option.map_eq_some_iff] at h
      obtain ⟨j, hj, rfl⟩ := h
      obtain ⟨front, back, ⟨rfl, hfirst⟩, rfl⟩ := ih hj
      exact ⟨c :: front, back, ⟨rfl, by simp [hfirst, Ne.symm hc]⟩, rfl⟩

/-! ## The cursor between characters -/

/-- The cursor behind the first part of a text. -/
def between (front rest : List Char) : Scanner :=
  ⟨front ++ rest, byteLength front⟩

/-- What comes next is the second part. -/
@[simp] theorem rest?_between (front rest : List Char) : (between front rest).rest? = some rest :=
  dropBytes?_append front rest

/-- The cursor moves on over the bytes of a text. -/
theorem step_between (front slice rest : List Char) :
    (between front (slice ++ rest)).step (byteLength slice) = between (front ++ slice) rest := by
  simp [between, step]

/-- A run of a character is counted, and the cursor ends up behind it. -/
theorem eatWhile_between {mark : Char} {rest : List Char} (h : rest.head? ≠ some mark) (n : Nat)
    (front : List Char) : eatWhile mark (between front (List.replicate n mark ++ rest)) =
      some (n, between (front ++ List.replicate n mark) rest) := by
  have hrest := rest?_between front (List.replicate n mark ++ rest)
  induction n generalizing front with
  | zero =>
    cases rest with
    | nil =>
      rw [eatWhile]
      split <;> simp_all
    | cons c rest =>
      have hc : c ≠ mark := by simpa using h
      rw [eatWhile]
      split <;> simp_all
  | succ n ih =>
    rw [List.replicate_succ, List.cons_append] at hrest ⊢
    have hstep : (between front (mark :: (List.replicate n mark ++ rest))).step mark.utf8Size =
        between (front ++ [mark]) (List.replicate n mark ++ rest) := by
      simpa [byteLength] using step_between front [mark] (List.replicate n mark ++ rest)
    rw [eatWhile]
    split
    · simp_all
    · simp_all
    · rename_i c tail heq
      obtain ⟨rfl, rfl⟩ : mark = c ∧ List.replicate n mark ++ rest = tail := by
        simpa using hrest.symm.trans heq
      rw [if_pos rfl, hstep, ih _ (rest?_between _ _)]
      simp

/-! ## The scanner and the reader -/

/-- The type is the one that the letter names. -/
theorem scanType_between {x : Expression} {front : List Char}
    (hsplit : splitType x.unmarked = (x.typeLetter, x.body))
    (hfront : byteLength front = x.typePosition) :
    (between front x.unmarked).scanType =
      some (x.type.map fun t => (t, between (front ++ prefixText x.typeLetter) x.body)) := by
  have hpos : (between front x.unmarked).pos = x.typePosition := hfront
  unfold scanType
  rw [rest?_between]
  cases hletter : x.typeLetter with
  | none =>
    rw [hletter] at hsplit
    obtain ⟨hbody, hcolon⟩ := splitType_eq_none_iff.mp hsplit
    have hfind : findByte? ':' x.unmarked ≠ some 1 := by
      intro h
      obtain ⟨_, _, hcut, hbyte⟩ := exists_cut_of_findByte? h
      exact hcolon _ _ hcut hbyte
    simp [hfind, type, hletter, prefixText, hbody, Except.map]
  | some c =>
    rw [hletter] at hsplit
    obtain ⟨hcut, hbyte⟩ := splitType_eq_some_iff.mp hsplit
    have hfind : findByte? ':' x.unmarked = some 1 := by
      rw [findByte?_of_cut hcut, hbyte]
    have hbytes : byteLength [c, ':'] = 2 := byteLength_prefixText hsplit
    have hstep : (between front x.unmarked).step 2 = between (front ++ [c, ':']) x.body := by
      rw [hcut.text_eq, ← hbytes]
      exact step_between front [c, ':'] x.body
    have hhead : x.unmarked = c :: ':' :: x.body := hcut.text_eq
    simp only [Option.bind_eq_bind, Option.bind_some, hfind, if_true, hpos, hstep, type, hletter,
      prefixText]
    rw [hhead]
    cases h : ValueType.ofLetter? c <;> simp [h, Except.map]

/-- The parts of the body are its address and its value. -/
theorem scanParts_between {x : Expression} {front : List Char}
    (hsplit : splitValue x.body = (x.address, x.value))
    (hfront : byteLength front = x.addressPosition) :
    (between front x.body).scanParts = some (x.entryValue.map fun v => (x.address, v)) := by
  have hpos : (between front x.body).pos = x.addressPosition := hfront
  obtain ⟨hbody, hfirst⟩ := splitValue_eq_iff.mp hsplit
  unfold scanParts
  rw [rest?_between]
  cases hvalue : x.value with
  | none =>
    have haddress : x.body = x.address := by rw [hbody, hvalue, suffixText, List.append_nil]
    simp [haddress, findByte?_eq_none hfirst, entryValue, hvalue, Except.map]
  | some value =>
    have hcut : Cut '=' x.body x.address value := ⟨by rw [hbody, hvalue, suffixText], hfirst⟩
    have hdrop : dropBytes? (byteLength x.address + 1) x.body = some value := by
      have hmark : byteLength ['='] = 1 := by decide
      rw [← hmark, ← byteLength_append, hcut.text_eq]
      simpa using dropBytes?_append (x.address ++ ['=']) value
    have htake : takeBytes? (byteLength x.address) x.body = some x.address := by
      rw [hbody]
      exact takeBytes?_append _ _
    simp only [Option.bind_eq_bind, Option.bind_some, findByte?_of_cut hcut, hdrop, htake, hpos,
      entryValue, hvalue, valuePosition]
    cases EntryValue.ofChars value <;> rfl

/-- **The scanner is the reader.**  Every slice that it takes exists, and it answers what the reader
answers. -/
theorem scan_eq (text : List Char) : scan text = some (ofChars text).entry := by
  have hmarks : Marks text _ _ _ := marks_iff.mpr ⟨rfl, rfl, rfl⟩
  have htype := splitType_unmarked text
  have hvalue := splitValue_body text
  generalize ofChars text = x at hmarks htype hvalue ⊢
  obtain ⟨rfl, hplus, hlevel⟩ := hmarks
  have hplusBytes := byteLength_replicate x.offsetMarks (c := '+') (by decide)
  have hlevelBytes := byteLength_replicate x.pointerMarks (c := '#') (by decide)
  have hmarks : byteLength (List.replicate x.offsetMarks '+' ++ List.replicate x.pointerMarks '#') =
      x.typePosition := by
    rw [byteLength_append, hplusBytes, hlevelBytes, typePosition]
  have hprefix : byteLength (List.replicate x.offsetMarks '+' ++ List.replicate x.pointerMarks '#' ++
      prefixText x.typeLetter) = x.addressPosition := by
    rw [byteLength_append, hmarks, byteLength_prefixText htype, addressPosition]
  have hposition {front : List Char} {n : Nat} (h : byteLength front = n) (rest : List Char) :
      (between front rest).pos = n := h
  have hstart (text : List Char) : (⟨text, 0⟩ : Scanner) = between [] text := rfl
  -- the four moves of the cursor
  have hplusMove := eatWhile_between hplus x.offsetMarks []
  have hlevelMove := eatWhile_between hlevel x.pointerMarks (List.replicate x.offsetMarks '+')
  have htypeMove := scanType_between htype hmarks
  have hvalueMove := scanParts_between hvalue hprefix
  simp only [List.nil_append] at hplusMove
  simp only [scan, hstart, hplusMove, Option.bind_eq_bind, Option.bind_some, entry]
  split
  · simp [hposition hplusBytes, bind, Except.bind, throw, throwThe, MonadExceptOf.throw]
  · simp only [hlevelMove, htypeMove, Option.bind_some]
    cases x.type with
    | error e => simp [bind, Except.bind, Except.map]
    | ok t =>
      simp only [Except.map, hvalueMove, Option.bind_some]
      cases x.entryValue with
      | error e => simp [bind, Except.bind]
      | ok v =>
        simp only [entryAddress, hposition hprefix]
        cases Address.ofHex? x.address <;> simp [bind, Except.bind, pure, Except.pure]

end MemWatch.Scanner

namespace MemWatch.Entry

open Expression

/-- **Errors of address expressions.**  A text is refused with an error exactly if that error is its
first fault.  The byte at which it was found lies between two characters of the text, or at its end.
The scanner answers the same, so none of its slices starts or ends inside a character. -/
theorem parse_reports_first_fault (t : String) :
    (∀ e, parse t = .error e ↔ FirstFault t.toList e) ∧
    (∀ e, parse t = .error e →
      e.position ≤ t.utf8ByteSize ∧ String.Pos.Raw.IsValid t ⟨e.position⟩) ∧
    Scanner.scan t.toList = some (parse t) := by
  refine ⟨fun e => entry_ofChars_eq_error_iff, fun e h => ?_, Scanner.scan_eq t.toList⟩
  obtain ⟨front, back, htext, hfront⟩ := (entry_ofChars_eq_error_iff.mp h).exists_append
  have ht : t = String.ofList front ++ String.ofList back := by
    rw [← String.ofList_append, ← htext, String.ofList_toList]
  rw [byteLength_eq_utf8ByteSize] at hfront
  constructor
  · rw [ht, String.utf8ByteSize_append, ← hfront]
    omega
  · rw [String.Pos.Raw.isValid_iff_exists_append]
    exact ⟨_, _, ht, by rw [← hfront]; rfl⟩

example : parse "+#é:10=-R0" = .error ⟨.invalidReference ['R', '0'], 8⟩ := by decide

end MemWatch.Entry
