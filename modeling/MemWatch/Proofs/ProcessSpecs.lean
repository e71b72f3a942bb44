/-
# Process specifications

The text of a process specification is the name of an executable, the path of one to be launched, or
a process id.  A launch is marked by its first three bytes; an executable is known by its last four
characters, up to the case of letters of seven bits; everything else has to be a number.

Main statement: a text is read exactly as these rules say, and what is read from a text is written
as a text that is read as the same.
-/
import MemWatch.CommandLine.ProcessSpec
import MemWatch.Proofs.LowerCase
import MemWatch.Proofs.ParseFaults

namespace MemWatch.ProcessSpec

variable {text rest : List Char} {n : Nat}

/-! ## The parts of a specification -/

/-- The first three bytes of the text are `/L:`, with the letter in either case. -/
def MarksLaunch (text : List Char) : Prop :=
  takeBytes? 3 text = some "/L:".toList ∨ takeBytes? 3 text = some "/l:".toList

/-- The text is cut into a launch mark, if it has one, and the rest. -/
inductive Splits (text : List Char) : Bool → List Char → Prop where
  /-- The rest of a launch follows the first three bytes. -/
  | launch {rest : List Char} (hmark : MarksLaunch text) (hrest : dropBytes? 3 text = some rest) :
      Splits text true rest
  /-- Without the mark nothing is cut off. -/
  | plain (hmark : ¬ MarksLaunch text) : Splits text false text

/-- The last four characters of the text are `.exe`, with letters in either case. -/
def EndsInExe (text : List Char) : Prop :=
  ∃ last, last <:+ text ∧ last.map Char.toLower = ".exe".toList

/-- The text is a process id: a decimal numeral, with or without a plus sign, of a positive number
of 32 bits. -/
def SpellsId (text : List Char) (pid : ProcessId) : Prop :=
  (∃ digits, (text = digits ∨ text = '+' :: digits) ∧ Numeral.Spells 10 digits pid) ∧
    0 < pid ∧ pid < 2 ^ 32

/-- The text is read with a result. -/
inductive Reads (text : String) : Except Error ProcessSpec → Prop where
  /-- An executable to be launched. -/
  | launch {rest : List Char} (hsplit : Splits text.toList true rest) (hname : EndsInExe rest) :
      Reads text (.ok (.launch (.ofList rest)))
  /-- The name of an executable. -/
  | name {rest : List Char} (hsplit : Splits text.toList false rest) (hname : EndsInExe rest) :
      Reads text (.ok (.name (.ofList rest)))
  /-- A process id to be launched is refused. -/
  | launchedId {rest : List Char} {pid : ProcessId} (hsplit : Splits text.toList true rest)
      (hname : ¬ EndsInExe rest) (hid : SpellsId rest pid) : Reads text (.error .launchProcessId)
  /-- A process id. -/
  | id {rest : List Char} {pid : ProcessId} (hsplit : Splits text.toList false rest)
      (hname : ¬ EndsInExe rest) (hid : SpellsId rest pid) : Reads text (.ok (.id pid))
  /-- Anything else is refused. -/
  | invalid {marked : Bool} {rest : List Char} (hsplit : Splits text.toList marked rest)
      (hname : ¬ EndsInExe rest) (hid : ∀ pid, ¬ SpellsId rest pid) :
      Reads text (.error (.invalidProcessId (.ofList rest)))

/-! ## Launch marks -/

/-- A slice from the start of a text is a part in front of it. -/
theorem exists_append_of_takeBytes? {n : Nat} {front : List Char}
    (h : takeBytes? n text = some front) : ∃ rest, text = front ++ rest := by
  induction n, text using takeBytes?.induct generalizing front with
  | case1 text =>
    obtain rfl : [] = front := by simpa [takeBytes?] using h
    exact ⟨text, rfl⟩
  | case2 n => simp [takeBytes?] at h
  | case3 n c tail hsize ih =>
    rw [takeBytes?, if_pos hsize, Option.map_eq_some_iff] at h
    obtain ⟨front, hfront, rfl⟩ := h
    obtain ⟨rest, rfl⟩ := ih hfront
    exact ⟨rest, rfl⟩
  | case4 n c tail hsize => simp [takeBytes?, hsize] at h

/-- A launch mark is made of three characters. -/
theorem marksLaunch_iff :
    MarksLaunch text ↔ ∃ c rest, (c = 'L' ∨ c = 'l') ∧ text = '/' :: c :: ':' :: rest := by
  constructor
  · rintro (h | h)
    · obtain ⟨rest, rfl⟩ := exists_append_of_takeBytes? h
      exact ⟨'L', rest, .inl rfl, rfl⟩
    · obtain ⟨rest, rfl⟩ := exists_append_of_takeBytes? h
      exact ⟨'l', rest, .inr rfl, rfl⟩
  · rintro ⟨c, rest, rfl | rfl, rfl⟩
    · exact .inl (Scanner.takeBytes?_append "/L:".toList rest)
    · exact .inr (Scanner.takeBytes?_append "/l:".toList rest)

/-- A text with a mark is cut behind it. -/
theorem splitLaunch_of_mark {c : Char} (hc : c = 'L' ∨ c = 'l') (rest : List Char) :
    splitLaunch ('/' :: c :: ':' :: rest) = (true, rest) :=
  if_pos hc

/-- A text without a mark is not cut. -/
theorem splitLaunch_of_not_marksLaunch (h : ¬ MarksLaunch text) :
    splitLaunch text = (false, text) := by
  unfold splitLaunch
  split
  · rename_i c rest
    exact if_neg fun hc => h (marksLaunch_iff.mpr ⟨c, rest, hc, rfl⟩)
  · rfl

/-- **Marks.**  Cutting a text by its characters is cutting it by its bytes. -/
theorem splits_iff {marked : Bool} :
    Splits text marked rest ↔ splitLaunch text = (marked, rest) := by
  have hsplits : Splits text (splitLaunch text).1 (splitLaunch text).2 := by
    by_cases hmark : MarksLaunch text
    · obtain ⟨c, rest, hc, rfl⟩ := marksLaunch_iff.mp hmark
      rw [splitLaunch_of_mark hc]
      refine .launch hmark ?_
      rcases hc with rfl | rfl
      · exact Scanner.dropBytes?_append "/L:".toList rest
      · exact Scanner.dropBytes?_append "/l:".toList rest
    · rw [splitLaunch_of_not_marksLaunch hmark]
      exact .plain hmark
  constructor
  · intro h
    rcases hcut : splitLaunch text with ⟨marked', rest'⟩
    rw [hcut] at hsplits
    cases h with
    | launch hmark hrest =>
      cases hsplits with
      | launch _ hrest' => rw [Option.some.inj (hrest.symm.trans hrest')]
      | plain hno => exact absurd hmark hno
    | plain hno =>
      cases hsplits with
      | launch hmark _ => exact absurd hmark hno
      | plain _ => rfl
  · intro h
    rwa [h] at hsplits

/-! ## Executables and process ids -/

/-- An executable is known by its ending as it is written. -/
theorem namesExecutable_iff : namesExecutable text = true ↔ EndsInExe text := by
  have hlower : (Text.lower (.ofList text)).toList = Text.lowerFrom [] text := by
    simp only [Text.lower, String.toList_ofList]
  have hending : ∀ d ∈ ".exe".toList, d.toNat < 128 ∧ d ≠ 'k' := by simp
  rw [namesExecutable, hlower, List.isSuffixOf_iff_suffix, Text.isSuffix_lowerFrom_iff hending,
    EndsInExe]

/-- The digits of a process id follow its plus sign, if there is one. -/
theorem spells_unsigned_iff :
    Numeral.Spells 10 (if text.head? = some '+' then text.tail else text) n ↔
      ∃ digits, (text = digits ∨ text = '+' :: digits) ∧ Numeral.Spells 10 digits n := by
  have hsign : ∀ {digits}, Numeral.Spells 10 digits n → '+' ∉ digits := fun h =>
    Expression.not_mem_of_spells h (by decide)
  constructor
  · intro h
    split_ifs at h with hhead
    · exact ⟨text.tail, .inr (List.eq_cons_of_mem_head? hhead), h⟩
    · exact ⟨text, .inl rfl, h⟩
  · rintro ⟨digits, rfl | rfl, h⟩
    · have hhead : text.head? ≠ some '+' := fun hhead => hsign h (List.mem_of_mem_head? hhead)
      rwa [if_neg hhead]
    · exact h

/-- A process id is read as the number that it spells. -/
theorem processId?_eq_some_iff {pid : ProcessId} :
    processId? text = some pid ↔ SpellsId text pid := by
  rw [SpellsId, ← spells_unsigned_iff, processId?]
  generalize (if text.head? = some '+' then text.tail else text) = digits
  have hvalue : ∀ {m}, Numeral.valueBelow? 10 UInt32.size digits = some m ↔ _ :=
    Numeral.valueBelow?_eq_some_iff
  constructor
  · intro h
    split at h
    · rename_i m hm
      obtain ⟨hspells, hlt⟩ := hvalue.mp hm
      split_ifs at h with hzero
      obtain rfl := Option.some.inj h
      exact ⟨hspells, Nat.pos_of_ne_zero hzero, hlt⟩
    · cases h
  · rintro ⟨hspells, hpos, hlt⟩
    rw [hvalue.mpr ⟨hspells, hlt⟩]
    exact if_neg (Nat.ne_of_gt hpos)

/-- No process id is read exactly if none is spelt. -/
theorem processId?_eq_none_iff : processId? text = none ↔ ∀ pid, ¬ SpellsId text pid := by
  simp only [Option.eq_none_iff_forall_ne_some, Ne, processId?_eq_some_iff]

/-! ## Reading -/

/-- A text that is cut is read as its parts say. -/
theorem parse_eq {text : String} {marked : Bool} (h : Splits text.toList marked rest) :
    parse text =
      if namesExecutable rest then
        .ok (if marked then .launch (.ofList rest) else .name (.ofList rest))
      else
        match processId? rest with
        | none => .error (.invalidProcessId (.ofList rest))
        | some pid => if marked then .error .launchProcessId else .ok (.id pid) := by
  rewrite [parse, splits_iff.mp h]
  rfl

/-- **Reading.**  A text is read with a result exactly if the rules give that result. -/
theorem parse_eq_iff {text : String} {result : Except Error ProcessSpec} :
    parse text = result ↔ Reads text result := by
  constructor
  · rintro rfl
    obtain ⟨marked, rest, hsplit⟩ : ∃ marked rest, Splits text.toList marked rest :=
      ⟨_, _, splits_iff.mpr rfl⟩
    rw [parse_eq hsplit]
    by_cases hname : namesExecutable rest = true
    · rw [if_pos hname]
      rw [namesExecutable_iff] at hname
      cases marked with
      | true => exact .launch hsplit hname
      | false => exact .name hsplit hname
    · rw [if_neg hname]
      rw [namesExecutable_iff] at hname
      cases hid : processId? rest with
      | none => exact .invalid hsplit hname (processId?_eq_none_iff.mp hid)
      | some pid =>
        rw [processId?_eq_some_iff] at hid
        cases marked with
        | true => exact .launchedId hsplit hname hid
        | false => exact .id hsplit hname hid
  · intro h
    cases h with
    | launch hsplit hname => rw [parse_eq hsplit, if_pos (namesExecutable_iff.mpr hname)]; rfl
    | name hsplit hname => rw [parse_eq hsplit, if_pos (namesExecutable_iff.mpr hname)]; rfl
    | launchedId hsplit hname hid =>
      rw [parse_eq hsplit, if_neg (mt namesExecutable_iff.mp hname), processId?_eq_some_iff.mpr hid]
      rfl
    | id hsplit hname hid =>
      rw [parse_eq hsplit, if_neg (mt namesExecutable_iff.mp hname), processId?_eq_some_iff.mpr hid]
      rfl
    | @invalid marked rest hsplit hname hid =>
      rw [parse_eq hsplit, if_neg (mt namesExecutable_iff.mp hname),
        processId?_eq_none_iff.mpr hid]

/-! ## Writing -/

/-- A decimal numeral carries no launch mark. -/
theorem not_marksLaunch_of_spells (h : Numeral.Spells 10 text n) : ¬ MarksLaunch text := by
  intro hmark
  obtain ⟨c, rest, -, rfl⟩ := marksLaunch_iff.mp hmark
  exact Expression.not_mem_of_spells (m := '/') h (by decide) List.mem_cons_self

/-- A decimal numeral names no executable. -/
theorem not_endsInExe_of_spells (h : Numeral.Spells 10 text n) : ¬ EndsInExe text := by
  rintro ⟨last, hsuffix, hlast⟩
  have hdot : '.' ∈ last.map Char.toLower := hlast ▸ List.mem_cons_self
  obtain ⟨c, hc, hlower⟩ := List.mem_map.mp hdot
  obtain ⟨d, hd⟩ := h.isDigit_of_mem (hsuffix.subset hc)
  have hfigure := Numeral.digit?_eq_some_iff_toNat.mp (Numeral.digit?_eq_some_iff.mpr hd)
  rw [Text.toLower_of_not_upper (by omega)] at hlower
  subst hlower
  have hcode : '.'.toNat = 46 := rfl
  omega

/-- What is read from a text is written as a text that is read as the same. -/
theorem Reads.reads_text {text : String} {spec : ProcessSpec} (h : Reads text (.ok spec)) :
    Reads spec.text (.ok spec) := by
  cases h with
  | @launch rest hsplit hname =>
    refine .launch ?_ hname
    rw [splits_iff]
    have htext : (ProcessSpec.launch (.ofList rest)).text.toList = '/' :: 'L' :: ':' :: rest := by
      simp [ProcessSpec.text]
    rw [htext, splitLaunch_of_mark (.inl rfl)]
  | @name rest hsplit hname =>
    have hrest : String.ofList rest = text := by
      cases hsplit with
      | plain _ => exact String.ofList_toList
    exact .name (hrest ▸ hsplit) hname
  | @id rest pid hsplit hname hid =>
    have hspells := Numeral.spells_decimal pid
    have htext : (ProcessSpec.id pid).text.toList = Numeral.digits 10 pid := by
      simp [ProcessSpec.text, Numeral.decimal]
    have hplain : Splits (ProcessSpec.id pid).text.toList false (Numeral.digits 10 pid) := by
      rw [htext]
      exact .plain (not_marksLaunch_of_spells hspells)
    exact .id hplain (not_endsInExe_of_spells hspells) ⟨⟨_, .inl rfl, hspells⟩, hid.2⟩

/-- **Process specifications.**  A text is read with a result exactly if the rules give that result,
and what is read from it is written as a text that is read as the same. -/
theorem parse_reads_and_reads_back (text : String) :
    (∀ result, parse text = result ↔ Reads text result) ∧
      ∀ spec, parse text = .ok spec → parse spec.text = .ok spec :=
  ⟨fun _ => parse_eq_iff, fun _ h => parse_eq_iff.mpr (parse_eq_iff.mp h).reads_text⟩

end MemWatch.ProcessSpec
