/-
# Command lines

A command line is read in layers: the switches first, then the request for help, then the process.
Each layer has errors of its own.  Switches count wherever they stand and in whatever form they are
written, and what is left without them is the process and the address expressions, as they were
given.

Main statement: command lines that differ only in where their switches stand and how they are
written ask for the same.
-/
import Mathlib.Data.List.Count
import MemWatch.CommandLine.Options

namespace MemWatch

variable {args args' : List String} {arg : String} {s t : Switch} {c : CommandLine} {e : Error}

/-! ## Refusals -/

namespace ProcessSpec

/-- A text names no process, with the error for it. -/
inductive Refuses (text : String) : Error → Prop where
  /-- It is neither an executable nor a number that can be a process id. -/
  | noId (hname : namesExecutable (splitLaunch text.toList).2 = false)
      (hid : processId? (splitLaunch text.toList).2 = none) :
      Refuses text (.invalidProcessId (.ofList (splitLaunch text.toList).2))
  /-- It is a process id that is to be launched. -/
  | launchedId {pid : ProcessId} (hname : namesExecutable (splitLaunch text.toList).2 = false)
      (hmark : (splitLaunch text.toList).1 = true)
      (hid : processId? (splitLaunch text.toList).2 = some pid) :
      Refuses text .launchProcessId

/-- Reading a process fails exactly with the errors it is refused with. -/
theorem parse_eq_error_iff {text : String} : parse text = .error e ↔ Refuses text e := by
  constructor
  · intro h
    simp only [parse] at h
    split at h
    · exact absurd h (by simp)
    · rename_i hname
      rw [Bool.not_eq_true] at hname
      split at h
      · rename_i hid
        obtain rfl := Except.error.inj h
        exact .noId hname hid
      · rename_i pid hid
        split at h
        · rename_i hmark
          obtain rfl := Except.error.inj h
          exact .launchedId hname hmark hid
        · cases h
  · rintro (⟨hname, hid⟩ | ⟨hname, hmark, hid⟩)
    · simp only [parse, hname, hid, Bool.false_eq_true, if_false]
    · simp only [parse, hname, hmark, hid, Bool.false_eq_true, if_false, if_true]

end ProcessSpec

namespace Request

/-- The arguments after the name of the program, as they are read. -/
def readArguments (args : List String) : Except UsageError CommandLine :=
  CommandLine.parse (args.tail.map Switch.normalize)

theorem readArguments_cons (program : String) (args : List String) :
    readArguments (program :: args) = CommandLine.parse (args.map Switch.normalize) :=
  rfl

/-- A command line is refused, with the error for it. -/
inductive Refuses (args : List String) : Error → Prop where
  /-- A switch is unknown, or is given more than once. -/
  | switches {cause : UsageError} (hread : readArguments args = .error cause) :
      Refuses args (.invalidArguments cause)
  /-- There is no process to attach to. -/
  | noProcess {c : CommandLine} (hread : readArguments args = .ok c)
      (hhelp : c.switches.contains .help = false) (hnone : c.positionals = []) :
      Refuses args (.invalidArguments .noProcess)
  /-- What should be the process names none. -/
  | process {c : CommandLine} {first : String} {addresses : List String} {e : Error}
      (hread : readArguments args = .ok c) (hhelp : c.switches.contains .help = false)
      (hfirst : c.positionals = first :: addresses) (hprocess : ProcessSpec.Refuses first e) :
      Refuses args e

/-- Up to one argument there is nothing to read. -/
theorem parse_of_length_le (h : args.length ≤ 1) : parse args = .ok .noArguments := by
  match args, h with
  | [], _ => rfl
  | [_], _ => rfl

/-- With more arguments than one, all but the first one are read. -/
theorem parse_of_lt_length (h : 1 < args.length) :
    parse args = ((readArguments args).mapError .invalidArguments).bind fun c =>
      if c.switches.contains .help then .ok .help else (Options.ofCommandLine c).map .run := by
  rcases args with _ | ⟨program, _ | ⟨first, rest⟩⟩
  · exact absurd h (by decide)
  · exact absurd h (Nat.lt_irrefl 1)
  · rw [readArguments_cons, parse]
    · cases CommandLine.parse ((first :: rest).map Switch.normalize) <;> rfl
    · exact nofun

/-- Arguments with a wrong switch are refused. -/
theorem parse_of_readArguments_error {cause : UsageError} (h : 1 < args.length)
    (hread : readArguments args = .error cause) :
    parse args = .error (.invalidArguments cause) := by
  rw [parse_of_lt_length h, hread]
  rfl

/-- Arguments that can be read ask for help, or hold options. -/
theorem parse_of_readArguments_ok {c : CommandLine} (h : 1 < args.length)
    (hread : readArguments args = .ok c) :
    parse args = if c.switches.contains .help then .ok .help
      else (Options.ofCommandLine c).map .run := by
  rw [parse_of_lt_length h, hread]
  rfl

theorem map_run_eq_error_iff {options : Except Error Options} :
    options.map run = .error e ↔ options = .error e := by
  cases options <;> simp [Except.map]

theorem map_run_eq_ok_iff {options : Except Error Options} {o : Options} :
    options.map run = .ok (.run o) ↔ options = .ok o := by
  cases options <;> simp [Except.map]

/-- Options are refused for want of a process, or over the process. -/
theorem ofCommandLine_eq_error_iff {c : CommandLine} :
    Options.ofCommandLine c = .error e ↔
      (c.positionals = [] ∧ e = .invalidArguments .noProcess) ∨
        ∃ first addresses, c.positionals = first :: addresses ∧ ProcessSpec.Refuses first e := by
  rw [Options.ofCommandLine]
  cases c.positionals with
  | nil => simp [eq_comm]
  | cons first addresses =>
    simp only [← ProcessSpec.parse_eq_error_iff]
    cases hprocess : ProcessSpec.parse first <;> simp [Except.map, hprocess]

/-- **Reading a command line fails exactly with the errors it is refused with.** -/
theorem parse_eq_error_iff (h : 1 < args.length) : parse args = .error e ↔ Refuses args e := by
  constructor
  · intro he
    cases hread : readArguments args with
    | error cause =>
      rw [parse_of_readArguments_error h hread] at he
      obtain rfl := Except.error.inj he
      exact .switches hread
    | ok c =>
      rw [parse_of_readArguments_ok h hread] at he
      split at he
      · cases he
      · rename_i hhelp
        rw [Bool.not_eq_true] at hhelp
        rcases ofCommandLine_eq_error_iff.mp (map_run_eq_error_iff.mp he) with
          ⟨hnone, rfl⟩ | ⟨first, addresses, hfirst, hprocess⟩
        · exact .noProcess hread hhelp hnone
        · exact .process hread hhelp hfirst hprocess
  · have hrefused : ∀ {c : CommandLine}, readArguments args = .ok c →
        c.switches.contains .help = false → Options.ofCommandLine c = .error e →
          parse args = .error e := by
      intro c hread hhelp hoptions
      rw [parse_of_readArguments_ok h hread, hhelp, hoptions]
      rfl
    rintro (hread | ⟨hread, hhelp, hnone⟩ | ⟨hread, hhelp, hfirst, hprocess⟩)
    · exact parse_of_readArguments_error h hread
    · exact hrefused hread hhelp (ofCommandLine_eq_error_iff.mpr (.inl ⟨hnone, rfl⟩))
    · exact hrefused hread hhelp (ofCommandLine_eq_error_iff.mpr (.inr ⟨_, _, hfirst, hprocess⟩))

/-- With more arguments than one, help is asked for, the command line is refused, or it holds
options. -/
theorem parse_cases (h : 1 < args.length) :
    parse args = .ok .help ∨ (∃ e, parse args = .error e) ∨ ∃ o, parse args = .ok (.run o) := by
  cases hread : readArguments args with
  | error cause => exact .inr (.inl ⟨_, parse_of_readArguments_error h hread⟩)
  | ok c =>
    rw [parse_of_readArguments_ok h hread]
    split
    · exact .inl rfl
    · cases Options.ofCommandLine c with
      | error e => exact .inr (.inl ⟨e, rfl⟩)
      | ok o => exact .inr (.inr ⟨o, rfl⟩)

end Request

/-! ## Switches among the arguments -/

namespace Argument

/-- The switch that an argument is: normalized it starts with two dashes, and its name is that of a
switch. -/
def switch? (arg : String) : Option Switch :=
  match (Switch.normalize arg).toList with
  | '-' :: '-' :: rest => Switch.ofName? (.ofList (switchName ('-' :: '-' :: rest)))
  | _ => none

/-- The arguments that are no switches. -/
def plain (args : List String) : List String :=
  args.filter fun arg => (switch? arg).isNone

/-- The number of times that a switch is among the arguments. -/
def occurrences (s : Switch) (args : List String) : Nat :=
  args.countP fun arg => switch? arg = some s

/-- A form of a switch is that switch. -/
theorem switch?_of_ofForm? (h : Switch.ofForm? arg = some s) : switch? arg = some s := by
  have hlong : Switch.normalize arg = s.long := by rw [Switch.normalize, h]
  unfold switch?
  rw [hlong]
  cases s <;> decide

/-- An argument that is no switch is left as it is. -/
theorem normalize_of_plain (h : switch? arg = none) : Switch.normalize arg = arg := by
  cases hform : Switch.ofForm? arg with
  | none => rw [Switch.normalize, hform]
  | some s =>
    rw [switch?_of_ofForm? hform] at h
    cases h

/-- A switch is classified as that switch. -/
theorem classify_of_switch (h : switch? arg = some s) :
    classify (Switch.normalize arg) = .switch s := by
  unfold switch? at h
  split at h
  · rename_i rest htext
    unfold classify
    rw [htext]
    cases rest with
    | nil => exact absurd h (by cases s <;> decide)
    | cons c rest => simp only [h]
  · cases h

/-- An argument that is no switch is unexpected, or counts by its position as it is. -/
theorem classify_of_plain (h : switch? arg = none) (hend : arg ≠ "--") :
    (∃ shown, classify arg = .unexpected shown) ∨ classify arg = .positional arg := by
  have hnorm := normalize_of_plain h
  unfold switch? at h
  rw [hnorm] at h
  unfold classify
  split
  · rename_i htext
    exact absurd (String.toList_inj.mp htext) hend
  · rename_i htext
    simp only [htext] at h
    simp only [htext, h]
    exact .inl ⟨_, rfl⟩
  · exact .inl ⟨_, rfl⟩
  · exact .inr rfl

/-! ### Lists of arguments -/

theorem plain_cons_of_switch (h : switch? arg = some s) (args : List String) :
    plain (arg :: args) = plain args := by
  rw [plain, List.filter_cons_of_neg (by simp [h]), plain]

theorem plain_cons_of_plain (h : switch? arg = none) (args : List String) :
    plain (arg :: args) = arg :: plain args := by
  rw [plain, List.filter_cons_of_pos (by simp [h]), plain]

/-- The switches of the arguments hold each switch as often as it occurs. -/
theorem count_filterMap_switch? (s : Switch) (args : List String) :
    (args.filterMap switch?).count s = occurrences s args := by
  rw [List.count_filterMap, occurrences]
  exact List.countP_congr fun arg _ => by simp

/-- A switch is among the switches of the arguments if it occurs. -/
theorem contains_filterMap_switch? (s : Switch) (args : List String) :
    (args.filterMap switch?).contains s = decide (0 < occurrences s args) := by
  rw [← count_filterMap_switch?, List.contains_eq_mem, decide_eq_decide, List.count_pos_iff]

/-- There are no arguments if there are no plain ones and no switches. -/
theorem eq_nil_iff : args = [] ↔ plain args = [] ∧ ∀ s, occurrences s args = 0 := by
  cases args with
  | nil => simp [plain, occurrences]
  | cons arg rest =>
    refine ⟨nofun, fun ⟨hplain, hcount⟩ => ?_⟩
    cases hswitch : switch? arg with
    | some s => exact absurd (hcount s) (by simp [occurrences, hswitch])
    | none =>
      rw [plain_cons_of_plain hswitch] at hplain
      cases hplain

end Argument

/-! ## Sorting arguments -/

namespace CommandLine

open Argument (switch? plain occurrences)

/-- The switches and the plain arguments. -/
def sorted (args : List String) : CommandLine :=
  ⟨args.filterMap switch?, plain args⟩

/-- **Scanning sorts.**  It fails only if it fails on the plain arguments, and with the same error;
else it finds the switches and the plain arguments. -/
theorem scan_normalized (hend : "--" ∉ args) :
    scan (args.map Switch.normalize) = (scan (plain args)).map fun _ => sorted args := by
  induction args with
  | nil => rfl
  | cons arg rest ih =>
    obtain ⟨harg, hrest⟩ := not_or.mp (mt List.mem_cons.mpr hend)
    rw [List.map_cons, sorted]
    cases hswitch : switch? arg with
    | some s =>
      rw [scan, Argument.classify_of_switch hswitch, Argument.plain_cons_of_switch hswitch,
        List.filterMap_cons_some hswitch]
      simp only [ih hrest]
      cases scan (plain rest) <;> rfl
    | none =>
      rw [Argument.normalize_of_plain hswitch, Argument.plain_cons_of_plain hswitch,
        List.filterMap_cons_none hswitch]
      rcases Argument.classify_of_plain hswitch (Ne.symm harg) with ⟨shown, hshown⟩ | htext
      · simp only [scan, hshown]
        rfl
      · simp only [scan, htext, ih hrest]
        cases scan (plain rest) <;> rfl

/-- If only one switch can be given more than once, that one is found. -/
theorem repeated?_eq_some_iff
    (hone : ∀ s t, 1 < c.switches.count s → 1 < c.switches.count t → s = t) :
    c.repeated? = some s ↔ 1 < c.switches.count s := by
  have hall : ∀ s, s ∈ Switch.all := by
    intro s
    cases s <;> decide
  constructor
  · intro h
    simpa using List.find?_some h
  · intro h
    cases hfound : c.repeated? with
    | none => exact absurd h (by simpa using List.find?_eq_none.mp hfound s (hall s))
    | some t => rw [hone s t h (by simpa using List.find?_some hfound)]

/-- The repeated switch is known from how often each one occurs. -/
theorem repeated?_sorted (hcount : ∀ s, occurrences s args = occurrences s args')
    (hone : ∀ s t, 1 < occurrences s args → 1 < occurrences t args → s = t) :
    (sorted args).repeated? = (sorted args').repeated? := by
  ext s
  rw [repeated?_eq_some_iff, repeated?_eq_some_iff]
  · simp only [sorted, Argument.count_filterMap_switch?, hcount]
  · simpa only [sorted, Argument.count_filterMap_switch?, ← hcount] using hone
  · simpa only [sorted, Argument.count_filterMap_switch?] using hone

/-- Arguments that can be read come sorted. -/
theorem eq_sorted_of_parse (hend : "--" ∉ args) (h : parse (args.map Switch.normalize) = .ok c) :
    c = sorted args := by
  rw [parse, scan_normalized hend] at h
  cases hscan : scan (plain args) with
  | error e =>
    rw [hscan] at h
    cases h
  | ok _ =>
    simp only [hscan, Except.map] at h
    split at h
    · cases h
    · exact (Except.ok.inj h).symm

/-- Arguments with the same plain ones, and each switch as often, are refused with the same error,
or can both be read. -/
theorem parse_congr (hend : "--" ∉ args) (hend' : "--" ∉ args') (hplain : plain args = plain args')
    (hcount : ∀ s, occurrences s args = occurrences s args')
    (hone : ∀ s t, 1 < occurrences s args → 1 < occurrences t args → s = t) :
    (∃ cause, parse (args.map Switch.normalize) = .error cause ∧
      parse (args'.map Switch.normalize) = .error cause) ∨
    (parse (args.map Switch.normalize) = .ok (sorted args) ∧
      parse (args'.map Switch.normalize) = .ok (sorted args')) := by
  rw [parse, parse, scan_normalized hend, scan_normalized hend', hplain]
  cases scan (plain args') with
  | error cause => exact .inl ⟨cause, rfl, rfl⟩
  | ok _ =>
    simp only [Except.map, repeated?_sorted hcount hone]
    cases (sorted args').repeated? with
    | some s => exact .inl ⟨.repeated s.name, rfl, rfl⟩
    | none => exact .inr ⟨rfl, rfl⟩

end CommandLine

/-! ## Order of the arguments -/

namespace Request

open Argument (switch? plain occurrences)

/-- The options are known from the plain arguments and from how often each switch occurs. -/
theorem ofCommandLine_sorted (hplain : plain args = plain args')
    (hcount : ∀ s, occurrences s args = occurrences s args') :
    Options.ofCommandLine (.sorted args) = Options.ofCommandLine (.sorted args') := by
  simp only [Options.ofCommandLine, CommandLine.sorted, Argument.contains_filterMap_switch?, hplain,
    hcount]

/-- What sorted arguments hold. -/
theorem holds_of_ofCommandLine_sorted {o : Options}
    (h : Options.ofCommandLine (.sorted args) = .ok o) :
    ∃ first, plain args = first :: o.addresses ∧ ProcessSpec.parse first = .ok o.process ∧
      (o.verbose = true ↔ ∃ arg ∈ args, switch? arg = some .verbose) ∧
      (o.once = true ↔ ∃ arg ∈ args, switch? arg = some .once) := by
  rw [Options.ofCommandLine] at h
  cases hplain : plain args with
  | nil =>
    simp only [CommandLine.sorted, hplain] at h
    cases h
  | cons first addresses =>
    simp only [CommandLine.sorted, hplain] at h
    cases hprocess : ProcessSpec.parse first with
    | error e =>
      rw [hprocess] at h
      cases h
    | ok process =>
      rw [hprocess] at h
      obtain rfl := Except.ok.inj h
      refine ⟨first, rfl, hprocess, ?_, ?_⟩ <;> simp

/-- A run has the options of the sorted arguments. -/
theorem ofCommandLine_of_run {program : String} {o : Options} (hend : "--" ∉ args)
    (h : parse (program :: args) = .ok (.run o)) :
    Options.ofCommandLine (.sorted args) = .ok o := by
  by_cases hnil : args = []
  · rw [hnil] at h
    cases h
  · have hlength : 1 < (program :: args).length :=
      Nat.succ_lt_succ (List.length_pos_iff.mpr hnil)
    cases hread : readArguments (program :: args) with
    | error cause =>
      rw [parse_of_readArguments_error hlength hread] at h
      cases h
    | ok c =>
      obtain rfl : c = .sorted args := by
        rw [readArguments_cons] at hread
        exact CommandLine.eq_sorted_of_parse hend hread
      rw [parse_of_readArguments_ok hlength hread] at h
      split at h
      · cases h
      · exact map_run_eq_ok_iff.mp h

/-- The order and the forms of switches make no difference. -/
theorem parse_congr (program : String) (hend : "--" ∉ args) (hend' : "--" ∉ args')
    (hplain : plain args = plain args') (hcount : ∀ s, occurrences s args = occurrences s args')
    (hone : ∀ s t, 1 < occurrences s args → 1 < occurrences t args → s = t) :
    parse (program :: args) = parse (program :: args') := by
  have hnil : args = [] ↔ args' = [] := by
    rw [@Argument.eq_nil_iff args, @Argument.eq_nil_iff args', hplain]
    simp only [hcount]
  by_cases h : args = []
  · rw [h, hnil.mp h]
  · have hlength : 1 < (program :: args).length :=
      Nat.succ_lt_succ (List.length_pos_iff.mpr h)
    have hlength' : 1 < (program :: args').length :=
      Nat.succ_lt_succ (List.length_pos_iff.mpr (mt hnil.mpr h))
    rcases CommandLine.parse_congr hend hend' hplain hcount hone with
      ⟨cause, hread, hread'⟩ | ⟨hread, hread'⟩ <;>
    rw [← readArguments_cons program] at hread hread'
    · rw [parse_of_readArguments_error hlength hread, parse_of_readArguments_error hlength' hread']
    · rw [parse_of_readArguments_ok hlength hread, parse_of_readArguments_ok hlength' hread']
      simp only [CommandLine.sorted, Argument.contains_filterMap_switch?, hcount]
      rw [← CommandLine.sorted, ← CommandLine.sorted, ofCommandLine_sorted hplain hcount]

/-- **Switches may stand anywhere.**  Arguments without the mark `--` that have the same plain
arguments in the same order, and each switch equally often, at most one of them more than once, ask
for the same.  If that is a run, the first plain argument is the process, the others are the
addresses, and a switch is on exactly if it is there. -/
theorem switches_stand_anywhere (program : String) (hend : "--" ∉ args) (hend' : "--" ∉ args')
    (hplain : plain args = plain args') (hcount : ∀ s, occurrences s args = occurrences s args')
    (hone : ∀ s t, 1 < occurrences s args → 1 < occurrences t args → s = t) :
    parse (program :: args) = parse (program :: args') ∧
    ∀ o, parse (program :: args) = .ok (.run o) →
      ∃ first, plain args = first :: o.addresses ∧ ProcessSpec.parse first = .ok o.process ∧
        (o.verbose = true ↔ ∃ arg ∈ args, switch? arg = some .verbose) ∧
        (o.once = true ↔ ∃ arg ∈ args, switch? arg = some .once) := by
  refine ⟨parse_congr program hend hend' hplain hcount hone, fun o ho => ?_⟩
  have hoptions := ofCommandLine_of_run hend ho
  exact holds_of_ofCommandLine_sorted hoptions

/-- Switches in front, in short, and behind, in long. -/
theorem switches_in_two_orders :
    parse ["trainer", "/v", "game.exe", "+10=1", "/O"] =
        parse ["trainer", "game.exe", "--once=x", "+10=1", "--VERBOSE"] ∧
      parse ["trainer", "/v", "game.exe", "+10=1", "/O"] =
        .ok (.run ⟨.name "game.exe", true, true, ["+10=1"]⟩) := by
  have hshort : switch? "/v" = some .verbose ∧ switch? "/O" = some .once := by decide +kernel
  have hlong : switch? "--VERBOSE" = some .verbose ∧ switch? "--once=x" = some .once := by
    decide +kernel
  have hrest : switch? "game.exe" = none ∧ switch? "+10=1" = none := by decide +kernel
  refine ⟨(switches_stand_anywhere "trainer" (by decide) (by decide) ?_ (fun s => ?_)
    (fun s t hs => ?_)).1, by decide +kernel⟩
  · simp [plain, hshort, hlong, hrest]
  · cases s <;> simp [occurrences, hshort, hlong, hrest]
  · cases s <;> simp [occurrences, hshort, hrest] at hs

end Request

end MemWatch
