/-
# Exit codes

The exit code of a run is decided layer by layer: by the number of arguments, by the switches, by
the process that is named, by the address expressions and their references, and only then by what
becomes of attaching to the process.  Every layer has its own errors, and nothing is asked of a
machine before the last one.

Main statement: the exit code of every command line where processes are out of reach; and a command
line that does not get as far as the last layer ends the same way everywhere, and leaves a machine
as it is.
-/
import MemWatch.Program
import MemWatch.Proofs.CommandLines
import MemWatch.Proofs.References

namespace MemWatch

open Relation

variable {args : List String} {o : Options} {e : Error}

/-! ## Tokens that make no entry set -/

namespace EntrySet

variable {tokens : List String} {entries : List Entry}

/-- Some token is no entry, or they all are and one of their references names no entry or is part of
a loop. -/
def Unreadable (tokens : List String) : Prop :=
  (∃ token ∈ tokens, ∃ fault, Entry.parse token = .error fault) ∨
    ∃ entries, List.Forall₂ (fun token e => Entry.parse token = .ok e) tokens entries ∧
      ((∃ i r, IsDangling entries i r) ∨ ∃ i, TransGen (RefersTo entries) i i)

/-- Reading tokens fails only over one that is no entry. -/
theorem exists_fault_of_parseEntries (h : parseEntries tokens = .error e) :
    ∃ token ∈ tokens, ∃ fault, Entry.parse token = .error fault ∧ e = .parse token fault := by
  induction tokens with
  | nil => injection h
  | cons token rest ih =>
    rw [parseEntries] at h
    cases htoken : Entry.parse token with
    | error fault =>
      rw [htoken] at h
      exact ⟨token, List.mem_cons_self, fault, htoken, (Except.error.inj h).symm⟩
    | ok entry =>
      rw [htoken] at h
      cases hrest : parseEntries rest with
      | error e' =>
        rw [hrest] at h
        obtain rfl : e' = e := Except.error.inj h
        obtain ⟨bad, hmem, hbad⟩ := ih hrest
        exact ⟨bad, List.mem_cons_of_mem _ hmem, hbad⟩
      | ok entries =>
        rw [hrest] at h
        injection h

/-- Tokens are read exactly as the entries that they are one by one. -/
theorem parseEntries_eq_ok_iff :
    parseEntries tokens = .ok entries ↔
      List.Forall₂ (fun token e => Entry.parse token = .ok e) tokens entries := by
  refine ⟨fun h => ?_, parseEntries_ok⟩
  induction tokens generalizing entries with
  | nil =>
    obtain rfl : [] = entries := Except.ok.inj h
    exact .nil
  | cons token rest ih =>
    rw [parseEntries] at h
    cases htoken : Entry.parse token with
    | error fault =>
      rw [htoken] at h
      injection h
    | ok entry =>
      rw [htoken] at h
      cases hrest : parseEntries rest with
      | error e =>
        rw [hrest] at h
        injection h
      | ok tail =>
        rw [hrest] at h
        obtain rfl : entry :: tail = entries := Except.ok.inj h
        exact .cons htoken (ih hrest)

/-- Reading tokens fails exactly if one of them is no entry. -/
theorem parseEntries_fails_iff :
    (∃ e, parseEntries tokens = .error e) ↔
      ∃ token ∈ tokens, ∃ fault, Entry.parse token = .error fault := by
  constructor
  · rintro ⟨e, he⟩
    obtain ⟨token, hmem, fault, hfault, -⟩ := exists_fault_of_parseEntries he
    exact ⟨token, hmem, fault, hfault⟩
  · rintro ⟨token, hmem, fault, hfault⟩
    cases hread : parseEntries tokens with
    | error e => exact ⟨e, rfl⟩
    | ok entries =>
      -- every token that was read is an entry, the faulty one included
      have hgood : List.Forall₂ (fun token e => (∃ e, Entry.parse token = .ok e) ∧
          Entry.parse token = .ok e) tokens entries :=
        (parseEntries_eq_ok_iff.mp hread).imp fun _ e he => ⟨⟨e, he⟩, he⟩
      obtain ⟨e, he⟩ := (List.forall₂_and_left _ _ |>.mp hgood).1 token hmem
      rw [hfault] at he
      exact absurd he nofun

/-- A list is refused exactly for its defect. -/
theorem ofList_eq_error_iff : ofList entries = .error e ↔ defect? entries = some e := by
  refine ⟨fun h => ?_, ofList_of_defect?_eq_some⟩
  cases hdefect : defect? entries with
  | none =>
    obtain ⟨set, hset, -⟩ := ofList_of_defect?_eq_none hdefect
    rw [hset] at h
    exact absurd h nofun
  | some e' =>
    rw [ofList_of_defect?_eq_some hdefect] at h
    exact congrArg some (Except.error.inj h)

/-- A list has a defect exactly if a reference leads beyond it or into a loop. -/
theorem exists_defect_iff :
    (∃ e, defect? entries = some e) ↔
      (∃ i r, IsDangling entries i r) ∨ ∃ i, TransGen (RefersTo entries) i i := by
  rw [← Option.isSome_iff_exists, Option.isSome_iff_ne_none, ne_eq, defect?_eq_none_iff,
    not_and_or]
  simp only [IsDangling, not_forall, not_not, Nat.not_le, exists_prop]

/-- Making a set of tokens fails over reading them or over the defect of their entries. -/
theorem parse_eq_error_iff :
    parse tokens = .error e ↔
      parseEntries tokens = .error e ∨
        ∃ entries, parseEntries tokens = .ok entries ∧ defect? entries = some e := by
  rw [parse]
  cases parseEntries tokens with
  | error e' => simp [Except.bind]
  | ok entries => simp [Except.bind, ofList_eq_error_iff]

/-- **Making a set fails exactly on unreadable tokens.** -/
theorem parse_fails_iff : (∃ e, parse tokens = .error e) ↔ Unreadable tokens := by
  simp only [parse_eq_error_iff, exists_or, parseEntries_fails_iff, Unreadable]
  refine or_congr_right ⟨?_, ?_⟩
  · rintro ⟨e, entries, hread, hdefect⟩
    exact ⟨entries, parseEntries_eq_ok_iff.mp hread, exists_defect_iff.mp ⟨e, hdefect⟩⟩
  · rintro ⟨entries, hread, hdefect⟩
    obtain ⟨e, he⟩ := exists_defect_iff.mpr hdefect
    exact ⟨e, entries, parseEntries_eq_ok_iff.mpr hread, he⟩

/-- A defect is an error in the arguments. -/
theorem ofError_defect (h : defect? entries = some e) : ExitCode.ofError e = .invalidArguments := by
  unfold defect? at h
  split at h
  · obtain rfl := Option.some.inj h
    rfl
  · obtain ⟨i, -, rfl⟩ := Option.map_eq_some_iff.mp h
    rfl

/-- Tokens that make no set are an error in the arguments. -/
theorem ofError_of_parse (h : parse tokens = .error e) :
    ExitCode.ofError e = .invalidArguments := by
  rcases parse_eq_error_iff.mp h with hread | ⟨entries, -, hdefect⟩
  · obtain ⟨token, -, fault, -, rfl⟩ := exists_fault_of_parseEntries hread
    rfl
  · exact ofError_defect hdefect

end EntrySet

/-! ## Runs that end before anything is attached to -/

/-- A command line is refused with errors in the arguments only. -/
theorem Request.ofError_of_refuses (h : Refuses args e) :
    ExitCode.ofError e = .invalidArguments := by
  rcases h with _ | _ | ⟨-, -, -, (_ | _)⟩ <;> rfl

namespace Program

/-- The command line fails, or it holds address expressions that cannot be read. -/
def Rejected (args : List String) : Prop :=
  (∃ e, Request.parse args = .error e) ∨
    ∃ o, Request.parse args = .ok (.run o) ∧ EntrySet.Unreadable o.addresses

/-- The diagnostics of reading the options and the address expressions. -/
def readingLines (o : Options) : String :=
  logLines o.verbose (.debug ("options: " ++ o.text) :: EntrySet.parseNotes o.addresses)

/-- A run ends in the same way wherever it takes place, and nothing changes there. -/
def EndsEarly (args : List String) (code : ExitCode) : Prop :=
  ∃ words, ∀ now host, run args now host = { code, errors := words, host }

/-- Without arguments the usage is shown. -/
theorem endsEarly_of_length_le (h : args.length ≤ 1) : EndsEarly args .noArguments := by
  refine ⟨line usage, fun now host => ?_⟩
  rw [run, Request.parse_of_length_le h]

/-- A request for help is answered with the usage. -/
theorem endsEarly_of_help (h : Request.parse args = .ok .help) : EndsEarly args .help := by
  refine ⟨line usage, fun now host => ?_⟩
  rw [run, h]

/-- A command line that fails is answered with its error. -/
theorem endsEarly_of_error (h : Request.parse args = .error e) :
    EndsEarly args .invalidArguments := by
  have hlength : 1 < args.length := by
    by_contra hle
    rw [Request.parse_of_length_le (Nat.not_lt.mp hle)] at h
    cases h
  refine ⟨errorLines e, fun now host => ?_⟩
  rw [run, h, ← Request.ofError_of_refuses ((Request.parse_eq_error_iff hlength).mp h)]

/-- Address expressions that cannot be read are answered with their error. -/
theorem endsEarly_of_unreadable (h : Request.parse args = .ok (.run o))
    (haddresses : EntrySet.Unreadable o.addresses) : EndsEarly args .invalidArguments := by
  obtain ⟨e, he⟩ := EntrySet.parse_fails_iff.mpr haddresses
  refine ⟨readingLines o ++ errorLines e, fun now host => ?_⟩
  rw [← EntrySet.ofError_of_parse he]
  simp only [run, h, runOptions, he, readingLines]

/-- A rejected command line is answered with an error in the arguments. -/
theorem endsEarly_of_rejected (h : Rejected args) : EndsEarly args .invalidArguments := by
  rcases h with ⟨e, he⟩ | ⟨o, ho, haddresses⟩
  · exact endsEarly_of_error he
  · exact endsEarly_of_unreadable ho haddresses

/-- The code of a run that ends early. -/
theorem EndsEarly.code_eq {code : ExitCode} (h : EndsEarly args code) (now : Instant)
    (host : Host) : (run args now host).code = code := by
  obtain ⟨words, hwords⟩ := h
  rw [hwords]

/-- A run that ends early on a machine is one where processes are out of reach, and the machine is
left as it was. -/
theorem EndsEarly.run_machine {code : ExitCode} (h : EndsEarly args code) (now now' : Instant)
    (m : Machine) (terminal : Bool) :
    run args now' (.machine m terminal) =
      { run args now .bare with host := .machine m terminal } := by
  obtain ⟨words, hwords⟩ := h
  rw [hwords, hwords]

/-- Where processes are out of reach, options with readable address expressions lead to the attempt
to attach. -/
theorem run_bare_of_readable (h : Request.parse args = .ok (.run o))
    (haddresses : ¬ EntrySet.Unreadable o.addresses) (now : Instant) :
    run args now .bare =
      { code := .noProcess
        errors := readingLines o ++ attachLines o.process .unsupported
        host := .bare } := by
  cases hset : EntrySet.parse o.addresses with
  | error e => exact absurd (EntrySet.parse_fails_iff.mp ⟨e, hset⟩) haddresses
  | ok set =>
    simp only [run, h, runOptions, hset, runWith, openBare, ExitCode.ofError, readingLines]

/-- What is said where processes are out of reach. -/
theorem attachLines_unsupported (spec : ProcessSpec) :
    attachLines spec .unsupported =
      "can't attach to process `" ++ spec.text ++ "`\n" ++
        "Caused by: process memory access is not supported on this platform\n" := by
  have hcause : causeLine (Error.message .unsupported) =
      "Caused by: process memory access is not supported on this platform\n" := by decide +kernel
  have hsource : sourceLines .unsupported = "" := rfl
  have hline : line ("can't attach to process `" ++ spec.text ++ "`") =
      "can't attach to process `" ++ spec.text ++ "`\n" := by
    rw [line, String.append_assoc]
    congr 1
  rw [attachLines, hline, hcause, hsource, String.append_empty]

/-- **Exit codes.**  Where processes are out of reach, the code is 1 without arguments, else 4 for a
request for help, else 2 for a command line that fails or holds unreadable address expressions, else
3, with words about the process that cannot be attached to; there is no other code.  Command lines
fail exactly over switches, a process that is missing, or one that names none.  In all cases but the
last one, code and words are the same on every machine, which is left as it was, with no call
made. -/
theorem exit_code_by_layers (args : List String) (now : Instant) :
    (args.length ≤ 1 → (run args now .bare).code.toNat = 1) ∧
    (1 < args.length → Request.parse args = .ok .help → (run args now .bare).code.toNat = 4) ∧
    (1 < args.length → Request.parse args ≠ .ok .help → Rejected args →
      (run args now .bare).code.toNat = 2) ∧
    (1 < args.length → Request.parse args ≠ .ok .help → ¬ Rejected args →
      (run args now .bare).code.toNat = 3 ∧
        ∃ o, Request.parse args = .ok (.run o) ∧
          (run args now .bare).errors =
            readingLines o ++ ("can't attach to process `" ++ o.process.text ++ "`\n" ++
              "Caused by: process memory access is not supported on this platform\n")) ∧
    (run args now .bare).code.toNat ∈ [1, 2, 3, 4] ∧
    (∀ e, Request.parse args = .error e ↔ 1 < args.length ∧ Request.Refuses args e) ∧
    (args.length ≤ 1 ∨ Request.parse args = .ok .help ∨ Rejected args → ∀ now' m terminal,
      run args now' (.machine m terminal) =
        { run args now .bare with host := .machine m terminal }) := by
  have hfew : args.length ≤ 1 → (run args now .bare).code.toNat = 1 := fun h => by
    rw [(endsEarly_of_length_le h).code_eq]
    rfl
  have hhelp : Request.parse args = .ok .help → (run args now .bare).code.toNat = 4 := fun h => by
    rw [(endsEarly_of_help h).code_eq]
    rfl
  have hrejected : Rejected args → (run args now .bare).code.toNat = 2 := fun h => by
    rw [(endsEarly_of_rejected h).code_eq]
    rfl
  have hattach : 1 < args.length → Request.parse args ≠ .ok .help → ¬ Rejected args →
      ∃ o, Request.parse args = .ok (.run o) ∧
        run args now .bare =
          { code := .noProcess
            errors := readingLines o ++ attachLines o.process .unsupported
            host := .bare } := by
    intro hlength hnohelp hnot
    rcases Request.parse_cases hlength with h | ⟨e, he⟩ | ⟨o, ho⟩
    · exact absurd h hnohelp
    · exact absurd (.inl ⟨e, he⟩) hnot
    · exact ⟨o, ho, run_bare_of_readable ho (fun h => hnot (.inr ⟨o, ho, h⟩)) now⟩
  refine ⟨hfew, fun _ => hhelp, fun _ _ => hrejected, fun hlength hnohelp hnot => ?_, ?_, ?_, ?_⟩
  · obtain ⟨o, ho, hrun⟩ := hattach hlength hnohelp hnot
    refine ⟨by rw [hrun]; rfl, o, ho, ?_⟩
    rw [hrun, attachLines_unsupported]
  · by_cases hlength : args.length ≤ 1
    · rw [hfew hlength]
      decide
    · by_cases hask : Request.parse args = .ok .help
      · rw [hhelp hask]
        decide
      · by_cases hreject : Rejected args
        · rw [hrejected hreject]
          decide
        · obtain ⟨o, -, hrun⟩ := hattach (Nat.not_le.mp hlength) hask hreject
          simp [hrun, ExitCode.toNat]
  · intro e
    by_cases hlength : 1 < args.length
    · rw [Request.parse_eq_error_iff hlength, and_iff_right hlength]
    · rw [Request.parse_of_length_le (Nat.not_lt.mp hlength)]
      simp [hlength]
  · rintro (h | h | h) now' m terminal
    · exact (endsEarly_of_length_le h).run_machine now now' m terminal
    · exact (endsEarly_of_help h).run_machine now now' m terminal
    · exact (endsEarly_of_rejected h).run_machine now now' m terminal

end Program

end MemWatch
