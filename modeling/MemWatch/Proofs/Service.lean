/-
# Work on a process that was opened

Once a process is open and was found running, nothing that fails in it ends the program with an
error.  In a watch a failed access costs one entry one line; the name of the process is replaced by
what the process was called by; a summary leaves out what it cannot have.  Errors are followed here
through the process, the cycle, the monitor or the summary, and up to the exit code.

Main statement: a watch ends with code 0, and every cycle has a line for every entry, on a terminal
as elsewhere; a summary ends with code 0 if it is complete, and with code 5 otherwise.
-/
import MemWatch.Proofs.ExitCodes
import MemWatch.Proofs.Lifespans
import MemWatch.Proofs.ReadingLines
import MemWatch.Proofs.Summaries

namespace MemWatch

/-! ## Accepted addresses -/

/-- A set comes from a list exactly if the list is its own. -/
theorem EntrySet.ofList_eq_ok_iff {entries : List Entry} {set : EntrySet} :
    ofList entries = .ok set ↔ entries = set.toList := by
  rcases set with ⟨own, hown⟩
  unfold ofList
  split
  case h_1 =>
    rw [Except.ok.injEq, EntrySet.mk.injEq]
  case h_2 e hdefect =>
    constructor
    · intro h
      injection h
    · rintro rfl
      injection hown.symm.trans hdefect

/-- A set is read from tokens exactly if its entries are read from them. -/
theorem EntrySet.parse_eq_ok_iff {tokens : List String} {set : EntrySet} :
    parse tokens = .ok set ↔ parseEntries tokens = .ok set.toList := by
  unfold parse
  cases parseEntries tokens with
  | error e => exact ⟨nofun, nofun⟩
  | ok entries =>
    rw [Except.ok.injEq]
    exact ofList_eq_ok_iff

/-- A set that was read has an entry for each token. -/
theorem EntrySet.length_of_parse {tokens : List String} {set : EntrySet}
    (h : parse tokens = .ok set) : set.toList.length = tokens.length :=
  (parseEntries_eq_ok_iff.mp (parse_eq_ok_iff.mp h)).length_eq.symm

/-! ## What a cycle shows -/

/-- The lines of a cycle: the header, and for every entry the line of its reading.  The readings are
made in order after all writes; the line of one that failed ends in two question marks, and no other
does. -/
def Monitor.ShowsFailures {σ : Type} [Target σ] (m : Monitor) (s : Scene σ) : Prop :=
  ∃ readings t, EntrySet.Reads m.entries.numbered (m.entries.writeAll m.entries.numbered s).2
      readings t ∧
    readings.map (fun r => (r.id, r.entry)) = m.entries.numbered ∧
    m.shown s = m.header :: readings.map Reading.line ∧
    ∀ r ∈ readings, (∃ e, r.result = .error e) ↔ ∃ front, r.line = front ++ "=??"

/-- Every cycle shows a line for every entry. -/
theorem Monitor.showsFailures {σ : Type} [Target σ] {m : Monitor} (hheader : m.header ≠ "")
    (s : Scene σ) : m.ShowsFailures s := by
  have hreads := m.entries.reads_cycle s
  refine ⟨_, _, hreads, hreads.map_eq, ?_, fun r _ => r.exists_error_iff⟩
  have hempty : m.header.isEmpty = false := by simpa [String.isEmpty_iff] using hheader
  rw [shown, lines, hempty]
  rfl

namespace Program

variable {args : List String} {m : Machine} {o : Options} {entries : EntrySet} {p : ProcessHandle}
  {opened : Scene Machine}

/-! ## The name of the process -/

/-- The name that a process is shown by: what it was called by on the command line, if it has none
to give. -/
def shownName (spec : ProcessSpec) (s : Attached) : String :=
  match (Attached.name s).1 with
  | .ok name => name
  | .error _ => spec.text

/-- Asking for the name changes nothing about the process. -/
theorem displayName_eq (spec : ProcessSpec) (s : Scene Attached) :
    (displayName spec s).1 = shownName spec s.target ∧
      (displayName spec s).2.target = s.target := by
  have hasked : ((ask Described.name : Attempt Attached String).outcome s) =
      ((Attached.name s.target).1, ⟨s.target, s.log ++
        (resultNotes (Attached.name s.target).1).toArray, s.calls⟩) := rfl
  unfold displayName shownName
  rw [Action.bind_run, hasked]
  cases (Attached.name s.target).1 <;> exact ⟨rfl, rfl⟩

/-- The monitor of a watch, which draws in place if it shows more than one cycle on a terminal. -/
def monitorOf (o : Options) (entries : EntrySet) (terminal : Bool) (s : Attached) : Monitor where
  entries
  header := header (shownName o.process s) s.process.pid
  once := o.once
  redraw := !o.once && terminal
  cancel := some {}

/-- A header is never empty. -/
theorem header_ne_empty (name : String) (pid : ProcessId) : header name pid ≠ "" := by
  intro h
  have hlength := congrArg String.length h
  simp [header] at hlength

/-! ## Watches and summaries -/

/-- **Watches.**  A watch whose monitor stops ends well, and has shown every cycle. -/
theorem watchProcess_eq (entries : EntrySet) (terminal : Bool) {s : Scene Attached}
    (hstops : o.once = true ∨ s.target.EndsWithin (Target.lifetime s.target)) :
    let monitor := monitorOf o entries terminal s.target
    ∃ first starts last, first.target = s.target ∧ monitor.Watches first starts last ∧
      (watchProcess o entries terminal s).1.code = .ok .success ∧
      (watchProcess o entries terminal s).1.output.bytes =
        .ofString (monitor.texts 0 (starts.map monitor.shown)) := by
  intro monitor
  obtain ⟨hname, htarget⟩ := displayName_eq o.process s
  have hwatches : ∃ starts last, monitor.Watches (displayName o.process s).2 starts last ∧
      starts.length ≤ Target.lifetime (displayName o.process s).2.target + 1 := by
    rcases hstops with honce | hends
    · exact ⟨_, _, Monitor.watches_of_once honce _, Nat.le_add_left 1 _⟩
    · rw [← htarget] at hends
      exact Monitor.exists_watches Attached.lifespan_endsWithin _ hends
  obtain ⟨starts, last, hstarts, hlength⟩ := hwatches
  obtain ⟨after, hrun, hbytes⟩ := hstarts.runSteps_eq _ {} hlength rfl rfl 0
  refine ⟨_, starts, last, htarget, hstarts, ?_⟩
  have hmonitor : monitor.run {} (displayName o.process s).2 = _ := hrun
  have hsame : monitorFor o entries terminal (header (displayName o.process s).1
      (displayName o.process s).2.target.process.pid) = monitor := by
    rw [hname, htarget]
    rfl
  have hget (t : Scene Attached) : (get : Action Attached _) t = (t, t) := rfl
  unfold watchProcess
  simp only [Action.bind_run, hget, hsame, hmonitor]
  exact ⟨rfl, hbytes⟩

/-- **Summaries.**  A summary ends well, with the code for whether it is complete. -/
theorem summarizeProcess_eq (now : Instant) (s : Scene Attached) :
    (summarizeProcess now s).1.code =
      .ok (if (Summary.answersOn (Summary.questions now) s.target).all Summary.Property.isKnown then
        .success else .accessError) := by
  obtain ⟨out, hout⟩ := summarize_eq now s
  unfold summarizeProcess
  rw [Action.bind_run, hout]
  cases (Summary.answersOn (Summary.questions now) s.target).all Summary.Property.isKnown <;> rfl

/-! ## Attaching -/

/-- The command line is accepted, and the process that it names opens and is found running. -/
structure Serves (args : List String) (m : Machine) (o : Options) (entries : EntrySet)
    (p : ProcessHandle) (opened : Scene Machine) : Prop where
  parse : Request.parse args = .ok (.run o)
  addresses : EntrySet.parse o.addresses = .ok entries
  opens : (openProcess o.process).outcome { target := m } = (.ok p, opened)
  alive : (Target.poll (⟨opened.target, p⟩ : Attached)).1 = .ok true

/-- The process as it is after it was found running. -/
def found (p : ProcessHandle) (opened : Scene Machine) : Attached :=
  (Target.poll (⟨opened.target, p⟩ : Attached)).2

/-- The scene on which the process was found running. -/
def start (p : ProcessHandle) (opened : Scene Machine) : Scene Attached :=
  (isAlive (⟨⟨opened.target, p⟩, opened.log, opened.calls⟩ : Scene Attached)).2

/-- The process of this scene. -/
theorem target_start (p : ProcessHandle) (opened : Scene Machine) :
    (start p opened).target = found p opened :=
  (isAlive_eq _).2

/-- The exit code and the output are those of the work on the process. -/
theorem Serves.run_eq (h : Serves args m o entries p opened) (now : Instant) (terminal : Bool) :
    let work := if entries.isEmpty then summarizeProcess now else watchProcess o entries terminal
    (run args now (.machine m terminal)).output = (work (start p opened)).1.output ∧
      ∀ code, (work (start p opened)).1.code = .ok code →
        (run args now (.machine m terminal)).code = code := by
  intro work
  have hserve : serve o entries now terminal ⟨⟨opened.target, p⟩, opened.log, opened.calls⟩ =
      work (start p opened) := by
    have halive := (isAlive_eq (⟨⟨opened.target, p⟩, opened.log, opened.calls⟩ :
      Scene Attached)).1.mpr h.alive
    unfold serve
    rw [Action.bind_run, halive]
    rfl
  have hattach : p.attach (serve o entries now terminal) opened =
      ((work (start p opened)).1, (p.attach (serve o entries now terminal) opened).2) := by
    rw [← hserve]
    rfl
  generalize (work (start p opened)).1 = r at hattach ⊢
  -- what is reported and closed afterwards adds words only
  have hends : (runOnMachine o entries now terminal { target := m }).1.2.1 = r.output ∧
      ∀ code, r.code = .ok code →
        (runOnMachine o entries now terminal { target := m }).1.1 = code := by
    unfold runOnMachine
    rw [Action.bind_run, h.opens]
    dsimp only
    rw [Action.bind_run, hattach]
    cases r.code with
    | ok code => exact ⟨rfl, fun _ hcode => Except.ok.inj hcode⟩
    | error e => exact ⟨rfl, fun _ hcode => absurd hcode nofun⟩
  simp only [run, h.parse, runOptions, h.addresses, runWith]
  exact hends

/-- **Failures in a watch and in a summary.**  Let the command line be accepted, and let the process
open and be found running on a machine where any access to memory and any question for the base may
fail.  With addresses, once the monitor stops, because it runs only once or because the process is
found gone at some time, the exit code is 0; the output is that of the cycles until then, drawn in
place if there may be more than one of them on a terminal, and else one below the other.  Each cycle
has a line for every entry, and the lines of those that failed, and no others, end in two question
marks.  Without addresses the exit code is 0 if every property could be had, and else 5. -/
theorem failures_are_absorbed (args : List String) (m : Machine) (o : Options) (entries : EntrySet)
    (p : ProcessHandle) (opened : Scene Machine) (h : Serves args m o entries p opened)
    (now : Instant) (terminal : Bool) :
    let monitor := monitorOf o entries terminal (found p opened)
    (o.addresses ≠ [] → o.once = true ∨ (found p opened).IsFoundGone →
      (run args now (.machine m terminal)).code.toNat = 0 ∧
      ∃ first starts last, first.target = found p opened ∧ monitor.Watches first starts last ∧
        (run args now (.machine m terminal)).output.bytes = .ofString
          (if !o.once && terminal then Monitor.drawnTexts 0 (starts.map monitor.shown)
          else Monitor.plainTexts (starts.map monitor.shown)) ∧
        ∀ s ∈ starts, monitor.ShowsFailures s) ∧
    (o.addresses = [] →
      (run args now (.machine m terminal)).code.toNat =
        if (Summary.answersOn (Summary.questions now) (found p opened)).all
          Summary.Property.isKnown then 0 else 5) := by
  intro monitor
  obtain ⟨houtput, hcode⟩ := h.run_eq now terminal
  have htarget := target_start p opened
  have hlength := EntrySet.length_of_parse h.addresses
  constructor
  · intro hsome hstops
    have hnonempty : entries.isEmpty = false := by
      rw [EntrySet.isEmpty, List.isEmpty_eq_false_iff, ← List.length_pos_iff, hlength]
      exact List.length_pos_iff.mpr hsome
    have hends : o.once = true ∨ (start p opened).target.EndsWithin
        (Target.lifetime (start p opened).target) := by
      refine hstops.imp_right fun hgone => ?_
      obtain ⟨q, hq⟩ := Attached.exists_record?_of_poll h.alive
      obtain ⟨r, hr⟩ := Attached.exists_record?_after_poll hq
      rw [htarget]
      exact hgone.endsWithin hr
    obtain ⟨first, starts, last, hfirst, hwatches, hwork, hbytes⟩ :=
      watchProcess_eq entries terminal hends
    rw [hnonempty] at houtput hcode
    rw [htarget] at hfirst hwatches hbytes
    refine ⟨?_, first, starts, last, hfirst, hwatches, ?_, fun t _ => ?_⟩
    · rw [hcode _ hwork]
      rfl
    · rw [houtput]
      exact hbytes
    · exact Monitor.showsFailures (header_ne_empty _ _) t
  · intro hnone
    have hempty : entries.isEmpty = true := by
      rw [EntrySet.isEmpty, List.isEmpty_iff_length_eq_zero, hlength, hnone]
      rfl
    have hwork := summarizeProcess_eq now (start p opened)
    rw [hempty] at hcode
    rw [hcode _ hwork, htarget]
    split <;> rfl

/-- A process without a name, found running twice, of whose memory four bytes are mapped; the first
access to it fails even so. -/
def nameless : Machine where
  processes := [{
    pid := 7
    name := .error .accessDenied
    pollsLeft := 2
    memory := Memory.empty.store (.ofNat 0x1000) [5, 0, 0, 0] }]
  trouble.access accesses := if accesses = 0 then some (.fails .accessDenied) else none

/-- The options of a run on that process. -/
def namelessOptions (addresses : List String) : Options where
  process := .id 7
  verbose := false
  once := false
  addresses

/-- Two addresses, only one of them mapped. -/
def namelessEntries : EntrySet where
  toList := [⟨false, 0, .i32, .ofNat 0x1000, none⟩, ⟨false, 0, .i32, .ofNat 0x2000, none⟩]
  sound := by cbv

/-- In a watch the process is shown as it was asked for, the access that failed costs its line in the
first cycle alone, the address that is not mapped costs its line in both, and all ends well once the
process is gone, on a terminal as elsewhere.  A summary without the name is not complete. -/
theorem nameless_is_served :
    (∃ p opened, Serves ["memwatch", "7", "1000", "2000"] nameless
        (namelessOptions ["1000", "2000"]) namelessEntries p opened ∧
      (found p opened).IsFoundGone ∧
      (∀ terminal, (run ["memwatch", "7", "1000", "2000"] ⟨0, 0⟩
        (.machine nameless terminal)).code.toNat = 0) ∧
      (run ["memwatch", "7", "1000", "2000"] ⟨0, 0⟩ (.machine nameless)).output.bytes = .ofString
        "7(7)\nR1 1000=??\nR2 2000=??\n7(7)\nR1 0x00001000=5\nR2 2000=??\n" ∧
      (run ["memwatch", "7", "1000", "2000"] ⟨0, 0⟩ (.machine nameless true)).output.bytes =
        .ofString ("\x1b[2J\x1b[1;1H7(7)\x1b[K\nR1 1000=??\x1b[K\nR2 2000=??\x1b[K\n" ++
          "\x1b[1;1H7(7)\x1b[K\nR1 0x00001000=5\x1b[K\nR2 2000=??\x1b[K\n")) ∧
    ∃ p opened, Serves ["memwatch", "7"] nameless (namelessOptions []) .empty p opened ∧
      (run ["memwatch", "7"] ⟨0, 0⟩ (.machine nameless)).code.toNat = 5 := by
  constructor
  · have hentries : EntrySet.parse ["1000", "2000"] = .ok namelessEntries :=
      EntrySet.parse_eq_ok_iff.mpr (by cbv)
    have hserves : Serves ["memwatch", "7", "1000", "2000"] nameless
        (namelessOptions ["1000", "2000"]) namelessEntries ⟨7, 256, .eight⟩
        ((openProcess (.id 7)).outcome { target := nameless }).2 :=
      ⟨by decide +kernel, hentries, rfl, rfl⟩
    have hgone : (found ⟨7, 256, .eight⟩
        ((openProcess (.id 7)).outcome { target := nameless }).2).IsFoundGone :=
      ⟨1, by decide +kernel⟩
    have hcode (terminal : Bool) := ((failures_are_absorbed _ _ _ _ _ _ hserves ⟨0, 0⟩ terminal).1
      (List.cons_ne_nil _ _) (.inr hgone)).1
    refine ⟨_, _, hserves, hgone, hcode, ?_, ?_⟩
    · rw [(hserves.run_eq ⟨0, 0⟩ false).1]
      decide +kernel
    · rw [(hserves.run_eq ⟨0, 0⟩ true).1]
      decide +kernel
  · have hserves : Serves ["memwatch", "7"] nameless (namelessOptions []) .empty ⟨7, 256, .eight⟩
        ((openProcess (.id 7)).outcome { target := nameless }).2 :=
      ⟨by decide +kernel, rfl, rfl, rfl⟩
    refine ⟨_, _, hserves, ?_⟩
    rw [(failures_are_absorbed _ _ _ _ _ _ hserves ⟨0, 0⟩ false).2 rfl]
    decide +kernel

end Program

end MemWatch
