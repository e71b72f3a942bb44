/-
# Closing handles

The process that a program got hold of is worked on through its handle, which the work leaves alone:
it opens and closes nothing, and what it warns about are names and properties.  So the handle is
still open when it is closed in the end.

Main statement: what becomes of every handle when a process is got hold of, when it is closed, and
in the whole run of a program, over all machines.
-/
import MemWatch.Program
import MemWatch.Proofs.Handles
import MemWatch.Proofs.Upkeep

namespace MemWatch

/-! ## Work on a process -/

namespace Machine

variable {m m' m'' : Machine}

/-- Processes are looked up by their ids, so what a change leaves alone is found as before. -/
theorem bind_find?_updateFirst {α : Type} {f : ProcessRecord → ProcessRecord}
    {g : ProcessRecord → Option α} (hf : ∀ q, (f q).pid = q.pid ∧ g (f q) = g q)
    (pid id : ProcessId) (processes : List ProcessRecord) :
    ((updateFirst pid f processes).find? fun q => q.pid = id).bind g =
      (processes.find? fun q => q.pid = id).bind g := by
  induction processes with
  | nil => rfl
  | cons q rest ih =>
    unfold updateFirst
    split
    · rw [List.find?_cons, List.find?_cons, (hf q).1]
      cases decide (q.pid = id) with
      | true => exact (hf q).2
      | false => rfl
    · rw [List.find?_cons, List.find?_cons]
      cases decide (q.pid = id) with
      | true => rfl
      | false => exact ih

/-- A process that is changed in other ways is closed as before. -/
theorem closeWarning?_update {f : ProcessRecord → ProcessRecord}
    (hf : ∀ q, (f q).pid = q.pid ∧ (f q).closeFault = q.closeFault) (m : Machine)
    (pid : ProcessId) : (m.update pid f).closeWarning? = m.closeWarning? := by
  funext call
  cases call with
  | closeHandle h id =>
    exact congrArg (Option.map _) (bind_find?_updateFirst hf pid id m.processes)
  | _ => rfl

/-- Calls that do nothing to any handle come without a warning about closing one. -/
theorem filterMap_closeWarning?_eq_nil {used : List MachineCall} (m : Machine)
    (h : ∀ x, life x used = []) : used.filterMap m.closeWarning? = [] := by
  refine List.filterMap_eq_nil_iff.mpr fun call hmem => ?_
  cases call with
  | closeHandle x pid =>
    have hnone := List.filterMap_eq_nil_iff.mp (h x) _ hmem
    simp [handleEvent?] at hnone
  | _ => rfl

/-- Calls were made that have nothing to do with handles. -/
structure Idled (m m' : Machine) : Prop where
  handles : m'.handles = m.handles
  warnings : m'.closeWarning? = m.closeWarning?
  calls : ∃ used, m'.calls.toList = m.calls.toList ++ used ∧ ∀ h, life h used = []

namespace Idled

theorem refl (m : Machine) : m.Idled m :=
  ⟨rfl, rfl, [], (List.append_nil _).symm, fun _ => rfl⟩

theorem trans (h : m.Idled m') (h' : m'.Idled m'') : m.Idled m'' := by
  obtain ⟨used, hcalls, hlife⟩ := h.calls
  obtain ⟨used', hcalls', hlife'⟩ := h'.calls
  refine ⟨h'.handles.trans h.handles, h'.warnings.trans h.warnings, used ++ used', ?_,
    fun x => ?_⟩
  · rw [hcalls', hcalls, List.append_assoc]
  · rw [life_append, hlife, hlife', List.append_nil]

theorem record {call : MachineCall} (m : Machine) (hcall : ∀ h, handleEvent? h call = none) :
    m.Idled (m.record call) := by
  refine ⟨rfl, rfl, [call], Array.toList_push, fun h => ?_⟩
  simp [life, hcall h]

/-- A process is changed, but neither its id nor how it is closed. -/
theorem update {f : ProcessRecord → ProcessRecord} (h : m.Idled m') (pid : ProcessId)
    (hf : ∀ q, (f q).pid = q.pid ∧ (f q).closeFault = q.closeFault) : m.Idled (m'.update pid f) :=
  ⟨h.handles, (closeWarning?_update hf m' pid).trans h.warnings, h.calls⟩

/-- Windows are shown to a search. -/
theorem searchWindows (accept : WindowRecord → Bool) (windows : List WindowRecord) (m : Machine) :
    m.Idled (Machine.searchWindows accept windows m).2 := by
  induction windows generalizing m with
  | nil => exact .refl m
  | cons w rest ih =>
    have hvisit : m.Idled (m.record (.visitWindow w.handle)) := .record m fun _ => rfl
    unfold Machine.searchWindows
    dsimp only
    split
    · exact hvisit
    · exact hvisit.trans (ih _)

end Idled

end Machine

namespace Attached

variable {m : Machine} {p : ProcessHandle} {s : Attached}

/-- The process is worked on through its handle, and nothing was done to any handle since. -/
def WorksOn (m : Machine) (p : ProcessHandle) (s : Attached) : Prop :=
  m.Idled s.machine ∧ s.process = p

/-- A question about the main module lists the modules. -/
theorem WorksOn.onMainModule {α : Type} {f : Handle → Attached → Except Error α × Attached}
    (hf : ∀ h s, (f h s).2 = s) (h : s.WorksOn m p) : (onMainModule f s).2.WorksOn m p := by
  have hlist (size : Nat) (n : Machine) (hn : m.Idled n) :
      m.Idled (n.listModules s.process.handle size).2 :=
    hn.trans (.record n fun _ => rfl)
  rw [after_onMainModule hf]
  exact ⟨Listing.fetch_keeps 0 8 hlist 0x100 s.machine h.1, h.2⟩

/-- A call to the machine that has nothing to do with handles is work on the process. -/
theorem WorksOn.call {α : Type} {op : Machine → α × Machine} (h : s.WorksOn m p)
    (hop : s.machine.Idled (op s.machine).2) : (s.call op).2.WorksOn m p :=
  ⟨h.1.trans hop, h.2⟩

/-- Accesses to memory are work on the process. -/
theorem keptByAccess_worksOn (m : Machine) (p : ProcessHandle) : KeptByAccess (WorksOn m p) := by
  constructor
  case read =>
    intro a size s hs
    show (Attached.read a size s).2.WorksOn m p
    rcases after_read a size s with hafter | ⟨pointer, hafter⟩
    · rwa [hafter]
    · rw [hafter]
      exact ⟨hs.1.trans (.record s.machine fun _ => rfl), hs.2⟩
  case write =>
    intro a bytes s hs
    have hmachine (pointer : Address) :
        s.machine.Idled (Machine.writeMemory s.process.handle pointer bytes s.machine).2 := by
      have hnoted : s.machine.Idled (s.machine.record (.write pointer bytes.length)) :=
        .record s.machine fun _ => rfl
      unfold Machine.writeMemory
      dsimp only
      cases s.machine.ofHandle? s.process.handle with
      | none => exact hnoted
      | some q =>
        dsimp only
        cases s.machine.transferSize q .write pointer bytes.length with
        | error code => exact hnoted
        | ok size => exact hnoted.update q.pid fun _ => ⟨rfl, rfl⟩
    show (Attached.write a bytes s).2.WorksOn m p
    rcases after_write a bytes s with hafter | ⟨pointer, hafter⟩
    · rwa [hafter]
    · rw [hafter]
      exact hs.call (hmachine pointer)
  case base => exact fun s hs => hs.onMainModule fun _ _ => rfl

/-- So is the question whether the process still runs. -/
theorem keptByWatch_worksOn (m : Machine) (p : ProcessHandle) : KeptByWatch (WorksOn m p) := by
  refine ⟨keptByAccess_worksOn m p, fun s hs => ?_⟩
  have hcall : s.machine.Idled (Machine.exitCode s.process.handle s.machine).2 := by
    unfold Machine.exitCode
    cases s.machine.ofHandle? s.process.handle with
    | none => exact .refl s.machine
    | some q =>
      have hnoted : s.machine.Idled (s.machine.record (.exitCode q.pid)) :=
        .record s.machine fun _ => rfl
      dsimp only
      rcases q.exitCode with code | code
      · exact hnoted
      · rcases q.pollsLeft with _ | polls
        · exact hnoted
        · exact hnoted.update q.pid fun _ => ⟨rfl, rfl⟩
  exact hs.call hcall

/-- The questions of a summary are work on the process. -/
theorem keptBySummary_worksOn (m : Machine) (p : ProcessHandle) :
    KeptBySummary (WorksOn m p) := by
  constructor
  case fileName => exact fun s hs => hs.onMainModule fun _ _ => rfl
  case base => exact fun s hs => hs.onMainModule fun _ _ => rfl
  case mainWindow =>
    exact fun s hs => hs.call (.searchWindows _ s.machine.windows s.machine)
  all_goals exact fun s hs => hs

end Attached

/-- Watching adds no warning. -/
theorem Action.closedUnderRuns_warnsOnly {σ : Type} [Target σ] {W : LogRecord → Prop} :
    ClosedUnderRuns fun α (act : Action σ α) => act.WarnsOnly W where
  pure a := (isQuiet_pure a).warnsOnly
  bind := WarnsOnly.bind
  debug text := (isQuiet_debug text).warnsOnly
  pointerWidth := IsQuiet.warnsOnly fun scene => .refl scene.log
  readMemory _ _ := (isQuiet_operate _ _).warnsOnly
  writeMemory _ _ := (isQuiet_operate _ _).warnsOnly
  mainModuleBase := (isQuiet_operate _ _).warnsOnly
  get := IsQuiet.warnsOnly fun scene => .refl scene.log
  poll := (isQuiet_operate _ _).warnsOnly

/-- A summary warns about properties alone. -/
theorem Action.closedUnderSummaries_warnsOnly {σ : Type} [Described σ] {W : LogRecord → Prop}
    (h : ∀ label reason : String,
      W (.warn ("can't access property `" ++ label ++ "`: " ++ reason))) :
    ClosedUnderSummaries fun α (act : Action σ α) => act.WarnsOnly W where
  pure a := (isQuiet_pure a).warnsOnly
  bind := WarnsOnly.bind
  get := IsQuiet.warnsOnly fun scene => .refl scene.log
  warning label reason := warnsOnly_warn (h label reason)
  mainModuleBase := (isQuiet_operate _ _).warnsOnly
  name := (isQuiet_ask _).warnsOnly
  fileName := (isQuiet_ask _).warnsOnly
  priority := (isQuiet_ask _).warnsOnly
  mainWindow := (isQuiet_ask _).warnsOnly
  memoryUsage := (isQuiet_ask _).warnsOnly
  startTime := (isQuiet_ask _).warnsOnly
  processorTime := (isQuiet_ask _).warnsOnly

namespace Program

/-- What watching and summaries are made of, together with the warning about a name that cannot be
had, makes up all work on a process. -/
theorem serve_of_closed {P : (α : Type) → Action Attached α → Prop}
    (hruns : Action.ClosedUnderRuns P) (hsummaries : Action.ClosedUnderSummaries P)
    (hname : ∀ reason : String,
      P Unit (record (.warn ("can't get the name of the process: " ++ reason))))
    (o : Options) (entries : EntrySet) (now : Instant) (terminal : Bool) :
    P _ (serve o entries now terminal) := by
  have hdisplay : P _ (displayName o.process) := by
    refine hsummaries.bind hsummaries.name fun r => ?_
    cases r with
    | ok name => exact hsummaries.pure name
    | error e => exact hsummaries.bind (hname e.message) fun _ => hsummaries.pure _
  refine hruns.bind hruns.isAlive fun alive => ?_
  cases alive with
  | false => exact hruns.pure _
  | true =>
    show P _ (if entries.isEmpty then _ else _)
    split
    · refine hsummaries.bind (hsummaries.summarize now {}) fun r => ?_
      rcases r with ⟨_ | _ | _, out⟩ <;> exact hsummaries.pure _
    · refine hruns.bind hdisplay fun name => hruns.bind hruns.get fun s => ?_
      refine hruns.bind (hruns.run _ {}) fun r => ?_
      cases r.result with
      | error e => exact hruns.pure _
      | ok state => exact hruns.bind (hruns.debug _) fun _ => hruns.pure _

/-- Nothing that is done with an open process has to do with handles. -/
theorem serve_idled (o : Options) (entries : EntrySet) (now : Instant) (terminal : Bool)
    (p : ProcessHandle) (scene : Scene Machine) :
    scene.target.Idled (p.attach (serve o entries now terminal) scene).2.target := by
  have hserve := serve_of_closed (Attached.keptByWatch_worksOn scene.target p).closedUnderRuns
    (Attached.keptBySummary_worksOn scene.target p).closedUnderSummaries
    (fun _ => Action.keeps_record _) o entries now terminal
  exact (hserve ⟨⟨scene.target, p⟩, scene.log, scene.calls⟩ ⟨.refl scene.target, rfl⟩).1

/-- Nothing that is done with an open process warns about closing a handle. -/
theorem serve_warnsOnly (o : Options) (entries : EntrySet) (now : Instant) (terminal : Bool) :
    (serve o entries now terminal).WarnsOnly fun r => r.isAboutClosing = false := by
  refine serve_of_closed
    (P := fun α (act : Action Attached α) => act.WarnsOnly fun r => r.isAboutClosing = false)
    Action.closedUnderRuns_warnsOnly (Action.closedUnderSummaries_warnsOnly ?_)
    (fun reason => Action.warnsOnly_warn ?_) o entries now terminal
  · intro label reason
    exact LogRecord.isAboutClosing_of_head (by simp [String.toList_append])
  · exact LogRecord.isAboutClosing_of_head (by simp [String.toList_append])

end Program

/-! ## Whole runs -/

/-- In the course of calls every handle that was obtained was closed once, and all warnings about
closings are about those that were reported as a failure. -/
structure Scene.Settled (a : Scene Machine) (made : List MachineCall) (b : Scene Machine) :
    Prop where
  calls : b.target.calls.toList = a.target.calls.toList ++ made
  fate : ∀ h, Machine.Fate a.target made b.target none h
  warned : ∃ ws, Warned a.log ws b.log ∧
    ws.filter LogRecord.isAboutClosing = made.filterMap a.target.closeWarning?

/-- No process was kept. -/
theorem Scene.Handled.settled {a b : Scene Machine} {made : List MachineCall}
    (h : a.Handled made none b) : a.Settled made b :=
  ⟨h.machine.calls, h.machine.fate, _, h.warned, a.target.filter_isAboutClosing made⟩

/-- The process that was kept is closed after work that has nothing to do with handles. -/
theorem Scene.Handled.settled_close {a b c : Scene Machine} {made : List MachineCall}
    {p : ProcessHandle} (h : a.Handled made (some p) b) (hidled : b.target.Idled c.target)
    (hwork : ∃ ws, Warned b.log ws c.log ∧ ∀ w ∈ ws, w.isAboutClosing = false) :
    ∃ used, a.Settled (made ++ used ++ [.closeHandle p.handle p.pid]) (p.close c).2 := by
  obtain ⟨used, hused, hlife⟩ := hidled.calls
  obtain ⟨ws, hworking, hother⟩ := hwork
  have hfate (x : Handle) : Machine.Fate a.target (made ++ used) c.target (some p) x :=
    (h.machine.fate x).idle (hlife x) (congrArg (List.lookup x) hidled.handles)
  have hopen : c.target.handles.lookup p.handle = some p.pid := (hfate p.handle).of_kept.2
  obtain ⟨htarget, hclosing⟩ := ProcessHandle.close_eq hopen
  rw [hidled.warnings, h.machine.closeWarning?_eq] at hclosing
  refine ⟨used, ?calls, ?fate, _, (h.warned.trans hworking).trans hclosing, ?warned⟩
  case calls =>
    rw [htarget]
    show (c.target.calls.push _).toList = _
    rw [Array.toList_push, hused, h.machine.calls, List.append_assoc, List.append_assoc,
      List.append_assoc]
  case fate =>
    rw [htarget]
    exact Machine.Fate.close hfate (Machine.lookup_filter_self _ _) fun x hx =>
      Machine.lookup_filter_ne _ hx
  case warned =>
    have hnone : ws.filter LogRecord.isAboutClosing = [] :=
      List.filter_eq_nil_iff.mpr fun w hw => by simp [hother w hw]
    rw [List.filter_append, List.filter_append, hnone, Machine.filter_isAboutClosing,
      Machine.filter_isAboutClosing, List.filterMap_append, List.filterMap_append,
      Machine.filterMap_closeWarning?_eq_nil a.target hlife]

namespace Program

/-- Whatever names the process, getting hold of it keeps no other. -/
theorem openProcess_handled (spec : ProcessSpec) (scene : Scene Machine) :
    ∃ made, scene.Handled made ((openProcess spec).outcome scene).1.toOption
      ((openProcess spec).outcome scene).2 := by
  cases spec with
  | id pid => exact ProcessHandle.openWith_handled .full pid scene
  | name name => exact ProcessHandle.find_handled name scene
  | launch path => exact ProcessHandle.launch_handled path scene

/-- In a run every handle that is obtained is closed once. -/
theorem runOnMachine_settled (o : Options) (entries : EntrySet) (now : Instant) (terminal : Bool)
    (scene : Scene Machine) :
    ∃ made, scene.Settled made (runOnMachine o entries now terminal scene).2 := by
  obtain ⟨made, hopened⟩ := openProcess_handled o.process scene
  unfold runOnMachine
  rw [Action.bind_run]
  generalize (openProcess o.process).outcome scene = opening at hopened ⊢
  rcases opening with ⟨e | p, opened⟩
  · exact ⟨made, hopened.settled⟩
  · have hidled : opened.target.Idled (p.attach (serve o entries now terminal) opened).2.target :=
      serve_idled o entries now terminal p opened
    obtain ⟨used, hends⟩ := hopened.settled_close hidled
      (serve_warnsOnly o entries now terminal ⟨⟨opened.target, p⟩, opened.log, opened.calls⟩)
    refine ⟨made ++ used ++ [.closeHandle p.handle p.pid], ?_⟩
    dsimp only
    simp only [Action.bind_run]
    cases (p.attach (serve o entries now terminal) opened).1.code with
    | error e => exact hends
    | ok code => exact hends

/-- **Handles.**  On every machine, whatever fails, getting hold of a process leaves no handle open
but the one of the process that is returned, if one is.  Every other handle that was obtained was
closed once; nor was it tried to close one that was not open, since all warnings are about closings
that were reported as a failure.  However the process that was returned was used, closing it is one
call as long as its handle is open; and in a whole run of the program every handle that is obtained
is closed once, and the warnings about closings are again about those alone that were reported as a
failure. -/
theorem handles_are_closed_once :
    (∀ (spec : ProcessSpec) (scene : Scene Machine),
      ∃ made, scene.Handled made ((openProcess spec).outcome scene).1.toOption
        ((openProcess spec).outcome scene).2) ∧
    (∀ (p : ProcessHandle) (scene : Scene Machine),
      scene.target.handles.lookup p.handle = some p.pid →
      (p.close scene).2.target = { scene.target with
        handles := scene.target.handles.filter fun entry => entry.1 ≠ p.handle
        calls := scene.target.calls.push (.closeHandle p.handle p.pid) } ∧
      Warned scene.log ([.closeHandle p.handle p.pid].filterMap scene.target.closeWarning?)
        (p.close scene).2.log) ∧
    ∀ (o : Options) (entries : EntrySet) (now : Instant) (terminal : Bool) (scene : Scene Machine),
      ∃ made, scene.Settled made (runOnMachine o entries now terminal scene).2 := by
  exact ⟨openProcess_handled, fun p scene => ProcessHandle.close_eq, runOnMachine_settled⟩

/-- A machine with one process, of which every closing is reported as a failure. -/
def reluctant : Machine where
  errorText := fun _ => "The handle is invalid."
  processes := [{ pid := 8, closeFault := some .invalidHandle }]

/-- The process is opened, its handle is open then, and it is closed with a warning. -/
theorem reluctant_is_closed :
    ∃ opened, (openProcess (.id 8)).outcome { target := reluctant } =
        (.ok ⟨8, 256, .eight⟩, opened) ∧
      opened.target.handles.lookup 256 = some 8 ∧
      (ProcessHandle.close ⟨8, 256, .eight⟩ opened).2.target.handles = [] ∧
      Warned opened.log [.warn "failed to close handle: The handle is invalid. (os error 6)"]
        (ProcessHandle.close ⟨8, 256, .eight⟩ opened).2.log := by
  let opened := ((openProcess (.id 8)).outcome { target := reluctant }).2
  have hwarning : [MachineCall.closeHandle 256 8].filterMap opened.target.closeWarning? =
      [.warn "failed to close handle: The handle is invalid. (os error 6)"] := by
    decide +kernel
  obtain ⟨hclosed, hwarned⟩ :=
    handles_are_closed_once.2.1 ⟨8, 256, .eight⟩ opened rfl
  refine ⟨opened, rfl, rfl, ?_, hwarning ▸ hwarned⟩
  rw [hclosed]
  rfl

/-- A search obtains a handle of a process whose width cannot be found out, and closes it. -/
example : Machine.life 256 (((ProcessHandle.find "a.exe").outcome
    { target := { processes := [{ pid := 8, isWow64 := .error .invalidHandle }] } }
    ).2.target.calls.toList) = [.opened, .closed] := by
  decide +kernel

end Program

end MemWatch
