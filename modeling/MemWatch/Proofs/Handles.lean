/-
# Handles

On the way to a process many others may be opened: to find out about their pointers, to read their
names, and in the end to keep one of them.  Every opening that succeeds gives a handle.  A handle
that is not kept is closed on the way out, whichever way that is, and never a second time.

What becomes of every handle is followed here through all the ways of getting hold of a process.
-/
import MemWatch.Proofs.Finding
import MemWatch.Proofs.Warnings

namespace MemWatch

/-! ## Lives of handles -/

/-- What happens to a handle. -/
inductive HandleEvent where
  | opened
  | closed
deriving DecidableEq, Repr

namespace Machine

variable {m m' m'' : Machine} {made made' used : List MachineCall} {kept : Option ProcessHandle}
  {p : ProcessHandle} {h x : Handle} {pid : ProcessId}

/-- What a call does to a handle: it gives the handle, or it closes it. -/
def handleEvent? (h : Handle) : MachineCall → Option HandleEvent
  | .openProcess _ _ (some given) => if given = h then some .opened else none
  | .closeHandle closed _ => if closed = h then some .closed else none
  | _ => none

/-- What calls do to a handle, in order. -/
def life (h : Handle) (calls : List MachineCall) : List HandleEvent :=
  calls.filterMap (handleEvent? h)

theorem life_append (h : Handle) (calls calls' : List MachineCall) :
    life h (calls ++ calls') = life h calls ++ life h calls' :=
  List.filterMap_append

/-- What becomes of a handle in the course of calls, after which a process may be kept. -/
inductive Fate (m : Machine) (made : List MachineCall) (m' : Machine) :
    Option ProcessHandle → Handle → Prop where
  /-- Nothing was done to it. -/
  | untouched {kept : Option ProcessHandle} {h : Handle}
      (hkept : kept.map ProcessHandle.handle ≠ some h) (hlife : life h made = [])
      (hlookup : m'.handles.lookup h = m.handles.lookup h) : Fate m made m' kept h
  /-- It was obtained, and then closed once; it is not open any more. -/
  | closed {kept : Option ProcessHandle} {h : Handle}
      (hkept : kept.map ProcessHandle.handle ≠ some h) (hlife : life h made = [.opened, .closed])
      (hlookup : m'.handles.lookup h = none) : Fate m made m' kept h
  /-- It was obtained and is the one of the process that is kept, which it is open for. -/
  | kept {p : ProcessHandle} (hlife : life p.handle made = [.opened])
      (hlookup : m'.handles.lookup p.handle = some p.pid) : Fate m made m' (some p) p.handle

/-- The handle of a process that is kept is open for it. -/
theorem Fate.of_kept (h : Fate m made m' (some p) p.handle) :
    life p.handle made = [.opened] ∧ m'.handles.lookup p.handle = some p.pid := by
  cases h with
  | untouched hkept hlife hlookup => exact absurd rfl hkept
  | closed hkept hlife hlookup => exact absurd rfl hkept
  | kept hlife hlookup => exact ⟨hlife, hlookup⟩

/-- Further calls that do nothing to the handle. -/
theorem Fate.idle (h : Fate m made m' kept x) (hlife : life x used = [])
    (hlookup : m''.handles.lookup x = m'.handles.lookup x) : Fate m (made ++ used) m'' kept x := by
  have hnone (x : Handle) (hused : life x used = []) : life x (made ++ used) = life x made := by
    rw [life_append, hused, List.append_nil]
  cases h with
  | untouched hkept hbefore hsame =>
    exact .untouched hkept ((hnone x hlife).trans hbefore) (hlookup.trans hsame)
  | closed hkept hbefore hgone =>
    exact .closed hkept ((hnone x hlife).trans hbefore) (hlookup.trans hgone)
  | kept hbefore hopen => exact .kept ((hnone _ hlife).trans hbefore) (hlookup.trans hopen)

/-- Calls after which no process is kept, and then others, of which only some have to do with the
handle. -/
theorem Fate.trans (h : Fate m made m' none x) (h' : Fate m' made' m'' kept x)
    (hapart : life x made = [] ∨ life x made' = []) : Fate m (made ++ made') m'' kept x := by
  rcases hapart with hbefore | hlater
  · have hall : life x (made ++ made') = life x made' := by
      rw [life_append, hbefore, List.nil_append]
    cases h' with
    | untouched hkept hlife hlookup' =>
      cases h with
      | untouched _ _ hlookup => exact .untouched hkept (hall.trans hlife) (hlookup'.trans hlookup)
      | closed _ hlife _ => exact absurd (hbefore.symm.trans hlife) nofun
    | closed hkept hlife hlookup => exact .closed hkept (hall.trans hlife) hlookup
    | kept hlife hlookup => exact .kept (hall.trans hlife) hlookup
  · cases h' with
    | untouched hkept _ hlookup =>
      cases h.idle hlater hlookup with
      | untouched _ hlife hlookup => exact .untouched hkept hlife hlookup
      | closed _ hlife hlookup => exact .closed hkept hlife hlookup
    | closed _ hlife _ => exact absurd (hlater.symm.trans hlife) nofun
    | kept hlife _ => exact absurd (hlater.symm.trans hlife) nofun

/-- Closing the handle of the process that was kept. -/
theorem Fate.close (h : ∀ x, Fate m made m' (some p) x)
    (hself : m''.handles.lookup p.handle = none)
    (hothers : ∀ x ≠ p.handle, m''.handles.lookup x = m'.handles.lookup x) (x : Handle) :
    Fate m (made ++ [.closeHandle p.handle pid]) m'' none x := by
  by_cases hx : x = p.handle
  · subst hx
    refine .closed nofun ?_ hself
    rw [life_append, (h p.handle).of_kept.1]
    simp [life, handleEvent?]
  · have hlife : life x [.closeHandle p.handle pid] = [] := by
      simp [life, handleEvent?, Ne.symm hx]
    have hidle := (h x).idle hlife (hothers x hx)
    cases hidle with
    | untouched _ hlife hlookup => exact .untouched nofun hlife hlookup
    | closed _ hlife hlookup => exact .closed nofun hlife hlookup
    | kept _ _ => exact absurd rfl hx

/-! ## The table of handles -/

/-- A handle that was taken out of the table is not open. -/
theorem lookup_filter_self (handles : List (Handle × ProcessId)) (h : Handle) :
    (handles.filter fun entry => entry.1 ≠ h).lookup h = none := by
  rw [List.lookup_eq_none_iff]
  intro entry hmem
  have hne : entry.1 ≠ h := of_decide_eq_true (List.mem_filter.mp hmem).2
  simpa using Ne.symm hne

/-- Taking a handle out of the table does not touch the others. -/
theorem lookup_filter_ne (handles : List (Handle × ProcessId)) (hne : x ≠ h) :
    (handles.filter fun entry => entry.1 ≠ h).lookup x = handles.lookup x := by
  induction handles with
  | nil => rfl
  | cons entry rest ih =>
    by_cases hentry : entry.1 = h
    · have hmiss : (x == entry.1) = false := by simpa [hentry] using hne
      rw [List.filter_cons_of_neg (by simpa using hentry), ih, List.lookup_cons, hmiss]
    · rw [List.filter_cons_of_pos (by simpa using hentry), List.lookup_cons, List.lookup_cons, ih]

/-- Closing an open handle takes it out of the table. -/
theorem closeHandle_of_lookup (hopen : m.handles.lookup h = some pid) :
    (m.closeHandle h).2 = { m with
      handles := m.handles.filter fun entry => entry.1 ≠ h
      calls := m.calls.push (.closeHandle h pid) } := by
  unfold closeHandle
  rw [hopen]

/-! ## Calls of a program -/

/-- A program made calls to the machine that leave everything on it but the handles as it was.  All
handles that it obtained have numbers that were not given before. -/
structure Handled (m : Machine) (made : List MachineCall) (kept : Option ProcessHandle)
    (m' : Machine) : Prop where
  same : ∃ handles nextHandle calls, m' = { m with handles, nextHandle, calls }
  calls : m'.calls.toList = m.calls.toList ++ made
  nextHandle_le : m.nextHandle ≤ m'.nextHandle
  fresh : ∀ h, life h made ≠ [] → m.nextHandle ≤ h ∧ h < m'.nextHandle
  fate : ∀ h, Fate m made m' kept h

namespace Handled

theorem refl (m : Machine) : m.Handled [] none m := by
  constructor
  case same => exact ⟨_, _, _, rfl⟩
  case calls => exact (List.append_nil _).symm
  case nextHandle_le => exact Nat.le_refl _
  case fresh => exact fun h hlife => absurd rfl hlife
  case fate => exact fun h => .untouched nofun rfl rfl

/-- Calls after which no process is kept, and then others. -/
theorem trans (h : m.Handled made none m') (h' : m'.Handled made' kept m'') :
    m.Handled (made ++ made') kept m'' := by
  -- a number that was given in the first calls is not given again
  have hapart (x : Handle) : life x made = [] ∨ life x made' = [] := by
    by_cases hbefore : life x made = []
    · exact Or.inl hbefore
    · refine Or.inr (by_contra fun hlater => ?_)
      have hlt : x < m'.nextHandle := (h.fresh x hbefore).2
      exact Nat.not_lt.mpr (h'.fresh x hlater).1 hlt
  constructor
  case same =>
    obtain ⟨handles, nextHandle, calls, rfl⟩ := h.same
    obtain ⟨handles', nextHandle', calls', rfl⟩ := h'.same
    exact ⟨_, _, _, rfl⟩
  case calls => rw [h'.calls, h.calls, List.append_assoc]
  case nextHandle_le => exact h.nextHandle_le.trans h'.nextHandle_le
  case fresh =>
    intro x hlife
    by_cases hbefore : life x made = []
    · rw [life_append, hbefore, List.nil_append] at hlife
      obtain ⟨hfirst, hlast⟩ := h'.fresh x hlife
      exact ⟨h.nextHandle_le.trans hfirst, hlast⟩
    · obtain ⟨hfirst, hlast⟩ := h.fresh x hbefore
      exact ⟨hfirst, hlast.trans_le h'.nextHandle_le⟩
  case fate => exact fun x => (h.fate x).trans (h'.fate x) (hapart x)

/-- A call that has nothing to do with handles. -/
theorem record {call : MachineCall} (m : Machine) (hcall : ∀ h, handleEvent? h call = none) :
    m.Handled [call] none (m.record call) := by
  have hlife (h : Handle) : life h [call] = [] := by simp [life, hcall h]
  constructor
  case same => exact ⟨_, _, _, rfl⟩
  case calls => exact Array.toList_push
  case nextHandle_le => exact Nat.le_refl _
  case fresh => exact fun h hne => absurd (hlife h) hne
  case fate => exact fun h => .untouched nofun (hlife h) rfl

/-- A process that was opened is kept. -/
theorem openProcess (m : Machine) (rights : AccessRights) (pid : ProcessId) (width : PointerWidth) :
    m.Handled [.openProcess pid rights (some m.nextHandle)] (some ⟨pid, m.nextHandle, width⟩)
      { m with
        handles := (m.nextHandle, pid) :: m.handles
        nextHandle := m.nextHandle + 4
        calls := m.calls.push (.openProcess pid rights (some m.nextHandle)) } := by
  constructor
  case same => exact ⟨_, _, _, rfl⟩
  case calls => exact Array.toList_push
  case nextHandle_le => exact Nat.le_add_right _ 4
  case fresh =>
    intro x hlife
    obtain rfl : m.nextHandle = x := by
      by_contra hne
      simp [life, handleEvent?, hne] at hlife
    exact ⟨Nat.le_refl _, Nat.lt_add_of_pos_right (by decide)⟩
  case fate =>
    intro x
    by_cases hx : x = m.nextHandle
    · subst hx
      exact .kept (by simp [life, handleEvent?]) List.lookup_cons_self
    · have hmiss : (x == m.nextHandle) = false := by simpa using hx
      refine .untouched (fun hkept => hx (Option.some.inj hkept).symm) ?_ ?_
      · simp [life, handleEvent?, Ne.symm hx]
      · rw [List.lookup_cons, hmiss]

/-- The process that was kept is closed. -/
theorem close (h : m.Handled made (some p) m') :
    m.Handled (made ++ [.closeHandle p.handle p.pid]) none { m' with
      handles := m'.handles.filter fun entry => entry.1 ≠ p.handle
      calls := m'.calls.push (.closeHandle p.handle p.pid) } := by
  have hlife : life p.handle made = [.opened] := (h.fate p.handle).of_kept.1
  constructor
  case same =>
    obtain ⟨handles, nextHandle, calls, rfl⟩ := h.same
    exact ⟨_, _, _, rfl⟩
  case calls =>
    show (m'.calls.push _).toList = _
    rw [Array.toList_push, h.calls, List.append_assoc]
  case nextHandle_le => exact h.nextHandle_le
  case fresh =>
    intro x hne
    refine h.fresh x fun hnone => hne ?_
    have hx : p.handle ≠ x := by
      rintro rfl
      exact absurd (hlife.symm.trans hnone) nofun
    rw [life_append, hnone]
    simp [life, handleEvent?, hx]
  case fate =>
    exact Fate.close h.fate (lookup_filter_self _ _) fun x hx => lookup_filter_ne _ hx

end Handled

/-- The warning that comes with a call: that closing a handle was reported as a failure. -/
def closeWarning? (m : Machine) : MachineCall → Option LogRecord
  | .closeHandle _ pid => ((m.find? pid).bind ProcessRecord.closeFault).map fun code =>
      .warn ("failed to close handle: " ++ code.message (m.errorText code))
  | _ => none

/-- The same closings are reported as failures afterwards. -/
theorem Handled.closeWarning?_eq (h : m.Handled made kept m') :
    m'.closeWarning? = m.closeWarning? := by
  obtain ⟨handles, nextHandle, calls, rfl⟩ := h.same
  rfl

end Machine

/-- The record is about closing a handle. -/
def LogRecord.isAboutClosing (r : LogRecord) : Bool :=
  "failed to close handle: ".toList.isPrefixOf r.text.toList

/-- A warning that starts otherwise is about something else. -/
theorem LogRecord.isAboutClosing_of_head {text : String} (h : text.toList.head? = some 'c') :
    isAboutClosing (.warn text) = false := by
  obtain ⟨rest, hrest⟩ := List.head?_eq_some_iff.mp h
  show List.isPrefixOf _ text.toList = false
  rw [hrest]
  rfl

/-- The warnings that come with calls are about closings. -/
theorem Machine.filter_isAboutClosing (m : Machine) (calls : List MachineCall) :
    (calls.filterMap m.closeWarning?).filter LogRecord.isAboutClosing =
      calls.filterMap m.closeWarning? := by
  refine List.filter_eq_self.mpr fun r hmem => ?_
  obtain ⟨call, -, hcall⟩ := List.mem_filterMap.mp hmem
  cases call with
  | closeHandle h pid =>
    obtain ⟨code, -, rfl⟩ := Option.map_eq_some_iff.mp hcall
    show "failed to close handle: ".toList.isPrefixOf (_ ++ _ : String).toList = true
    rw [String.toList_append, List.isPrefixOf_iff_prefix]
    exact List.prefix_append _ _
  | _ => cases hcall

/-! ## Calls and warnings -/

section Scenes

variable {a b c : Scene Machine} {made made' : List MachineCall} {kept : Option ProcessHandle}
  {p : ProcessHandle} {pid : ProcessId}

/-- A program made calls to the machine of a scene, and warned about those closings, and no others,
that were reported as a failure. -/
structure Scene.Handled (a : Scene Machine) (made : List MachineCall) (kept : Option ProcessHandle)
    (b : Scene Machine) : Prop where
  machine : a.target.Handled made kept b.target
  warned : Warned a.log (made.filterMap a.target.closeWarning?) b.log

namespace Scene.Handled

theorem refl (a : Scene Machine) : a.Handled [] none a :=
  ⟨.refl a.target, .refl a.log⟩

theorem trans (h : a.Handled made none b) (h' : b.Handled made' kept c) :
    a.Handled (made ++ made') kept c := by
  refine ⟨h.machine.trans h'.machine, ?_⟩
  have hwarned := h'.warned
  rw [h.machine.closeWarning?_eq] at hwarned
  rw [List.filterMap_append]
  exact h.warned.trans hwarned

/-- Records below warnings. -/
theorem quiet (h : a.Handled made kept b) (htarget : c.target = b.target)
    (hlog : Warned b.log [] c.log) : a.Handled made kept c :=
  ⟨htarget ▸ h.machine, h.warned.quiet hlog⟩

end Scene.Handled

namespace ProcessHandle

/-- Closing a process whose handle is open is one call, with a warning if it is reported as a
failure. -/
theorem close_eq {scene : Scene Machine}
    (hopen : scene.target.handles.lookup p.handle = some p.pid) :
    (p.close scene).2.target = { scene.target with
      handles := scene.target.handles.filter fun entry => entry.1 ≠ p.handle
      calls := scene.target.calls.push (.closeHandle p.handle p.pid) } ∧
    Warned scene.log ([.closeHandle p.handle p.pid].filterMap scene.target.closeWarning?)
      (p.close scene).2.log := by
  have hcall : consult (Machine.closeHandle p.handle) scene =
      ((scene.target.closeHandle p.handle).1,
        { scene with target := (scene.target.closeHandle p.handle).2 }) := rfl
  unfold close closeHandle
  rw [Action.bind_run, hcall, Machine.closeHandle_of_lookup hopen]
  cases hfault : (scene.target.find? p.pid).bind ProcessRecord.closeFault with
  | none =>
    have hresult : (scene.target.closeHandle p.handle).1 = .ok () := by
      simp only [Machine.closeHandle, hopen, hfault]
    have hwarning :
        [MachineCall.closeHandle p.handle p.pid].filterMap scene.target.closeWarning? = [] := by
      simp [Machine.closeWarning?, hfault]
    rw [hresult, hwarning]
    exact ⟨rfl, .refl scene.log⟩
  | some code =>
    have hresult : (scene.target.closeHandle p.handle).1 = .error code := by
      simp only [Machine.closeHandle, hopen, hfault]
    have hwarning : [MachineCall.closeHandle p.handle p.pid].filterMap scene.target.closeWarning? =
        [.warn ("failed to close handle: " ++ code.message (scene.target.errorText code))] := by
      simp [Machine.closeWarning?, hfault]
    rw [hresult, hwarning]
    exact ⟨rfl, warned_warn scene.log _⟩

end ProcessHandle

/-- The process that was kept is closed. -/
theorem Scene.Handled.close (h : a.Handled made (some p) b) :
    a.Handled (made ++ [.closeHandle p.handle p.pid]) none (p.close b).2 := by
  obtain ⟨htarget, hwarned⟩ := ProcessHandle.close_eq (h.machine.fate p.handle).of_kept.2
  constructor
  case machine =>
    rw [htarget]
    exact h.machine.close
  case warned =>
    rw [h.machine.closeWarning?_eq] at hwarned
    rw [List.filterMap_append]
    exact h.warned.trans hwarned

end Scenes

/-! ## Getting hold of a process -/

namespace ProcessHandle

variable {scene : Scene Machine} {rights : AccessRights} {pid : ProcessId} {p : ProcessHandle}

/-- Finding the width of pointers out changes nothing. -/
theorem detectWidth_run (h : Handle) (scene : Scene Machine) :
    ((detectWidth h).outcome scene).2 = scene := by
  have hquery : (query (Machine.isWow64 h)).outcome scene =
      (checked scene.target (scene.target.isWow64 h), scene) := rfl
  unfold detectWidth
  rw [Attempt.outcome_bind, Action.bind_run, hquery]
  rcases checked scene.target (scene.target.isWow64 h) with e | _ | _ <;> rfl

/-- Finding the name of a process out changes nothing. -/
theorem baseName_run (p : ProcessHandle) (scene : Scene Machine) :
    (p.baseName.outcome scene).2 = scene := by
  have hquery : (query (Machine.baseName p.handle)).outcome scene =
      (checked scene.target (scene.target.baseName p.handle), scene) := rfl
  unfold baseName
  rw [Attempt.outcome_bind, Action.bind_run, hquery]
  cases checked scene.target (scene.target.baseName p.handle) <;> rfl

theorem caught_run {α : Type} (act : Attempt Machine α) (scene : Scene Machine) :
    act.caught.outcome scene = (.ok (act.outcome scene).1, (act.outcome scene).2) :=
  rfl

/-- **Opening.**  The process is kept if opening it succeeds; if not, a handle that was obtained is
closed. -/
theorem openWith_handled (rights : AccessRights) (pid : ProcessId) (scene : Scene Machine) :
    ∃ made, scene.Handled made ((openWith rights pid).outcome scene).1.toOption
      ((openWith rights pid).outcome scene).2 := by
  let opened : Scene Machine := { scene with target := (scene.target.openProcess rights pid).2 }
  have hcall : (consult (Machine.openProcess rights pid)).always.outcome scene =
      (.ok (scene.target.openProcess rights pid).1, opened) := rfl
  have htarget : opened.target = (scene.target.openProcess rights pid).2 := rfl
  unfold openWith
  rw [Attempt.outcome_bind, Action.bind_run, hcall]
  cases hrefusal : scene.target.openRefusal? rights pid with
  | some code =>
    rw [Machine.openProcess_of_refused hrefusal] at htarget ⊢
    refine ⟨[.openProcess pid rights none], ?_, .refl scene.log⟩
    show scene.target.Handled _ _ opened.target
    rw [htarget]
    exact .record scene.target fun _ => rfl
  | none =>
    rw [Machine.openProcess_of_granted hrefusal] at htarget ⊢
    have hkept (width : PointerWidth) :
        scene.Handled [.openProcess pid rights (some scene.target.nextHandle)]
          (some ⟨pid, scene.target.nextHandle, width⟩) opened := by
      refine ⟨?_, .refl scene.log⟩
      rw [htarget]
      exact .openProcess scene.target rights pid width
    dsimp only
    rw [Attempt.outcome_bind, Action.bind_run, caught_run, detectWidth_run]
    cases ((detectWidth scene.target.nextHandle).outcome opened).1 with
    | error e => exact ⟨_, (hkept .four).close⟩
    | ok width => exact ⟨_, (hkept width).quiet rfl (warned_debug scene.log _)⟩

/-- **Looking into a process.**  The process is closed again, whatever was found. -/
theorem inspect_handled (wanted : String) (pid : ProcessId) (scene : Scene Machine) :
    ∃ made, scene.Handled made none (inspect wanted pid scene).2 := by
  obtain ⟨made, hopen⟩ := openWith_handled .inspect pid scene
  unfold inspect
  rw [Action.bind_run]
  generalize (openWith .inspect pid).outcome scene = opening at hopen ⊢
  rcases opening with ⟨e | p, opened⟩
  · exact ⟨made, hopen.quiet rfl (warned_debug opened.log _)⟩
  · have hclose (named : Scene Machine) (htarget : named.target = opened.target)
        (hlog : Warned opened.log [] named.log) : scene.Handled _ none (p.close named).2 :=
      (hopen.quiet htarget hlog).close
    dsimp only
    rw [Action.bind_run, baseName_run]
    cases (p.baseName.outcome opened).1 with
    | error e => exact ⟨_, hclose opened rfl (.refl opened.log)⟩
    | ok name =>
      refine ⟨made ++ [.closeHandle p.handle p.pid], ?_⟩
      by_cases hwanted : Text.lower name = wanted
      · dsimp only
        rw [if_pos hwanted]
        let text := "found process " ++ Numeral.decimal pid ++ " named " ++ name
        exact hclose { opened with log := opened.log.push (.debug text) } rfl
          (warned_debug opened.log text)
      · dsimp only
        rw [if_neg hwanted]
        exact hclose opened rfl (.refl opened.log)

/-- **Searching.**  No process is kept by a search. -/
theorem search_handled (wanted : String) (best : Option ProcessId) (ids : List ProcessId)
    (scene : Scene Machine) : ∃ made, scene.Handled made none (search wanted best ids scene).2 := by
  induction ids generalizing best scene with
  | nil => exact ⟨[], .refl scene⟩
  | cons pid rest ih =>
    unfold search
    split
    · exact ih best scene
    · obtain ⟨made, hpid⟩ := inspect_handled wanted pid scene
      obtain ⟨made', hrest⟩ := ih (higher best (inspect wanted pid scene).1)
        (inspect wanted pid scene).2
      exact ⟨made ++ made', hpid.trans hrest⟩

/-- Listing the processes has nothing to do with handles. -/
theorem allIds_handled (scene : Scene Machine) :
    ∃ made, scene.Handled made none (allIds.outcome scene).2 := by
  let Listed (m : Machine) : Prop :=
    ∃ made, scene.target.Handled made none m ∧ made.filterMap scene.target.closeWarning? = []
  have hlist (size : Nat) (m : Machine) (h : Listed m) : Listed (m.listProcesses size).2 := by
    obtain ⟨made, hmade, hwarnings⟩ := h
    refine ⟨made ++ [.listProcesses size], hmade.trans (.record m fun _ => rfl), ?_⟩
    rw [List.filterMap_append, hwarnings]
    rfl
  obtain ⟨made, hmade, hwarnings⟩ := Listing.fetch_keeps 0 4 hlist 0x400 scene.target
    ⟨[], .refl scene.target, rfl⟩
  have hrun : (allIds.outcome scene).2 =
      { scene with target := (Listing.fetch Machine.error 0 4 Machine.listProcesses 0x400
          scene.target).2 } := rfl
  rw [hrun]
  refine ⟨made, hmade, ?_⟩
  rw [hwarnings]
  exact .refl scene.log

/-- **Finding.**  Of all processes that are opened, at most the one that is returned is kept. -/
theorem find_handled (name : String) (scene : Scene Machine) :
    ∃ made, scene.Handled made ((find name).outcome scene).1.toOption
      ((find name).outcome scene).2 := by
  obtain ⟨made, hlist⟩ := allIds_handled scene
  cases hids : (allIds.outcome scene).1 with
  | error e =>
    have hrun : (find name).outcome scene = (.error e, (allIds.outcome scene).2) := by
      rw [find, Attempt.outcome_bind, Action.bind_run, hids]
      rfl
    rw [hrun]
    exact ⟨made, hlist⟩
  | ok ids =>
    obtain ⟨made', hsearch⟩ := search_handled (wantedName name) none ids (allIds.outcome scene).2
    rw [find_outcome hids]
    generalize search (wantedName name) none ids (allIds.outcome scene).2 = searched at hsearch ⊢
    rcases searched with ⟨_ | pid, after⟩
    · exact ⟨made ++ made', hlist.trans hsearch⟩
    · obtain ⟨made'', hopen⟩ := openWith_handled .full pid after
      exact ⟨made ++ made' ++ made'', (hlist.trans hsearch).trans hopen⟩

/-- **Launching.**  The process that was launched is kept if opening it succeeds. -/
theorem launch_handled (path : String) (scene : Scene Machine) :
    ∃ made, scene.Handled made ((launch path).outcome scene).1.toOption
      ((launch path).outcome scene).2 := by
  let launched : Scene Machine :=
    ⟨(scene.target.launch path).2, scene.log.push (.debug ("launching " ++ path)), scene.calls⟩
  have hlaunched : scene.Handled [.launch path] none launched :=
    ⟨.record scene.target fun _ => rfl, warned_debug scene.log _⟩
  have hnote : (note (.debug ("launching " ++ path))).outcome scene =
      (.ok (), { scene with log := scene.log.push (.debug ("launching " ++ path)) }) := rfl
  have hcall : (consult (Machine.launch path)).always.outcome
      { scene with log := scene.log.push (.debug ("launching " ++ path)) } =
      (.ok (scene.target.launch path).1, launched) := rfl
  unfold launch
  rw [Attempt.outcome_bind, Action.bind_run, hnote]
  dsimp only
  rw [Attempt.outcome_bind, Action.bind_run, hcall]
  cases (scene.target.launch path).1 with
  | error code => exact ⟨_, hlaunched⟩
  | ok pid =>
    obtain ⟨made, hopen⟩ := openWith_handled .full pid launched
    exact ⟨_, hlaunched.trans hopen⟩

end ProcessHandle

end MemWatch
