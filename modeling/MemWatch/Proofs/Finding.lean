/-
# Finding processes

A search by name looks into every process of a machine but the idle one.  What it finds does not
depend on the order in which they are listed: it is the highest id of a process that can be looked
into and has the wanted name.  Only that one is opened in full, and whatever this gives is the
result.

Main statement: the processes that were tried, the one that was opened, and the result of a search,
over all machines whose processes can be listed.
-/
import MemWatch.ProcessHandle.Find
import MemWatch.Proofs.Attempts
import MemWatch.Proofs.FileNames
import MemWatch.Proofs.Lifespans
import MemWatch.Proofs.Listings

namespace MemWatch

/-! ## Rules -/

section Rules

variable {σ : Type} {α : Type} {s t : σ} {a : α}

theorem Action.yields_consult (op : σ → α × σ) (s : σ) :
    Action.Yields (consult op) s (op s).1 (op s).2 := by
  rintro scene rfl
  exact ⟨rfl, rfl⟩

/-- An action succeeds as an attempt. -/
theorem Action.Yields.always {act : Action σ α} (h : act.Yields s a t) :
    act.always.Gives s (.ok a) t := by
  intro scene hs
  obtain ⟨ha, ht⟩ := h scene hs
  exact ⟨congrArg Except.ok ha, ht⟩

theorem Action.always_run (act : Action σ α) (scene : Scene σ) :
    act.always.outcome scene = (.ok (act scene).1, (act scene).2) :=
  rfl

/-- An attempt whose failure is caught succeeds with its result. -/
theorem Attempt.Gives.caught {act : Attempt σ α} {r : Except Error α} (h : act.Gives s r t) :
    act.caught.Gives s (.ok r) t := by
  intro scene hs
  obtain ⟨hr, ht⟩ := h scene hs
  exact ⟨congrArg Except.ok hr, ht⟩

theorem Attempt.gives_ofExcept (r : Except Error α) (s : σ) :
    Attempt.Gives (Attempt.ofExcept r) s r s :=
  fun _ hs => ⟨rfl, hs⟩

theorem Attempt.gives_throw (e : Error) (s : σ) :
    Attempt.Gives (throw e : Attempt σ α) s (.error e) s :=
  fun _ hs => ⟨rfl, hs⟩

theorem Attempt.gives_throw_look (f : σ → Error) (s : σ) :
    Attempt.Gives (do throw (f (← get).target) : Attempt σ α) s (.error (f s)) s := by
  rintro scene rfl
  exact ⟨rfl, rfl⟩

theorem Action.yields_record_look (f : σ → LogRecord) (s : σ) :
    Action.Yields (do record (f (← get).target)) s () s := by
  rintro scene rfl
  exact ⟨rfl, rfl⟩

theorem ProcessHandle.checked_congr {m n : Machine} (h : m.errorText = n.errorText)
    {result : Except OsCode α} : checked m result = checked n result := by
  unfold checked Machine.error
  rw [h]

/-- A call that leaves a machine as it is. -/
theorem ProcessHandle.gives_query (call : Machine → Except OsCode α) (m : Machine) :
    Attempt.Gives (query call) m (checked m (call m)) m := by
  rintro scene rfl
  exact ⟨rfl, rfl⟩

end Rules

/-! ## Processes by their ids -/

namespace Machine

variable {α : Type} {m m' m'' : Machine} {rights : AccessRights} {pid : ProcessId} {h : Handle}

/-- The answer that a process gives through any handle that is open for it. -/
def answerOf (m : Machine) (pid : ProcessId) (f : ProcessRecord → Except OsCode α) :
    Except OsCode α :=
  match m.find? pid with
  | some p => f p
  | none => .error .invalidHandle

/-- A handle gives the answers of the process that it is open for. -/
theorem answer_eq_answerOf (hopen : m.handles.lookup h = some pid)
    (f : ProcessRecord → Except OsCode α) : m.answer h f = m.answerOf pid f := by
  unfold answer answerOf ofHandle?
  rewrite [hopen, Option.bind_some]
  rfl

/-- What opening a process gives, with the next handle. -/
def opened (m : Machine) (rights : AccessRights) (pid : ProcessId) : Except Error ProcessHandle :=
  match m.openRefusal? rights pid with
  | some code => .error (ProcessHandle.openError m pid code)
  | none => (ProcessHandle.checked m (m.answerOf pid ProcessRecord.isWow64)).map fun wow64 =>
      ⟨pid, m.nextHandle, if wow64 then .four else if m.is64Bit then .eight else .four⟩

/-- The name of a process that can be looked into: it can be opened for that, and both its width and
its name can be obtained. -/
def visibleName? (m : Machine) (pid : ProcessId) : Option String :=
  match m.openRefusal? .inspect pid, m.answerOf pid ProcessRecord.isWow64,
    m.answerOf pid (fun p => p.name.bind storedName) with
  | none, .ok _, .ok units => some (Text.Utf16.decode units)
  | _, _, _ => none

/-- A process that cannot be opened shows no name. -/
theorem visibleName?_of_error {e : Error} (h : m.opened .inspect pid = .error e) :
    m.visibleName? pid = none := by
  unfold opened at h
  unfold visibleName?
  cases hrefusal : m.openRefusal? .inspect pid with
  | some code => rfl
  | none =>
    rw [hrefusal] at h
    cases hwidth : m.answerOf pid ProcessRecord.isWow64 with
    | error code => rfl
    | ok wow64 =>
      rw [hwidth] at h
      exact absurd h nofun

/-- A process that can be opened shows its name. -/
theorem visibleName?_of_ok {p : ProcessHandle} (h : m.opened .inspect pid = .ok p) :
    m.visibleName? pid = ((m.answerOf pid fun p => p.name.bind storedName).map
      Text.Utf16.decode).toOption := by
  unfold opened at h
  unfold visibleName?
  cases hrefusal : m.openRefusal? .inspect pid with
  | some code =>
    rw [hrefusal] at h
    exact absurd h nofun
  | none =>
    rw [hrefusal] at h
    cases hwidth : m.answerOf pid ProcessRecord.isWow64 with
    | error code =>
      rw [hwidth] at h
      exact absurd h nofun
    | ok wow64 =>
      cases m.answerOf pid fun p => p.name.bind storedName with
      | error code => rfl
      | ok units => rfl

/-! ## Attempts to open a process -/

/-- An opening that is refused is noted. -/
theorem openProcess_of_refused {code : OsCode} (h : m.openRefusal? rights pid = some code) :
    m.openProcess rights pid = (.error code, m.record (.openProcess pid rights none)) := by
  unfold openProcess
  rw [h]

/-- An opening that is not refused gives the next handle. -/
theorem openProcess_of_granted (h : m.openRefusal? rights pid = none) :
    m.openProcess rights pid = (.ok m.nextHandle, { m with
      handles := (m.nextHandle, pid) :: m.handles
      nextHandle := m.nextHandle + 4
      calls := m.calls.push (.openProcess pid rights (some m.nextHandle)) }) := by
  unfold openProcess
  rw [h]

/-- The process and the rights of a call that opens one. -/
def opening? : MachineCall → Option (ProcessId × AccessRights)
  | .openProcess pid rights _ => some (pid, rights)
  | _ => none

/-- The attempts to open a process that were made so far, in order. -/
def openings (m : Machine) : List (ProcessId × AccessRights) :=
  m.calls.toList.filterMap opening?

/-- One more call is one more opening if it opens a process. -/
theorem openings_push (m : Machine) (call : MachineCall) (handles : List (Handle × ProcessId))
    (nextHandle : Handle) :
    openings { m with handles, nextHandle, calls := m.calls.push call } =
      m.openings ++ (opening? call).toList := by
  unfold openings
  rw [Array.toList_push, List.filterMap_append]
  cases h : opening? call <;> simp [h]

/-- The machine is left with other handles and calls, and as it was apart from that.  Processes were
tried to be opened with the given rights, one after the other; every one that could be opened has
used up a handle. -/
structure Tried (m : Machine) (rights : AccessRights) (ids : List ProcessId) (m' : Machine) :
    Prop where
  same : ∃ handles nextHandle calls, m' = { m with handles, nextHandle, calls }
  openings : m'.openings = m.openings ++ ids.map fun pid => (pid, rights)
  nextHandle : m'.nextHandle =
    m.nextHandle + 4 * ids.countP fun pid => (m.openRefusal? rights pid).isNone

namespace Tried

theorem refl (m : Machine) (rights : AccessRights) : m.Tried rights [] m :=
  ⟨⟨_, _, _, rfl⟩, (List.append_nil _).symm, rfl⟩

/-- Attempts one after the other. -/
theorem trans {ids ids' : List ProcessId} (h : m.Tried rights ids m')
    (h' : m'.Tried rights ids' m'') : m.Tried rights (ids ++ ids') m'' := by
  obtain ⟨handles, nextHandle, calls, rfl⟩ := h.same
  obtain ⟨handles', nextHandle', calls', rfl⟩ := h'.same
  constructor
  case same => exact ⟨_, _, _, rfl⟩
  case openings => rw [h'.openings, h.openings, List.map_append, List.append_assoc]
  case nextHandle =>
    rw [h'.nextHandle, h.nextHandle, List.countP_append]
    show _ + 4 * _ + 4 * ids'.countP (fun pid => (m.openRefusal? rights pid).isNone) = _
    omega

/-- A call that opens nothing. -/
theorem record {call : MachineCall} (m : Machine) (rights : AccessRights)
    (hcall : opening? call = none) : m.Tried rights [] (m.record call) := by
  constructor
  case same => exact ⟨_, _, _, rfl⟩
  case openings =>
    have hpush := m.openings_push call m.handles m.nextHandle
    rwa [hcall] at hpush
  case nextHandle => rfl

/-- An attempt to open a process. -/
theorem openProcess (m : Machine) (rights : AccessRights) (pid : ProcessId) :
    m.Tried rights [pid] (m.openProcess rights pid).2 := by
  cases hrefusal : m.openRefusal? rights pid with
  | some code =>
    rw [openProcess_of_refused hrefusal]
    constructor
    case same => exact ⟨_, _, _, rfl⟩
    case openings => exact m.openings_push _ _ _
    case nextHandle => simp [hrefusal, Machine.record]
  | none =>
    rw [openProcess_of_granted hrefusal]
    constructor
    case same => exact ⟨_, _, _, rfl⟩
    case openings => exact m.openings_push _ _ _
    case nextHandle => simp [hrefusal]

/-- Closing a handle. -/
theorem closeHandle (m : Machine) (rights : AccessRights) (h : Handle) :
    m.Tried rights [] (m.closeHandle h).2 := by
  unfold Machine.closeHandle
  cases m.handles.lookup h with
  | none => exact refl m rights
  | some pid =>
    constructor
    case same => exact ⟨_, _, _, rfl⟩
    case openings => exact m.openings_push _ _ _
    case nextHandle => rfl

theorem answerOf_eq {ids : List ProcessId} (h : m.Tried rights ids m') (pid : ProcessId)
    (f : ProcessRecord → Except OsCode α) : m'.answerOf pid f = m.answerOf pid f := by
  obtain ⟨handles, nextHandle, calls, rfl⟩ := h.same
  rfl

/-- The same processes can be opened afterwards. -/
theorem openRefusal?_eq {ids : List ProcessId} (h : m.Tried rights ids m')
    (rights' : AccessRights) (pid : ProcessId) :
    m'.openRefusal? rights' pid = m.openRefusal? rights' pid := by
  obtain ⟨handles, nextHandle, calls, rfl⟩ := h.same
  rfl

theorem is64Bit_eq {ids : List ProcessId} (h : m.Tried rights ids m') :
    m'.is64Bit = m.is64Bit := by
  obtain ⟨handles, nextHandle, calls, rfl⟩ := h.same
  rfl

theorem errorText_eq {ids : List ProcessId} (h : m.Tried rights ids m') :
    m'.errorText = m.errorText := by
  obtain ⟨handles, nextHandle, calls, rfl⟩ := h.same
  rfl

theorem visibleName?_eq {ids : List ProcessId} (h : m.Tried rights ids m') (pid : ProcessId) :
    m'.visibleName? pid = m.visibleName? pid := by
  obtain ⟨handles, nextHandle, calls, rfl⟩ := h.same
  rfl

end Tried

/-! ## Processes with a name -/

/-- The process is not the idle one, it can be looked into, and its name in lower case is the wanted
one. -/
def IsNamed (m : Machine) (wanted : String) (pid : ProcessId) : Prop :=
  pid ≠ 0 ∧ (m.visibleName? pid).map Text.lower = some wanted

instance (m : Machine) (wanted : String) : DecidablePred (m.IsNamed wanted) :=
  fun _ => inferInstanceAs (Decidable (_ ∧ _))

/-- The id of a process that can be looked into and has a name in lower case. -/
def shownAs? (m : Machine) (wanted : String) (pid : ProcessId) : Option ProcessId :=
  if (m.visibleName? pid).map Text.lower = some wanted then some pid else none

/-- A process that is not the idle one has the name, or it does not. -/
theorem filter_isNamed_cons {wanted : String} (hpid : pid ≠ 0) (rest : List ProcessId) :
    (pid :: rest).filter (m.IsNamed wanted) =
      (m.shownAs? wanted pid).toList ++ rest.filter (m.IsNamed wanted) := by
  unfold shownAs?
  by_cases hname : (m.visibleName? pid).map Text.lower = some wanted
  · have hnamed : m.IsNamed wanted pid := ⟨hpid, hname⟩
    rw [if_pos hname, List.filter_cons_of_pos (by simpa using hnamed)]
    rfl
  · have hnamed : ¬ m.IsNamed wanted pid := fun h => hname h.2
    rw [if_neg hname, List.filter_cons_of_neg (by simpa using hnamed)]
    rfl

/-- The same processes have the name after others were tried. -/
theorem Tried.filter_isNamed {ids : List ProcessId} (h : m.Tried rights ids m') (wanted : String)
    (l : List ProcessId) : l.filter (m'.IsNamed wanted) = l.filter (m.IsNamed wanted) := by
  apply List.filter_congr
  intro pid _
  rw [decide_eq_decide, IsNamed, IsNamed, h.visibleName?_eq]

/-- The process has the highest id of those with the name. -/
structure IsHighest (m : Machine) (wanted : String) (pid : ProcessId) : Prop where
  listed : pid ∈ m.processIds
  named : m.IsNamed wanted pid
  highest : ∀ other ∈ m.processIds, m.IsNamed wanted other → other ≤ pid

/-- There is one highest id. -/
theorem IsHighest.unique {wanted : String} {pid' : ProcessId} (h : m.IsHighest wanted pid)
    (h' : m.IsHighest wanted pid') : pid = pid' :=
  le_antisymm (h'.highest pid h.listed h.named) (h.highest pid' h'.listed h'.named)

/-- Another machine lists the same processes in any order, and they answer as here, with the same
texts for error numbers. -/
structure Reordered (m m' : Machine) : Prop where
  processIds : m.processIds.Perm m'.processIds
  listFault : m.listFault = m'.listFault
  openRefusal? : ∀ rights, ∀ pid ∈ m.processIds,
    m.openRefusal? rights pid = m'.openRefusal? rights pid
  isWow64 : ∀ pid ∈ m.processIds,
    m.answerOf pid ProcessRecord.isWow64 = m'.answerOf pid ProcessRecord.isWow64
  name : ∀ pid ∈ m.processIds, m.answerOf pid (fun p => p.name.bind storedName) =
    m'.answerOf pid fun p => p.name.bind storedName
  is64Bit : m.is64Bit = m'.is64Bit
  errorText : m.errorText = m'.errorText
  nextHandle : m.nextHandle = m'.nextHandle

namespace Reordered

/-- The same processes have a name. -/
theorem isNamed_iff {wanted : String} (h : m.Reordered m') (hpid : pid ∈ m.processIds) :
    m.IsNamed wanted pid ↔ m'.IsNamed wanted pid := by
  have hname : m.visibleName? pid = m'.visibleName? pid := by
    unfold visibleName?
    rw [h.openRefusal? _ pid hpid, h.isWow64 pid hpid, h.name pid hpid]
  rw [IsNamed, IsNamed, hname]

/-- The same process has the highest id. -/
theorem isHighest {wanted : String} (h : m.Reordered m') (hpid : m.IsHighest wanted pid) :
    m'.IsHighest wanted pid := by
  constructor
  case listed => exact h.processIds.mem_iff.mp hpid.listed
  case named => exact (h.isNamed_iff hpid.listed).mp hpid.named
  case highest =>
    intro other hother hnamed
    have hlisted := h.processIds.mem_iff.mpr hother
    exact hpid.highest other hlisted ((h.isNamed_iff hlisted).mpr hnamed)

/-- After all processes were tried on both machines, the next handle is the same. -/
theorem nextHandle_eq {n n' : Machine} (h : m.Reordered m')
    (hn : m.Tried .inspect (m.processIds.filter (· ≠ 0)) n)
    (hn' : m'.Tried .inspect (m'.processIds.filter (· ≠ 0)) n') : n.nextHandle = n'.nextHandle := by
  have hanswers : (m.processIds.filter (· ≠ 0)).countP
        (fun pid => (m.openRefusal? .inspect pid).isNone) =
      (m.processIds.filter (· ≠ 0)).countP fun pid => (m'.openRefusal? .inspect pid).isNone := by
    apply List.countP_congr
    intro pid hpid
    rw [h.openRefusal? _ pid (List.mem_of_mem_filter hpid)]
  have horder := (h.processIds.filter (· ≠ 0)).countP_eq
    fun pid => (m'.openRefusal? .inspect pid).isNone
  rw [hn.nextHandle, hn'.nextHandle, h.nextHandle, hanswers, horder]

/-- After all processes were tried on both machines, the same one opens alike. -/
theorem opened_eq {n n' : Machine} (h : m.Reordered m')
    (hn : m.Tried .inspect (m.processIds.filter (· ≠ 0)) n)
    (hn' : m'.Tried .inspect (m'.processIds.filter (· ≠ 0)) n') (rights : AccessRights)
    (hpid : pid ∈ m.processIds) : n.opened rights pid = n'.opened rights pid := by
  have htext : n.errorText = n'.errorText := by
    rw [hn.errorText_eq, hn'.errorText_eq, h.errorText]
  unfold opened ProcessHandle.openError
  rw [hn.openRefusal?_eq, hn'.openRefusal?_eq, hn.answerOf_eq, hn'.answerOf_eq, hn.is64Bit_eq,
    hn'.is64Bit_eq, h.openRefusal? rights pid hpid, h.isWow64 pid hpid, h.is64Bit,
    h.nextHandle_eq hn hn', htext, ProcessHandle.checked_congr htext]

end Reordered

end Machine

/-! ## Opening -/

namespace ProcessHandle

variable {m : Machine} {rights : AccessRights} {pid : ProcessId} {h : Handle}

/-- Closing a handle yields nothing, whether or not it is reported as a failure. -/
theorem closeHandle_yields (h : Handle) (m : Machine) :
    (closeHandle h).Yields m () (m.closeHandle h).2 := by
  have hcall := Action.yields_consult (Machine.closeHandle h) m
  unfold closeHandle
  cases hresult : (m.closeHandle h).1 with
  | ok _ =>
    rw [hresult] at hcall
    exact hcall.bind (Action.yields_pure () _)
  | error code =>
    rw [hresult] at hcall
    exact hcall.bind (Action.yields_record_look (fun m : Machine =>
      .warn ("failed to close handle: " ++ code.message (m.errorText code))) _)

/-- The width of a process that a handle is open for. -/
theorem detectWidth_gives (hopen : m.handles.lookup h = some pid) :
    (detectWidth h).Gives m ((checked m (m.answerOf pid ProcessRecord.isWow64)).map fun wow64 =>
      if wow64 then .four else if m.is64Bit then .eight else .four) m := by
  have hquery := gives_query (Machine.isWow64 h) m
  rw [show m.isWow64 h = m.answerOf pid ProcessRecord.isWow64 from
    Machine.answer_eq_answerOf hopen _] at hquery
  unfold detectWidth
  cases hanswer : m.answerOf pid ProcessRecord.isWow64 with
  | error code =>
    rw [hanswer] at hquery
    exact hquery.bind_error _
  | ok wow64 =>
    rw [hanswer] at hquery
    refine hquery.bind ?_
    cases wow64 with
    | true => exact Attempt.gives_pure _ m
    | false =>
      rintro scene rfl
      exact ⟨rfl, rfl⟩

/-- **Opening.**  A process is tried to be opened once; if that succeeds, the handle is open for the
process afterwards. -/
theorem openWith_gives (rights : AccessRights) (pid : ProcessId) (m : Machine) :
    ∃ m', (openWith rights pid).Gives m (m.opened rights pid) m' ∧ m.Tried rights [pid] m' ∧
      ∀ p, m.opened rights pid = .ok p → m'.handles.lookup p.handle = some pid := by
  have hcall := (Action.yields_consult (Machine.openProcess rights pid) m).always
  have htried := Machine.Tried.openProcess m rights pid
  unfold openWith Machine.opened
  cases hrefusal : m.openRefusal? rights pid with
  | some code =>
    rw [Machine.openProcess_of_refused hrefusal] at hcall htried
    exact ⟨_, hcall.bind (Attempt.gives_throw_look (openError · pid code) _), htried, nofun⟩
  | none =>
    have hopen : (m.openProcess rights pid).1 = .ok m.nextHandle :=
      congrArg Prod.fst (Machine.openProcess_of_granted hrefusal)
    have hlookup : (m.openProcess rights pid).2.handles.lookup m.nextHandle = some pid := by
      rw [Machine.openProcess_of_granted hrefusal]
      exact List.lookup_cons_self
    have hwidth := (detectWidth_gives hlookup).caught
    rw [htried.answerOf_eq pid, htried.is64Bit_eq, checked_congr htried.errorText_eq] at hwidth
    rw [hopen] at hcall
    cases hanswer : m.answerOf pid ProcessRecord.isWow64 with
    | error code =>
      -- the handle is closed on the way out
      rw [hanswer] at hwidth
      have hclose := (closeHandle_yields m.nextHandle (m.openProcess rights pid).2).always
      have hclosed := Machine.Tried.closeHandle (m.openProcess rights pid).2 rights m.nextHandle
      refine ⟨_, ?_, htried.trans hclosed, nofun⟩
      exact hcall.bind (hwidth.bind (hclose.bind (Attempt.gives_throw _ _)))
    | ok wow64 =>
      rw [hanswer] at hwidth
      refine ⟨_, ?_, htried, fun p hp => ?_⟩
      · exact hcall.bind (hwidth.bind ((Attempt.gives_note _ _).bind (Attempt.gives_pure _ _)))
      · obtain rfl := Except.ok.inj hp
        exact hlookup

/-! ## Looking into processes -/

/-- The name of the process that a handle is open for. -/
theorem baseName_gives {p : ProcessHandle} (hopen : m.handles.lookup p.handle = some pid) :
    p.baseName.Gives m ((checked m (m.answerOf pid fun p => p.name.bind Machine.storedName)).map
      Text.Utf16.decode) m := by
  have hquery := gives_query (Machine.baseName p.handle) m
  rw [show m.baseName p.handle = m.answerOf pid fun p => p.name.bind Machine.storedName from
    Machine.answer_eq_answerOf hopen _] at hquery
  unfold baseName
  cases hanswer : m.answerOf pid fun p => p.name.bind Machine.storedName with
  | error code =>
    rw [hanswer] at hquery
    exact hquery.bind_error _
  | ok units =>
    rw [hanswer] at hquery
    exact hquery.bind (Attempt.gives_pure _ m)

/-- **Looking into a process.**  It is tried to be opened once, and found if its name can be had and
is the wanted one in lower case. -/
theorem inspect_yields (wanted : String) (pid : ProcessId) (m : Machine) :
    ∃ m', (inspect wanted pid).Yields m (m.shownAs? wanted pid) m' ∧
      m.Tried .inspect [pid] m' := by
  obtain ⟨m', hopen, htried, hhandle⟩ := openWith_gives .inspect pid m
  unfold inspect Machine.shownAs?
  cases hopened : m.opened .inspect pid with
  | error e =>
    rw [hopened] at hopen
    rw [Machine.visibleName?_of_error hopened]
    refine ⟨m', ?_, htried⟩
    exact Action.Yields.bind hopen ((Action.yields_record _ _).bind (Action.yields_pure _ _))
  | ok p =>
    rw [hopened] at hopen
    have hname := baseName_gives (hhandle p hopened)
    rw [htried.answerOf_eq] at hname
    -- the handle is closed again, whatever was found
    have hclosed := Machine.Tried.closeHandle m' .inspect p.handle
    have hclose : ∀ found : Option ProcessId,
        Action.Yields (p.close >>= fun _ => pure found) m' found (m'.closeHandle p.handle).2 :=
      fun found => (closeHandle_yields p.handle m').bind (Action.yields_pure found _)
    rw [Machine.visibleName?_of_ok hopened]
    refine ⟨_, Action.Yields.bind hopen (Action.Yields.bind hname ?_), htried.trans hclosed⟩
    cases m.answerOf pid fun p => p.name.bind Machine.storedName with
    | error code => exact (Action.yields_pure _ m').bind (hclose none)
    | ok units =>
      show Action.Yields (if Text.lower (Text.Utf16.decode units) = wanted then _ else _) m'
        (if some (Text.lower (Text.Utf16.decode units)) = some wanted then _ else _) _
      by_cases hwanted : Text.lower (Text.Utf16.decode units) = wanted
      · rw [if_pos hwanted, if_pos (congrArg some hwanted)]
        exact (Action.yields_record _ _).bind ((Action.yields_pure _ m').bind (hclose (some pid)))
      · rw [if_neg hwanted, if_neg (mt Option.some.inj hwanted)]
        exact (Action.yields_pure _ m').bind (hclose none)

/-- The higher of two ids is the highest of both. -/
theorem max?_higher (best found : Option ProcessId) (rest : List ProcessId) :
    ((higher best found).toList ++ rest).max? = (best.toList ++ (found.toList ++ rest)).max? := by
  cases best with
  | none => rfl
  | some a =>
    cases found with
    | none => rfl
    | some b => rfl

/-- **Searching.**  Every process but the idle one is tried to be opened, in order, and the highest id
with the name is kept. -/
theorem search_yields (wanted : String) (best : Option ProcessId) (ids : List ProcessId)
    (m : Machine) :
    ∃ m', (search wanted best ids).Yields m
        (best.toList ++ ids.filter (m.IsNamed wanted)).max? m' ∧
      m.Tried .inspect (ids.filter (· ≠ 0)) m' := by
  induction ids generalizing best m with
  | nil =>
    refine ⟨m, ?_, .refl m .inspect⟩
    have hmax : (best.toList ++ List.filter (m.IsNamed wanted) []).max? = best := by
      cases best with
      | none => rfl
      | some a => rfl
    rw [hmax]
    exact Action.yields_pure best m
  | cons pid rest ih =>
    unfold search
    by_cases hidle : pid = 0
    · have hnamed : ¬ m.IsNamed wanted pid := fun h => h.1 hidle
      obtain ⟨m', hrest, htried⟩ := ih best m
      refine ⟨m', ?_, ?_⟩
      · rwa [if_pos hidle, List.filter_cons_of_neg (by simpa using hnamed)]
      · rwa [List.filter_cons_of_neg (by simpa using hidle)]
    · obtain ⟨m', hpid, htried⟩ := inspect_yields wanted pid m
      let found := m.shownAs? wanted pid
      obtain ⟨m'', hrest, htried'⟩ := ih (higher best found) m'
      refine ⟨m'', ?_, ?_⟩
      · rw [if_neg hidle, Machine.filter_isNamed_cons hidle, ← max?_higher, ← htried.filter_isNamed]
        exact hpid.bind hrest
      · rw [List.filter_cons_of_pos (by simpa using hidle)]
        exact htried.trans htried'

/-! ## Finding -/

/-- The ids of all processes are listed without a process being opened. -/
theorem allIds_gives (m : Machine) :
    ∃ m', allIds.Gives m (Listing.fetch Machine.error 0 4 Machine.listProcesses 0x400 m).1 m' ∧
      m.Tried .inspect [] m' := by
  have hcall := (Action.yields_consult
    (Listing.fetch Machine.error 0 4 Machine.listProcesses 0x400) m).always
  have hkeeps : ∀ size n, m.Tried .inspect [] n → m.Tried .inspect [] (n.listProcesses size).2 :=
    fun size n hn => hn.trans (.record n .inspect rfl)
  refine ⟨_, hcall.bind (Attempt.gives_ofExcept _ _), ?_⟩
  exact Listing.fetch_keeps 0 4 hkeeps 0x400 m (.refl m .inspect)

/-- A search goes on where the processes were listed, and ends with an opening if it found one. -/
theorem find_outcome {name : String} {scene : Scene Machine} {ids : List ProcessId}
    (hlist : (allIds.outcome scene).1 = .ok ids) :
    (find name).outcome scene =
      match search (wantedName name) none ids (allIds.outcome scene).2 with
      | (some pid, after) => (openFull pid).outcome after
      | (none, after) => (.error (.processNotFound name), after) := by
  rw [find, Attempt.outcome_bind, Action.bind_run, hlist]
  show Attempt.outcome (_ >>= _) _ = _
  rw [Attempt.outcome_bind, Action.bind_run, Action.always_run]
  rcases search (wantedName name) none ids (allIds.outcome scene).2 with ⟨_ | pid, after⟩
  · rfl
  · rfl

/-- How a search for an executable ends: the processes but the idle one were all tried to be opened,
in order, and then the one with the highest id is opened in full, if there is one with the name. -/
inductive SearchEnds (name wanted : String) (scene : Scene Machine) : Prop where
  /-- What opening it on the scene that the search left gives is the result. -/
  | opens {pid : ProcessId} {after : Scene Machine}
      (htried : scene.target.Tried .inspect (scene.target.processIds.filter (· ≠ 0)) after.target)
      (hpid : scene.target.IsHighest wanted pid)
      (hresult : (find name).outcome scene = (openFull pid).outcome after)
      (honce : after.target.Tried .full [pid] ((find name).outcome scene).2.target)
  /-- No process has the name. -/
  | missing {after : Scene Machine}
      (htried : scene.target.Tried .inspect (scene.target.processIds.filter (· ≠ 0)) after.target)
      (hnone : ∀ pid ∈ scene.target.processIds, ¬ scene.target.IsNamed wanted pid)
      (hresult : (find name).outcome scene = (.error (.processNotFound name), after))

/-- The processes can be listed if that does not fail and there are less than 2^29. -/
theorem isOk_allIds {scene : Scene Machine} (hfault : scene.target.listFault = none)
    (hcount : scene.target.processIds.length < 2 ^ 29) : (allIds.outcome scene).1.isOk := by
  have hheld : scene.target.processList = .ok scene.target.processIds := by
    unfold Machine.processList
    rw [hfault]
  have hfetch := Machine.answers_listProcesses.fetch_eq Machine.error 0 (by decide) (by decide)
    (show 0x400 * 4 < 2 ^ 32 by decide) (fun _ _ => rfl) hheld (by omega)
  obtain ⟨m', hids, -⟩ := allIds_gives scene.target
  rw [(hids scene rfl).1, hfetch]
  rfl

/-- The processes that could be listed are all of the machine. -/
theorem allIds_eq {scene : Scene Machine} (hlisted : (allIds.outcome scene).1.isOk) :
    (allIds.outcome scene).1 = .ok scene.target.processIds := by
  obtain ⟨m', hids, -⟩ := allIds_gives scene.target
  rw [(hids scene rfl).1] at hlisted ⊢
  cases hfetch : (Listing.fetch Machine.error 0 4 Machine.listProcesses 0x400 scene.target).1 with
  | error e =>
    rw [hfetch] at hlisted
    exact absurd hlisted nofun
  | ok ids =>
    have hheld := Machine.answers_listProcesses.eq_of_fetch Machine.error 0 (by decide)
      (fun _ _ => rfl) hfetch
    unfold Machine.processList at hheld
    cases hfault : scene.target.listFault with
    | some code =>
      rw [hfault] at hheld
      exact absurd hheld nofun
    | none =>
      rw [hfault] at hheld
      exact congrArg Except.ok (Except.ok.inj hheld).symm

/-- A search ends in one of the two ways if the processes can be listed. -/
theorem searchEnds (name : String) {scene : Scene Machine}
    (hlisted : (allIds.outcome scene).1.isOk) : SearchEnds name (wantedName name) scene := by
  obtain ⟨m', hids, hnone⟩ := allIds_gives scene.target
  obtain ⟨m'', hsearch, htried⟩ := search_yields (wantedName name) none scene.target.processIds m'
  obtain ⟨hbest, hafter⟩ := hsearch (allIds.outcome scene).2 (hids scene rfl).2
  have hfind : (find name).outcome scene = _ := find_outcome (allIds_eq hlisted)
  rw [hnone.filter_isNamed, Option.toList_none, List.nil_append] at hbest
  have htried := hnone.trans htried
  rcases hrun : search (wantedName name) none scene.target.processIds (allIds.outcome scene).2 with
    ⟨_ | pid, after⟩
  · rw [hrun] at hfind hbest hafter
    obtain rfl : after.target = m'' := hafter
    refine .missing htried (fun pid hpid hnamed => ?_) hfind
    have hempty := List.max?_eq_none_iff.mp hbest.symm
    have hmem : pid ∈ scene.target.processIds.filter (scene.target.IsNamed (wantedName name)) :=
      List.mem_filter.mpr ⟨hpid, decide_eq_true hnamed⟩
    rw [hempty] at hmem
    exact absurd hmem List.not_mem_nil
  · rw [hrun] at hfind hbest hafter
    obtain rfl : after.target = m'' := hafter
    obtain ⟨hmem, hhighest⟩ := List.max?_eq_some_iff.mp hbest.symm
    obtain ⟨hpid, hnamed⟩ := List.mem_filter.mp hmem
    obtain ⟨final, hopen, honce, -⟩ := openWith_gives .full pid after.target
    refine .opens htried ⟨hpid, of_decide_eq_true hnamed, fun other hother hnamed => ?_⟩ hfind ?_
    · exact hhighest other (List.mem_filter.mpr ⟨hother, decide_eq_true hnamed⟩)
    · rw [hfind]
      have hleft : ((openFull pid).outcome after).2.target = final := (hopen after rfl).2
      rwa [← hleft] at honce

/-- The processes can be listed in any order. -/
theorem isOk_allIds_of_reordered {scene other : Scene Machine}
    (h : scene.target.Reordered other.target) (hlisted : (allIds.outcome scene).1.isOk) :
    (allIds.outcome other).1.isOk := by
  have hquery : ∀ size (n n' : Machine),
      n.listFault = n'.listFault ∧ n.processIds.length = n'.processIds.length →
      (n.listProcesses size).1.map Listing.needed = (n'.listProcesses size).1.map Listing.needed ∧
        n.listFault = n'.listFault ∧ n.processIds.length = n'.processIds.length := by
    rintro size n n' ⟨hfault, hlength⟩
    refine ⟨?_, hfault, hlength⟩
    unfold Machine.listProcesses
    rw [← hfault]
    cases n.listFault with
    | some code => rfl
    | none =>
      have hstored : (n.processIds.take (size / 4)).length =
          (n'.processIds.take (size / 4)).length := by
        rw [List.length_take, List.length_take, hlength]
      exact congrArg (fun length => Except.ok (length * 4)) hstored
  have hfetch := Listing.isOk_fetch_congr Machine.error Machine.error 0 0 4 0x400 hquery
    ⟨h.listFault, h.processIds.length_eq⟩
  obtain ⟨m, hids, -⟩ := allIds_gives scene.target
  obtain ⟨m', hids', -⟩ := allIds_gives other.target
  rw [(hids scene rfl).1] at hlisted
  rw [(hids' other rfl).1]
  exact hfetch ▸ hlisted

/-- Searches of the same processes in another order have the same result. -/
theorem SearchEnds.result_eq {name wanted : String} {scene other : Scene Machine}
    (h : SearchEnds name wanted scene) (h' : SearchEnds name wanted other)
    (hsame : scene.target.Reordered other.target) :
    ((find name).outcome other).1 = ((find name).outcome scene).1 := by
  cases h with
  | @opens pid after htried hpid hresult honce =>
    cases h' with
    | @opens pid' after' htried' hpid' hresult' honce' =>
      obtain rfl : pid = pid' := (hsame.isHighest hpid).unique hpid'
      obtain ⟨_, hopen, -⟩ := openWith_gives .full pid after.target
      obtain ⟨_, hopen', -⟩ := openWith_gives .full pid after'.target
      calc ((find name).outcome other).1 = ((openFull pid).outcome after').1 := by rw [hresult']
        _ = after'.target.opened .full pid := (hopen' after' rfl).1
        _ = after.target.opened .full pid := (hsame.opened_eq htried htried' .full hpid.listed).symm
        _ = ((openFull pid).outcome after).1 := (hopen after rfl).1.symm
        _ = ((find name).outcome scene).1 := by rw [hresult]
    | missing htried' hnone' hresult' =>
      have hother := hsame.isHighest hpid
      exact absurd hother.named (hnone' pid hother.listed)
  | missing htried hnone hresult =>
    cases h' with
    | @opens pid' after' htried' hpid' hresult' honce' =>
      have hlisted := hsame.processIds.mem_iff.mpr hpid'.listed
      exact absurd ((hsame.isNamed_iff hlisted).mpr hpid'.named) (hnone pid' hlisted)
    | missing htried' hnone' hresult' => rw [hresult, hresult']

/-- **Finding.**  Let the processes of a machine be listed.  Whatever the processes do, a search by
name tries all of them but the idle one, and ends in one of the two ways, with the wanted name in
lower case; and it gives the same on every machine that lists the processes in another order. -/
theorem find_opens_highest (name : String) (scene : Scene Machine)
    (hlisted : (allIds.outcome scene).1.isOk) :
    (∃ sought, FilePath.SoughtBy name.toList sought ∧
        SearchEnds name (Text.lower (String.ofList sought)) scene) ∧
      ∀ other : Scene Machine, scene.target.Reordered other.target →
        ((find name).outcome other).1 = ((find name).outcome scene).1 := by
  have hends := searchEnds name hlisted
  refine ⟨⟨_, FilePath.soughtBy_iff.mpr rfl, hends⟩, fun other hother => ?_⟩
  have hends' := searchEnds name (isOk_allIds_of_reordered hother hlisted)
  exact hends.result_eq hends' hother

/-- A machine with processes of two names.  Some cannot be looked into, and the one with the highest
id of those that can does not let anybody write to it. -/
def crowd : Machine where
  errorText _ := "Access is denied."
  processes :=
    [{ pid := 8, name := .ok (Text.Utf16.encode "a.exe") },
      { pid := 12, name := .ok (Text.Utf16.encode "A.EXE"), writeOpenFault := some .accessDenied },
      { pid := 0, name := .ok (Text.Utf16.encode "a.exe") },
      { pid := 16, name := .ok (Text.Utf16.encode "b.exe") },
      { pid := 20, name := .ok (Text.Utf16.encode "a.exe"), openFault := some .accessDenied },
      { pid := 28, name := .ok (Text.Utf16.encode "a.exe"), isWow64 := .error .invalidHandle },
      { pid := 24, name := .error .partialCopy },
      { pid := 8, name := .ok (Text.Utf16.encode "a.exe") }]
  sealed := (32, 2)

/-- The same machine with the processes listed backwards. -/
def crowdBackwards : Machine :=
  { crowd with processes := crowd.processes.reverse }

/-- Both machines have the same processes. -/
theorem crowd_reordered : crowd.Reordered crowdBackwards := by
  constructor
  case processIds => decide +kernel
  case openRefusal? =>
    have hrights : ∀ query read write operation, ∀ pid ∈ crowd.processIds,
        crowd.openRefusal? ⟨query, read, write, operation⟩ pid =
          crowdBackwards.openRefusal? ⟨query, read, write, operation⟩ pid := by
      decide +kernel
    exact fun ⟨query, read, write, operation⟩ => hrights query read write operation
  case isWow64 => decide +kernel
  case name => decide +kernel
  case listFault | is64Bit | errorText | nextHandle => rfl

/-- A search opens the process with the id 12, which fails, in any order. -/
theorem crowd_is_searched :
    (allIds.outcome ⟨crowd, #[], #[]⟩).1.isOk ∧
      ((find "C:\\bin\\a.exe").outcome ⟨crowd, #[], #[]⟩).1 =
        .error (.openProcess 12 (.os 5 "Access is denied.")) ∧
      ((find "C:\\bin\\a.exe").outcome ⟨crowdBackwards, #[], #[]⟩).1 =
        .error (.openProcess 12 (.os 5 "Access is denied.")) := by
  have hlisted : (allIds.outcome ⟨crowd, #[], #[]⟩).1.isOk := isOk_allIds rfl (by decide)
  have h12 : crowd.IsHighest (wantedName "C:\\bin\\a.exe") 12 := by
    constructor
    all_goals decide +kernel
  obtain ⟨⟨sought, hsought, hends⟩, hany⟩ :=
    find_opens_highest "C:\\bin\\a.exe" ⟨crowd, #[], #[]⟩ hlisted
  obtain rfl := FilePath.soughtBy_iff.mp hsought
  have hresult : ((find "C:\\bin\\a.exe").outcome ⟨crowd, #[], #[]⟩).1 =
      .error (.openProcess 12 (.os 5 "Access is denied.")) := by
    cases hends with
    | @opens pid after htried hpid hresult honce =>
      obtain rfl : pid = 12 := hpid.unique h12
      obtain ⟨_, hopen, -⟩ := openWith_gives .full 12 after.target
      have hopened : after.target.opened .full 12 =
          .error (.openProcess 12 (.os 5 "Access is denied.")) := by
        unfold Machine.opened openError
        rw [htried.openRefusal?_eq, htried.errorText_eq]
        rfl
      rw [hresult, ← hopened]
      exact (hopen after rfl).1
    | missing htried hnone hresult => exact absurd h12.named (hnone 12 h12.listed)
  exact ⟨hlisted, hresult, (hany ⟨crowdBackwards, #[], #[]⟩ crowd_reordered).trans hresult⟩

end ProcessHandle

end MemWatch
