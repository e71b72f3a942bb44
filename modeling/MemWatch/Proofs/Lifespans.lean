/-
# How long a process is found running

What a program does to the memory of a process through an open handle touches neither the answers to
the question whether the process still runs, nor the handle.  So a process that is found gone when
it is asked often enough is found gone in the course of a watch as well.
-/
import Mathlib
import MemWatch.ProcessHandle.Attached
import MemWatch.Proofs.Watching

namespace MemWatch

/-! ## Processes behind handles -/

namespace Machine

variable {m : Machine} {h : Handle} {p : ProcessRecord}

/-- The process that was looked up by its id is changed where it stands. -/
theorem find?_updateFirst {pid : ProcessId} {f : ProcessRecord → ProcessRecord}
    (hpid : ∀ q, (f q).pid = q.pid) {l : List ProcessRecord}
    (hfind : (l.find? fun q => q.pid = pid) = some p) :
    ((updateFirst pid f l).find? fun q => q.pid = pid) = some (f p) := by
  induction l with
  | nil => exact absurd hfind nofun
  | cons q rest ih =>
    by_cases hq : q.pid = pid
    · simp_all [updateFirst]
    · rw [List.find?_cons_of_neg (by simpa using hq)] at hfind
      rw [updateFirst, if_neg hq, List.find?_cons_of_neg (by simpa using hq)]
      exact ih hfind

/-- A handle stays open for a process that is changed. -/
theorem ofHandle?_update {f : ProcessRecord → ProcessRecord} (hpid : ∀ q, (f q).pid = q.pid)
    (hopen : m.ofHandle? h = some p) : (m.update p.pid f).ofHandle? h = some (f p) := by
  obtain ⟨pid, hlookup, hfind⟩ := Option.bind_eq_some_iff.mp hopen
  have hp : p.pid = pid := by simpa using List.find?_some hfind
  show ((m.update p.pid f).handles.lookup h).bind (m.update p.pid f).find? = _
  rw [show (m.update p.pid f).handles.lookup h = some pid from hlookup, Option.bind_some, hp]
  exact find?_updateFirst hpid hfind

end Machine

/-- What every attempt to fetch a list keeps is kept by the whole fetching. -/
theorem Listing.fetch_keeps {σ α : Type} {Q : σ → Prop}
    {toError : σ → OsCode → Error} (blank : α) (elementSize : Nat)
    {query : Nat → σ → Except OsCode (Listing α) × σ} (hquery : ∀ size s, Q s → Q (query size s).2)
    (length : Nat) (s : σ) (hs : Q s) : Q (fetch toError blank elementSize query length s).2 := by
  induction length, s using fetch.induct elementSize query with
  | case1 length s hsize code t hcall =>
    have ht := hquery (length * elementSize) s hs
    rw [hcall] at ht
    rwa [fetch, dif_pos hsize, hcall]
  | case2 length s hsize listing t hcall hfull ih =>
    have ht := hquery (length * elementSize) s hs
    rw [hcall] at ht
    rw [fetch, dif_pos hsize, hcall]
    simp only [dif_pos hfull]
    exact ih ht
  | case3 length s hsize listing t hcall hfull =>
    have ht := hquery (length * elementSize) s hs
    rw [hcall] at ht
    rw [fetch, dif_pos hsize, hcall]
    simpa only [dif_neg hfull] using ht
  | case4 length s hsize => rwa [fetch, dif_neg hsize]

namespace Attached

variable {s : Attached} {p : ProcessRecord}

/-- The process that the handle is open for. -/
def record? (s : Attached) : Option ProcessRecord :=
  s.machine.ofHandle? s.process.handle

/-! ## Answers to the question whether the process still runs -/

/-- The answer that a process gives, and how it is left. -/
theorem poll_eq (h : s.record? = some p) :
    (∃ code, p.exitCode = .error code ∧ (poll s).1 = .error (s.machine.error code) ∧
      (poll s).2.record? = some p) ∨
    (∃ code, p.exitCode = .ok code ∧ p.pollsLeft = 0 ∧
      (poll s).1 = .ok (code == Machine.stillActive) ∧ (poll s).2.record? = some p) ∨
    ∃ code n, p.exitCode = .ok code ∧ p.pollsLeft = n + 1 ∧ (poll s).1 = .ok true ∧
      (poll s).2.record? = some { p with pollsLeft := n } := by
  have hopen : s.machine.ofHandle? s.process.handle = some p := h
  have hnoted : (s.machine.record (.exitCode p.pid)).ofHandle? s.process.handle = some p := h
  unfold poll call Machine.exitCode
  simp only [hopen]
  rcases hcode : p.exitCode with code | code
  · exact Or.inl ⟨code, rfl, rfl, h⟩
  · rcases hpolls : p.pollsLeft with _ | n
    · exact Or.inr (Or.inl ⟨code, rfl, rfl, rfl, h⟩)
    · refine Or.inr (Or.inr ⟨code, n, rfl, rfl, rfl, ?_⟩)
      have hafter := Machine.ofHandle?_update (f := fun p => { p with pollsLeft := n })
        (fun _ => rfl) hnoted
      rw [hcode] at hafter
      exact hafter

/-- A handle that is not open leads to no process that runs. -/
theorem exists_record?_of_poll (h : (poll s).1 = .ok true) : ∃ p, s.record? = some p := by
  cases hrecord : s.record? with
  | some p => exact ⟨p, rfl⟩
  | none =>
    have hopen : s.machine.ofHandle? s.process.handle = none := hrecord
    unfold poll call at h
    simp only [Machine.exitCode, hopen] at h
    exact absurd h nofun

/-- Asking leaves the handle open. -/
theorem exists_record?_after_poll (h : s.record? = some p) :
    ∃ q, (poll s).2.record? = some q := by
  rcases poll_eq h with ⟨_, -, -, hafter⟩ | ⟨_, -, -, -, hafter⟩ | ⟨_, _, -, -, -, hafter⟩
  · exact ⟨_, hafter⟩
  · exact ⟨_, hafter⟩
  · exact ⟨_, hafter⟩

/-- A process that has another exit code to tell is found running for a number of polls only. -/
theorem exists_pollsLeft_of_poll (hp : s.record? = some p)
    (hcode : p.exitCode ≠ .ok Machine.stillActive) (hrunning : (poll s).1 = .ok true) :
    ∃ n, p.pollsLeft = n + 1 ∧ (poll s).2.record? = some { p with pollsLeft := n } := by
  rcases poll_eq hp with ⟨code, -, hpoll, -⟩ | ⟨code, hexit, -, hpoll, -⟩ |
    ⟨code, n, -, hleft, -, hafter⟩
  · rw [hpoll] at hrunning
    exact absurd hrunning nofun
  · rw [hpoll] at hrunning
    have hactive : code = Machine.stillActive := by simpa using Except.ok.inj hrunning
    exact absurd (hactive ▸ hexit) hcode
  · exact ⟨n, hleft, hafter⟩

/-- A process whose exit code is that of processes that still run is found running, and stays so. -/
theorem poll_of_stillActive (hp : s.record? = some p)
    (hactive : p.exitCode = .ok Machine.stillActive) :
    (poll s).1 = .ok true ∧
      ∃ q, (poll s).2.record? = some q ∧ q.exitCode = .ok Machine.stillActive := by
  rcases poll_eq hp with ⟨code, hexit, -⟩ | ⟨code, hexit, -, hpoll, hafter⟩ |
    ⟨code, n, -, -, hpoll, hafter⟩
  · rw [hactive] at hexit
    exact absurd hexit nofun
  · obtain rfl : Machine.stillActive = code := Except.ok.inj (hactive.symm.trans hexit)
    exact ⟨hpoll, p, hafter, hactive⟩
  · exact ⟨hpoll, _, hafter, hactive⟩

/-! ## Accesses to memory -/

/-- Apart from its memory, the process behind the handle is as it was. -/
def SameRecord (s t : Attached) : Prop :=
  ∀ p, s.record? = some p → ∃ memory, t.record? = some { p with memory }

/-- The process is the same if nothing but a call was noted. -/
theorem sameRecord_record (s : Attached) (c : MachineCall) :
    s.SameRecord { s with machine := s.machine.record c } :=
  fun p hp => ⟨p.memory, hp⟩

/-- The process is the same as itself. -/
theorem sameRecord_self (s : Attached) : s.SameRecord s :=
  fun p hp => ⟨p.memory, hp⟩

/-- A read notes a call, if it comes to one. -/
theorem after_read (a : Address) (size : Nat) (s : Attached) : (read a size s).2 = s ∨
    ∃ pointer, (read a size s).2 =
      { s with machine := s.machine.record (.read pointer size) } := by
  unfold read
  cases a.toPointer .eight with
  | error e => exact Or.inl rfl
  | ok pointer =>
    refine Or.inr ⟨pointer, ?_⟩
    rcases hanswer : s.call (Machine.readMemory s.process.handle pointer size) with ⟨_ | bytes, t⟩
    all_goals
      obtain rfl : { s with machine := s.machine.record (.read pointer size) } = t :=
        congrArg Prod.snd hanswer
      simp only [hanswer]

/-- A write leaves what the call to the machine does, if it comes to one. -/
theorem after_write (a : Address) (bytes : Bytes) (s : Attached) : (write a bytes s).2 = s ∨
    ∃ pointer, (write a bytes s).2 =
      (s.call (Machine.writeMemory s.process.handle pointer bytes)).2 := by
  unfold write
  cases a.toPointer .eight with
  | error e => exact Or.inl rfl
  | ok pointer =>
    refine Or.inr ⟨pointer, ?_⟩
    rcases hanswer : s.call (Machine.writeMemory s.process.handle pointer bytes) with ⟨_ | size, t⟩
    all_goals simp only [hanswer]

/-- A read leaves the process as it is. -/
theorem sameRecord_read (a : Address) (size : Nat) (s : Attached) :
    s.SameRecord (read a size s).2 := by
  rcases after_read a size s with hafter | ⟨pointer, hafter⟩
  · rw [hafter]
    exact s.sameRecord_self
  · rw [hafter]
    exact s.sameRecord_record (.read pointer size)

/-- A write changes nothing but the memory of the process. -/
theorem sameRecord_write (a : Address) (bytes : Bytes) (s : Attached) :
    s.SameRecord (write a bytes s).2 := by
  rcases after_write a bytes s with hafter | ⟨pointer, hafter⟩
  · rw [hafter]
    exact s.sameRecord_self
  · rw [hafter]
    intro p hp
    have hnoted : (s.machine.record (.write pointer bytes.length)).ofHandle? s.process.handle =
        some p := hp
    unfold call Machine.writeMemory
    have hopen : s.machine.ofHandle? s.process.handle = some p := hp
    simp only [hopen]
    rcases s.machine.transferSize p .write pointer bytes.length with code | size
    · exact ⟨p.memory, hp⟩
    · exact ⟨_, Machine.ofHandle?_update (fun _ => rfl) hnoted⟩

/-- A question about the main module that changes nothing leaves what listing the modules does. -/
theorem after_onMainModule {α : Type} {f : Handle → Attached → Except Error α × Attached}
    (hf : ∀ h s, (f h s).2 = s) (s : Attached) : (onMainModule f s).2 = s.modules.2 := by
  unfold onMainModule mainModule
  rcases s.modules with ⟨_ | _ | _, t⟩
  · rfl
  · rfl
  · exact hf _ t

/-- Finding the base of the main module leaves what listing the modules does. -/
theorem after_base (s : Attached) : (onMainModule moduleBase s).2 = s.modules.2 :=
  after_onMainModule (fun _ _ => rfl) s

/-- Finding the base of the main module leaves the process as it is. -/
theorem sameRecord_base (s : Attached) : s.SameRecord (onMainModule moduleBase s).2 := by
  -- only the modules are listed, however often that takes
  rw [after_base]
  intro p hp
  have hquery : ∀ size m, m.ofHandle? s.process.handle = some p →
      (Machine.listModules s.process.handle size m).2.ofHandle? s.process.handle = some p :=
    fun _ _ hm => hm
  exact ⟨p.memory, Listing.fetch_keeps 0 8 hquery 0x100 s.machine hp⟩

/-! ## Lifespans -/

/-- The process is found running at most so many more times in a row. -/
def EndsWithin (n : Nat) (s : Attached) : Prop :=
  ∃ p, s.record? = some p ∧ p.pollsLeft ≤ n ∧ p.exitCode ≠ .ok Machine.stillActive

/-- Accesses to memory do not touch how often the process is found running. -/
theorem SameRecord.endsWithin {n : Nat} {t : Attached} (h : s.SameRecord t)
    (hends : s.EndsWithin n) : t.EndsWithin n := by
  obtain ⟨p, hp, hpolls, hcode⟩ := hends
  obtain ⟨memory, ht⟩ := h p hp
  exact ⟨_, ht, hpolls, hcode⟩

/-- **Lifespans.**  Every answer that the process runs leaves it one less, and with none left it is
found gone. -/
theorem lifespan_endsWithin : Monitor.Lifespan EndsWithin := by
  constructor
  case access =>
    intro n
    constructor
    · exact fun a size s hs => (sameRecord_read a size s).endsWithin hs
    · exact fun a bytes s hs => (sameRecord_write a bytes s).endsWithin hs
    · exact fun s hs => (sameRecord_base s).endsWithin hs
  case gone =>
    rintro s ⟨p, hp, hpolls, hcode⟩ hrunning
    obtain ⟨n, hleft, -⟩ := exists_pollsLeft_of_poll hp hcode hrunning
    omega
  case poll =>
    rintro n s ⟨p, hp, hpolls, hcode⟩ hrunning
    obtain ⟨k, hleft, hafter⟩ := exists_pollsLeft_of_poll hp hcode hrunning
    refine ⟨_, hafter, ?_, hcode⟩
    show k ≤ n
    omega

/-- Asked often enough, the process is not found running any more. -/
def IsFoundGone (s : Attached) : Prop :=
  ∃ n, (Target.poll ((fun s : Attached => (Target.poll s).2)^[n] s)).1 ≠ .ok true

/-- A process that is found gone at some time has an exit code to tell. -/
theorem IsFoundGone.endsWithin (h : s.IsFoundGone) (hopen : s.record? = some p) :
    s.EndsWithin (Target.lifetime s) := by
  have hlifetime : Target.lifetime s = p.pollsLeft := by
    show (s.record?.map ProcessRecord.pollsLeft).getD 0 = _
    rw [hopen]
    rfl
  refine ⟨p, hopen, hlifetime.ge, fun hcode => ?_⟩
  -- otherwise it is found running for ever
  obtain ⟨n, hgone⟩ := h
  have hforever : ∀ n, ∃ q, ((fun s : Attached => (Target.poll s).2)^[n] s).record? = some q ∧
      q.exitCode = .ok Machine.stillActive := by
    intro n
    induction n with
    | zero => exact ⟨p, hopen, hcode⟩
    | succ n ih =>
      obtain ⟨q, hq, hactive⟩ := ih
      rw [Function.iterate_succ_apply']
      exact (poll_of_stillActive hq hactive).2
  obtain ⟨q, hq, hactive⟩ := hforever n
  exact hgone (poll_of_stillActive hq hactive).1

end Attached

end MemWatch
