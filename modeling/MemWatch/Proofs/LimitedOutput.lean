/-
# Runs over limited output

A sink with a limit gives out somewhere in a picture: in a line, in the header, in a control
sequence.  The cycle behind that picture was made and its writes stay, but it does not count, and
the monitor keeps running, so the next step makes another cycle.  A flush that fails comes to the
same, with the whole picture written.

Main statement: a run over a sink with a limit shows all its cycles, or it fails in the first one
whose picture does not fit, and then the sink has as many bytes as it could take.
-/
import MemWatch.Proofs.Runs

namespace MemWatch.Monitor

variable {m : Monitor} {out : Sink} {i : Image} {k : Nat}

/-! ## The picture piece by piece -/

/-- The pieces in which the picture of the readings of a cycle is written. -/
def pieces (m : Monitor) (readings : List Reading) : List String :=
  (if m.redraw then (if m.cycles = 0 then [clearAll] else []) ++ [moveHome] else []) ++
    (m.lines readings).flatMap fun line =>
      line :: ((if m.redraw then [clearLineEnd] else []) ++ ["\n"])

/-- The pieces of several texts make up those texts. -/
theorem join_flatMap {α : Type} {text : α → String} {parts : α → List String}
    (h : ∀ a, String.join (parts a) = text a) (l : List α) :
    String.join (l.flatMap parts) = String.join (l.map text) := by
  induction l with
  | nil => rfl
  | cons a rest ih =>
    rw [List.flatMap_cons, List.map_cons, String.join_append, String.join_cons, h, ih]

/-- The pieces make up the picture. -/
theorem join_pieces (m : Monitor) (readings : List Reading) :
    String.join (m.pieces readings) = m.draw readings := by
  have hline : ∀ line, String.join
      (line :: ((if m.redraw then [clearLineEnd] else []) ++ ["\n"])) = m.drawLine line := by
    intro line
    unfold drawLine
    cases m.redraw <;> simp [String.append_assoc]
  have hpreamble : String.join
      (if m.redraw then (if m.cycles = 0 then [clearAll] else []) ++ [moveHome] else []) =
        m.preamble := by
    unfold preamble
    cases m.redraw <;> by_cases hfirst : m.cycles = 0 <;> simp [hfirst]
  rw [pieces, String.join_append, join_flatMap hline, hpreamble, draw]

/-- Written piece by piece, the picture comes to the same as in one go, wherever the sink gives
out. -/
theorem putEach_pieces (m : Monitor) (out : Sink) (readings : List Reading) :
    out.putEach ((m.pieces readings).map .ofString) = out.putText (m.draw readings) := by
  rw [Sink.putEach_eq_put, ← Sink.ofString_join, join_pieces]
  rfl

/-! ## Steps after a failure -/

/-- Every step of the monitor does on the scene what it does on the target alone, whatever happened
before. -/
def StepsAfresh (m : Monitor) (s : Scene Image) : Prop :=
  ∀ out : Sink,
    (m.step out s).1 = (m.step out).valueOn s.target ∧
    (m.step out s).2.target = (m.step out).targetOn s.target ∧
    (m.step out s).2.calls.toList = s.calls.toList ++ (m.step out).callsOn s.target

/-- A step depends on the monitor and on the target only. -/
theorem stepsAfresh (m : Monitor) (s : Scene Image) : m.StepsAfresh s := by
  intro out
  obtain ⟨cs, p, j, hstep, -⟩ := exists_makes_step m out s.target
  obtain ⟨hp, hj⟩ := hstep.yields s rfl
  exact ⟨hp.trans hstep.valueOn_eq.symm, hj.trans hstep.targetOn_eq.symm,
    hstep.callsOn_eq ▸ hstep.calls s rfl⟩

/-! ## Runs that are cut short -/

/-- The run from a scene showed a number of cycles and failed in the next one, for which the sink
had no room: that cycle was made, but it does not count. -/
structure IsCut (m : Monitor) (out : Sink) (room : Nat) (s : Scene Image) (k : Nat)
    (r : Progress × Scene Image) : Prop where
  result : r.1.result = .error (.system (.other "sink is full"))
  monitor : r.1.monitor = { m with cycles := m.cycles + k }
  running : r.1.monitor.state = .running
  bytes : r.1.out.bytes = out.bytes ++ (m.frames s.target (k + 1)).take room
  target : r.2.target = (m.cycled s.target (k + 1)).withPolls
    (if m.polls then s.target.pollsLeft - k else s.target.pollsLeft)
  calls : r.2.calls.toList = s.calls.toList ++
    (m.callsOver s.target k ++ m.entries.cycle.callsOn (m.cycled s.target k))

/-- If not all of a number of cycles fit, there is a first one that does not. -/
theorem exists_cut {room n : Nat} (h : room < (m.frames i n).length) :
    ∃ k < n, (m.frames i k).length ≤ room ∧ room < (m.frames i (k + 1)).length := by
  -- either the last cycle is the one, or the cycles before it are already too many
  induction n with
  | zero => simp [frames] at h
  | succ n ih =>
    by_cases hfit : (m.frames i n).length ≤ room
    · exact ⟨n, Nat.lt_succ_self n, hfit, h⟩
    · obtain ⟨k, hk, hcut⟩ := ih (by omega)
      exact ⟨k, Nat.lt_succ_of_lt hk, hcut⟩

/-- A run is cut short in the first cycle that does not fit. -/
theorem isCut_run {s : Scene Image} {room : Nat} (hroom : out.room = some room)
    (hflush : out.flushFails = false) (hk : k < m.cyclesLeft s.target.pollsLeft)
    (hfit : (m.frames s.target k).length ≤ room)
    (hcut : room < (m.frames s.target (k + 1)).length) :
    m.IsCut out room s k (m.run out s) := by
  -- a stopped monitor makes no cycle that could be cut
  have hstate : m.state = .running := by
    rcases hstate : m.state with _ | _
    · rfl
    · rw [cyclesLeft, hstate] at hk
      exact absurd hk (Nat.not_lt_zero k)
  rw [cyclesLeft_of_running hstate] at hk
  have hroom_iff : ∀ n, out.hasRoom n = decide (n ≤ room) := by
    intro n
    rw [Sink.hasRoom, hroom, Option.all_some]
  have hrun := makes_run_cut hstate hflush (Nat.le_of_lt_succ hk)
    ((hroom_iff _).trans (decide_eq_true hfit))
    ((hroom_iff _).trans (decide_eq_false (Nat.not_le.mpr hcut)))
  obtain ⟨hp, htarget⟩ := hrun.yields s rfl
  constructor
  · rw [hp]
    rfl
  · rw [hp]
    rfl
  · rw [hp]
    exact hstate
  · rw [hp]
    exact Sink.bytes_taking_of_room hroom _
  · exact htarget
  · exact hrun.calls s rfl

/-- The step from a scene wrote its whole picture but could not flush it: the cycle was made, but
it does not count. -/
structure IsUnflushed (m : Monitor) (out : Sink) (s : Scene Image) (r : Progress × Scene Image) :
    Prop where
  result : r.1.result = .error (.system (.other "flush failed"))
  monitor : r.1.monitor = m
  bytes : r.1.out.bytes = out.bytes ++ .ofString (m.draw (m.entries.cycle.valueOn s.target))
  target : r.2.target = m.entries.cycle.targetOn s.target
  calls : r.2.calls.toList = s.calls.toList ++ m.entries.cycle.callsOn s.target

/-- A step whose flush fails leaves the monitor as it was. -/
theorem isUnflushed_step {s : Scene Image} (hstate : m.state = .running)
    (hflush : out.flushFails = true)
    (hfit : out.hasRoom (Bytes.ofString (m.draw (m.entries.cycle.valueOn s.target))).length =
      true) :
    m.IsUnflushed out s (m.step out s) := by
  have hshow := Sink.putFlushed_of_hasRoom hfit
  rw [hflush] at hshow
  have hstep := makes_step_of_error hstate (m.entries.makes_cycle_on s.target) hshow
  obtain ⟨hp, htarget⟩ := hstep.yields s rfl
  constructor
  · rw [hp]
    rfl
  · rw [hp]
  · rw [hp]
    exact Sink.bytes_taking hfit
  · exact htarget
  · exact hstep.calls s rfl

/-- **Limited output.**  Over a sink with a limit a run shows all its cycles if they fit.  Otherwise
it fails in the first cycle that does not: the sink has taken what it could, the writes of that
cycle stay although it does not count, and after it nothing was asked.  A step whose flush fails
does not count either.  After both failures a step is one from the state that they left.  In which
pieces a picture is written makes no difference. -/
theorem run_over_limited_sink (m : Monitor) (out : Sink) (s : Scene Image) (room : Nat)
    (hroom : out.room = some room) (hflush : out.flushFails = false) :
    ((m.frames s.target (m.cyclesLeft s.target.pollsLeft)).length ≤ room →
      m.Completes out s (m.cyclesLeft s.target.pollsLeft) (m.run out s)) ∧
    (room < (m.frames s.target (m.cyclesLeft s.target.pollsLeft)).length →
      ∃ k < m.cyclesLeft s.target.pollsLeft,
        (m.frames s.target k).length ≤ room ∧ room < (m.frames s.target (k + 1)).length ∧
        m.IsCut out room s k (m.run out s) ∧
        (m.callsOver s.target k ++ m.entries.cycle.callsOn (m.cycled s.target k)).count .alive =
          (if m.polls then k else 0) ∧
        (m.run out s).1.monitor.StepsAfresh (m.run out s).2) ∧
    (∀ unflushed : Sink, m.state = .running → unflushed.flushFails = true →
      unflushed.hasRoom (Bytes.ofString (m.draw (m.entries.cycle.valueOn s.target))).length = true →
      m.IsUnflushed unflushed s (m.step unflushed s) ∧
        (m.step unflushed s).1.monitor.StepsAfresh (m.step unflushed s).2) ∧
    ∀ (k : Nat) (readings : List Reading) (sink : Sink),
      sink.putEach (((m.later k).pieces readings).map .ofString) =
        sink.putText ((m.later k).draw readings) := by
  refine ⟨fun hfit => ?_, fun hover => ?_, fun unflushed hstate hfails hfit => ?_,
    fun k readings sink => (m.later k).putEach_pieces sink readings⟩
  · exact completes_run hflush (by simpa [Sink.hasRoom, hroom] using hfit)
  · obtain ⟨k, hk, hfit, hcut⟩ := exists_cut hover
    refine ⟨k, hk, hfit, hcut, isCut_run hroom hflush hk hfit hcut, ?_, stepsAfresh _ _⟩
    rw [List.count_append, count_alive_callsOver, count_alive_cycle, Nat.add_zero]
  · exact ⟨isUnflushed_step hstate hfails hfit, stepsAfresh _ _⟩

/-- With room for thirty bytes the second picture of the image is cut in its address. -/
theorem guard_cut_in_second_cycle :
    (⟨some 30, false, #[]⟩ : Sink).room = some 30 ∧
      (⟨some 30, false, #[]⟩ : Sink).flushFails = false ∧
      guard.IsCut ⟨some 30, false, #[]⟩ 30 { target := guardImage } 1
        (guard.run ⟨some 30, false, #[]⟩ { target := guardImage }) ∧
      (guard.frames guardImage 2).take 30 =
        Bytes.ofString "ab\nR1 0x00001000=7\nab\nR1 0x000" := by
  obtain ⟨-, hover, -⟩ :=
    run_over_limited_sink guard ⟨some 30, false, #[]⟩ { target := guardImage } 30 rfl rfl
  have hone : (guard.frames guardImage 1).length = 19 := by cbv
  have htwo : (guard.frames guardImage 2).length = 38 := by cbv
  have hthree : (guard.frames guardImage 3).length = 57 := by cbv
  have hcount : guard.cyclesLeft guardImage.pollsLeft = 3 := by decide
  rw [hcount] at hover
  obtain ⟨k, hk, hfit, hcut, hrun, -⟩ := hover (by rw [hthree]; omega)
  -- nineteen bytes fit and thirty-eight do not
  have hsecond : k = 1 := by
    rcases k with _ | _ | _ | k
    · rw [hone] at hcut
      omega
    · rfl
    · rw [htwo] at hfit
      omega
    · omega
  exact ⟨rfl, rfl, hsecond ▸ hrun, by cbv⟩

end MemWatch.Monitor
