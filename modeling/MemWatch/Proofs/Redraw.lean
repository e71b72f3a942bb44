/-
# Drawing in place

A monitor that draws in place does the same as one that does not, and shows the same lines; what it
adds is control sequences only.  Both are followed side by side, over sinks of their own, since the
sequences take up room.

Main statement: after the same operations, none of which failed, the two sessions differ in the
setting alone, and each picture of the one is that of the other with the sequences put in.
-/
import MemWatch.Session
import MemWatch.Proofs.Runs

namespace MemWatch

variable {σ : Type}

namespace Monitor

variable {m next : Monitor} {out out' : Sink} {s : Scene σ} {pictures : List (List String)}

/-! ## Pictures -/

/-- The lines are the header, unless it is empty, and one line for every entry, in ascending order
of the ids, which are the numbers from one on. -/
def IsPicture (m : Monitor) (lines : List String) : Prop :=
  ∃ readings : List Reading,
    readings.map (·.id.val) = List.range' 1 m.entries.size ∧
    readings.map (·.entry) = m.entries.toList ∧
    lines = (if m.header = "" then [] else [m.header]) ++ readings.map Reading.line

/-- The lines of a picture, one below the other. -/
def plainText (lines : List String) : String :=
  String.join (lines.map (· ++ "\n"))

/-- The lines of a picture drawn over the one before: from the first column of the first line on,
with the rest of every line cleared. -/
def drawnText (lines : List String) : String :=
  "\x1b[1;1H" ++ String.join (lines.map (· ++ "\x1b[K" ++ "\n"))

/-- Pictures one after the other. -/
def plainTexts (pictures : List (List String)) : String :=
  String.join (pictures.map plainText)

/-- Pictures drawn in place one after the other.  The screen is cleared in front of the first one,
unless there were others before. -/
def drawnTexts (cycles : Nat) (pictures : List (List String)) : String :=
  (if cycles = 0 ∧ pictures ≠ [] then "\x1b[2J" else "") ++ String.join (pictures.map drawnText)

/-- Without drawing in place a picture is its lines. -/
theorem draw_plain (h : m.redraw = false) (readings : List Reading) :
    m.draw readings = plainTexts [m.lines readings] := by
  have hline : m.drawLine = (· ++ "\n") := by
    funext line
    rw [drawLine, h]
    exact congrArg (· ++ "\n") String.append_empty
  rw [draw, hline, preamble, h, plainTexts, List.map_singleton, String.join_cons, String.join_nil,
    String.append_empty, plainText]
  exact String.empty_append

/-- Drawing in place adds the control sequences. -/
theorem draw_drawn (m : Monitor) (readings : List Reading) :
    (m.withRedraw true).draw readings = drawnTexts m.cycles [m.lines readings] := by
  have hline : (m.withRedraw true).drawLine = (· ++ "\x1b[K" ++ "\n") := rfl
  have hlines : (m.withRedraw true).lines readings = m.lines readings := rfl
  have hpreamble : (m.withRedraw true).preamble =
      (if m.cycles = 0 then "\x1b[2J" else "") ++ "\x1b[1;1H" := rfl
  have hclear : m.cycles = 0 ∧ [m.lines readings] ≠ [] ↔ m.cycles = 0 := by simp
  rw [draw, hline, hlines, hpreamble, drawnTexts, List.map_singleton, String.join_cons,
    String.join_nil, String.append_empty, drawnText, if_congr hclear rfl rfl, String.append_assoc]

theorem plainTexts_append (pictures more : List (List String)) :
    plainTexts (pictures ++ more) = plainTexts pictures ++ plainTexts more := by
  rw [plainTexts, List.map_append, String.join_append]
  rfl

/-- More pictures drawn in place: only in front of the first one is the screen cleared. -/
theorem drawnTexts_append (cycles : Nat) (pictures more : List (List String)) :
    drawnTexts cycles (pictures ++ more) =
      drawnTexts cycles pictures ++ drawnTexts (cycles + pictures.length) more := by
  cases pictures with
  | nil => simp [drawnTexts]
  | cons lines rest => simp [drawnTexts, String.append_assoc]

/-! ## Two monitors side by side -/

/-- Two outcomes from the same scene, one without and one with drawing in place: no failure, the
same state, count and scene, and the same pictures. -/
structure Alike (m : Monitor) (out out' : Sink) (pictures : List (List String)) (next : Monitor)
    (plain drawn : Progress × Scene σ) : Prop where
  plain_result : plain.1.result = .ok next.state
  drawn_result : drawn.1.result = .ok next.state
  plain_monitor : plain.1.monitor = next.withRedraw false
  drawn_monitor : drawn.1.monitor = next.withRedraw true
  next_eq : next = { m with cycles := m.cycles + pictures.length, state := next.state }
  scene : drawn.2 = plain.2
  isPicture : ∀ lines ∈ pictures, m.IsPicture lines
  plain_bytes : plain.1.out.bytes = out.bytes ++ .ofString (plainTexts pictures)
  drawn_bytes : drawn.1.out.bytes = out'.bytes ++ .ofString (drawnTexts m.cycles pictures)

/-- Nothing done is the same in both. -/
theorem Alike.none (m : Monitor) (out out' : Sink) (s : Scene σ) :
    m.Alike out out' [] m (⟨.ok m.state, m.withRedraw false, out⟩, s)
      (⟨.ok m.state, m.withRedraw true, out'⟩, s) := by
  have hnothing : (Bytes.ofString "" : Bytes) = [] := rfl
  constructor
  case isPicture => simp
  case plain_bytes => simp [plainTexts, hnothing]
  case drawn_bytes => simp [drawnTexts, hnothing]
  all_goals rfl

/-- What is done next is the same in both. -/
theorem Alike.trans {pictures more : List (List String)} {later : Monitor}
    {plain drawn plain' drawn' : Progress × Scene σ}
    (h : m.Alike out out' pictures next plain drawn)
    (hmore : next.Alike plain.1.out drawn.1.out more later plain' drawn') :
    m.Alike out out' (pictures ++ more) later plain' drawn' := by
  have hsame := h.next_eq
  have hcycles : next.cycles = m.cycles + pictures.length := by rw [hsame]
  constructor
  case plain_result => exact hmore.plain_result
  case drawn_result => exact hmore.drawn_result
  case plain_monitor => exact hmore.plain_monitor
  case drawn_monitor => exact hmore.drawn_monitor
  case next_eq =>
    rw [hmore.next_eq, hsame, List.length_append, Nat.add_assoc]
  case scene => exact hmore.scene
  case isPicture =>
    intro lines hmem
    rcases List.mem_append.mp hmem with hfirst | hsecond
    · exact h.isPicture lines hfirst
    · have hpicture := hmore.isPicture lines hsecond
      rw [hsame] at hpicture
      exact hpicture
  case plain_bytes =>
    rw [hmore.plain_bytes, h.plain_bytes, plainTexts_append, Sink.ofString_append,
      List.append_assoc]
  case drawn_bytes =>
    rw [hmore.drawn_bytes, h.drawn_bytes, drawnTexts_append, hcycles, Sink.ofString_append,
      List.append_assoc]

/-! ## Steps and runs -/

variable [Target σ]

/-- The readings of a cycle make a picture. -/
theorem isPicture_lines (m : Monitor) (s : Scene σ) :
    m.IsPicture (m.lines (m.entries.cycle s).1) := by
  have hreadings := (m.entries.reads_cycle s).map_eq
  refine ⟨(m.entries.cycle s).1, ?_, ?_, ?_⟩
  · have hids := congrArg (List.map fun p : RefId × Entry => p.1.val) hreadings
    rw [List.map_map] at hids
    exact hids.trans (EntrySet.map_val_number m.entries.toList)
  · have hentries := congrArg (List.map (Prod.snd : RefId × Entry → Entry)) hreadings
    rw [List.map_map] at hentries
    exact hentries.trans (EntrySet.map_entry_number m.entries.toList)
  · unfold lines
    simp only [String.isEmpty_iff]

/-- The pictures of one step: that of the cycle, unless the monitor is stopped. -/
def stepPictures (m : Monitor) (s : Scene σ) : List (List String) :=
  match m.state with
  | .running => [m.lines (m.entries.cycle s).1]
  | .stopped => []

/-- A step of a running monitor that succeeds was shown. -/
theorem exists_putFlushed_of_isOk (hrun : m.state = .running)
    (hok : (m.step out s).1.result.isOk = true) :
    ∃ after, out.putFlushed (m.draw (m.entries.cycle s).1) = (.ok (), after) := by
  rcases hshow : out.putFlushed (m.draw (m.entries.cycle s).1) with ⟨e | _, after⟩
  · rw [step_of_error hrun hshow] at hok
    simp [Except.isOk, Except.toBool] at hok
  · exact ⟨after, rfl⟩

/-- **One step.**  A step that succeeds is the same with and without drawing in place. -/
theorem alike_step (m : Monitor) (out out' : Sink) (s : Scene σ)
    (hplain : ((m.withRedraw false).step out s).1.result.isOk = true)
    (hdrawn : ((m.withRedraw true).step out' s).1.result.isOk = true) :
    ∃ next, m.Alike out out' (m.stepPictures s) next ((m.withRedraw false).step out s)
      ((m.withRedraw true).step out' s) := by
  cases hstate : m.state with
  | stopped =>
    have hnone : m.stepPictures s = [] := by rw [stepPictures, hstate]
    have halike := Alike.none m out out' s
    rw [hstate] at halike
    rw [hnone, step_of_stopped (m := m.withRedraw false) hstate,
      step_of_stopped (m := m.withRedraw true) hstate]
    exact ⟨m, halike⟩
  | running =>
    have hone : m.stepPictures s = [m.lines (m.entries.cycle s).1] := by rw [stepPictures, hstate]
    obtain ⟨after, hshow⟩ := exists_putFlushed_of_isOk (m := m.withRedraw false) hstate hplain
    obtain ⟨after', hshow'⟩ := exists_putFlushed_of_isOk (m := m.withRedraw true) hstate hdrawn
    rw [hone, step_of_ok (m := m.withRedraw false) hstate hshow,
      step_of_ok (m := m.withRedraw true) hstate hshow']
    have hbytes := Sink.bytes_of_putFlushed hshow
    have hbytes' := Sink.bytes_of_putFlushed hshow'
    rw [draw_plain rfl] at hbytes
    rw [draw_drawn] at hbytes'
    -- neither the cycle nor the decision depends on the setting
    refine ⟨{ m with
      cycles := m.cycles + 1
      state := (m.nextState (m.entries.cycle s).2).1 }, ?_⟩
    constructor
    case isPicture =>
      intro lines hmem
      obtain rfl := List.mem_singleton.mp hmem
      exact isPicture_lines m s
    case plain_bytes => exact hbytes
    case drawn_bytes => exact hbytes'
    all_goals rfl

/-- A run whose first step fails fails. -/
theorem isOk_step_of_isOk_runSteps {limit : Nat}
    (hok : (runSteps (limit + 1) m out s).1.result.isOk = true) :
    (m.step out s).1.result.isOk = true := by
  rw [runSteps_succ] at hok
  cases hresult : (m.step out s).1.result with
  | ok state => rfl
  | error e =>
    simp only [hresult] at hok
    exact hok

/-- **Steps in a row.**  Steps up to a limit that succeed are the same with and without drawing in
place.  A running monitor draws at least once. -/
theorem alike_runSteps (limit : Nat) (m : Monitor) (out out' : Sink) (s : Scene σ)
    (hplain : (runSteps limit (m.withRedraw false) out s).1.result.isOk = true)
    (hdrawn : (runSteps limit (m.withRedraw true) out' s).1.result.isOk = true) :
    ∃ pictures next, m.Alike out out' pictures next (runSteps limit (m.withRedraw false) out s)
      (runSteps limit (m.withRedraw true) out' s) ∧
      (limit ≠ 0 → (m.state = .running ↔ pictures ≠ [])) := by
  induction limit generalizing m out out' s with
  | zero => exact ⟨[], m, Alike.none m out out' s, by simp⟩
  | succ limit ih =>
    obtain ⟨next, hstep⟩ := alike_step m out out' s (isOk_step_of_isOk_runSteps hplain)
      (isOk_step_of_isOk_runSteps hdrawn)
    have hfirst : m.state = .running ↔ m.stepPictures s ≠ [] := by
      rw [stepPictures]
      cases m.state <;> simp
    rw [runSteps_succ, hstep.plain_result, hstep.plain_monitor] at hplain
    rw [runSteps_succ, hstep.drawn_result, hstep.drawn_monitor, hstep.scene] at hdrawn
    rw [runSteps_succ, runSteps_succ, hstep.plain_result, hstep.drawn_result, hstep.plain_monitor,
      hstep.drawn_monitor, hstep.scene]
    cases hstate : next.state with
    | stopped => exact ⟨_, next, hstep, fun _ => hfirst⟩
    | running =>
      rw [hstate] at hplain hdrawn
      obtain ⟨pictures, later, hrest, -⟩ := ih next _ _ _ hplain hdrawn
      refine ⟨_, later, hstep.trans hrest, fun _ => ?_⟩
      have hrun : m.state = .running := by
        cases hm : m.state with
        | running => rfl
        | stopped =>
          have hresult := hstep.plain_result
          rw [step_of_stopped (m := m.withRedraw false) hm, hstate] at hresult
          simp at hresult
      simp [hrun, hfirst.mp hrun]

/-- **Runs.**  A run that succeeds is the same with and without drawing in place, and draws unless
the monitor is stopped. -/
theorem alike_run (m : Monitor) (out out' : Sink) (s : Scene σ)
    (hplain : ((m.withRedraw false).run out s).1.result.isOk = true)
    (hdrawn : ((m.withRedraw true).run out' s).1.result.isOk = true) :
    ∃ pictures next, m.Alike out out' pictures next ((m.withRedraw false).run out s)
      ((m.withRedraw true).run out' s) ∧ (m.state = .running ↔ pictures ≠ []) := by
  obtain ⟨pictures, next, halike, hdraws⟩ :=
    alike_runSteps (Target.lifetime s.target + 1) m out out' s hplain hdrawn
  exact ⟨pictures, next, halike, hdraws (Nat.succ_ne_zero _)⟩

end Monitor

namespace Session

variable {s : Session σ} {op op' : Operation σ} {ops ops' : List (Operation σ)}

/-! ## Sessions side by side -/

/-- The session with or without drawing in place. -/
def redrawing (s : Session σ) (redraw : Bool) : Session σ :=
  s.setMonitor (s.monitor.withRedraw redraw)

/-- The two are the same operation, over sinks of their own if they write; it does not touch the
setting. -/
inductive SameButSink : Operation σ → Operation σ → Prop where
  | step (out out' : Sink) : SameButSink (.step out) (.step out')
  | run (out out' : Sink) : SameButSink (.run out) (.run out')
  | cycle : SameButSink .cycle .cycle
  | setHeader (header : String) : SameButSink (.setHeader header) (.setHeader header)
  | setOnce (once : Bool) : SameButSink (.setOnce once) (.setOnce once)
  | cancel : SameButSink .cancel .cancel
  | change (f : σ → σ) : SameButSink (.change f) (.change f)

/-- The answer is no failure. -/
def Answer.succeeds : Answer → Bool
  | progress result _ => result.isOk
  | readings _ => true
  | cancelled _ _ => true
  | done => true

variable [Target σ]

/-- None of the operations, carried out in order, fails. -/
def Succeeds (s : Session σ) : List (Operation σ) → Prop
  | [] => True
  | op :: rest => (s.perform op).1.succeeds = true ∧ Succeeds (s.perform op).2 rest

/-- **One operation.**  An operation that succeeds leaves sessions that differ in the setting
alone. -/
theorem perform_alike (s : Session σ) (h : SameButSink op op')
    (hplain : ((s.redrawing false).perform op).1.succeeds = true)
    (hdrawn : ((s.redrawing true).perform op').1.succeeds = true) :
    ∃ later : Session σ, ((s.redrawing false).perform op).2 = later.redrawing false ∧
      ((s.redrawing true).perform op').2 = later.redrawing true := by
  rcases s with ⟨m, token, scene⟩
  cases h with
  | step out out' =>
    obtain ⟨next, halike⟩ := m.alike_step out out' scene hplain hdrawn
    refine ⟨⟨next, token, ((m.withRedraw false).step out scene).2⟩, ?_, ?_⟩
    · rw [perform_step]
      exact congrArg (Session.mk · token _) halike.plain_monitor
    · rw [perform_step, ← halike.scene]
      exact congrArg (Session.mk · token _) halike.drawn_monitor
  | run out out' =>
    obtain ⟨pictures, next, halike, -⟩ := m.alike_run out out' scene hplain hdrawn
    refine ⟨⟨next, token, ((m.withRedraw false).run out scene).2⟩, ?_, ?_⟩
    · rw [perform_run]
      exact congrArg (Session.mk · token _) halike.plain_monitor
    · rw [perform_run, ← halike.scene]
      exact congrArg (Session.mk · token _) halike.drawn_monitor
  | cycle => exact ⟨⟨m, token, (m.entries.cycle scene).2⟩, rfl, rfl⟩
  | setHeader header => exact ⟨⟨m.withHeader header, token, scene⟩, rfl, rfl⟩
  | setOnce once => exact ⟨⟨m.withOnce once, token, scene⟩, rfl, rfl⟩
  | cancel =>
    exact ⟨⟨{ m with cancel := m.cancel.map fun _ => token.set }, token.set, scene⟩, rfl, rfl⟩
  | change f => exact ⟨⟨m, token, { scene with target := f scene.target }⟩, rfl, rfl⟩

/-- Operations that succeed leave sessions that differ in the setting alone. -/
theorem performAll_alike (s : Session σ) (h : List.Forall₂ SameButSink ops ops')
    (hplain : (s.redrawing false).Succeeds ops) (hdrawn : (s.redrawing true).Succeeds ops') :
    ∃ later : Session σ, (s.redrawing false).performAll ops = later.redrawing false ∧
      (s.redrawing true).performAll ops' = later.redrawing true := by
  induction h generalizing s with
  | nil => exact ⟨s, rfl, rfl⟩
  | @cons op op' ops ops' hop hops ih =>
    obtain ⟨hfirst, hrest⟩ := hplain
    obtain ⟨hfirst', hrest'⟩ := hdrawn
    obtain ⟨next, hnext, hnext'⟩ := s.perform_alike hop hfirst hfirst'
    rw [hnext] at hrest
    rw [hnext'] at hrest'
    obtain ⟨later, hlater, hlater'⟩ := ih next hrest hrest'
    refine ⟨later, ?_, ?_⟩
    · rw [performAll, hnext, hlater]
    · rw [performAll, hnext', hlater']

/-- **Drawing in place.**  Two sessions that differ in the setting alone still do so after the same
operations, none of which failed: the same state, count, target and calls.  A step that succeeds in
both then shows the same lines, and so does a run: the pictures are plain lines in the one, and in
the other the same lines with the control sequences put in, the screen being cleared in front of the
first picture of all only. -/
theorem redraw_only_decorates (s : Session σ) (ops ops' : List (Operation σ))
    (hsame : List.Forall₂ SameButSink ops ops') (hplain : (s.redrawing false).Succeeds ops)
    (hdrawn : (s.redrawing true).Succeeds ops') :
    ∃ later : Session σ,
      (s.redrawing false).performAll ops = later.redrawing false ∧
      (s.redrawing true).performAll ops' = later.redrawing true ∧
      (∀ out out' : Sink,
        (((later.redrawing false).perform (.step out)).1.succeeds = true) →
        (((later.redrawing true).perform (.step out')).1.succeeds = true) →
        ∃ next, later.monitor.Alike out out' (later.monitor.stepPictures later.scene) next
          ((later.monitor.withRedraw false).step out later.scene)
          ((later.monitor.withRedraw true).step out' later.scene)) ∧
      ∀ out out' : Sink,
        (((later.redrawing false).perform (.run out)).1.succeeds = true) →
        (((later.redrawing true).perform (.run out')).1.succeeds = true) →
        ∃ pictures next, later.monitor.Alike out out' pictures next
          ((later.monitor.withRedraw false).run out later.scene)
          ((later.monitor.withRedraw true).run out' later.scene) ∧
          (later.monitor.state = .running ↔ pictures ≠ []) := by
  obtain ⟨⟨m, token, scene⟩, hlater, hlater'⟩ := s.performAll_alike hsame hplain hdrawn
  exact ⟨⟨m, token, scene⟩, hlater, hlater',
    fun out out' hok hok' => m.alike_step out out' scene hok hok',
    fun out out' hok hok' => m.alike_run out out' scene hok hok'⟩

/-- The guard over the image, before anything was done. -/
def guardPost : Session Image :=
  ⟨Monitor.guard, {}, { target := Monitor.guardImage }⟩

/-- After one step each, the next one shows the same two lines, and drawing in place no longer clears
the screen in front of them. -/
theorem guardPost_draws_over :
    List.Forall₂ SameButSink [.step {}] [.step (σ := Image) ⟨some 99, false, #[]⟩] ∧
      (guardPost.redrawing false).Succeeds [.step {}] ∧
      (guardPost.redrawing true).Succeeds [.step ⟨some 99, false, #[]⟩] ∧
      ∃ later : Session Image,
        (guardPost.redrawing false).performAll [.step {}] = later.redrawing false ∧
        (guardPost.redrawing true).performAll [.step ⟨some 99, false, #[]⟩] =
          later.redrawing true ∧
        ((later.monitor.withRedraw false).step {} later.scene).1.out.bytes =
          .ofString "ab\nR1 0x00001000=7\n" ∧
        ((later.monitor.withRedraw true).step {} later.scene).1.out.bytes =
          .ofString "\x1b[1;1Hab\x1b[K\nR1 0x00001000=7\x1b[K\n" := by
  have hplain : (guardPost.redrawing false).Succeeds [.step {}] := ⟨by cbv, trivial⟩
  have hdrawn : (guardPost.redrawing true).Succeeds [.step ⟨some 99, false, #[]⟩] :=
    ⟨by cbv, trivial⟩
  obtain ⟨later, hlater, hlater', -⟩ :=
    guardPost.redraw_only_decorates _ _ (.cons (.step _ _) .nil) hplain hdrawn
  refine ⟨.cons (.step _ _) .nil, hplain, hdrawn, later, hlater, hlater', ?_, ?_⟩
  · show ((later.redrawing false).monitor.step {} (later.redrawing false).scene).1.out.bytes = _
    rw [← hlater]
    cbv
  · show ((later.redrawing true).monitor.step {} (later.redrawing true).scene).1.out.bytes = _
    rw [← hlater']
    cbv

end Session

end MemWatch
