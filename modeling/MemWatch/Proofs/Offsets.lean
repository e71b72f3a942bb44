/-
# Offsets and the base

An offset is resolved as the absolute entry at the sum of its address and the base.  What the
truncations to the range of a pointer leave of either of them is its remainder, so in a target of 32
bits nothing but the remainders matters.

Targets are compared by what can be read of them: a query for the base may leave a trace in a
target, as long as no sequence of reads shows it.
-/
import MemWatch.Proofs.Lifespans
import MemWatch.Proofs.Resolution

namespace MemWatch

/-! ## Targets that read alike -/

section Reading

variable {σ : Type} [Target σ] {s t u : σ}

/-- The answers to reads that are made one after the other. -/
def answersTo : List (Address × Nat) → σ → List (Except Error Bytes)
  | [], _ => []
  | (a, size) :: rest, s => (Target.read a size s).1 :: answersTo rest (Target.read a size s).2

/-- The pointers of both targets have the same width, and no sequence of reads tells the targets
apart. -/
structure ReadAlike (s t : σ) : Prop where
  width : Target.width s = Target.width t
  answers : ∀ reads, answersTo reads s = answersTo reads t

namespace ReadAlike

theorem refl (s : σ) : ReadAlike s s :=
  ⟨rfl, fun _ => rfl⟩

theorem symm (h : ReadAlike s t) : ReadAlike t s :=
  ⟨h.width.symm, fun reads => (h.answers reads).symm⟩

theorem trans (h : ReadAlike s t) (h' : ReadAlike t u) : ReadAlike s u :=
  ⟨h.width.trans h'.width, fun reads => (h.answers reads).trans (h'.answers reads)⟩

/-- A single read has the same answer. -/
theorem read_eq (h : ReadAlike s t) (a : Address) (size : Nat) :
    (Target.read a size s).1 = (Target.read a size t).1 :=
  List.head_eq_of_cons_eq (h.answers [(a, size)])

/-- After a read the targets still read alike. -/
theorem after_read [SteadyTarget σ] (h : ReadAlike s t) (a : Address) (size : Nat) :
    ReadAlike (Target.read a size s).2 (Target.read a size t).2 := by
  refine ⟨?_, fun reads => List.tail_eq_of_cons_eq (h.answers ((a, size) :: reads))⟩
  rw [SteadyTarget.width_read, SteadyTarget.width_read]
  exact h.width

end ReadAlike

/-- Targets that can be asked for their base without a trace in what is read from them. -/
class PlainBase (σ : Type) [Target σ] : Prop where
  readAlike_base : ∀ s : σ, ReadAlike (Target.base s).2 s

/-- Asking an image for its base does nothing. -/
instance : PlainBase Image where
  readAlike_base s := .refl s

/-- An image reads alike with any base. -/
theorem Image.readAlike_withBase (i : Image) (base : Except Error Address) :
    ReadAlike i { i with base } := by
  refine ⟨rfl, fun reads => ?_⟩
  induction reads with
  | nil => rfl
  | cons read rest ih => exact congrArg (List.cons _) ih

end Reading

namespace Attached

variable {s t : Attached}

/-- The process is the same and on the same machine, apart from calls that were noted, but that were
no accesses to memory. -/
def SameButCalls (s t : Attached) : Prop :=
  ∃ calls, t = { s with machine := { s.machine with calls } } ∧
    t.machine.accesses = s.machine.accesses

/-- A noted call is one more access, if it is one by itself. -/
theorem accesses_record (m : Machine) (call : MachineCall) :
    (m.record call).accesses = m.accesses + Machine.accesses { m with calls := #[call] } := by
  have hcalls : (m.record call).calls.toList = m.calls.toList ++ [call] := Array.toList_push
  unfold Machine.accesses
  rw [hcalls, List.countP_append]

/-- Noted calls make no difference to a read, which notes one more. -/
theorem SameButCalls.read (h : s.SameButCalls t) (a : Address) (size : Nat) :
    (Attached.read a size s).1 = (Attached.read a size t).1 ∧
      (Attached.read a size s).2.SameButCalls (Attached.read a size t).2 := by
  obtain ⟨calls, rfl, haccesses⟩ := h
  unfold Attached.read
  cases a.toPointer .eight with
  | error e => exact ⟨rfl, calls, rfl, haccesses⟩
  | ok a =>
    have hnoted : SameButCalls { s with machine := s.machine.record (.read a size) }
        { s with machine := Machine.record (.read a size) { s.machine with calls } } := by
      refine ⟨calls.push (.read a size), rfl, ?_⟩
      rw [accesses_record, accesses_record]
      exact congrArg (· + 1) haccesses
    -- the answer depends on the process behind the handle and on the number of accesses
    have hsize (p : ProcessRecord) : Machine.transferSize { s.machine with calls } p .read a size =
        s.machine.transferSize p .read a size := by
      unfold Machine.transferSize Machine.transferLimit?
      rw [show Machine.accesses { s.machine with calls } = s.machine.accesses from haccesses]
    have hanswer : Machine.readMemory s.process.handle a size { s.machine with calls } =
        ((Machine.readMemory s.process.handle a size s.machine).1,
          Machine.record (.read a size) { s.machine with calls }) := by
      unfold Machine.readMemory
      simp only [hsize]
      rfl
    have hown : Machine.readMemory s.process.handle a size s.machine =
        ((Machine.readMemory s.process.handle a size s.machine).1,
          s.machine.record (.read a size)) := rfl
    unfold call
    dsimp only
    rw [hanswer, hown]
    cases (Machine.readMemory s.process.handle a size s.machine).1 with
    | error code => exact ⟨rfl, hnoted⟩
    | ok bytes => exact ⟨rfl, hnoted⟩

/-- Processes that are the same apart from the noted calls read alike. -/
theorem SameButCalls.readAlike (h : s.SameButCalls t) : ReadAlike s t := by
  refine ⟨?_, fun reads => ?_⟩
  · obtain ⟨calls, rfl, -⟩ := h
    rfl
  · induction reads generalizing s t with
    | nil => rfl
    | cons read rest ih =>
      obtain ⟨hanswer, hafter⟩ := h.read read.1 read.2
      exact congrArg₂ List.cons hanswer (ih hafter)

/-- Finding the base of the main module only notes calls. -/
theorem sameButCalls_base (s : Attached) : s.SameButCalls (onMainModule moduleBase s).2 := by
  rw [after_base]
  -- listing modules is no access to memory
  have hquery : ∀ size m,
      (∃ calls, m = { s.machine with calls } ∧ m.accesses = s.machine.accesses) →
      ∃ calls, (Machine.listModules s.process.handle size m).2 = { s.machine with calls } ∧
        (Machine.listModules s.process.handle size m).2.accesses = s.machine.accesses := by
    rintro size m ⟨calls, rfl, haccesses⟩
    exact ⟨calls.push (.listModules size), rfl, (accesses_record _ _).trans haccesses⟩
  obtain ⟨calls, hcalls, haccesses⟩ :=
    Listing.fetch_keeps 0 8 hquery 0x100 s.machine ⟨_, rfl, rfl⟩
  exact ⟨calls, congrArg (fun machine => { s with machine }) hcalls, haccesses⟩

/-- Asking an attached process for its base leaves no trace in what is read from it. -/
instance : PlainBase Attached where
  readAlike_base s := (sameButCalls_base s).readAlike.symm

end Attached

/-! ## Where entries start -/

namespace Entry

section Resolving

variable {σ : Type} [Target σ] {w : PointerWidth} {s t u : σ} {a b : Address} {e : Entry}

/-- Pointers are followed alike from targets that read alike. -/
theorem exists_makes_follow [SteadyTarget σ] (levels : Nat) (a : Address) (h : ReadAlike s t) :
    ∃ cs r s' t', (follow levels a).Makes s cs r s' ∧ (follow levels a).Makes t cs r t' := by
  -- induction on the pointers that are left to follow
  induction levels generalizing a s t with
  | zero => exact ⟨[], .ok a, s, t, Attempt.makes_pure a s, Attempt.makes_pure a t⟩
  | succ levels ih =>
    have hanswer := h.read_eq a (Target.width s).size
    have hafter := h.after_read a (Target.width s).size
    rw [follow_succ]
    rcases hs : Target.read a (Target.width s).size s with ⟨err | bytes, s'⟩
    all_goals
      rcases ht : Target.read a (Target.width s).size t with ⟨answer, t'⟩
      rw [hs, ht] at hanswer hafter
      subst hanswer
    · exact ⟨_, _, s', t', (makes_dereference_error rfl hs).bind_error _,
        (makes_dereference_error h.width.symm ht).bind_error _⟩
    · have hnext := ((Target.width s).toNat_truncate_decode (SteadyTarget.length_read hs))
      obtain ⟨cs, r, s'', t'', hfollow, hfollow'⟩ := ih _ hafter
      exact ⟨_, r, s'', t'', (makes_dereference rfl ⟨bytes, hs, hnext⟩).bind hfollow,
        (makes_dereference h.width.symm ⟨bytes, ht, hnext⟩).bind hfollow'⟩

/-- An offset starts behind the query for the base where the absolute entry at the sum of its address
and the base starts. -/
theorem exists_startsAt_sum (w : PointerWidth) {base : Address} (hoffset : e.isOffset = true)
    (hbase : Target.base s = (.ok base, t))
    (hb : b.toNat = (e.address.toNat + base.toNat) % 2 ^ 64) :
    ∃ a, e.StartsAt w s a t ∧ { e with isOffset := false, address := b }.StartsAt w s a s := by
  refine ⟨w.truncate b, .offset hoffset hbase ?_, .plain rfl (w.toNat_truncate b)⟩
  have hdvd := w.range_dvd
  rw [PointerWidth.range_eq] at hdvd
  rw [PointerWidth.toNat_truncate, hb]
  exact Nat.mod_mod_of_dvd _ hdvd

/-- What an entry does with the base depends on the remainder of the base alone. -/
theorem exists_startsAt_base (w : PointerWidth) {base base' : Address}
    (hs : (Target.base s).1 = .ok base) (ht : (Target.base t).1 = .ok base')
    (hmod : base'.toNat % 2 ^ (8 * w.size) = base.toNat % 2 ^ (8 * w.size)) :
    ∃ a s' t', e.StartsAt w s a s' ∧ e.StartsAt w t a t' ∧
      (s' = s ∧ t' = t ∨ s' = (Target.base s).2 ∧ t' = (Target.base t).2) := by
  cases hoffset : e.isOffset with
  | false =>
    have ha := w.toNat_truncate e.address
    exact ⟨_, s, t, .plain hoffset ha, .plain hoffset ha, .inl ⟨rfl, rfl⟩⟩
  | true =>
    have ha := w.toNat_add_truncate e.address base
    refine ⟨_, _, _, .offset hoffset (Prod.ext hs rfl) ha, .offset hoffset (Prod.ext ht rfl) ?_,
      .inr ⟨rfl, rfl⟩⟩
    rw [ha, Nat.add_mod, ← hmod, ← Nat.add_mod]

/-! ## Resolving -/

/-- Entries that start at one address, with as many pointers, are resolved alike. -/
theorem exists_makes_resolve [SteadyTarget σ] {e' : Entry} {s' t' : σ}
    (he : e.StartsAt (Target.width s) s a s') (he' : e'.StartsAt (Target.width t) t a t')
    (hafter : ReadAlike s' t') (hlevels : e'.pointerLevels = e.pointerLevels) :
    ∃ cs r u v, e.resolve.Makes s ((if e.isOffset then [.base] else []) ++ cs) r u ∧
      e'.resolve.Makes t ((if e'.isOffset then [.base] else []) ++ cs) r v := by
  obtain ⟨cs, r, u, v, hfollow, hfollow'⟩ := exists_makes_follow e.pointerLevels a hafter
  exact ⟨cs, r, u, v, (makes_start rfl he).bind hfollow,
    (makes_start rfl he').bind (hlevels ▸ hfollow')⟩

/-- Of the address of an entry only its remainder matters. -/
theorem resolve_congr_address {scene : Scene σ}
    (h : a.toNat % 2 ^ (8 * (Target.width scene.target).size) =
      e.address.toNat % 2 ^ (8 * (Target.width scene.target).size)) :
    { e with address := a }.resolve scene = e.resolve scene := by
  have htruncate : (Target.width scene.target).truncate a =
      (Target.width scene.target).truncate e.address := by
    apply Address.toNat_inj
    rw [PointerWidth.toNat_truncate, PointerWidth.toNat_truncate, h]
  have hstart : { e with address := a }.start scene = e.start scene := by
    have hwidth : ∀ next : PointerWidth → Attempt σ Address,
        (pointerWidth >>= next) scene = next (Target.width scene.target) scene := fun _ => rfl
    unfold start
    simp only [hwidth, htruncate]
  exact congrArg (fun r => ExceptT.bindCont (follow e.pointerLevels) r.1 r.2) hstart

end Resolving

/-- **Offsets.**  Resolving an offset has the result of resolving the absolute entry at the sum of
its address and the base, modulo 2^64, and makes the same reads behind the query for the base.  In a
target of 32 bits neither another address with the same remainder, nor another base with the same
remainder in a target that reads alike, makes a difference. -/
theorem resolve_offset_as_absolute {σ : Type} [Target σ] [SteadyTarget σ] [PlainBase σ] (e : Entry)
    (s : σ) :
    (∀ a base : Address, e.isOffset = true → (Target.base s).1 = .ok base →
      a.toNat = (e.address.toNat + base.toNat) % 2 ^ 64 →
      ∃ reads r t t',
        { e with isOffset := false, address := a }.resolve.Makes s reads r t ∧
        e.resolve.Makes s (.base :: reads) r t') ∧
    (Target.width s = .four →
      (∀ a : Address, a.toNat % 2 ^ 32 = e.address.toNat % 2 ^ 32 →
        ∀ scene : Scene σ, scene.target = s →
          { e with address := a }.resolve scene = e.resolve scene) ∧
      ∀ (s' : σ) (base base' : Address), ReadAlike s s' → (Target.base s).1 = .ok base →
        (Target.base s').1 = .ok base' → base'.toNat % 2 ^ 32 = base.toNat % 2 ^ 32 →
        ∃ calls r t t', e.resolve.Makes s calls r t ∧ e.resolve.Makes s' calls r t') := by
  refine ⟨fun a base hoffset hbase ha => ?_, fun hwidth => ⟨?_, ?_⟩⟩
  · obtain ⟨b, hstart, hplain⟩ :=
      exists_startsAt_sum (Target.width s) hoffset (Prod.ext hbase rfl) ha
    obtain ⟨reads, r, t, t', habsolute, hresolve⟩ :=
      exists_makes_resolve hplain hstart (PlainBase.readAlike_base s).symm rfl
    rw [hoffset] at hresolve
    exact ⟨reads, r, t, t', habsolute, hresolve⟩
  · rintro a ha scene rfl
    refine resolve_congr_address ?_
    rw [hwidth]
    exact ha
  · intro s' base base' halike hbase hbase' hmod
    have hmod' : base'.toNat % 2 ^ (8 * (Target.width s).size) =
        base.toNat % 2 ^ (8 * (Target.width s).size) := by
      rw [hwidth]
      exact hmod
    obtain ⟨b, t, t', hstart, hstart', hafter⟩ :=
      exists_startsAt_base (e := e) (Target.width s) hbase hbase' hmod'
    have hrest : ReadAlike t t' := by
      rcases hafter with ⟨rfl, rfl⟩ | ⟨rfl, rfl⟩
      · exact halike
      · exact (PlainBase.readAlike_base s).trans
          (halike.trans (PlainBase.readAlike_base s').symm)
    obtain ⟨cs, r, u, v, hresolve, hresolve'⟩ :=
      exists_makes_resolve hstart (halike.width ▸ hstart') hrest rfl
    exact ⟨_, r, u, v, hresolve, hresolve'⟩

/-- The absolute entry where the offset `nullOffset` leads in `nullImage`, and the offset with
another address and in front of another base: all the same at 32 bits. -/
theorem nullOffset_resolves_as_absolute :
    SteadyTarget Image ∧ PlainBase Image ∧
    (∃ reads r t t',
      (⟨false, 2, .i32, .ofNat 0x123500001000, none⟩ : Entry).resolve.Makes nullImage reads r t ∧
      nullOffset.resolve.Makes nullImage (.base :: reads) r t') ∧
    (∀ scene : Scene Image, scene.target = nullImage →
      (⟨true, 2, .i32, .ofNat 0x1010, none⟩ : Entry).resolve scene = nullOffset.resolve scene) ∧
    ∃ calls r t t', nullOffset.resolve.Makes nullImage calls r t ∧
      nullOffset.resolve.Makes { nullImage with base := .ok (.ofNat 0x7FFFFFFF0) } calls r t' := by
  obtain ⟨hsum, hfour⟩ := resolve_offset_as_absolute nullOffset nullImage
  obtain ⟨haddress, hbase⟩ := hfour rfl
  refine ⟨inferInstance, inferInstance, hsum _ _ rfl rfl (by decide), haddress _ (by decide), ?_⟩
  exact hbase _ _ _ (Image.readAlike_withBase nullImage _) rfl rfl (by decide)

end Entry

end MemWatch
