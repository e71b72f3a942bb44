/-
# Where entries lie

An entry lies at the end of a way through pointers.  The way starts at the address of the entry,
which counts from the base if the entry is an offset, and every further address is the pointer that
is stored at the one before.  All of them are taken modulo the range of a pointer.

Main statement: an entry is resolved to an address exactly if such a way with as many pointers as
the entry has leads there; otherwise the first call on the way that fails decides the error, and it
is the last call that is made.
-/
import Mathlib.Logic.Function.Iterate
import MemWatch.Image
import MemWatch.ProcessHandle.Attached
import MemWatch.Proofs.Codec
import MemWatch.Proofs.Ranges
import MemWatch.Proofs.Transcripts

namespace MemWatch

/-! ## Targets that can be relied upon -/

/-- A target whose pointers keep their width while it is asked for things, and which reads as many
bytes as it is asked for. -/
class SteadyTarget (σ : Type) [Target σ] : Prop where
  width_base : ∀ s : σ, Target.width (Target.base s).2 = Target.width s
  width_read : ∀ (a : Address) (size : Nat) (s : σ),
    Target.width (Target.read a size s).2 = Target.width s
  length_read : ∀ {a : Address} {size : Nat} {s t : σ} {bytes : Bytes},
    Target.read a size s = (.ok bytes, t) → bytes.length = size

/-- Images are steady. -/
instance : SteadyTarget Image where
  width_base _ := rfl
  width_read _ _ _ := rfl
  length_read := by
    intro a size s t bytes h
    obtain ⟨hread, -⟩ := Prod.mk.inj (h : (s.read a size, s) = (.ok bytes, t))
    unfold Image.read at hread
    split at hread
    · exact absurd hread nofun
    · split at hread
      · rename_i hload
        exact Except.ok.inj hread ▸ Memory.length_of_load? hload
      · exact absurd hread nofun

namespace Attached

/-- Finding the main module keeps the process at hand. -/
theorem process_mainModule (s : Attached) : s.mainModule.2.process = s.process := by
  unfold mainModule modules call
  rcases Listing.fetch Machine.error 0 8 (Machine.listModules s.process.handle) 0x100 s.machine with
    ⟨_ | _ | _, machine⟩ <;> rfl

/-- Finding the base of the main module keeps the process at hand. -/
theorem process_base (s : Attached) : (onMainModule moduleBase s).2.process = s.process := by
  have hprocess := s.process_mainModule
  unfold onMainModule
  split
  · rename_i hmodule
    rwa [hmodule] at hprocess
  · rename_i hmodule
    rw [hmodule] at hprocess
    exact hprocess

/-- Reading keeps the process at hand. -/
theorem process_read (a : Address) (size : Nat) (s : Attached) :
    (read a size s).2.process = s.process := by
  unfold read call
  split
  · rfl
  · split
    · rename_i hread
      obtain ⟨-, rfl⟩ := Prod.mk.inj hread
      rfl
    · rename_i hread
      obtain ⟨-, rfl⟩ := Prod.mk.inj hread
      rfl

/-- What is read has as many bytes as asked for. -/
theorem length_of_read {a : Address} {size : Nat} {s : Attached} {bytes : Bytes}
    (h : (read a size s).1 = .ok bytes) : bytes.length = size := by
  unfold read at h
  split at h
  · exact absurd h nofun
  · split at h
    · exact absurd h nofun
    · rename_i stored _ _
      by_cases hsize : stored.length = size
      · simp only [if_pos hsize, Except.ok.injEq] at h
        exact h ▸ hsize
      · simp [hsize] at h

/-- Attached processes are steady. -/
instance : SteadyTarget Attached where
  width_base s := congrArg ProcessHandle.width s.process_base
  width_read a size s := congrArg ProcessHandle.width (s.process_read a size)
  length_read h := length_of_read (congrArg Prod.fst h)

end Attached

/-! ## Addresses modulo the range of a pointer -/

namespace PointerWidth

variable (w : PointerWidth)

theorem range_eq : w.range = 2 ^ (8 * w.size) := by
  cases w <;> decide

theorem range_dvd : w.range ∣ UInt64.size := by
  cases w <;> decide

theorem toNat_truncate (a : Address) : (w.truncate a).toNat = a.toNat % 2 ^ (8 * w.size) := by
  have hle : w.range ≤ UInt64.size := Nat.le_of_dvd (by decide) w.range_dvd
  have hlt : a.toNat % w.range < w.range := Nat.mod_lt _ (by cases w <;> decide)
  rw [truncate, Address.toNat_ofNat, Nat.mod_eq_of_lt (Nat.lt_of_lt_of_le hlt hle), range_eq]

theorem toNat_add_truncate (a b : Address) :
    (w.add (w.truncate a) b).toNat = (a.toNat + b.toNat) % 2 ^ (8 * w.size) := by
  have hdvd := w.range_dvd
  rw [range_eq] at hdvd
  rw [add, toNat_truncate, Address.toNat_add, Nat.mod_mod_of_dvd _ hdvd, toNat_truncate,
    Nat.mod_add_mod]

/-- A pointer that was read in full is within the range, so truncation leaves it alone. -/
theorem toNat_truncate_decode {bytes : Bytes} (h : bytes.length = w.size) :
    (w.truncate (w.decode bytes)).toNat = bytes.toNat := by
  have hlt : bytes.toNat < 2 ^ (8 * w.size) := by
    have hbytes := bytes.toNat_lt
    rw [h] at hbytes
    cases w <;> exact hbytes
  have hsize : bytes.toNat < UInt64.size := by
    refine Nat.lt_of_lt_of_le hlt ?_
    cases w <;> decide
  rw [toNat_truncate, decode, Address.toNat_ofNat, Nat.mod_eq_of_lt hsize, Nat.mod_eq_of_lt hlt]

end PointerWidth

/-! ## Ways through pointers -/

section Ways

variable {σ : Type} [Target σ] {w : PointerWidth} {s t u : σ} {a b c : Address}
  {cells : List Address}

/-- The pointer at `a` leads to `b`: reading as many bytes as a pointer has gives the little-endian
number of `b`, and it leaves target `t`. -/
def PointsTo (w : PointerWidth) (s : σ) (a b : Address) (t : σ) : Prop :=
  ∃ bytes, Target.read a w.size s = (.ok bytes, t) ∧ b.toNat = bytes.toNat

/-- A way leads from `a` to `b` through the pointers in some cells, the first of them at `a`. -/
inductive Way (w : PointerWidth) : σ → Address → List Address → Address → σ → Prop where
  /-- No pointer is left. -/
  | stop (s : σ) (a : Address) : Way w s a [] a s
  /-- The pointer in a cell leads to the next one. -/
  | next {s t u : σ} {a b c : Address} {cells : List Address} (h : PointsTo w s a b t)
      (hrest : Way w t b cells c u) : Way w s a (a :: cells) c u

/-- The entry starts at an address: its own one, or the sum of its own one and the base. -/
inductive Entry.StartsAt (w : PointerWidth) (e : Entry) (s : σ) : Address → σ → Prop where
  | plain {a : Address} (h : e.isOffset = false)
      (ha : a.toNat = e.address.toNat % 2 ^ (8 * w.size)) : StartsAt w e s a s
  | offset {a base : Address} {t : σ} (h : e.isOffset = true)
      (hbase : Target.base s = (.ok base, t))
      (ha : a.toNat = (e.address.toNat + base.toNat) % 2 ^ (8 * w.size)) : StartsAt w e s a t

/-- The entry leads to `b` through the pointers in some cells, the first of them where it starts. -/
def Entry.LeadsTo (w : PointerWidth) (e : Entry) (s : σ) (cells : List Address) (b : Address)
    (t : σ) : Prop :=
  ∃ a u, e.StartsAt w s a u ∧ Way w u a cells b t

/-- The calls that lead through the pointers in some cells. -/
def Entry.callsThrough (w : PointerWidth) (e : Entry) (cells : List Address) : List Call :=
  (if e.isOffset then [.base] else []) ++ cells.map fun a => .read a w.size true

/-- An entry starts within the range of a pointer. -/
theorem Entry.StartsAt.lt {e : Entry} (h : e.StartsAt w s a t) : a.toNat < 2 ^ (8 * w.size) := by
  have hpos : 0 < 2 ^ (8 * w.size) := Nat.two_pow_pos _
  cases h with
  | plain _ ha => exact ha ▸ Nat.mod_lt _ hpos
  | offset _ _ ha => exact ha ▸ Nat.mod_lt _ hpos

/-- Finding the base keeps the width. -/
theorem Entry.StartsAt.width_eq [SteadyTarget σ] {e : Entry} (h : e.StartsAt w s a t) :
    Target.width t = Target.width s := by
  cases h with
  | plain => rfl
  | offset _ hbase _ =>
    have hwidth := SteadyTarget.width_base s
    rwa [hbase] at hwidth

theorem PointsTo.width_eq [SteadyTarget σ] (h : PointsTo w s a b t) :
    Target.width t = Target.width s := by
  obtain ⟨bytes, hread, -⟩ := h
  have hwidth := SteadyTarget.width_read a w.size s
  rwa [hread] at hwidth

theorem PointsTo.lt [SteadyTarget σ] (h : PointsTo w s a b t) : b.toNat < 2 ^ (8 * w.size) := by
  obtain ⟨bytes, hread, hb⟩ := h
  have hlt := w.toNat_truncate_decode (SteadyTarget.length_read hread)
  rw [PointerWidth.toNat_truncate, ← hb] at hlt
  rw [← hlt]
  exact Nat.mod_lt _ (Nat.two_pow_pos _)

theorem Way.width_eq [SteadyTarget σ] (h : Way w s a cells b t) :
    Target.width t = Target.width s := by
  induction h with
  | stop s a => rfl
  | next hpoints _ ih => exact ih.trans hpoints.width_eq

/-- **Bounds.**  A way that starts within the range of a pointer stays there. -/
theorem Way.lt [SteadyTarget σ] (h : Way w s a cells b t) (ha : a.toNat < 2 ^ (8 * w.size)) :
    (∀ x ∈ cells, x.toNat < 2 ^ (8 * w.size)) ∧ b.toNat < 2 ^ (8 * w.size) := by
  induction h with
  | stop s a => exact ⟨by simp, ha⟩
  | next hpoints _ ih =>
    obtain ⟨hcells, hb⟩ := ih hpoints.lt
    exact ⟨List.forall_mem_cons.mpr ⟨ha, hcells⟩, hb⟩

/-- From every address a way through any number of pointers goes on to its end, or up to a pointer
that cannot be read. -/
theorem exists_way [SteadyTarget σ] (w : PointerWidth) (levels : Nat) (s : σ) (a : Address) :
    (∃ cells b t, Way w s a cells b t ∧ cells.length = levels) ∨
      ∃ cells b t err, Way w s a cells b t ∧ cells.length < levels ∧
        (Target.read b w.size t).1 = .error err := by
  -- induction on the pointers that are left to follow
  induction levels generalizing s a with
  | zero => exact Or.inl ⟨[], a, s, .stop s a, rfl⟩
  | succ levels ih =>
    rcases hread : Target.read a w.size s with ⟨err | bytes, t⟩
    · exact Or.inr ⟨[], a, s, err, .stop s a, Nat.succ_pos levels, by rw [hread]⟩
    · have hpoints : PointsTo w s a (w.truncate (w.decode bytes)) t :=
        ⟨bytes, hread, w.toNat_truncate_decode (SteadyTarget.length_read hread)⟩
      rcases ih t (w.truncate (w.decode bytes)) with ⟨cells, b, u, hway, hlength⟩ |
        ⟨cells, b, u, err, hway, hlength, hfail⟩
      · exact Or.inl ⟨a :: cells, b, u, .next hpoints hway, congrArg Nat.succ hlength⟩
      · exact Or.inr ⟨a :: cells, b, u, err, .next hpoints hway, Nat.succ_lt_succ hlength, hfail⟩

end Ways

/-! ## Following pointers -/

namespace Entry

section Following

variable {σ : Type} [Target σ] {w : PointerWidth} {s t u : σ} {a b : Address}
  {cells : List Address} {cs : List Call} {r : Except Error Address} {e : Entry}

/-- Follows one pointer. -/
def dereference (a : Address) : Attempt σ Address := do
  note (.debug ("resolving pointer " ++ a.padded))
  let w ← pointerWidth
  let next ← readPointer a
  return w.truncate next

theorem follow_succ (levels : Nat) (a : Address) :
    (follow (levels + 1) a : Attempt σ Address) = dereference a >>= follow levels := by
  simp only [follow, dereference, bind_assoc, pure_bind]

theorem makes_pointerWidth_of_eq (hw : Target.width s = w) :
    Attempt.Makes pointerWidth s [] (.ok w) s :=
  hw ▸ Attempt.makes_pointerWidth s

/-- A pointer that can be read is followed with one call. -/
theorem makes_dereference [SteadyTarget σ] (hw : Target.width s = w) (h : PointsTo w s a b t) :
    (dereference a).Makes s [.read a w.size true] (.ok b) t := by
  obtain ⟨bytes, hread, hb⟩ := h
  have hnext : w.truncate (w.decode bytes) = b :=
    Address.toNat_inj ((w.toNat_truncate_decode (SteadyTarget.length_read hread)).trans hb.symm)
  have hwidth := makes_pointerWidth_of_eq hw
  have hcall := Attempt.makes_operate (Target.read a w.size) (.read a w.size) s
  rw [hread] at hcall
  have hpointer : (readPointer a).Makes s [.read a w.size true] (.ok (w.decode bytes)) t :=
    hwidth.after (hcall.bind (Attempt.makes_pure _ t))
  rw [← hnext]
  exact (Attempt.makes_note _ s).after
    (hwidth.after (hpointer.bind (Attempt.makes_pure _ t)))

/-- A pointer that cannot be read is not followed, and its call is the last one. -/
theorem makes_dereference_error {err : Error} (hw : Target.width s = w)
    (h : Target.read a w.size s = (.error err, t)) :
    (dereference a).Makes s [.read a w.size false] (.error err) t := by
  have hwidth := makes_pointerWidth_of_eq hw
  have hcall := Attempt.makes_operate (Target.read a w.size) (.read a w.size) s
  rw [h] at hcall
  have hpointer : (readPointer a).Makes s [.read a w.size false] (.error err) t :=
    hwidth.after (hcall.bind_error _)
  exact (Attempt.makes_note _ s).after (hwidth.after (hpointer.bind_error _))

/-- **Following a way.**  What comes of following pointers is what comes of those that are left at
the end of a way. -/
theorem makes_follow_of_way [SteadyTarget σ] {k : Nat} (h : Way w s a cells b t)
    (hw : Target.width s = w) (hrest : (follow k b).Makes t cs r u) :
    (follow (cells.length + k) a).Makes s ((cells.map fun c => .read c w.size true) ++ cs) r u := by
  induction h with
  | stop s a =>
    rw [List.length_nil, Nat.zero_add]
    exact hrest
  | @next s t u a b c cells hpoints _ ih =>
    have hall := (makes_dereference hw hpoints).bind (ih (hpoints.width_eq.trans hw) hrest)
    rw [List.length_cons, Nat.succ_add, follow_succ]
    exact hall

/-- An entry that starts somewhere asks for the base if it is an offset. -/
theorem makes_start (hw : Target.width s = w) (h : e.StartsAt w s a t) :
    e.start.Makes s (if e.isOffset then [.base] else []) (.ok a) t := by
  refine (makes_pointerWidth_of_eq hw).after ?_
  cases h with
  | plain hplain ha =>
    obtain rfl := Address.toNat_inj ((w.toNat_truncate e.address).trans ha.symm)
    simp only [hplain, Bool.false_eq_true, if_false]
    exact Attempt.makes_pure _ s
  | offset hoffset hbase ha =>
    obtain rfl := Address.toNat_inj ((w.toNat_add_truncate e.address _).trans ha.symm)
    have hcall := Attempt.makes_operate Target.base (fun _ => .base) s
    rw [hbase] at hcall
    simp only [hoffset, if_true]
    exact hcall.bind ((Attempt.makes_note _ _).after (Attempt.makes_pure _ _))

/-- Without a base an offset starts nowhere. -/
theorem makes_start_error {err : Error} (hoffset : e.isOffset = true)
    (h : Target.base s = (.error err, t)) : e.start.Makes s [.base] (.error err) t := by
  have hcall := Attempt.makes_operate Target.base (fun _ => .base) s
  rw [h] at hcall
  refine (Attempt.makes_pointerWidth s).after ?_
  simp only [hoffset, if_true]
  exact hcall.bind_error _

/-- Every entry starts somewhere, or it is an offset and there is no base. -/
theorem exists_startsAt (w : PointerWidth) (e : Entry) (s : σ) :
    (∃ a t, e.StartsAt w s a t) ∨
      e.isOffset = true ∧ ∃ err, (Target.base s).1 = .error err := by
  rcases hoffset : e.isOffset with _ | _
  · exact Or.inl ⟨_, s, .plain hoffset (w.toNat_truncate e.address)⟩
  · rcases hbase : Target.base s with ⟨err | base, t⟩
    · exact Or.inr ⟨rfl, err, rfl⟩
    · exact Or.inl ⟨_, t, .offset hoffset hbase (w.toNat_add_truncate e.address base)⟩

/-! ## Resolving -/

/-- An entry that leads to an address through all of its pointers is resolved to it. -/
theorem LeadsTo.makes_resolve [SteadyTarget σ] (hw : Target.width s = w)
    (h : e.LeadsTo w s cells b t) (hlength : cells.length = e.pointerLevels) :
    e.resolve.Makes s (e.callsThrough w cells) (.ok b) t := by
  obtain ⟨a, u, hstart, hway⟩ := h
  have hend : (follow 0 b).Makes t [] (.ok b) t := Attempt.makes_pure b t
  have hfollow := makes_follow_of_way hway (hstart.width_eq.trans hw) hend
  rw [List.append_nil, Nat.add_zero, hlength] at hfollow
  exact (makes_start hw hstart).bind hfollow

/-- An entry that leads to a pointer which cannot be read is not resolved. -/
theorem LeadsTo.makes_resolve_error [SteadyTarget σ] {err : Error} (hw : Target.width s = w)
    (h : e.LeadsTo w s cells b t) (hlength : cells.length < e.pointerLevels)
    (hread : (Target.read b w.size t).1 = .error err) :
    e.resolve.Makes s (e.callsThrough w cells ++ [.read b w.size false]) (.error err)
      (Target.read b w.size t).2 := by
  obtain ⟨a, u, hstart, hway⟩ := h
  obtain ⟨k, hk⟩ := Nat.exists_eq_add_of_lt hlength
  have hfail : (follow (k + 1) b).Makes t [.read b w.size false] (.error err)
      (Target.read b w.size t).2 := by
    rw [follow_succ]
    exact (makes_dereference_error (hway.width_eq.trans (hstart.width_eq.trans hw))
      (Prod.ext hread rfl)).bind_error _
  have hfollow := makes_follow_of_way hway (hstart.width_eq.trans hw) hfail
  rw [show cells.length + (k + 1) = e.pointerLevels by omega] at hfollow
  rw [callsThrough, List.append_assoc]
  exact (makes_start hw hstart).bind hfollow

theorem makes_resolve_of_base_error {err : Error} (hoffset : e.isOffset = true)
    (h : (Target.base s).1 = .error err) :
    e.resolve.Makes s [.base] (.error err) (Target.base s).2 :=
  (makes_start_error hoffset (Prod.ext h rfl)).bind_error _

/-- Every entry leads somewhere through all of its pointers, or a call on the way fails. -/
theorem exists_leadsTo [SteadyTarget σ] (w : PointerWidth) (e : Entry) (s : σ) :
    (∃ cells b t, e.LeadsTo w s cells b t ∧ cells.length = e.pointerLevels) ∨
      (e.isOffset = true ∧ ∃ err, (Target.base s).1 = .error err) ∨
      ∃ cells b t err, e.LeadsTo w s cells b t ∧ cells.length < e.pointerLevels ∧
        (Target.read b w.size t).1 = .error err := by
  rcases exists_startsAt w e s with ⟨a, u, hstart⟩ | hbase
  · rcases exists_way w e.pointerLevels u a with ⟨cells, b, t, hway, hlength⟩ |
      ⟨cells, b, t, err, hway, hlength, hread⟩
    · exact Or.inl ⟨cells, b, t, ⟨a, u, hstart, hway⟩, hlength⟩
    · exact Or.inr (Or.inr ⟨cells, b, t, err, ⟨a, u, hstart, hway⟩, hlength, hread⟩)
  · exact Or.inr (Or.inl hbase)

/-- Everything on the way of an entry is within the range of a pointer. -/
theorem LeadsTo.lt [SteadyTarget σ] (h : e.LeadsTo w s cells b t) :
    (∀ x ∈ cells, x.toNat < 2 ^ (8 * w.size)) ∧ b.toNat < 2 ^ (8 * w.size) := by
  obtain ⟨a, u, hstart, hway⟩ := h
  exact hway.lt hstart.lt

/-- More pointers are followed one after the other from where fewer of them lead. -/
theorem follow_add (j k : Nat) (a : Address) :
    (follow (j + k) a : Attempt σ Address) = (· >>= dereference)^[k] (follow j a) := by
  induction k with
  | zero => rfl
  | succ k ih =>
    rw [Function.iterate_succ_apply', ← ih]
    clear ih
    -- the last pointer is split off behind all the others
    rw [← Nat.add_assoc]
    generalize j + k = levels
    induction levels generalizing a with
    | zero =>
      rw [follow_succ]
      simp only [follow, pure_bind, bind_pure]
    | succ levels ih =>
      rw [follow_succ, follow_succ levels, bind_assoc]
      exact congrArg (dereference a >>= ·) (funext ih)

/-- Another number of pointers behind the same start. -/
theorem resolve_add (e : Entry) (j k : Nat) :
    ({ e with pointerLevels := j + k }.resolve : Attempt σ Address) =
      (· >>= dereference)^[k] { e with pointerLevels := j }.resolve := by
  have hbind : ∀ (start : Attempt σ Address) (next : Address → Attempt σ Address),
      (· >>= dereference)^[k] (start >>= next) =
        start >>= fun a => (· >>= dereference)^[k] (next a) := by
    intro start next
    induction k with
    | zero => rfl
    | succ k ih => simp only [Function.iterate_succ_apply', ih, bind_assoc]
  show e.start >>= (fun a => follow (j + k) a) = _
  simp only [follow_add]
  exact (hbind e.start (follow j)).symm

end Following

/-- **Resolving.**  An entry is resolved to an address exactly if it leads there through as many
pointers as it has; the calls are those for the base, if it is an offset, and for the pointers on
the way.  Otherwise the error is that of the first call that fails, of the base or of a pointer on
the way, and that call is the last one.  Everything on the way is within the range of a pointer.
Resolving with more pointers is resolving with some of them and following the others. -/
theorem resolve_follows_pointers {σ : Type} [Target σ] [SteadyTarget σ] (e : Entry)
    (s : Scene σ) :
    let w := Target.width s.target
    let result := (e.resolve.outcome s).1
    let after := (e.resolve.outcome s).2
    (∀ a, result = .ok a ↔
      ∃ cells t, e.LeadsTo w s.target cells a t ∧ cells.length = e.pointerLevels) ∧
    (∀ err, result = .error err ↔
      (e.isOffset = true ∧ (Target.base s.target).1 = .error err) ∨
      ∃ cells a t, e.LeadsTo w s.target cells a t ∧ cells.length < e.pointerLevels ∧
        (Target.read a w.size t).1 = .error err) ∧
    (∀ cells a t, e.LeadsTo w s.target cells a t →
      (cells.length = e.pointerLevels → after.target = t ∧
        after.calls.toList = s.calls.toList ++ e.callsThrough w cells) ∧
      (∀ err, cells.length < e.pointerLevels → (Target.read a w.size t).1 = .error err →
        after.calls.toList =
          s.calls.toList ++ (e.callsThrough w cells ++ [.read a w.size false])) ∧
      (∀ x ∈ cells, x.toNat < 2 ^ (8 * w.size)) ∧ a.toNat < 2 ^ (8 * w.size)) ∧
    (∀ err, e.isOffset = true → (Target.base s.target).1 = .error err →
      after.calls.toList = s.calls.toList ++ [.base]) ∧
    ∀ j k, ({ e with pointerLevels := j + k }.resolve : Attempt σ Address) =
      (· >>= dereference)^[k] { e with pointerLevels := j }.resolve := by
  intro w result after
  have hok : ∀ {cells a t}, e.LeadsTo w s.target cells a t → cells.length = e.pointerLevels →
      result = .ok a := fun h hlength => ((h.makes_resolve rfl hlength).yields s rfl).1
  have hbase : ∀ {err}, e.isOffset = true → (Target.base s.target).1 = .error err →
      result = .error err := fun hoffset h =>
    ((makes_resolve_of_base_error hoffset h).yields s rfl).1
  have hread : ∀ {cells a t err}, e.LeadsTo w s.target cells a t →
      cells.length < e.pointerLevels → (Target.read a w.size t).1 = .error err →
      result = .error err := fun h hlength hfail =>
    ((h.makes_resolve_error rfl hlength hfail).yields s rfl).1
  -- one of the three cases holds, and each of them has one result
  refine ⟨fun a => ⟨fun hresult => ?_, fun ⟨cells, t, h, hlength⟩ => hok h hlength⟩,
    fun err => ⟨fun hresult => ?_, ?_⟩, fun cells a t h => ⟨fun hlength => ?_, ?_, h.lt⟩,
    fun err hoffset h => ?_, e.resolve_add⟩
  · rcases exists_leadsTo w e s.target with ⟨cells, b, t, h, hlength⟩ | ⟨hoffset, err, h⟩ |
      ⟨cells, b, t, err, h, hlength, hfail⟩
    · obtain rfl : b = a := Except.ok.inj ((hok h hlength).symm.trans hresult)
      exact ⟨cells, t, h, hlength⟩
    · exact absurd ((hbase hoffset h).symm.trans hresult) nofun
    · exact absurd ((hread h hlength hfail).symm.trans hresult) nofun
  · rcases exists_leadsTo w e s.target with ⟨cells, b, t, h, hlength⟩ | ⟨hoffset, err', h⟩ |
      ⟨cells, b, t, err', h, hlength, hfail⟩
    · exact absurd ((hok h hlength).symm.trans hresult) nofun
    · obtain rfl : err' = err := Except.error.inj ((hbase hoffset h).symm.trans hresult)
      exact Or.inl ⟨hoffset, h⟩
    · obtain rfl : err' = err := Except.error.inj ((hread h hlength hfail).symm.trans hresult)
      exact Or.inr ⟨cells, b, t, h, hlength, hfail⟩
  · rintro (⟨hoffset, h⟩ | ⟨cells, a, t, h, hlength, hfail⟩)
    · exact hbase hoffset h
    · exact hread h hlength hfail
  · have hmakes := h.makes_resolve rfl hlength
    exact ⟨(hmakes.yields s rfl).2, hmakes.calls s rfl⟩
  · intro err hlength hfail
    exact (h.makes_resolve_error rfl hlength hfail).calls s rfl
  · exact (makes_resolve_of_base_error hoffset h).calls s rfl

/-- An offset from a base, through two pointers. -/
def nullOffset : Entry :=
  ⟨true, 2, .i32, .ofNat 0x123400001010, none⟩

/-- An image of 32 bits with a pointer to a null pointer, which lies a little below the base. -/
def nullImage : Image where
  width := .four
  base := .ok (.ofNat 0xFFFFFFF0)
  memory := (Memory.empty.store (.ofNat 0x1000) [0, 0x20, 0, 0]).store (.ofNat 0x2000) [0, 0, 0, 0]

/-- The sum with the base wraps around at 32 bits, and a null pointer is an address like others. -/
theorem nullOffset_resolves :
    SteadyTarget Image ∧
      (nullOffset.resolve.outcome { target := nullImage }).1 = .ok .null ∧
      (nullOffset.resolve.outcome { target := nullImage }).2.calls.toList =
        [.base, .read (.ofNat 0x1000) 4 true, .read (.ofNat 0x2000) 4 true] := by
  have hleads : nullOffset.LeadsTo .four nullImage [.ofNat 0x1000, .ofNat 0x2000] .null
      nullImage := by
    refine ⟨.ofNat 0x1000, nullImage, .offset rfl rfl (by decide), ?_⟩
    refine .next (b := .ofNat 0x2000) ⟨[0, 0x20, 0, 0], by cbv, by decide⟩ ?_
    exact .next (b := .null) ⟨[0, 0, 0, 0], by cbv, by decide⟩ (.stop _ _)
  obtain ⟨hok, -, hcalls, -⟩ := resolve_follows_pointers nullOffset { target := nullImage }
  exact ⟨inferInstance, (hok _).mpr ⟨_, _, hleads, rfl⟩, ((hcalls _ _ _ hleads).1 rfl).2⟩

end Entry

end MemWatch
