/-
# Convergence of references

Cycle after cycle, every entry with a reference gets the value that the referenced entry holds when
its turn comes.  A value passes a link to a lower id within a cycle, and a link to a higher id only
in the next one.  So it takes one cycle, and one more for every link to a higher id, until the value
at the end of a chain has arrived at its start; and once all values have arrived, writing them again
changes nothing.

Main statement: with all entries mapped and apart, every entry reads as the value of its chain from
that cycle on, and after as many cycles as there are entries the target stays as it is.
-/
import Mathlib
import MemWatch.Proofs.Chains
import MemWatch.Proofs.DirectCycle

namespace MemWatch

/-! ## One value in memory -/

namespace Entry

variable {w : PointerWidth} {base : Address} {m : Memory} {e e' : Entry}

theorem put_of_isMapped (h : m.isMapped (e.place w base) e.type.size = true) (v : Int64) :
    e.put w base m v = m.store (e.place w base) (e.type.encode v) := by
  rw [put, Memory.write?, ValueType.length_encode, if_pos h, Option.getD_some]

theorem held?_put (h : m.isMapped (e.place w base) e.type.size = true) (v : Int64) :
    e.held? w base (e.put w base m v) = some (e.type.wrapped v) := by
  rw [put_of_isMapped h, held?, Memory.load?_store_encode, Option.map_some,
    ValueType.decode_encode]

/-- A value in one place does not change what is held in another one. -/
theorem held?_put_of_apart
    (h : Address.Apart (e.place w base) e.type.size (e'.place w base) e'.type.size) (v : Int64) :
    e'.held? w base (e.put w base m v) = e'.held? w base m := by
  unfold put Memory.write?
  split
  · rw [Option.getD_some, held?, Memory.load?_store_of_apart]
    · rfl
    · rwa [ValueType.length_encode]
  · rfl

/-- A value that is held already changes nothing. -/
theorem put_of_held? {v : Int64} (h : e.held? w base m = some (e.type.wrapped v)) :
    e.put w base m v = m := by
  obtain ⟨bytes, hload, hdecode⟩ := Option.map_eq_some_iff.mp h
  have hlength := Memory.length_of_load? hload
  have hbytes : e.type.encode v = bytes := by
    rw [← ValueType.encode_wrapped, ← hdecode, ValueType.encode_decode e.type hlength]
  have hmapped : m.isMapped (e.place w base) e.type.size = true := by
    rw [← Memory.isSome_load?, hload]
    rfl
  rw [put_of_isMapped hmapped, hbytes, Memory.store_of_load? hload]

/-- A value changes nothing about which addresses are mapped. -/
theorem isMapped_put (v : Int64) (a : Address) (n : Nat) :
    (e.put w base m v).isMapped a n = m.isMapped a n := by
  unfold put Memory.write?
  split
  · rename_i hmapped
    exact Memory.isMapped_store hmapped a n
  · rfl

/-- What a mapped place holds is a value that its type has. -/
theorem exists_held?_of_isMapped (h : m.isMapped (e.place w base) e.type.size = true) :
    ∃ v, e.held? w base m = some v := by
  obtain ⟨bytes, hload⟩ := Memory.exists_load?_of_isMapped h
  exact ⟨e.type.decode bytes, by rw [held?, hload, Option.map_some]⟩

/-- Wrapping does not change a value that is held. -/
theorem wrapped_of_held? {v : Int64} (h : e.held? w base m = some v) : e.type.wrapped v = v := by
  obtain ⟨bytes, hload, rfl⟩ := Option.map_eq_some_iff.mp h
  exact ValueType.wrapped_decode e.type (Memory.length_of_load? hload)

end Entry

namespace EntrySet

/-! ## Layouts -/

/-- All entries of a set lie in mapped memory, and no two of them share a byte. -/
structure IsLaidOut (set : EntrySet) (w : PointerWidth) (base : Address) (m : Memory) : Prop where
  mapped : ∀ id e, set.get? id = some e → m.isMapped (e.place w base) e.type.size = true
  apart : ∀ id e id' e', set.get? id = some e → set.get? id' = some e' → id ≠ id' →
    Address.Apart (e.place w base) e.type.size (e'.place w base) e'.type.size

section Passes

variable {set : EntrySet} {w : PointerWidth} {base : Address} {m : Memory}
variable {id id' : RefId} {e e' : Entry}

/-- The turn of an entry does not change the layout. -/
theorem IsLaidOut.written (h : set.IsLaidOut w base m) (e : Entry) :
    set.IsLaidOut w base (set.written w base m e) := by
  refine ⟨fun id' e' hget' => ?_, h.apart⟩
  unfold EntrySet.written
  split
  · exact h.mapped id' e' hget'
  · rw [Entry.isMapped_put]
    exact h.mapped id' e' hget'

/-- The turn of an entry does not change what the others hold. -/
theorem IsLaidOut.held?_written_of_ne (h : set.IsLaidOut w base m) (hget : set.get? id = some e)
    (hget' : set.get? id' = some e') (hne : id' ≠ id) :
    e'.held? w base (set.written w base m e) = e'.held? w base m := by
  unfold EntrySet.written
  split
  · rfl
  · exact Entry.held?_put_of_apart (h.apart id e id' e' hget hget' hne.symm) _

/-! ## What has arrived -/

variable {before : RefId → Int64} {k p : Nat}

/-- How many turns an entry had in the cycle after `k` cycles, when `p` entries had theirs. -/
def turns (k p : Nat) (id : RefId) : Nat :=
  if id.index < p then k + 1 else k

@[simp] theorem turns_zero (k : Nat) (id : RefId) : turns k 0 id = k :=
  if_neg (Nat.not_lt_zero _)

theorem turns_of_lt (h : id.index < p) : turns k p id = k + 1 :=
  if_pos h

/-- When the turn of an entry comes that has fewer links to higher ids on its chain than turns, so
has the entry that it references. -/
theorem Chain.forwardLinks_lt_turns {target : RefId} (rest : Chain set target)
    (hget : set.get? id = some e) (href : e.reference? = some target) (c : Chain set id)
    (hc : c.forwardLinks < k + 1) : rest.forwardLinks < turns k id.index target := by
  have hne : target.index ≠ id.index :=
    fun heq => target_ne hget href rest (RefId.index_inj heq)
  have htarget := val_eq_index_succ target
  have hid := val_eq_index_succ id
  -- a link to a higher id takes one off, and the target had its turn in the cycle before only
  rw [unique c (link e target hget href rest), forwardLinks] at hc
  unfold turns
  split at hc <;> split <;> omega

/-- In the cycle after `k` cycles, when `p` entries had their turn: where nothing is written there
is what was there before, and a value has arrived at the start of its chain if fewer links lead to
higher ids than there were turns. -/
structure Spread (set : EntrySet) (w : PointerWidth) (base : Address) (before : RefId → Int64)
    (k p : Nat) (m : Memory) : Prop where
  laidOut : set.IsLaidOut w base m
  kept : ∀ id e, set.get? id = some e → e.value = none → e.held? w base m = some (before id)
  arrived : ∀ id e (c : Chain set id), set.get? id = some e →
    c.forwardLinks < turns k p id → e.held? w base m = some (c.value before)

/-- An entry either keeps its value, or the value of the rest of its chain is written to it. -/
theorem Spread.valueIn? (h : Spread set w base before k p m) (hget : set.get? id = some e)
    (c : Chain set id)
    (hrest : ∀ r (rest : Chain set r), e.reference? = some r →
      rest.forwardLinks < turns k p r) :
    (e.value = none ∧ c.value before = before id) ∨
      ∃ v, set.valueIn? w base m e = some v ∧ c.value before = e.type.wrapped v := by
  cases c with
  | root e' hget' hroot =>
    obtain rfl : e' = e := Option.some.inj (hget'.symm.trans hget)
    rcases hvalue : e'.value with _ | v | r
    · have hkept := Entry.wrapped_of_held? (h.kept id e' hget hvalue)
      exact Or.inl ⟨rfl, by simp only [Chain.value, hvalue, hkept]⟩
    · refine Or.inr ⟨v, ?_, ?_⟩
      · simp only [EntrySet.valueIn?, hvalue]
      · simp only [Chain.value, hvalue]
    · simp [Entry.reference?, hvalue] at hroot
  | link e' r hget' href rest =>
    obtain rfl : e' = e := Option.some.inj (hget'.symm.trans hget)
    -- the referenced entry holds the value of the rest of the chain at this moment
    obtain ⟨t, ht⟩ := rest.exists_get?
    have hvalue : e'.value = some (.reference r) := Entry.reference?_eq_some_iff.mp href
    have hheld := h.arrived r t rest ht (hrest r rest href)
    refine Or.inr ⟨rest.value before, ?_, rfl⟩
    simp only [EntrySet.valueIn?, hvalue, ht, Option.bind_some, hheld]

/-- After its turn an entry holds the value of its chain, if that is due. -/
theorem Spread.held?_written (h : Spread set w base before k id.index m)
    (hget : set.get? id = some e) (c : Chain set id) (hc : c.forwardLinks < k + 1) :
    e.held? w base (set.written w base m e) = some (c.value before) := by
  have hrest : ∀ r (rest : Chain set r), e.reference? = some r →
      rest.forwardLinks < turns k id.index r :=
    fun r rest href => rest.forwardLinks_lt_turns hget href c hc
  rcases h.valueIn? hget c hrest with ⟨hvalue, hkeep⟩ | ⟨v, hvalue, hwrap⟩
  · rw [written_of_value_eq_none w base set hvalue, hkeep]
    exact h.kept id e hget hvalue
  · rw [EntrySet.written, hvalue, hwrap]
    exact Entry.held?_put (h.laidOut.mapped id e hget) v

/-- **One turn.**  The turn of an entry brings its own value and leaves the others where they
are. -/
theorem Spread.turn (h : Spread set w base before k id.index m) (hget : set.get? id = some e) :
    Spread set w base before k (id.index + 1) (set.written w base m e) := by
  refine ⟨h.laidOut.written e, ?_, ?_⟩
  · intro id' e' hget' hvalue
    by_cases hid : id' = id
    · subst hid
      obtain rfl : e' = e := Option.some.inj (hget'.symm.trans hget)
      rw [written_of_value_eq_none w base set hvalue]
      exact h.kept id' e' hget hvalue
    · rw [h.laidOut.held?_written_of_ne hget hget' hid]
      exact h.kept id' e' hget' hvalue
  · intro id' e' c hget' hc
    by_cases hid : id' = id
    · subst hid
      obtain rfl : e' = e := Option.some.inj (hget'.symm.trans hget)
      rw [turns_of_lt (Nat.lt_succ_self _)] at hc
      exact h.held?_written hget c hc
    · -- the turn of one entry is none of another one
      have hindex : id'.index ≠ id.index := fun heq => hid (RefId.index_inj heq)
      rw [h.laidOut.held?_written_of_ne hget hget' hid]
      refine h.arrived id' e' c hget' ?_
      unfold turns at hc ⊢
      split at hc <;> split <;> omega

/-- **One cycle.**  A pass of writes brings every value on by one link to a higher id. -/
theorem Spread.pass (h : Spread set w base before k 0 m) :
    Spread set w base before (k + 1) 0 (set.pass w base m) := by
  have hall : Spread set w base before k set.size (set.pass w base m) :=
    pass_induction w base set h fun id e m hget hm => hm.turn hget
  refine ⟨hall.laidOut, hall.kept, fun id e c hget hc => ?_⟩
  refine hall.arrived id e c hget ?_
  rwa [turns_zero, ← turns_of_lt c.index_lt_size] at hc

/-- **Fixpoint.**  If all values have arrived, a pass of writes changes nothing. -/
theorem Spread.pass_eq (h : Spread set w base before k 0 m)
    (hdue : ∀ id (c : Chain set id), c.forwardLinks < k) : set.pass w base m = m := by
  -- every turn finds its value in place already, so the memory stays this one
  refine pass_induction w base set (motive := fun _ m' => m' = m) rfl ?_
  rintro id e _ hget rfl
  obtain ⟨c⟩ := Chain.exists_of_get? hget
  have hheld := h.arrived id e c hget (by rw [turns_zero]; exact hdue id c)
  have hrest : ∀ r (rest : Chain set r), e.reference? = some r →
      rest.forwardLinks < turns k 0 r :=
    fun r rest _ => by rw [turns_zero]; exact hdue r rest
  rcases h.valueIn? hget c hrest with ⟨hvalue, -⟩ | ⟨v, hvalue, hwrap⟩
  · exact written_of_value_eq_none w base set hvalue
  · rw [EntrySet.written, hvalue]
    exact Entry.put_of_held? (hheld.trans (congrArg some hwrap))

/-- At first every value is what was there before. -/
theorem IsLaidOut.exists_spread (h : set.IsLaidOut w base m) :
    ∃ before, Spread set w base before 0 0 m ∧
      ∀ id e, set.get? id = some e → e.held? w base m = some (before id) := by
  have hheld : ∀ id e, set.get? id = some e →
      e.held? w base m = some (((set.get? id).bind (Entry.held? w base m)).getD 0) := by
    intro id e hget
    obtain ⟨v, hv⟩ := Entry.exists_held?_of_isMapped (h.mapped id e hget)
    rw [hget, Option.bind_some, hv, Option.getD_some]
  refine ⟨_, ⟨h, fun id e hget _ => hheld id e hget, fun id e c _ hc => ?_⟩, hheld⟩
  rw [turns_zero] at hc
  exact absurd hc (Nat.not_lt_zero _)

theorem getElem?_readings (hget : set.get? id = some e) :
    (set.readings w base m)[id.index]? = some ⟨id, e, e.look w base m⟩ := by
  have hentry : set.toList[id.index]? = some e := hget
  rw [readings, numbered, number, List.getElem?_map, List.getElem?_map, List.getElem?_zipIdx,
    hentry]
  simp

end Passes

/-! ## Cycle after cycle -/

section Cycles

variable {σ : Type} [Target σ]

/-- The scene after a number of cycles with nothing in between. -/
def rerun (set : EntrySet) : Nat → Scene σ → Scene σ
  | 0, s => s
  | cycles + 1, s => (set.cycle (rerun set cycles s)).2

/-- After `k` cycles no cycle changes the target any more, and all cycles from the `k`-th one on
give the same readings. -/
def IsFixedAfter (set : EntrySet) (k : Nat) (s : Scene σ) : Prop :=
  ∀ c, (k ≤ c → (set.rerun (c + 1) s).target = (set.rerun c s).target) ∧
    (k ≤ c + 1 → (set.cycle (set.rerun (c + 1) s)).1 = (set.cycle (set.rerun c s)).1)

end Cycles

section Images

variable {set : EntrySet} {base : Address} {s : Scene Image} {before : RefId → Int64}

/-- After a number of cycles the image differs in its memory only, where values have spread as far
as that number says. -/
theorem exists_spread_rerun (hdirect : set.IsDirect) (hi : s.target.Answers base)
    (h : Spread set s.target.width base before 0 0 s.target.memory) (c : Nat) :
    ∃ m, (set.rerun c s).target = { s.target with memory := m } ∧
      Spread set s.target.width base before c 0 m := by
  induction c with
  | zero => exact ⟨s.target.memory, rfl, h⟩
  | succ c ih =>
    obtain ⟨m, htarget, hm⟩ := ih
    obtain ⟨-, hnext⟩ := yields_cycle hdirect (hi.withMemory m) (set.rerun c s) htarget
    exact ⟨set.pass s.target.width base m, hnext, hm.pass⟩

/-- Once every value is due, nothing changes any more. -/
theorem isFixedAfter_of_due (hdirect : set.IsDirect) (hi : s.target.Answers base)
    (h : Spread set s.target.width base before 0 0 s.target.memory) {k : Nat}
    (hdue : ∀ id (c : Chain set id), c.forwardLinks < k) : set.IsFixedAfter k s := by
  intro c
  obtain ⟨m, htarget, hm⟩ := exists_spread_rerun hdirect hi h c
  obtain ⟨hreadings, hnext⟩ := yields_cycle hdirect (hi.withMemory m) (set.rerun c s) htarget
  constructor
  · intro hk
    have hfix := hm.pass_eq fun id c' => Nat.lt_of_lt_of_le (hdue id c') hk
    show (set.cycle (set.rerun c s)).2.target = _
    rw [hnext, htarget]
    simp only [hfix]
  · intro hk
    have hfix := hm.pass.pass_eq fun id c' => Nat.lt_of_lt_of_le (hdue id c') hk
    obtain ⟨hagain, -⟩ := yields_cycle hdirect (hi.withMemory _) (set.rerun (c + 1) s) hnext
    rw [hagain, hreadings]
    simp only [hfix]

/-- **Convergence.**  Over an image that answers, with all entries in places of their own, every
entry reads as the value of its chain after one cycle and one more for every link to a higher id.
So after as many cycles as there are entries nothing changes any more, and after a single one if
all references name lower ids. -/
theorem references_converge (hdirect : set.IsDirect) (hi : s.target.Answers base)
    (hlaid : set.IsLaidOut s.target.width base s.target.memory) :
    ∃ before : RefId → Int64,
      (∀ id e, set.get? id = some e →
        (e.read.outcome s).1 = .ok (e.place s.target.width base, before id)) ∧
      (∀ id e, set.get? id = some e → ∃ chain : Chain set id,
        (∀ c, chain.forwardLinks + 1 ≤ c → (e.read.outcome (set.rerun c s)).1 =
          .ok (e.place s.target.width base, chain.value before)) ∧
        (∀ c, chain.forwardLinks ≤ c → (set.cycle (set.rerun c s)).1[id.index]? =
          some ⟨id, e, .ok (e.place s.target.width base, chain.value before)⟩)) ∧
      set.IsFixedAfter set.size s ∧
      ((∀ id e r, set.get? id = some e → e.reference? = some r → r.val < id.val) →
        set.IsFixedAfter 1 s) := by
  obtain ⟨before, hstart, hbefore⟩ := hlaid.exists_spread
  refine ⟨before, ?_, ?_, ?_, ?_⟩
  · intro id e hget
    have hread := (hi.readEntry (hdirect id e hget) s rfl).1
    rwa [Entry.look, hbefore id e hget] at hread
  · intro id e hget
    obtain ⟨chain⟩ := Chain.exists_of_get? hget
    refine ⟨chain, ?_, ?_⟩
    · intro c hc
      obtain ⟨m, htarget, hm⟩ := exists_spread_rerun hdirect hi hstart c
      have hread := ((hi.withMemory m).readEntry (hdirect id e hget) _ htarget).1
      rwa [Entry.look, hm.arrived id e chain hget (by rwa [turns_zero])] at hread
    · intro c hc
      obtain ⟨m, htarget, hm⟩ := exists_spread_rerun hdirect hi hstart c
      have hreadings := (yields_cycle hdirect (hi.withMemory m) _ htarget).1
      have hheld := hm.pass.arrived id e chain hget (by simpa using Nat.lt_succ_of_le hc)
      rw [hreadings, getElem?_readings hget, Entry.look, hheld]
  · exact isFixedAfter_of_due hdirect hi hstart fun id c => c.forwardLinks_lt_size
  · intro hlower
    refine isFixedAfter_of_due hdirect hi hstart fun id c => ?_
    rw [c.forwardLinks_eq_zero hlower]
    exact Nat.one_pos

end Images

/-! ## A relay of two entries -/

/-- Two entries: the first one takes its value from the second one, which is narrower. -/
def relay : EntrySet where
  toList :=
    [⟨false, 0, .i32, .ofNat 0x1000, some (.reference (.ofIndex 1))⟩,
      ⟨false, 0, .i16, .ofNat 0x1010, some (.literal 70000)⟩]
  sound := by cbv

/-- An image in which both entries are mapped. -/
def relayImage : Image where
  base := .ok .null
  memory := (Memory.empty.store (.ofNat 0x1000) [0, 0, 0, 0]).store (.ofNat 0x1010) [0, 0]

/-- The entries of the relay. -/
theorem get?_relay {id : RefId} {e : Entry} (h : relay.get? id = some e) :
    id.index = 0 ∧ e = ⟨false, 0, .i32, .ofNat 0x1000, some (.reference (.ofIndex 1))⟩ ∨
      id.index = 1 ∧ e = ⟨false, 0, .i16, .ofNat 0x1010, some (.literal 70000)⟩ := by
  unfold get? relay at h
  rcases hindex : id.index with _ | _ | n
  · rw [hindex] at h
    exact Or.inl ⟨rfl, (Option.some.inj h).symm⟩
  · rw [hindex] at h
    exact Or.inr ⟨rfl, (Option.some.inj h).symm⟩
  · rw [hindex] at h
    simp at h

/-- The entries of the relay are mapped in its image and have places of their own. -/
theorem isLaidOut_relay :
    relay.IsLaidOut relayImage.width .null relayImage.memory := by
  have hapart : Address.Apart (.ofNat 0x1000) 4 (.ofNat 0x1010) 2 :=
    Address.apart_of_le (by decide) (by decide)
  constructor
  · intro id e hget
    rcases get?_relay hget with ⟨-, rfl⟩ | ⟨-, rfl⟩ <;> rfl
  · intro id e id' e' hget hget' hne
    rcases get?_relay hget with ⟨hid, rfl⟩ | ⟨hid, rfl⟩ <;>
      rcases get?_relay hget' with ⟨hid', rfl⟩ | ⟨hid', rfl⟩
    · exact absurd (RefId.index_inj (hid.trans hid'.symm)) hne
    · exact hapart
    · exact hapart.symm
    · exact absurd (RefId.index_inj (hid.trans hid'.symm)) hne

/-- The value of the second entry of the relay, wrapped to two bytes, arrives at the first entry in
the second cycle. -/
theorem relay_converges :
    relay.IsDirect ∧ relayImage.Answers .null ∧
      relay.IsLaidOut relayImage.width .null relayImage.memory ∧
      ∀ e, relay.get? (.ofIndex 0) = some e → ∀ c, 2 ≤ c →
        (e.read.outcome (relay.rerun c ⟨relayImage, #[], #[]⟩)).1 = .ok (.ofNat 0x1000, 4464) := by
  have hdirect : relay.IsDirect := by
    intro id e hget
    rcases get?_relay hget with ⟨-, rfl⟩ | ⟨-, rfl⟩ <;> rfl
  have hanswers : relayImage.Answers .null := ⟨rfl, rfl⟩
  refine ⟨hdirect, hanswers, isLaidOut_relay, ?_⟩
  intro e hget c hc
  obtain ⟨before, -, hchains, -⟩ :=
    references_converge (s := ⟨relayImage, #[], #[]⟩) hdirect hanswers isLaidOut_relay
  obtain ⟨chain, hread, -⟩ := hchains (.ofIndex 0) e hget
  obtain rfl := Option.some.inj hget
  have hchain : chain = .link _ (.ofIndex 1) hget rfl (.root _ rfl rfl) := chain.unique _
  have hlinks : chain.forwardLinks + 1 = 2 := by rw [hchain]; rfl
  have hvalue : chain.value before = 4464 := by
    rw [hchain]
    show ValueType.wrapped .i32 (ValueType.wrapped .i16 70000) = 4464
    decide
  have hplace : Entry.place relayImage.width .null
      ⟨false, 0, .i32, .ofNat 0x1000, some (.reference (.ofIndex 1))⟩ = .ofNat 0x1000 := by decide
  rw [hlinks, hvalue] at hread
  rw [hread c hc]
  exact congrArg (fun a => Except.ok (a, 4464)) hplace

end EntrySet

end MemWatch
