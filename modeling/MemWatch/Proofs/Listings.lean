/-
# Complete lists

A list of unknown length is fetched with growing buffers.  The answer to a call reports either what
was stored or what the whole list needs, and in both cases a list that is shorter than the buffer
comes back as it is; one that fills the buffer is asked for again, with at least twice the room.
The list may be another one at every call.

Main statement: the calls come to an end, and the list that is held at the last of them is fetched
as a whole; no buffer is too large to be offered.
-/
import Mathlib.Tactic.Ring
import MemWatch.ProcessHandle.Attached

namespace MemWatch.Listing

/-! ## Answers -/

/-- What is reported as the number of bytes needed. -/
inductive Report where
  /-- The bytes of what was stored. -/
  | stored
  /-- The bytes of the whole list. -/
  | whole
deriving DecidableEq, Repr

section Answers

variable {α : Type} {report : Report} {elementSize length : Nat} {l : List α}

/-- The number of bytes reported by a call with a buffer of `size` bytes, of a list that needs
`bytes`. -/
def Report.needed (bytes size : Nat) : Report → Nat
  | stored => min bytes size
  | whole => bytes

/-- The answer to a call with a buffer of `size` bytes, which is filled with as much of a list as
fits. -/
def Report.answer (report : Report) (elementSize size : Nat) (l : List α) : Listing α :=
  ⟨l.take (size / elementSize), report.needed (l.length * elementSize) size⟩

/-- The buffer counts as full if the list is at least as long. -/
theorem full_iff (hpos : 0 < elementSize) :
    length * elementSize ≤ (report.answer elementSize (length * elementSize) l).needed ↔
      length ≤ l.length := by
  have hbytes : length * elementSize ≤ l.length * elementSize ↔ length ≤ l.length :=
    Nat.mul_le_mul_right_iff hpos
  cases report with
  | stored => exact le_min_iff.trans ((and_iff_left (le_refl _)).trans hbytes)
  | whole => exact hbytes

/-- A list that is shorter than the buffer is all of its contents. -/
theorem contents_answer (hpos : 0 < elementSize) (blank : α) (h : l.length < length) :
    (report.answer elementSize (length * elementSize) l).contents blank elementSize length = l := by
  have hbytes : l.length * elementSize ≤ length * elementSize := Nat.mul_le_mul_right _ h.le
  have hneeded : report.needed (l.length * elementSize) (length * elementSize) =
      l.length * elementSize := by
    cases report with
    | stored => exact min_eq_left hbytes
    | whole => rfl
  simp only [contents, Report.answer, hneeded, Nat.mul_div_cancel _ hpos,
    List.take_of_length_le h.le, List.take_left]

/-- The next buffer has at least twice the room, and room for an element. -/
theorem double_le_nextLength (hpos : 0 < elementSize) (length needed : Nat) :
    2 * (length * elementSize) ≤ nextLength elementSize length needed * elementSize ∧
      1 ≤ nextLength elementSize length needed * elementSize := by
  have hdouble : length * 2 ≤ nextLength elementSize length needed := le_max_left _ _
  have hone : 1 ≤ nextLength elementSize length needed :=
    le_trans (Nat.succ_pos _) (le_max_right _ _)
  constructor
  · calc 2 * (length * elementSize) = length * 2 * elementSize := by ring
      _ ≤ _ := Nat.mul_le_mul_right _ hdouble
  · exact Nat.mul_pos hone hpos

/-- **Growth.**  After a list of less than half of the bytes that 32 bits count, the next buffer is
within 32 bits. -/
theorem nextLength_mul_lt (hsize : elementSize < 2 ^ 32)
    (hlist : l.length * elementSize < 2 ^ 31) (hfull : length ≤ l.length) :
    nextLength elementSize length (report.answer elementSize (length * elementSize) l).needed *
      elementSize < 2 ^ 32 := by
  have hneeded : (report.answer elementSize (length * elementSize) l).needed / elementSize ≤
      l.length := by
    have hle : (report.answer elementSize (length * elementSize) l).needed ≤
        l.length * elementSize := by
      cases report with
      | stored => exact min_le_left _ _
      | whole => exact le_refl _
    exact Nat.div_le_of_le_mul (hle.trans_eq (Nat.mul_comm _ _))
  have hnext : nextLength elementSize length
      (report.answer elementSize (length * elementSize) l).needed ≤ max (l.length * 2) 1 := by
    unfold nextLength
    omega
  -- a list of no element is followed by room for one, any other one by at most twice its own
  refine lt_of_le_of_lt (Nat.mul_le_mul_right _ hnext) ?_
  rcases Nat.eq_zero_or_pos l.length with hzero | hlength
  · rw [hzero, Nat.zero_mul, max_eq_right (Nat.zero_le 1), Nat.one_mul]
    exact hsize
  · rw [max_eq_left (by omega), Nat.mul_right_comm]
    omega

end Answers

/-! ## Calls -/

section Calls

variable {σ τ α β : Type} {report : Report} {elementSize length : Nat} {s : σ} {t : τ} {l : List α}
  {code : OsCode} {query : Nat → σ → Except OsCode (Listing α) × σ}
  {held : σ → Except OsCode (List α)} (toError : σ → OsCode → Error)

/-- Every call is answered for the list that the system holds at the time, if it does not fail. -/
def Answers (report : Report) (elementSize : Nat)
    (query : Nat → σ → Except OsCode (Listing α) × σ) (held : σ → Except OsCode (List α)) : Prop :=
  ∀ length s, (query (length * elementSize) s).1 =
    (held s).map (report.answer elementSize (length * elementSize))

/-- A call that fails ends the fetch with its failure. -/
theorem Answers.fetch_of_error (h : Answers report elementSize query held) (blank : α)
    (hsize : 0 < elementSize ∧ length * elementSize < UInt32.size) (hheld : held s = .error code) :
    fetch toError blank elementSize query length s =
      (.error (toError (query (length * elementSize) s).2 code),
        (query (length * elementSize) s).2) := by
  have hcall : query (length * elementSize) s = (.error code, _) :=
    Prod.ext ((h length s).trans (by rw [hheld]; rfl)) rfl
  rw [fetch, dif_pos hsize, hcall]

/-- A list that is shorter than the buffer is fetched. -/
theorem Answers.fetch_of_lt (h : Answers report elementSize query held) (blank : α)
    (hsize : 0 < elementSize ∧ length * elementSize < UInt32.size) (hheld : held s = .ok l)
    (hlt : l.length < length) :
    fetch toError blank elementSize query length s = (.ok l, (query (length * elementSize) s).2) := by
  have hcall : query (length * elementSize) s =
      (.ok (report.answer elementSize (length * elementSize) l), _) :=
    Prod.ext ((h length s).trans (by rw [hheld]; rfl)) rfl
  rw [fetch, dif_pos hsize, hcall]
  simp only [dif_neg (mt (full_iff hsize.1).mp (Nat.not_le_of_lt hlt)),
    contents_answer hsize.1 blank hlt]

/-- A list that fills the buffer is asked for again. -/
theorem Answers.fetch_of_le (h : Answers report elementSize query held) (blank : α)
    (hsize : 0 < elementSize ∧ length * elementSize < UInt32.size) (hheld : held s = .ok l)
    (hle : length ≤ l.length) :
    fetch toError blank elementSize query length s =
      fetch toError blank elementSize query
        (nextLength elementSize length
          (report.answer elementSize (length * elementSize) l).needed)
        (query (length * elementSize) s).2 := by
  have hcall : query (length * elementSize) s =
      (.ok (report.answer elementSize (length * elementSize) l), _) :=
    Prod.ext ((h length s).trans (by rw [hheld]; rfl)) rfl
  rw [fetch, dif_pos hsize, hcall]
  simp only [dif_pos ((full_iff hsize.1).mpr hle)]

/-- **The calls of a fetch.**  Let a property of the buffer and the system go from every call whose
buffer is filled to the next one.  Then it holds at the last call, whose list or failure is the
result; or in front of a buffer that is too large to be offered. -/
theorem Answers.exists_last_call (h : Answers report elementSize query held) (blank : α)
    (hpos : 0 < elementSize) {Q : Nat → σ → Prop}
    (hnext : ∀ length s l, Q length s → held s = .ok l → length ≤ l.length →
      Q (nextLength elementSize length (report.answer elementSize (length * elementSize) l).needed)
        (query (length * elementSize) s).2)
    (hfirst : Q length s) :
    ∃ last t, Q last t ∧
      (last * elementSize < UInt32.size →
        fetch toError blank elementSize query length s =
          ((held t).mapError (toError (query (last * elementSize) t).2),
            (query (last * elementSize) t).2)) ∧
      (UInt32.size ≤ last * elementSize →
        fetch toError blank elementSize query length s = (.error (.system .outOfMemory), t)) := by
  -- induction on the 32 bits that the buffer leaves
  induction hroom : UInt32.size - length using Nat.strong_induction_on generalizing length s with
  | _ room ih =>
    by_cases hsize : length * elementSize < UInt32.size
    · cases hheld : held s with
      | error code =>
        refine ⟨length, s, hfirst, fun _ => ?_, fun hge => absurd hsize (Nat.not_lt_of_le hge)⟩
        rw [h.fetch_of_error toError blank ⟨hpos, hsize⟩ hheld, hheld]
        rfl
      | ok l =>
        by_cases hlt : l.length < length
        · refine ⟨length, s, hfirst, fun _ => ?_, fun hge => absurd hsize (Nat.not_lt_of_le hge)⟩
          rw [h.fetch_of_lt toError blank ⟨hpos, hsize⟩ hheld hlt, hheld]
          rfl
        · have hle := Nat.le_of_not_lt hlt
          have hfull : length * elementSize ≤
              (report.answer elementSize (length * elementSize) l).needed := (full_iff hpos).mpr hle
          have hlonger := lt_nextLength hpos hfull
          have hlength : length ≤ length * elementSize := Nat.le_mul_of_pos_right length hpos
          rw [h.fetch_of_le toError blank ⟨hpos, hsize⟩ hheld hle]
          exact ih _ (by omega) (hnext length s l hfirst hheld hle) rfl
    · have hge := Nat.le_of_not_lt hsize
      refine ⟨length, s, hfirst, fun hlt => absurd hlt hsize, fun _ => ?_⟩
      rw [fetch, dif_neg fun hboth => hsize hboth.2]

/-- Fetches are successful alike if their calls report alike. -/
theorem isOk_fetch_congr (toError' : τ → OsCode → Error)
    {query' : Nat → τ → Except OsCode (Listing β) × τ} {R : σ → τ → Prop} (blank : α) (blank' : β)
    (elementSize length : Nat)
    (h : ∀ size s t, R s t → (query size s).1.map needed = (query' size t).1.map needed ∧
      R (query size s).2 (query' size t).2) (hst : R s t) :
    (fetch toError blank elementSize query length s).1.isOk =
      (fetch toError' blank' elementSize query' length t).1.isOk := by
  induction length, s using fetch.induct elementSize query generalizing t with
  | case4 length s hsize => rw [fetch, dif_neg hsize, fetch, dif_neg hsize]; rfl
  | case1 length s hsize code s' hcall =>
    obtain ⟨hneeded, -⟩ := h (length * elementSize) s t hst
    rcases hcall' : query' (length * elementSize) t with ⟨code' | listing', t'⟩
    · rw [fetch, dif_pos hsize, hcall, fetch, dif_pos hsize, hcall']
      rfl
    · rw [hcall, hcall'] at hneeded
      cases hneeded
  | case2 length s hsize listing s' hcall hfull ih =>
    obtain ⟨hneeded, hafter⟩ := h (length * elementSize) s t hst
    rcases hcall' : query' (length * elementSize) t with ⟨code' | listing', t'⟩
    · rw [hcall, hcall'] at hneeded
      cases hneeded
    · rw [hcall, hcall'] at hneeded hafter
      have hsame : listing.needed = listing'.needed := Except.ok.inj hneeded
      rw [fetch, dif_pos hsize, hcall, fetch, dif_pos hsize, hcall']
      simp only [dif_pos hfull, ← hsame]
      exact ih hafter
  | case3 length s hsize listing s' hcall hfull =>
    obtain ⟨hneeded, -⟩ := h (length * elementSize) s t hst
    rcases hcall' : query' (length * elementSize) t with ⟨code' | listing', t'⟩
    · rw [hcall, hcall'] at hneeded
      cases hneeded
    · rw [hcall, hcall'] at hneeded
      have hsame : listing.needed = listing'.needed := Except.ok.inj hneeded
      rw [fetch, dif_pos hsize, hcall, fetch, dif_pos hsize, hcall']
      simp only [dif_neg hfull, ← hsame]
      rfl

/-- A list that stays the same is what a successful fetch gives. -/
theorem Answers.eq_of_fetch (h : Answers report elementSize query held) (blank : α)
    (hpos : 0 < elementSize) (hkeeps : ∀ size s, held (query size s).2 = held s)
    (hfetch : (fetch toError blank elementSize query length s).1 = .ok l) : held s = .ok l := by
  obtain ⟨last, t, hsame, hfits, hlarge⟩ :=
    h.exists_last_call toError blank hpos (Q := fun _ t => held t = held s)
      (fun _ t _ ht _ _ => (hkeeps _ t).trans ht) (rfl : held s = held s)
  by_cases hsize : last * elementSize < UInt32.size
  · rw [hfits hsize, hsame] at hfetch
    cases hheld : held s with
    | error code =>
      rw [hheld] at hfetch
      cases hfetch
    | ok own =>
      rw [hheld] at hfetch
      rw [Except.ok.inj hfetch]
  · rw [hlarge (Nat.le_of_not_lt hsize)] at hfetch
    cases hfetch

/-- A list that stays the same, of less than half of the bytes that 32 bits count, is fetched. -/
theorem Answers.fetch_eq (h : Answers report elementSize query held) (blank : α)
    (hpos : 0 < elementSize) (helement : elementSize < 2 ^ 32)
    (hstart : length * elementSize < 2 ^ 32) (hkeeps : ∀ size s, held (query size s).2 = held s)
    (hheld : held s = .ok l) (hlist : l.length * elementSize < 2 ^ 31) :
    (fetch toError blank elementSize query length s).1 = .ok l := by
  have hnext : ∀ length t own, held t = held s ∧ length * elementSize < 2 ^ 32 →
      held t = .ok own → length ≤ own.length →
      held (query (length * elementSize) t).2 = held s ∧
        nextLength elementSize length
          (report.answer elementSize (length * elementSize) own).needed * elementSize < 2 ^ 32 := by
    rintro length t own ⟨ht, -⟩ hown hle
    obtain rfl : l = own := Except.ok.inj (hheld.symm.trans (ht.symm.trans hown))
    exact ⟨(hkeeps _ t).trans ht, nextLength_mul_lt helement hlist hle⟩
  have hfirst : held s = held s ∧ length * elementSize < 2 ^ 32 := ⟨rfl, hstart⟩
  obtain ⟨last, t, ⟨hsame, hsize⟩, hfits, -⟩ := h.exists_last_call toError blank hpos hnext hfirst
  rw [hfits hsize, hsame, hheld]
  rfl

end Calls

/-! ## Lists that change -/

section Changing

variable {α : Type}

/-- A system that holds a list at each of its calls, or fails; it keeps the sizes of the buffers that
it was offered. -/
def serve (report : Report) (elementSize : Nat) (held : Nat → Except OsCode (List α)) (size : Nat)
    (offered : List Nat) : Except OsCode (Listing α) × List Nat :=
  ((held offered.length).map (report.answer elementSize size), offered ++ [size])

/-- What is known in front of a call: all calls before it were answered, their buffers are within 32
bits, and so is the next one, which has doubled with every call. -/
structure Offers (elementSize : Nat) (held : Nat → Except OsCode (List α)) (length : Nat)
    (offered : List Nat) : Prop where
  answered : ∀ n < offered.length, ∃ l, held n = .ok l
  within : ∀ size ∈ offered, size < 2 ^ 32
  next : length * elementSize < 2 ^ 32
  doubled : offered = [] ∨ 2 ^ offered.length ≤ 2 * (length * elementSize)

section Offers

variable {elementSize length : Nat} {held : Nat → Except OsCode (List α)} {offered : List Nat}
  {l : List α} {report : Report}

/-- With the next buffer all buffers are within 32 bits. -/
theorem Offers.within_next (h : Offers elementSize held length offered) :
    ∀ size ∈ offered ++ [length * elementSize], size < 2 ^ 32 :=
  List.forall_mem_append.mpr ⟨h.within, List.forall_mem_singleton.mpr h.next⟩

/-- There are no more than 32 calls in front of another one. -/
theorem Offers.length_le (h : Offers elementSize held length offered) : offered.length ≤ 32 := by
  have hnext := h.next
  rcases h.doubled with rfl | hdoubled
  · exact Nat.zero_le 32
  · have hpow : 2 ^ offered.length < 2 ^ 33 := by omega
    exact Nat.lt_succ_iff.mp ((Nat.pow_lt_pow_iff_right (by decide)).mp hpow)

/-- What is known in front of a call is known in front of the next one, if the buffer is filled. -/
theorem Offers.next_call (h : Offers elementSize held length offered)
    (hpos : 0 < elementSize) (helement : elementSize < 2 ^ 32)
    (hheld : held offered.length = .ok l) (hlist : l.length * elementSize < 2 ^ 31)
    (hle : length ≤ l.length) :
    Offers elementSize held
      (nextLength elementSize length (report.answer elementSize (length * elementSize) l).needed)
      (offered ++ [length * elementSize]) := by
  have hgrows := double_le_nextLength hpos length
    (report.answer elementSize (length * elementSize) l).needed
  constructor
  case answered =>
    intro n hn
    rw [List.length_append, List.length_singleton, Nat.lt_succ_iff_lt_or_eq] at hn
    rcases hn with hn | rfl
    · exact h.answered n hn
    · exact ⟨l, hheld⟩
  case within => exact h.within_next
  case next => exact nextLength_mul_lt helement hlist hle
  case doubled =>
    right
    rw [List.length_append, List.length_singleton, pow_succ]
    rcases h.doubled with rfl | hdoubled
    · rw [List.length_nil, pow_zero]
      omega
    · omega

end Offers

/-- **Fetching.**  At every call the system may hold another list, of less than half of the bytes
that 32 bits count, or fail.  Whatever is reported, and whatever buffer within 32 bits comes first,
the fetch ends after 33 calls at most; every call but the last one was answered, and every buffer is
within 32 bits; and the result is the list that was held at the last call, as it is, or its
failure. -/
theorem fetch_gives_last_list (toError : List Nat → OsCode → Error) (blank : α) (report : Report)
    (held : Nat → Except OsCode (List α)) {elementSize length : Nat} (hpos : 0 < elementSize)
    (helement : elementSize < 2 ^ 32)
    (hfirst : length * elementSize < 2 ^ 32)
    (hlist : ∀ n l, held n = .ok l → l.length * elementSize < 2 ^ 31) :
    ∃ last sizes,
      fetch toError blank elementSize (serve report elementSize held) length [] =
        ((held last).mapError (toError sizes), sizes) ∧
      sizes.length = last + 1 ∧ sizes.length ≤ 33 ∧ (∀ size ∈ sizes, size < 2 ^ 32) ∧
      ∀ n < last, ∃ l, held n = .ok l := by
  have hanswers : Answers report elementSize (serve report elementSize held)
      fun offered => held offered.length := fun _ _ => rfl
  have hstart : Offers elementSize held length [] := ⟨nofun, nofun, hfirst, .inl rfl⟩
  obtain ⟨last, offered, hlast, hfits, -⟩ :=
    hanswers.exists_last_call toError blank hpos (fun length offered l h hheld hle =>
      h.next_call hpos helement hheld (hlist _ l hheld) hle) hstart
  have hlength : (offered ++ [last * elementSize]).length = offered.length + 1 :=
    List.length_append
  refine ⟨offered.length, _, hfits hlast.next, hlength, ?_, hlast.within_next, hlast.answered⟩
  exact hlength ▸ Nat.succ_le_succ hlast.length_le

/-- A list that fills the buffer of its first two calls, and has changed in between. -/
def growing : Nat → Except OsCode (List Nat)
  | 0 => .ok [7, 8]
  | 1 => .ok [9, 8]
  | _ => .ok [9, 8, 7]

/-- The list is fetched with a buffer for one element, then two, then four. -/
theorem growing_is_fetched :
    (∀ n l, growing n = .ok l → l.length * 4 < 2 ^ 31) ∧
      fetch (fun _ code => .ofOsCode code) 0 4 (serve .stored 4 growing) 1 [] =
        ((growing 2).mapError fun code => .ofOsCode code, [4, 8, 16]) ∧
      ∀ n < 2, ∃ l, growing n = .ok l := by
  have hlist : ∀ n l, growing n = .ok l → l.length * 4 < 2 ^ 31 := by
    intro n l h
    rcases n with _ | _ | n
    all_goals
      obtain rfl := Except.ok.inj h
      decide
  have hrun : fetch (fun _ code => .ofOsCode code) 0 4 (serve .stored 4 growing) 1 [] =
      (.ok [9, 8, 7], [4, 8, 16]) := by
    decide +kernel
  obtain ⟨last, sizes, hfetch, hlength, -, -, hanswered⟩ :=
    fetch_gives_last_list (fun _ code => .ofOsCode code) 0 .stored growing (show 0 < 4 by decide)
      (show 4 < 2 ^ 32 by decide) (show 1 * 4 < 2 ^ 32 by decide) hlist
  obtain rfl : [4, 8, 16] = sizes := (Prod.mk.inj (hrun.symm.trans hfetch)).2
  obtain rfl : last = 2 := (Nat.succ.inj hlength).symm
  exact ⟨hlist, hfetch, hanswered⟩

end Changing

end MemWatch.Listing

/-! ## The lists of a machine -/

namespace MemWatch

/-- The list of the processes of a machine, if it can be had. -/
def Machine.processList (m : Machine) : Except OsCode (List ProcessId) :=
  match m.listFault with
  | some code => .error code
  | none => .ok m.processIds

/-- The list of the modules of the process behind a handle after so many listings, if it can be
had. -/
def Machine.moduleListAfter (m : Machine) (h : Handle) (listings : Nat) :
    Except OsCode (List Handle) :=
  m.answer h fun p =>
    match m.trouble.listing listings <|> p.modulesFault with
    | some code => .error code
    | none => .ok ((List.range p.modules.length).map (· + 1))

/-- Listing processes reports what was stored. -/
theorem Machine.answers_listProcesses :
    Listing.Answers .stored 4 listProcesses processList := by
  intro length m
  unfold listProcesses processList
  cases m.listFault with
  | some code => rfl
  | none =>
    have hbytes : (m.processIds.take (length * 4 / 4)).length * 4 =
        min (m.processIds.length * 4) (length * 4) := by
      rw [List.length_take, Nat.mul_div_cancel _ (by decide)]
      omega
    show Except.ok (Listing.mk _ _) = Except.ok (Listing.mk _ _)
    rw [hbytes]
    rfl

/-- Listing modules reports what all of them need. -/
theorem Machine.answers_listModules (h : Handle) :
    Listing.Answers .whole 8 (listModules h) fun m => m.moduleListAfter h m.moduleListings := by
  intro length m
  show (listModules h (length * 8) m).1 = (m.moduleListAfter h m.moduleListings).map _
  unfold listModules moduleListAfter answer
  cases m.ofHandle? h with
  | none => rfl
  | some p =>
    simp only
    cases m.trouble.listing m.moduleListings <|> p.modulesFault with
    | some code => rfl
    | none => rfl

/-- **Modules.**  The modules of an attached process are all listed, in order, if there are less
than 2^28; or the listing fails, as it does after some number of listings. -/
theorem Attached.modules_eq {s : Attached} {p : ProcessRecord}
    (h : s.machine.ofHandle? s.process.handle = some p) (hlength : p.modules.length < 2 ^ 28) :
    ∃ listings, s.modules.1 =
      (s.machine.moduleListAfter s.process.handle listings).mapError s.machine.error := by
  have hanswers := Machine.answers_listModules s.process.handle
  have hlist {n : Nat} {l : List Handle}
      (hl : s.machine.moduleListAfter s.process.handle n = .ok l) : l.length < 2 ^ 28 := by
    unfold Machine.moduleListAfter Machine.answer at hl
    simp only [h] at hl
    split at hl
    · cases hl
    · obtain rfl := Except.ok.inj hl
      rwa [List.length_map, List.length_range]
  -- nothing but the calls that were noted changes from one listing to the next
  have hnext : ∀ length (m : Machine) l,
      (∃ calls, m = { s.machine with calls }) ∧ length * 8 < 2 ^ 32 →
      m.moduleListAfter s.process.handle m.moduleListings = .ok l → length ≤ l.length →
      (∃ calls, (m.listModules s.process.handle (length * 8)).2 = { s.machine with calls }) ∧
        Listing.nextLength 8 length (Listing.Report.whole.answer 8 (length * 8) l).needed * 8 <
          2 ^ 32 := by
    rintro length m l ⟨⟨calls, rfl⟩, -⟩ hl hle
    have hshort := hlist hl
    exact ⟨⟨_, rfl⟩, Listing.nextLength_mul_lt (by decide) (by omega) hle⟩
  obtain ⟨last, m, ⟨⟨calls, rfl⟩, hsize⟩, hfits, -⟩ := hanswers.exists_last_call
    Machine.error 0 (by decide) hnext
    (show (∃ calls, s.machine = { s.machine with calls }) ∧ 0x100 * 8 < 2 ^ 32 from
      ⟨⟨_, rfl⟩, by decide⟩)
  exact ⟨_, congrArg Prod.fst (hfits hsize)⟩

end MemWatch
