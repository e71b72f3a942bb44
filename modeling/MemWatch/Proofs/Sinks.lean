/-
# Writing to sinks

A sink with a limit takes the bytes that fit and no more, however the bytes come: writing them in
one go and writing them piece by piece, up to the first piece that does not fit, comes to the same.
-/
import MemWatch.Sink

namespace MemWatch.Sink

variable {out : Sink} {text : String}

/-- The sink has room for a number of bytes. -/
def hasRoom (out : Sink) (n : Nat) : Bool :=
  out.room.all (n ≤ ·)

/-- The sink after a write, whether or not all of it fits. -/
def taking (out : Sink) (bytes : Bytes) : Sink :=
  (out.put bytes).2

/-! ## Single writes -/

/-- A write succeeds if there is room for it. -/
theorem put_eq (out : Sink) (bytes : Bytes) :
    out.put bytes =
      (if out.hasRoom bytes.length then .ok () else .error full, out.taking bytes) := by
  rcases out with ⟨_ | room, flushFails, written⟩
  · rfl
  · simp only [put, taking, hasRoom, Option.all_some, decide_eq_true_eq]

@[simp] theorem flushFails_taking (out : Sink) (bytes : Bytes) :
    (out.taking bytes).flushFails = out.flushFails := by
  rcases out with ⟨_ | room, flushFails, written⟩ <;> rfl

theorem room_taking (h : out.room = none) (bytes : Bytes) : (out.taking bytes).room = none := by
  rcases out with ⟨_ | room, flushFails, written⟩
  · rfl
  · exact absurd h nofun

theorem hasRoom_of_room (h : out.room = none) (n : Nat) : out.hasRoom n = true := by
  rw [hasRoom, h]
  rfl

theorem bytes_taking {bytes : Bytes} (h : out.hasRoom bytes.length = true) :
    (out.taking bytes).bytes = out.bytes ++ bytes :=
  bytes_put out bytes h

theorem bytes_taking_of_room {room : Nat} (h : out.room = some room) (bytes : Bytes) :
    (out.taking bytes).bytes = out.bytes ++ bytes.take room := by
  rcases out with ⟨limit, flushFails, written⟩
  obtain rfl : limit = some room := h
  simp [taking, put, Sink.bytes]

@[simp] theorem taking_nil (out : Sink) : out.taking [] = out := by
  rcases out with ⟨_ | room, flushFails, written⟩ <;> simp [taking, put]

theorem taking_append (out : Sink) (a b : Bytes) :
    out.taking (a ++ b) = (out.taking a).taking b := by
  rcases out with ⟨_ | room, flushFails, written⟩
  · simp [taking, put, Array.append_assoc]
  · simp [taking, put, List.take_append, Array.append_assoc, Nat.sub_sub]

/-- There is room for two writes if there is room for the first one, and then for the other. -/
theorem hasRoom_append (out : Sink) (a b : Bytes) :
    out.hasRoom (a ++ b).length =
      (out.hasRoom a.length && (out.taking a).hasRoom b.length) := by
  rcases out with ⟨_ | room, flushFails, written⟩
  · rfl
  · simp only [hasRoom, taking, put, Option.all_some, List.length_append, ← Bool.decide_and,
      decide_eq_decide]
    omega

/-- After a write that did not fit nothing more is taken. -/
theorem taking_of_not_hasRoom {a : Bytes} (h : out.hasRoom a.length = false) (b : Bytes) :
    (out.taking a).taking b = out.taking a := by
  rcases out with ⟨_ | room, flushFails, written⟩
  · simp [hasRoom] at h
  · simp only [hasRoom, Option.all_some, decide_eq_false_iff_not, Nat.not_le] at h
    have hnone : room - a.length = 0 := by omega
    simp [taking, put, hnone]

@[simp] theorem hasRoom_zero (out : Sink) : out.hasRoom 0 = true := by
  rcases out with ⟨_ | room, flushFails, written⟩
  · rfl
  · simp [hasRoom]

/-! ## Flushing -/

/-- A text that fits is taken whole, and the flush decides. -/
theorem putFlushed_of_hasRoom (h : out.hasRoom (Bytes.ofString text).length = true) :
    out.putFlushed text =
      (if out.flushFails then .error flushFailed else .ok (), out.taking (.ofString text)) := by
  rw [putFlushed, putText, put_eq, if_pos h]
  show (flush _, _) = _
  rw [flush, flushFails_taking]

/-- A text that does not fit is not flushed. -/
theorem putFlushed_of_not_hasRoom (h : out.hasRoom (Bytes.ofString text).length = false) :
    out.putFlushed text = (.error full, out.taking (.ofString text)) := by
  rw [putFlushed, putText, put_eq, h]
  rfl

/-- A text that is written and flushed stands behind what was written before. -/
theorem bytes_of_putFlushed {after : Sink} (h : out.putFlushed text = (.ok (), after)) :
    after.bytes = out.bytes ++ .ofString text := by
  rcases hroom : out.hasRoom (Bytes.ofString text).length with _ | _
  · rw [putFlushed_of_not_hasRoom hroom] at h
    simp at h
  · rw [putFlushed_of_hasRoom hroom, Prod.mk.injEq] at h
    rw [← h.2]
    exact bytes_taking hroom

/-! ## Writing piece by piece -/

/-- Writes pieces in order, up to the first one that does not fit. -/
def putEach (out : Sink) : List Bytes → Except Error Unit × Sink
  | [] => (.ok (), out)
  | piece :: rest =>
    match out.put piece with
    | (.ok (), out) => putEach out rest
    | (.error e, out) => (.error e, out)

/-- **Pieces.**  Writing piece by piece comes to the same as writing all of it in one go, wherever
the sink gives out. -/
theorem putEach_eq_put (out : Sink) (pieces : List Bytes) :
    out.putEach pieces = out.put pieces.flatten := by
  induction pieces generalizing out with
  | nil =>
    rw [List.flatten_nil, put_eq, taking_nil, List.length_nil, hasRoom_zero]
    rfl
  | cons piece rest ih =>
    rw [putEach, put_eq out piece, List.flatten_cons, put_eq out, hasRoom_append, taking_append]
    rcases hroom : out.hasRoom piece.length with _ | _
    · -- of the pieces after this one nothing is taken in either way
      rw [taking_of_not_hasRoom hroom]
      rfl
    · show (out.taking piece).putEach rest = _
      rw [ih, put_eq, Bool.true_and]

theorem ofString_append (a b : String) :
    Bytes.ofString (a ++ b) = Bytes.ofString a ++ Bytes.ofString b := by
  simp [Bytes.ofString]

theorem ofString_join (texts : List String) :
    Bytes.ofString (String.join texts) = (texts.map Bytes.ofString).flatten := by
  induction texts with
  | nil => rfl
  | cons text rest ih =>
    rw [String.join_cons, List.map_cons, List.flatten_cons, ← ih, ofString_append]

end MemWatch.Sink
