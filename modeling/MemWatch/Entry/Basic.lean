/-
# Entries

An entry is one watched location: where it lies, what it is treated as, and what is written to it.
Entries are numbered from one in the order in which they are given, and an entry can take its value
from another one by that number.
-/
import MemWatch.Address
import MemWatch.ValueType

namespace MemWatch

/-! ## Reference ids -/

/-- The number of an entry among all entries, counted from one. -/
structure RefId where
  val : Nat
  pos : 0 < val
deriving DecidableEq, Repr

namespace RefId

/-- The id with the given number; zero is none. -/
def ofNat? (n : Nat) : Option RefId :=
  if h : 0 < n then some ⟨n, h⟩ else none

/-- The id of the entry at a position counted from zero. -/
def ofIndex (index : Nat) : RefId :=
  ⟨index + 1, Nat.succ_pos index⟩

/-- The position, counted from zero, of the entry with this id. -/
def index (id : RefId) : Nat :=
  id.val - 1

/-- The id as it is written in an address expression. -/
def text (id : RefId) : String :=
  "R" ++ Numeral.decimal id.val

@[simp] theorem index_ofIndex (i : Nat) : (ofIndex i).index = i :=
  rfl

@[simp] theorem ofIndex_index (id : RefId) : ofIndex id.index = id := by
  rcases id with ⟨n, h⟩
  simp only [ofIndex, index, mk.injEq]
  omega

theorem index_inj {i j : RefId} (h : i.index = j.index) : i = j := by
  rw [← ofIndex_index i, h, ofIndex_index]

end RefId

/-! ## Entries -/

/-- What is written to an entry. -/
inductive EntryValue where
  /-- A fixed value. -/
  | literal (value : Int64)
  /-- The value that another entry has at the time. -/
  | reference (id : RefId)
deriving DecidableEq, Repr

/-- The value as it is written in an address expression. -/
def EntryValue.text : EntryValue → String
  | literal value => Numeral.signed value.toInt
  | reference id => id.text

/-- A watched location. -/
structure Entry where
  /-- The address counts from the base of the main module. -/
  isOffset : Bool
  /-- How many pointers lead from the address to the location. -/
  pointerLevels : Nat
  /-- The type of the location. -/
  type : ValueType
  /-- The address as written. -/
  address : Address
  /-- The value to write; without one the entry is only read. -/
  value : Option EntryValue
deriving DecidableEq, Repr

namespace Entry

/-- Pointers lead to the location. -/
def isPointer (e : Entry) : Bool :=
  decide (0 < e.pointerLevels)

/-- The entry is never written to. -/
def isMonitorOnly (e : Entry) : Bool :=
  e.value.isNone

/-- The entry that this one takes its value from. -/
def reference? (e : Entry) : Option RefId :=
  match e.value with
  | some (.reference id) => some id
  | _ => none

/-- The entry references the one that its value names. -/
theorem reference?_eq_some_iff {e : Entry} {id : RefId} :
    e.reference? = some id ↔ e.value = some (.reference id) := by
  unfold reference?
  rcases e.value with _ | _ | _ <;> simp

/-- The entry takes its value from another one. -/
def isReference (e : Entry) : Bool :=
  e.reference?.isSome

/-! ## The canonical expression -/

/-- The marks in front of the address: offset, pointer levels, and the type unless it is the
default. -/
def marks (e : Entry) : List Char :=
  (if e.isOffset then ['+'] else []) ++ List.replicate e.pointerLevels '#' ++
    (if e.type = default then [] else [e.type.letter, ':'])

/-- The part behind the address: the value, if there is one. -/
def valueSuffix (e : Entry) : String :=
  match e.value with
  | some v => "=" ++ v.text
  | none => ""

/-- The canonical address expression of an entry. -/
def text (e : Entry) : String :=
  String.ofList e.marks ++ e.address.hex ++ e.valueSuffix

end Entry

end MemWatch
