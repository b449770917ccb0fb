import Mathlib.Data.List.Basic
import Mathlib.Logic.Function.Basic

/-!
# Byte-addressed memory

A memory is a total function from offsets to bytes.  Ranges are read with
`load`, overwritten with `store` and set to one value with `fill`.  The frame
lemmas say which reads an update leaves alone; the others say what a read of
an updated range returns.
-/

namespace StreamIO.Library

/-- The contents of one contiguous piece of memory, by offset. -/
abbrev ByteMemory := Nat → UInt8

namespace ByteMemory

/-- The `count` bytes starting at `offset`. -/
def load (memory : ByteMemory) (offset count : Nat) : List UInt8 :=
  (List.range count).map fun index => memory (offset + index)

/-- Overwrite the range starting at `offset` with `bytes`. -/
def store (memory : ByteMemory) (offset : Nat) (bytes : List UInt8) :
    ByteMemory :=
  fun index =>
    if offset ≤ index ∧ index < offset + bytes.length then
      bytes.getD (index - offset) 0
    else memory index

/-- Set `count` bytes from `offset` on to one value. -/
def fill (memory : ByteMemory) (offset count : Nat) (value : UInt8) :
    ByteMemory :=
  fun index =>
    if offset ≤ index ∧ index < offset + count then value else memory index

@[simp] theorem length_load (memory : ByteMemory) (offset count : Nat) :
    (memory.load offset count).length = count := by
  simp [load]

@[simp] theorem load_zero (memory : ByteMemory) (offset : Nat) :
    memory.load offset 0 = [] := rfl

theorem load_congr {left right : ByteMemory} {offset count : Nat}
    (agree : ∀ index, offset ≤ index → index < offset + count →
      left index = right index) :
    left.load offset count = right.load offset count := by
  simp only [load]
  apply List.map_congr_left
  intro index member
  have bound : index < count := List.mem_range.mp member
  exact agree _ (by omega) (by omega)

theorem load_add (memory : ByteMemory) (offset first second : Nat) :
    memory.load offset (first + second) =
      memory.load offset first ++ memory.load (offset + first) second := by
  simp [load, List.range_add, Function.comp_def, Nat.add_assoc]

theorem store_of_lt (memory : ByteMemory) {offset index : Nat}
    (bytes : List UInt8) (below : index < offset) :
    memory.store offset bytes index = memory index := by
  have outside : ¬(offset ≤ index ∧ index < offset + bytes.length) := by
    omega
  simp [store, outside]

theorem store_of_ge (memory : ByteMemory) {offset index : Nat}
    (bytes : List UInt8) (above : offset + bytes.length ≤ index) :
    memory.store offset bytes index = memory index := by
  have outside : ¬(offset ≤ index ∧ index < offset + bytes.length) := by
    omega
  simp [store, outside]

@[simp] theorem store_nil (memory : ByteMemory) (offset : Nat) :
    memory.store offset [] = memory := by
  funext index
  by_cases below : index < offset
  · exact store_of_lt memory [] below
  · exact store_of_ge memory [] (Nat.not_lt.mp below)

theorem store_add (memory : ByteMemory) (offset : Nat) {bytes : List UInt8}
    {index : Nat} (inside : index < bytes.length) :
    memory.store offset bytes (offset + index) = bytes[index] := by
  simp [store, inside]

theorem load_store_below (memory : ByteMemory) {offset start count : Nat}
    (bytes : List UInt8) (below : start + count ≤ offset) :
    (memory.store offset bytes).load start count =
      memory.load start count := by
  apply load_congr
  intro index _ bound
  exact store_of_lt memory bytes (by omega)

theorem load_store_self (memory : ByteMemory) (offset : Nat)
    (bytes : List UInt8) :
    (memory.store offset bytes).load offset bytes.length = bytes := by
  apply List.ext_getElem
  · simp
  · intro index left right
    simp only [load, List.getElem_map, List.getElem_range]
    exact store_add memory offset right

/-- A prefix read that ends with the stored range is the old prefix followed
by the stored bytes. -/
theorem load_store_append (memory : ByteMemory) (offset : Nat)
    (bytes : List UInt8) :
    (memory.store offset bytes).load 0 (offset + bytes.length) =
      memory.load 0 offset ++ bytes := by
  rw [load_add, load_store_below memory bytes (by omega), Nat.zero_add,
    load_store_self]

/-- Storing two pieces one after the other is storing their concatenation. -/
theorem store_append (memory : ByteMemory) (offset : Nat)
    (first second : List UInt8) :
    (memory.store offset first).store (offset + first.length) second =
      memory.store offset (first ++ second) := by
  funext index
  simp only [store, List.length_append, List.getD_eq_getElem?_getD]
  by_cases below : index < offset + first.length
  · have early : ¬(offset + first.length ≤ index ∧
        index < offset + first.length + second.length) := by omega
    have whole : (offset ≤ index ∧
        index < offset + (first.length + second.length)) ↔
          (offset ≤ index ∧ index < offset + first.length) := by omega
    simp only [if_neg early, whole]
    split
    · rw [List.getElem?_append_left (by omega)]
    · rfl
  · have late : ¬(offset ≤ index ∧ index < offset + first.length) := by omega
    have whole : (offset ≤ index ∧
        index < offset + (first.length + second.length)) ↔
          (offset + first.length ≤ index ∧
            index < offset + first.length + second.length) := by omega
    simp only [if_neg late, whole]
    split
    · rw [List.getElem?_append_right (by omega), Nat.sub_sub]
    · rfl

theorem fill_of_lt (memory : ByteMemory) {offset count index : Nat}
    (value : UInt8) (above : offset ≤ index)
    (below : index < offset + count) :
    memory.fill offset count value index = value := by
  simp [fill, above, below]

end ByteMemory

end StreamIO.Library
