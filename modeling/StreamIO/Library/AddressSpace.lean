import Mathlib.Algebra.Order.Ring.Int
import Mathlib.Data.List.GetD

/-!
# Memory behind 64-bit addresses

Addresses wrap around.  A mapping shows a piece of physical memory at a
virtual address.
-/

namespace StreamIO.Library

/-- The contents of physical memory. -/
abbrev PhysicalMemory := UInt64 → UInt8

/-- A virtual address and the physical address that it stands for. -/
structure Mapping where
  virtual : UInt64
  physical : UInt64

def Mapping.translate (mapping : Mapping) (address : UInt64) : UInt64 :=
  mapping.physical + (address - mapping.virtual)

/-- The bytes from `start` on, `length` of them. -/
def Covers (start : UInt64) (length : Nat) (address : UInt64) : Prop :=
  (address - start).toNat < length

namespace PhysicalMemory

def storeAt (memory : PhysicalMemory) (start : UInt64)
    (bytes : List UInt8) : PhysicalMemory :=
  fun address =>
    if (address - start).toNat < bytes.length then
      bytes.getD (address - start).toNat 0
    else memory address

def loadAt (memory : PhysicalMemory) (start : UInt64) (count : Nat) :
    List UInt8 :=
  (List.range count).map fun index => memory (start + UInt64.ofNat index)

theorem loadAt_storeAt (memory : PhysicalMemory) (start : UInt64)
    {bytes : List UInt8} (small : bytes.length < 2 ^ 64) :
    (memory.storeAt start bytes).loadAt start bytes.length = bytes := by
  apply List.ext_getElem
  · simp [loadAt]
  · intro index left right
    have value : (start + UInt64.ofNat index - start).toNat = index := by
      rw [UInt64.add_comm, UInt64.add_sub_cancel]
      exact UInt64.toNat_ofNat_of_lt' (Nat.lt_trans right small)
    simp only [loadAt, List.getElem_map, List.getElem_range, storeAt, value,
      if_pos right, List.getD_eq_getElem _ _ right]

end PhysicalMemory

namespace Mapping

theorem translate_virtual_add (mapping : Mapping) (offset : UInt64) :
    mapping.translate (mapping.virtual + offset) =
      mapping.physical + offset := by
  rw [translate, UInt64.add_comm mapping.virtual, UInt64.add_sub_cancel]

end Mapping

/-- The bytes behind an offset, by their distance from the base. -/
theorem covers_add_iff (base address : UInt64) {offset length : Nat}
    (fits : offset + length ≤ 2 ^ 64) :
    Covers (base + UInt64.ofNat offset) length address ↔
      offset ≤ (address - base).toNat ∧
        (address - base).toNat < offset + length := by
  have distance : address - (base + UInt64.ofNat offset) =
      address - base - UInt64.ofNat offset := by
    rw [UInt64.sub_eq_iff_eq_add, UInt64.add_comm base, ← UInt64.add_assoc,
      UInt64.sub_add_cancel, UInt64.sub_add_cancel]
  have bound : (address - base).toNat < 2 ^ 64 := (address - base).toNat_lt
  rw [Covers, distance, UInt64.toNat_sub, UInt64.toNat_ofNat']
  omega

end StreamIO.Library
