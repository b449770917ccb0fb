import Mathlib.Algebra.Order.Ring.Int

/-!
# Little-endian words

Fixed-width words as byte lists, least significant byte first, and the value
a partly overwritten word takes.
-/

namespace StreamIO.Library

/-- The value of a byte list, least significant byte first. -/
def littleEndianValue : List UInt8 → Nat
  | [] => 0
  | byte :: bytes => byte.toNat + 256 * littleEndianValue bytes

/-- The four bytes of a 32-bit word. -/
def littleEndian32 (word : UInt32) : List UInt8 :=
  [UInt8.ofNat word.toNat, UInt8.ofNat (word.toNat / 256),
    UInt8.ofNat (word.toNat / 65536), UInt8.ofNat (word.toNat / 16777216)]

/-- The eight bytes of a 64-bit word. -/
def littleEndian64 (word : UInt64) : List UInt8 :=
  (List.range 8).map fun index => UInt8.ofNat (word.toNat / 256 ^ index)

/-- The 32-bit word whose bytes are the given list. -/
def ofLittleEndian32 (bytes : List UInt8) : UInt32 :=
  UInt32.ofNat (littleEndianValue bytes)

@[simp] theorem length_littleEndian32 (word : UInt32) :
    (littleEndian32 word).length = 4 := rfl

theorem littleEndian32_ne_nil (word : UInt32) : littleEndian32 word ≠ [] := by
  simp [littleEndian32]

@[simp] theorem ofLittleEndian32_littleEndian32 (word : UInt32) :
    ofLittleEndian32 (littleEndian32 word) = word := by
  apply UInt32.toNat.inj
  have bound : word.toNat < 4294967296 := word.toNat_lt
  simp only [ofLittleEndian32, littleEndian32, littleEndianValue,
    UInt32.toNat_ofNat', UInt8.toNat_ofNat']
  omega

/-- The 64-bit word whose bytes are the given list. -/
def ofLittleEndian64 (bytes : List UInt8) : UInt64 :=
  UInt64.ofNat (littleEndianValue bytes)

@[simp] theorem length_littleEndian64 (word : UInt64) :
    (littleEndian64 word).length = 8 := rfl

theorem littleEndianValue_lowest (count value : Nat) :
    littleEndianValue ((List.range count).map fun index =>
      UInt8.ofNat (value / 256 ^ index)) = value % 256 ^ count := by
  induction count generalizing value with
  | zero => simp [littleEndianValue, Nat.mod_one]
  | succ count induction =>
      have later : ∀ index,
          value / 256 ^ (index + 1) = value / 256 / 256 ^ index := by
        intro index
        rw [Nat.pow_succ', Nat.div_div_eq_div_mul]
      rw [List.range_succ_eq_map, List.map_cons, List.map_map,
        littleEndianValue, UInt8.toNat_ofNat', Nat.pow_zero, Nat.div_one]
      simp only [Function.comp_def, later, induction]
      have split : value % 256 ^ (count + 1) =
          value % 256 + 256 * (value / 256 % 256 ^ count) := by
        rw [Nat.pow_succ', Nat.mod_mul]
      exact split.symm

@[simp] theorem ofLittleEndian64_littleEndian64 (word : UInt64) :
    ofLittleEndian64 (littleEndian64 word) = word := by
  apply UInt64.toNat.inj
  rw [ofLittleEndian64, littleEndian64, littleEndianValue_lowest,
    UInt64.toNat_ofNat']
  have bound : word.toNat < 2 ^ 64 := word.toNat_lt
  omega

/-- A variable whose leading bytes are overwritten by a possibly short
receive.  Bytes beyond the variable's own size are not stored. -/
def overwrite (old received : List UInt8) : List UInt8 :=
  received.take old.length ++ old.drop received.length

theorem overwrite_whole {old received : List UInt8}
    (whole : received.length = old.length) :
    overwrite old received = received := by
  simp [overwrite, ← whole]

end StreamIO.Library
