import StreamIO.Library.LittleEndian

/-!
# Socket calls

What the code sees of a connection: the results of `recv` and `send`, and the
writes a blocking sender has to get through.
-/

namespace StreamIO.Net

open StreamIO.Library

/-- What a socket call returns: `recv` the bytes it stored, none of them when
the peer has closed, and either call a failure. -/
inductive SocketResult where
  | received (bytes : List UInt8)
  | sent
  | failed
  deriving DecidableEq, Repr

namespace SocketResult

/-- The bytes a `recv` has stored. -/
def bytes : SocketResult → List UInt8
  | .received bytes => bytes
  | .sent => []
  | .failed => []

/-- The result of a `recv` in a variable of type `uint32_t`. -/
def count : SocketResult → UInt32
  | .received bytes => UInt32.ofNat bytes.length
  | .sent => 0
  | .failed => -1

/-- A failure is taken for the largest count. -/
theorem not_count_failed_le : ¬SocketResult.failed.count ≤ 0 := by decide

theorem sub_count_failed (word : UInt32) :
    word - SocketResult.failed.count = word + 1 := by
  rw [count, UInt32.sub_eq_add_neg, UInt32.neg_neg]

theorem add_count_failed (word : UInt32) :
    word + SocketResult.failed.count = word - 1 := by
  rw [count, UInt32.sub_eq_add_neg]

end SocketResult

theorem count_received_toNat {piece : List UInt8}
    (small : piece.length < 2 ^ 32) :
    (SocketResult.received piece).count.toNat = piece.length := by
  simp only [SocketResult.count, UInt32.toNat_ofNat']
  exact Nat.mod_eq_of_lt small

theorem count_received_pos {piece : List UInt8} (nonempty : piece ≠ [])
    (small : piece.length < 2 ^ 32) :
    ¬(SocketResult.received piece).count ≤ 0 := by
  rw [UInt32.le_iff_toNat_le, count_received_toNat small]
  have positive := List.length_pos_iff.mpr nonempty
  simp only [UInt32.toNat_zero]
  omega

theorem toNat_sub_received {word : UInt32} {piece : List UInt8}
    (within : piece.length ≤ word.toNat) :
    (word - (SocketResult.received piece).count).toNat =
      word.toNat - piece.length := by
  have count := count_received_toNat
    (Nat.lt_of_le_of_lt within word.toNat_lt)
  rw [UInt32.toNat_sub_of_le, count]
  rw [UInt32.le_iff_toNat_le, count]
  exact within

theorem toNat_add_received {word : UInt32} {piece : List UInt8}
    (fits : word.toNat + piece.length < 2 ^ 32) :
    (word + (SocketResult.received piece).count).toNat =
      word.toNat + piece.length := by
  rw [UInt32.toNat_add,
    count_received_toNat (Nat.lt_of_le_of_lt (Nat.le_add_left _ _) fits)]
  exact Nat.mod_eq_of_lt fits

/-- A blocking write of the client: `writev`, or else `send`. -/
structure SocketWrite where
  vectored : Bool
  bytes : List UInt8
  deriving DecidableEq, Repr

/-- A `uint32_t` variable after a `recv` into it that may have been short. -/
def receiveWord (old : UInt32) (result : SocketResult) : UInt32 :=
  ofLittleEndian32 (overwrite (littleEndian32 old) result.bytes)

theorem receiveWord_whole (old word : UInt32) :
    receiveWord old (.received (littleEndian32 word)) = word := by
  have whole : overwrite (littleEndian32 old) (littleEndian32 word) =
      littleEndian32 word := overwrite_whole rfl
  simp only [receiveWord, SocketResult.bytes, whole,
    ofLittleEndian32_littleEndian32]

end StreamIO.Net
