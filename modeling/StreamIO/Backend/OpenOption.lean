import StreamIO.Library.ByteMemory
import StreamIO.Library.TerminatedArray
import StreamIO.Net.OpenDevice

/-!
# The option of an open

What `io_open_remote_device` sends and what `client_deivce_option` makes of
it.  The path goes over without the byte that ends it, into an allocation
that has room for just the bytes that go over.
-/

namespace StreamIO.Backend

open StreamIO.Library StreamIO.Net

/-- The byte order of both ends. -/
inductive ByteOrder where
  | little
  | big
  deriving DecidableEq, Repr

/-- The bytes of a word, the least significant first, as they lie in memory,
and back again. -/
def ByteOrder.arrange : ByteOrder → List UInt8 → List UInt8
  | .little, bytes => bytes
  | .big, bytes => bytes.reverse

@[simp] theorem ByteOrder.arrange_arrange (order : ByteOrder)
    (bytes : List UInt8) : order.arrange (order.arrange bytes) = bytes := by
  cases order with
  | little => rfl
  | big => exact List.reverse_reverse bytes

@[simp] theorem ByteOrder.length_arrange (order : ByteOrder)
    (bytes : List UInt8) : (order.arrange bytes).length = bytes.length := by
  cases order with
  | little => rfl
  | big => exact List.length_reverse

/-- The bytes that `io_open_remote_device` sends: those of the three calls of
`send`. -/
def ioOpenRemoteDevice (order : ByteOrder) (devPath : DevicePath)
    (size : UInt64) : List UInt8 :=
  let pathLen := UInt32.ofNat devPath.bytes.length
  order.arrange (littleEndian32 pathLen) ++
    devPath.bytes.take pathLen.toNat ++ order.arrange (littleEndian64 size)

/-- `io_open_option`, the path as what was allocated for it. -/
structure IoOpenOption where
  filePath : List UInt8
  size : UInt64
  deriving DecidableEq

/-- `client_deivce_option`, with each field received whole.  `stale` is what
the allocation holds before. -/
def clientDeviceOption (order : ByteOrder) (stale : ByteMemory)
    (inbound : List UInt8) : IoOpenOption :=
  let pathLen := ofLittleEndian32 (order.arrange (inbound.take 4))
  let inbound := inbound.drop 4
  let devPath := (stale.store 0 (inbound.take pathLen.toNat)).load 0
    pathLen.toNat
  let inbound := inbound.drop pathLen.toNat
  let mapSize := ofLittleEndian64 (order.arrange (inbound.take 8))
  { filePath := devPath, size := mapSize }

/-- The C string at the start of an allocation, if one ends inside. -/
def cString (allocation : List UInt8) : Option (List UInt8) :=
  (scanLength (fun byte => byte == 0) allocation).map fun length =>
    allocation.take length

/-- The option that is decoded has the size and the path. -/
def OptionSurvives (order : ByteOrder) (stale : ByteMemory)
    (devPath : DevicePath) (size : UInt64) : Prop :=
  let option := clientDeviceOption order stale
    (ioOpenRemoteDevice order devPath size)
  option.size = size ∧ cString option.filePath = some devPath.bytes

variable (order : ByteOrder) (stale : ByteMemory) (devPath : DevicePath)
  (size : UInt64)

theorem ioOpenRemoteDevice_sends (padding : Padding) :
    let call := OpenCall.mapped devPath size
    OpenPc.send call padding .sendPathLen =
        some (littleEndian32 call.pathLen, .sendPath) ∧
      OpenPc.send call padding .sendPath =
        some (devPath.bytes.take call.pathLen.toNat, .sendSize) ∧
      OpenPc.send call padding .sendSize =
        some (littleEndian64 size, .receiveFd) ∧
      ioOpenRemoteDevice .little devPath size =
        littleEndian32 call.pathLen ++
          devPath.bytes.take call.pathLen.toNat ++ littleEndian64 size :=
  ⟨rfl, rfl, rfl, rfl⟩

theorem length_take_pathLen :
    (devPath.bytes.take (UInt32.ofNat devPath.bytes.length).toNat).length =
      (UInt32.ofNat devPath.bytes.length).toNat := by
  rw [List.length_take, UInt32.toNat_ofNat']
  apply Nat.min_eq_left
  exact Nat.mod_le _ _

/-- The size comes over, and the allocation holds the bytes of the path that
were announced, whatever it held before. -/
theorem clientDeviceOption_sent :
    clientDeviceOption order stale (ioOpenRemoteDevice order devPath size) =
      { filePath :=
          devPath.bytes.take (UInt32.ofNat devPath.bytes.length).toNat
        size := size } := by
  have lengthField : (order.arrange (littleEndian32
      (UInt32.ofNat devPath.bytes.length))).length = 4 := by simp
  have sizeField : (order.arrange (littleEndian64 size)).length = 8 := by
    simp
  have path := length_take_pathLen devPath
  simp only [clientDeviceOption, ioOpenRemoteDevice, List.append_assoc]
  rw [List.take_left' lengthField, List.drop_left' lengthField,
    ByteOrder.arrange_arrange, ofLittleEndian32_littleEndian32,
    List.take_left' path, List.drop_left' path, List.take_of_length_le
      (Nat.le_of_eq sizeField), ByteOrder.arrange_arrange,
    ofLittleEndian64_littleEndian64]
  congr 1
  have stored := ByteMemory.load_store_self stale 0
    (devPath.bytes.take (UInt32.ofNat devPath.bytes.length).toNat)
  rw [path] at stored
  exact stored

theorem cString_unended {allocation : List UInt8}
    (unended : 0 ∉ allocation) : cString allocation = none := by
  rw [cString, Option.map_eq_none_iff]
  induction allocation with
  | nil => rfl
  | cons byte allocation induction =>
      rw [List.mem_cons, not_or] at unended
      have other : (byte == 0) = false := by
        rw [beq_eq_false_iff_ne]
        exact Ne.symm unended.1
      rw [scanLength, other, induction unended.2]
      rfl

/-- No path arrives as a string: its allocation never holds the byte that
would end it. -/
theorem option_never_survives :
    ¬OptionSurvives order stale devPath size := by
  rintro ⟨_, path⟩
  have unended : 0 ∉ devPath.bytes.take
      (UInt32.ofNat devPath.bytes.length).toNat := by
    intro member
    exact devPath.unended (List.mem_of_mem_take member)
  rw [clientDeviceOption_sent, cString_unended unended] at path
  cases path

theorem short_path_unended :
    ¬∀ (order : ByteOrder) (stale : ByteMemory) (devPath : DevicePath)
      (size : UInt64), OptionSurvives order stale devPath size := by
  intro always
  have survives := always .little (fun _ => 0) ⟨[47], by decide⟩ 4096
  exact absurd survives.2 (by decide)

end StreamIO.Backend
