import StreamIO.Library.AddressSpace
import StreamIO.Library.StructLayout
import StreamIO.Driver.Confinement
import StreamIO.Local.StreamDevice

/-!
# The buffers as library and driver see them

`struct channel_buffer` of the library, with and without
`BUFFER_WITH_CONFIG`, and that of the driver, laid out as a compiler does, and
the addresses that `io_write_stream_local`, `create_channel` and
`start_transfer` compute with them.
-/

namespace StreamIO.Local

open StreamIO.Library StreamIO.Driver

/-- The members of `struct buffer_header`. -/
inductive HeaderMember where
  | decodeTimeStamp
  | txTimeStamp
  | packetLength
  deriving DecidableEq, Repr

/-- The members of the two structures `channel_buffer`. -/
inductive BufferMember where
  | header
  | buffer
  | status
  | length
  deriving DecidableEq, Repr

def bufferHeader : List (Member HeaderMember) :=
  [{ name := .decodeTimeStamp, size := 4, alignment := 4 },
    { name := .txTimeStamp, size := 4, alignment := 4 },
    { name := .packetLength, size := 4, alignment := 4 }]

/-- `sizeof(buffer_word_t)`, which is also that of `unsigned int`. -/
def wordSize : Nat := 4

/-- `_MAX_SAMPLES(buffer_word_t)`. -/
def maxSamples : Nat := bufferSize / wordSize

/-- `struct channel_buffer` of the library. -/
def libraryBuffer (withConfig : Bool) : List (Member BufferMember) :=
  let headerSize := structSize 1 bufferHeader
  let words :=
    if withConfig then maxSamples - headerSize / wordSize else maxSamples
  (if withConfig then
    [{ name := .header, size := headerSize,
       alignment := structAlignment 1 bufferHeader }]
  else []) ++
    [{ name := .buffer, size := wordSize * words, alignment := wordSize },
      { name := .status, size := 4, alignment := 4 },
      { name := .length, size := 4, alignment := 4 }]

/-- `struct channel_buffer` of the driver. -/
def driverBuffer : List (Member BufferMember) :=
  [{ name := .buffer, size := wordSize * (bufferSize / wordSize),
     alignment := wordSize },
    { name := .status, size := 4, alignment := 4 },
    { name := .length, size := 4, alignment := 4 }]

/-- `sizeof(struct channel_buffer)` on either side, with its attribute
`aligned(1024)`. -/
def sizeofBuffer (members : List (Member BufferMember)) : Nat :=
  structSize 1024 members

/-- The addresses of the channel buffers: where the library and the driver
have them mapped, and where they are. -/
structure BufferBases where
  channelBuffer : UInt64
  bufferTableP : UInt64
  bufferPhysAddr : UInt64

namespace BufferBases

def userMapping (bases : BufferBases) : Mapping :=
  { virtual := bases.channelBuffer, physical := bases.bufferPhysAddr }

def kernelMapping (bases : BufferBases) : Mapping :=
  { virtual := bases.bufferTableP, physical := bases.bufferPhysAddr }

/-- A member of an entry of an array of channel buffers. -/
def memberAddress (members : List (Member BufferMember)) (base : UInt64)
    (index : Nat) (member : BufferMember) : UInt64 :=
  base + UInt64.ofNat (index * sizeofBuffer members + offsetOf members member)

/-- The address of `channel_buffer[index]`. -/
def entry (bases : BufferBases) (withConfig : Bool) (index : Nat) : UInt64 :=
  bases.channelBuffer +
    UInt64.ofNat (index * sizeofBuffer (libraryBuffer withConfig))

/-- `buffer_id` in `io_write_stream_local`: the distance is converted to the
type of `sizeof`, the quotient to `int`. -/
def bufferId (bases : BufferBases) (withConfig : Bool) (data : UInt64) :
    Int32 :=
  ((data - bases.channelBuffer) /
    UInt64.ofNat (sizeofBuffer (libraryBuffer withConfig))).toUInt32.toInt32

/-- `current_buffer->length = size` in `io_write_stream_local`. -/
def storeLength (bases : BufferBases) (withConfig : Bool)
    (memory : PhysicalMemory) (data : UInt64) (size : UInt32) :
    PhysicalMemory :=
  memory.storeAt
    (bases.userMapping.translate
      (data + UInt64.ofNat (offsetOf (libraryBuffer withConfig) .length)))
    (littleEndian32 size)

/-- `dma_handle` as `create_channel` sets it. -/
def dmaHandle (bases : BufferBases) (bd : Nat) : UInt64 :=
  bases.bufferPhysAddr + UInt64.ofNat (sizeofBuffer driverBuffer * bd) +
    UInt64.ofNat (offsetOf driverBuffer .buffer)

/-- `buffer_table_p[bdindex].length` in `start_transfer`. -/
def tableLength (bases : BufferBases) (memory : PhysicalMemory)
    (bdindex : Nat) : UInt32 :=
  ofLittleEndian32 (memory.loadAt
    (bases.kernelMapping.translate
      (memberAddress driverBuffer bases.bufferTableP bdindex .length)) 4)

end BufferBases

/-- The scatter list entry of a descriptor. -/
structure ScatterEntry where
  address : UInt64
  length : UInt32
  deriving DecidableEq

/-- The bytes that the descriptor covers. -/
def ScatterEntry.Contains (entry : ScatterEntry) (address : UInt64) : Prop :=
  Covers entry.address entry.length.toNat address

namespace BufferBases

/-- The scatter list entry of `start_transfer`. -/
def scatterEntry (bases : BufferBases) (memory : PhysicalMemory)
    (bdindex : Nat) : ScatterEntry :=
  { address := bases.dmaHandle bdindex
    length := bases.tableLength memory bdindex }

/-- The physical address of the first byte of a buffer of the library: of its
header, when there is one. -/
def firstByte (bases : BufferBases) (withConfig : Bool) (index : Nat) :
    UInt64 :=
  bases.userMapping.translate
    (memberAddress (libraryBuffer withConfig) bases.channelBuffer index
      (if withConfig then .header else .buffer))

/-- An address is a byte of the status or the length of an entry. -/
def ControlByte (bases : BufferBases) (index : Nat) (address : UInt64) :
    Prop :=
  ∃ field, (field = .status ∨ field = .length) ∧
    Covers (bases.kernelMapping.translate
      (memberAddress driverBuffer bases.bufferTableP index field)) 4 address

end BufferBases

/-- What `io_write_stream_local` names by the address of a buffer is what the
driver takes for the transfer. -/
structure NamesSameMemory (withConfig : Bool) (bases : BufferBases)
    (memory : PhysicalMemory) (index : Nat) (size : UInt32) : Prop where
  bufferId : (bases.bufferId withConfig
    (bases.entry withConfig index)).toInt = index
  descriptor : bases.scatterEntry
      (bases.storeLength withConfig memory (bases.entry withConfig index)
        size) index =
    { address := bases.firstByte withConfig index, length := size }
  apart : ∀ other, other < bufferCount → other ≠ index →
    ∀ otherMemory,
      (bases.tableLength otherMemory other).toNat ≤ bufferSize →
    ∀ address,
      (bases.scatterEntry (bases.storeLength withConfig memory
        (bases.entry withConfig index) size) index).Contains address →
      ¬(bases.scatterEntry otherMemory other).Contains address
  control : ∀ other, other < bufferCount → ∀ address,
    (bases.scatterEntry (bases.storeLength withConfig memory
      (bases.entry withConfig index) size) index).Contains address →
    ¬bases.ControlByte other address

theorem sizeofBuffer_library (withConfig : Bool) :
    sizeofBuffer (libraryBuffer withConfig) = sizeofChannelBuffer := by
  cases withConfig with
  | false => rfl
  | true => rfl

theorem sizeofBuffer_driver :
    sizeofBuffer driverBuffer = sizeofChannelBuffer := rfl

theorem offsetOf_first (withConfig : Bool) :
    offsetOf (libraryBuffer withConfig)
      (if withConfig then .header else .buffer) = 0 := by
  cases withConfig with
  | false => rfl
  | true => rfl

theorem offsetOf_library (withConfig : Bool) {field : BufferMember}
    (control : field = .status ∨ field = .length) :
    offsetOf (libraryBuffer withConfig) field =
      offsetOf driverBuffer field := by
  rcases control with rfl | rfl
  · cases withConfig with
    | false => rfl
    | true => rfl
  · cases withConfig with
    | false => rfl
    | true => rfl

theorem offsetOf_buffer : offsetOf driverBuffer .buffer = 0 := rfl

theorem offsetOf_control {field : BufferMember}
    (control : field = .status ∨ field = .length) :
    bufferSize ≤ offsetOf driverBuffer field ∧
      offsetOf driverBuffer field + 4 ≤ sizeofChannelBuffer := by
  rcases control with rfl | rfl
  · exact ⟨by decide, by decide⟩
  · exact ⟨by decide, by decide⟩

/-- The offsets are those of the model by distances. -/
theorem entryAddress_eq (index : Nat) :
    entryAddress index = (index * sizeofBuffer driverBuffer : Nat) ∧
      statusAddress index = (index * sizeofBuffer driverBuffer +
        offsetOf driverBuffer .status : Nat) ∧
      lengthAddress index = (index * sizeofBuffer driverBuffer +
        offsetOf driverBuffer .length : Nat) ∧
      bufferAddress index = index * sizeofBuffer driverBuffer := by
  refine ⟨?_, ?_, ?_, rfl⟩
  · rw [sizeofBuffer_driver, entryAddress, Nat.cast_mul]
  · rw [sizeofBuffer_driver, statusAddress, entryAddress, Nat.cast_add,
      Nat.cast_mul]
    rfl
  · rw [sizeofBuffer_driver, lengthAddress, entryAddress, Nat.cast_add,
      Nat.cast_mul, Int.add_assoc]
    rfl

namespace BufferBases

variable (bases : BufferBases) (withConfig : Bool)

theorem translate_kernel (index : Nat) (member : BufferMember) :
    bases.kernelMapping.translate
        (memberAddress driverBuffer bases.bufferTableP index member) =
      bases.bufferPhysAddr + UInt64.ofNat (index * sizeofChannelBuffer +
        offsetOf driverBuffer member) := by
  rw [memberAddress, sizeofBuffer_driver]
  exact bases.kernelMapping.translate_virtual_add _

theorem translate_user (index : Nat) {field : BufferMember}
    (control : field = .status ∨ field = .length) :
    bases.userMapping.translate
        (bases.entry withConfig index +
          UInt64.ofNat (offsetOf (libraryBuffer withConfig) field)) =
      bases.kernelMapping.translate
        (memberAddress driverBuffer bases.bufferTableP index field) := by
  rw [translate_kernel, entry, sizeofBuffer_library,
    offsetOf_library withConfig control, UInt64.add_assoc, UInt64.ofNat_add]
  exact bases.userMapping.translate_virtual_add _

theorem dmaHandle_eq (index : Nat) :
    bases.dmaHandle index =
      bases.bufferPhysAddr + UInt64.ofNat (index * sizeofChannelBuffer) := by
  rw [dmaHandle, sizeofBuffer_driver, offsetOf_buffer, Nat.mul_comm]
  exact UInt64.add_zero _

theorem firstByte_eq (index : Nat) :
    bases.firstByte withConfig index = bases.dmaHandle index := by
  rw [dmaHandle_eq, firstByte, memberAddress, sizeofBuffer_library,
    offsetOf_first, Nat.add_zero]
  exact bases.userMapping.translate_virtual_add _

theorem bufferId_entry {index : Nat} (inTable : index < bufferCount) :
    (bases.bufferId withConfig (bases.entry withConfig index)).toInt =
      index := by
  have bounded : index < 32 := inTable
  have small : index * sizeofChannelBuffer < 2 ^ 64 := by
    simp only [sizeofChannelBuffer]
    omega
  have quotient : UInt64.ofNat (index * sizeofChannelBuffer) /
      UInt64.ofNat sizeofChannelBuffer = UInt64.ofNat index := by
    apply UInt64.toNat.inj
    rw [UInt64.toNat_div, UInt64.toNat_ofNat_of_lt' small,
      UInt64.toNat_ofNat_of_lt' (by decide),
      UInt64.toNat_ofNat_of_lt' (Nat.lt_trans bounded (by decide))]
    exact Nat.mul_div_cancel index (by decide)
  have narrowed : ∀ id : Fin 32,
      (UInt64.ofNat id).toUInt32.toInt32.toInt = id := by
    decide
  rw [bufferId, entry, sizeofBuffer_library, UInt64.add_comm,
    UInt64.add_sub_cancel, quotient]
  exact narrowed ⟨index, bounded⟩

theorem tableLength_storeLength (memory : PhysicalMemory) (index : Nat)
    (size : UInt32) :
    bases.tableLength (bases.storeLength withConfig memory
      (bases.entry withConfig index) size) index = size := by
  have same := bases.translate_user withConfig index
    (Or.inr rfl : BufferMember.length = .status ∨ _)
  have small : (littleEndian32 size).length < 2 ^ 64 := by
    rw [length_littleEndian32]
    decide
  have read := memory.loadAt_storeAt
    (bases.kernelMapping.translate
      (memberAddress driverBuffer bases.bufferTableP index .length)) small
  rw [length_littleEndian32] at read
  rw [tableLength, storeLength, same, read, ofLittleEndian32_littleEndian32]

theorem covers_dmaHandle {index length : Nat} (inTable : index < bufferCount)
    (short : length ≤ bufferSize) {address : UInt64}
    (covered : Covers (bases.dmaHandle index) length address) :
    ∃ byte, byte < bufferSize ∧
      (address - bases.bufferPhysAddr).toNat =
        index * sizeofChannelBuffer + byte := by
  have fits : index * sizeofChannelBuffer + length ≤ 2 ^ 64 := by
    simp only [bufferCount, sizeofChannelBuffer, bufferSize] at *
    omega
  rw [dmaHandle_eq, covers_add_iff _ _ fits] at covered
  exact ⟨(address - bases.bufferPhysAddr).toNat -
    index * sizeofChannelBuffer, by omega, by omega⟩

theorem controlByte_offset {index : Nat} (inTable : index < bufferCount)
    {address : UInt64} (control : bases.ControlByte index address) :
    ∃ byte, bufferSize ≤ byte ∧ byte < sizeofChannelBuffer ∧
      (address - bases.bufferPhysAddr).toNat =
        index * sizeofChannelBuffer + byte := by
  obtain ⟨field, isControl, covered⟩ := control
  obtain ⟨behind, inside⟩ := offsetOf_control isControl
  have fits : index * sizeofChannelBuffer + offsetOf driverBuffer field + 4 ≤
      2 ^ 64 := by
    simp only [bufferCount, sizeofChannelBuffer] at *
    omega
  rw [translate_kernel, covers_add_iff _ _ fits] at covered
  exact ⟨(address - bases.bufferPhysAddr).toNat -
    index * sizeofChannelBuffer, by omega, by omega, by omega⟩

end BufferBases

/-- For every buffer and every length of a transfer library and driver mean
the same bytes, and those of no other buffer and of no status or length. -/
theorem names_same_memory (withConfig : Bool) (bases : BufferBases)
    (memory : PhysicalMemory) (index : Nat) (inTable : index < bufferCount)
    (size : UInt32) (short : size.toNat ≤ bufferSize) :
    NamesSameMemory withConfig bases memory index size := by
  have payload : bufferSize ≤ sizeofChannelBuffer := by decide
  have descriptor : bases.scatterEntry
      (bases.storeLength withConfig memory (bases.entry withConfig index)
        size) index =
      { address := bases.dmaHandle index, length := size } := by
    rw [BufferBases.scatterEntry, bases.tableLength_storeLength]
  constructor
  · exact bases.bufferId_entry withConfig inTable
  · rw [descriptor, bases.firstByte_eq]
  · intro other otherInTable different otherMemory otherShort address here
      there
    rw [descriptor] at here
    obtain ⟨byte, inside, distance⟩ :=
      bases.covers_dmaHandle inTable short here
    obtain ⟨otherByte, otherInside, otherDistance⟩ :=
      bases.covers_dmaHandle otherInTable otherShort there
    rw [distance] at otherDistance
    have same := element_unique (Nat.lt_of_lt_of_le inside payload)
      (Nat.lt_of_lt_of_le otherInside payload) otherDistance
    exact different same.1.symm
  · intro other otherInTable address here control
    rw [descriptor] at here
    obtain ⟨byte, inside, distance⟩ :=
      bases.covers_dmaHandle inTable short here
    obtain ⟨otherByte, behind, otherInside, otherDistance⟩ :=
      bases.controlByte_offset otherInTable control
    rw [distance] at otherDistance
    have same := element_unique (Nat.lt_of_lt_of_le inside payload)
      otherInside otherDistance
    omega

theorem names_same_memory_last :
    NamesSameMemory true
      { channelBuffer := 0x7f0000000000, bufferTableP := 0xffff800000000000
        bufferPhysAddr := 0xffffffffffff0000 } (fun _ => 0) 31 131072 :=
  names_same_memory true
    { channelBuffer := 0x7f0000000000, bufferTableP := 0xffff800000000000
      bufferPhysAddr := 0xffffffffffff0000 } (fun _ => 0) 31 (by decide)
    131072 (by decide)

end StreamIO.Local
