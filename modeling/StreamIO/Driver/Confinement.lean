import StreamIO.Library.LittleEndian
import StreamIO.Library.ScriptedRun
import StreamIO.Driver.Transfer

/-!
# What the file operations touch

The channel as the kernel addresses it: one allocation of `BUFFER_COUNT`
channel buffers, the driver's index into it as the signed `int` it is, and
the descriptors given to the engine.  Neither `ioctl` nor `buffer_write`
checks the index or a length, so their accesses may leave the buffer, the
table and the allocation.
-/

namespace StreamIO.Driver

open StreamIO.Library

/-- Address of `buffer_table_p[index]`, which is also that of its payload. -/
def entryAddress (index : Int) : Int := index * sizeofChannelBuffer

def statusAddress (index : Int) : Int := entryAddress index + bufferSize

def lengthAddress (index : Int) : Int := entryAddress index + bufferSize + 4

/-- An index of `bdtable` and of `buffer_table_p`. -/
def InTable (index : Int) : Prop := 0 ≤ index ∧ index < bufferCount

/-- The address belongs to the payload of the buffer. -/
def InPayload (index address : Int) : Prop :=
  entryAddress index ≤ address ∧ address < entryAddress index + bufferSize

/-- `enum proxy_status` as it is stored. -/
def ProxyStatus.code : ProxyStatus → UInt32
  | .noError => 0
  | .busy => 1
  | .timeout => 2
  | .error => 3
  | .queued => 4

/-- The bytes from `start` on are replaced. -/
def writeBytes (memory : Int → UInt8) (start : Int) (bytes : List UInt8) :
    Int → UInt8 :=
  fun address =>
    if start ≤ address ∧ address < start + bytes.length then
      bytes.getD (address - start).toNat 0
    else memory address

def readWord (memory : Int → UInt8) (start : Int) : UInt32 :=
  ofLittleEndian32 [memory start, memory (start + 1), memory (start + 2),
    memory (start + 3)]

/-- A descriptor in the engine: the entry it was made for, the bytes it
covers, and how many of them have been transferred. -/
structure KernelDescriptor where
  index : Int
  start : Int
  length : Nat
  moved : Nat
  deriving DecidableEq, Repr

/-- `memory` holds the bytes around `buffer_table_p` by their distance from
it, `dmaHandle` the bus addresses in `bdtable` by their distance from
`buffer_phys_addr`, inside the table and beyond it. -/
structure KernelChannel where
  memory : Int → UInt8
  dmaHandle : Int → Int
  bdindex : Int
  direction : Direction
  descriptors : List KernelDescriptor

/-- The file operations, the stores of the application into the mapping, and
the engine.  A wait ends with the status `outcome`. -/
inductive KernelEvent where
  | ioctl (cmd : IoctlCommand) (arg : Nat) (response : SubmitResponse)
      (outcome : ProxyStatus)
  | write (bytes : List UInt8)
  | store (address : Int) (bytes : List UInt8)
  | deliver (bytes : List UInt8)
  | finish

/-- What an operation of the driver or the engine does to memory it has to be
entitled to. -/
inductive Access where
  | bdtable (index : Int)
  | bufferTable (index : Int)
  | copy (index start : Int) (size : Nat)
  | descriptor (index start : Int) (length : Nat)
  deriving DecidableEq, Repr

/-- The entry is one of the table; copies and descriptors lie in the payload
of their buffer. -/
def Access.Confined : Access → Prop
  | .bdtable index => InTable index
  | .bufferTable index => InTable index
  | .copy index start size =>
      InTable index ∧ entryAddress index ≤ start ∧
        start + size ≤ entryAddress index + bufferSize
  | .descriptor index start length =>
      InTable index ∧ entryAddress index ≤ start ∧
        start + length ≤ entryAddress index + bufferSize

namespace KernelChannel

/-- The descriptor `start_transfer` makes for an entry. -/
def descriptor (channel : KernelChannel) (index : Int) : KernelDescriptor :=
  { index := index
    start := channel.dmaHandle index
    length := (readWord channel.memory (lengthAddress index)).toNat
    moved := 0 }

def setStatus (channel : KernelChannel) (index : Int)
    (status : ProxyStatus) : KernelChannel :=
  { channel with
    memory := writeBytes channel.memory (statusAddress index)
      (littleEndian32 status.code) }

/-- `start_transfer`. -/
def startTransfer (channel : KernelChannel) (response : SubmitResponse) :
    KernelChannel :=
  match response with
  | .accepted =>
      { channel.setStatus channel.bdindex .queued with
        descriptors := channel.descriptors ++
          [channel.descriptor channel.bdindex] }
  | .prepError => channel
  | .submitError _ => channel

/-- `wait_for_transfer`, as far as it stores into the allocation. -/
def waitForTransfer (channel : KernelChannel) (outcome : ProxyStatus) :
    KernelChannel :=
  (channel.setStatus channel.bdindex .busy).setStatus channel.bdindex outcome

/-- `ioctl`: the argument is converted to the `int` `bdindex`. -/
def ioctl (channel : KernelChannel) (cmd : IoctlCommand) (arg : Nat)
    (response : SubmitResponse) (outcome : ProxyStatus) : KernelChannel :=
  let channel := { channel with bdindex := wrapInt arg }
  match cmd with
  | .startXfer => channel.startTransfer response
  | .finishXfer => channel.waitForTransfer outcome
  | .xfer => (channel.startTransfer response).waitForTransfer outcome
  | .other => channel

/-- `buffer_write`: the copy goes to the entry of the last `ioctl`. -/
def bufferWrite (channel : KernelChannel) (bytes : List UInt8) :
    KernelChannel :=
  { channel with
    memory := writeBytes channel.memory (entryAddress channel.bdindex)
      bytes }

/-- The bytes a device-to-memory descriptor still has room for. -/
def accepted (descriptor : KernelDescriptor) (bytes : List UInt8) :
    List UInt8 :=
  bytes.take (descriptor.length - descriptor.moved)

/-- The engine stores received bytes through its first descriptor. -/
def deliver (channel : KernelChannel) (bytes : List UInt8) :
    KernelChannel :=
  match channel.direction, channel.descriptors with
  | .devToMem, descriptor :: rest =>
      { channel with
        memory := writeBytes channel.memory
          (descriptor.start + descriptor.moved) (accepted descriptor bytes)
        descriptors := { descriptor with
          moved := descriptor.moved +
            (accepted descriptor bytes).length } :: rest }
  | _, _ => channel

def step (channel : KernelChannel) : KernelEvent → KernelChannel
  | .ioctl cmd arg response outcome =>
      channel.ioctl cmd arg response outcome
  | .write bytes => channel.bufferWrite bytes
  | .store address bytes =>
      { channel with memory := writeBytes channel.memory address bytes }
  | .deliver bytes => channel.deliver bytes
  | .finish => { channel with descriptors := channel.descriptors.tail }

/-- The accesses of `start_transfer`: both tables, and the descriptor if the
engine takes it. -/
def startAccesses (channel : KernelChannel) (index : Int)
    (response : SubmitResponse) : List Access :=
  [.bdtable index, .bufferTable index] ++
    if response = .accepted then
      [.descriptor index (channel.descriptor index).start
        (channel.descriptor index).length]
    else []

def accesses (channel : KernelChannel) : KernelEvent → List Access
  | .ioctl .startXfer arg response _ =>
      channel.startAccesses (wrapInt arg) response
  | .ioctl .finishXfer arg _ _ =>
      [.bdtable (wrapInt arg), .bufferTable (wrapInt arg)]
  | .ioctl .xfer arg response _ =>
      channel.startAccesses (wrapInt arg) response
  | .ioctl .other _ _ _ => []
  | .write bytes =>
      if bytes = [] then []
      else
        [.bufferTable channel.bdindex,
          .copy channel.bdindex (entryAddress channel.bdindex) bytes.length]
  | .store _ _ => []
  | .deliver _ => []
  | .finish => []

/-- A copy or a transfer alters nothing but the payload of its buffer. -/
def AltersOwnPayload (channel : KernelChannel) (event : KernelEvent) : Prop :=
  match event with
  | .write _ => ∀ address, ¬InPayload channel.bdindex address →
      (channel.step event).memory address = channel.memory address
  | .deliver _ => ∀ descriptor ∈ channel.descriptors.head?, ∀ address,
      ¬InPayload descriptor.index address →
      (channel.step event).memory address = channel.memory address
  | .ioctl _ _ _ _ => True
  | .store _ _ => True
  | .finish => True

/-- The operation stays inside the buffers of the channel. -/
def Confined (channel : KernelChannel) (event : KernelEvent) : Prop :=
  (∀ access ∈ channel.accesses event, access.Confined) ∧
    channel.AltersOwnPayload event

/-- The arguments of the operation are in range: the index, and for a
transfer the shared length word, for a copy its size. -/
def InRange (channel : KernelChannel) : KernelEvent → Prop
  | .ioctl .startXfer arg response _ =>
      InTable (wrapInt arg) ∧ (response = .accepted →
        (readWord channel.memory (lengthAddress (wrapInt arg))).toNat ≤
          bufferSize)
  | .ioctl .finishXfer arg _ _ => InTable (wrapInt arg)
  | .ioctl .xfer arg response _ =>
      InTable (wrapInt arg) ∧ (response = .accepted →
        (readWord channel.memory (lengthAddress (wrapInt arg))).toNat ≤
          bufferSize)
  | .ioctl .other _ _ _ => True
  | .write bytes =>
      bytes = [] ∨ InTable channel.bdindex ∧ bytes.length ≤ bufferSize
  | .store _ _ => True
  | .deliver _ => True
  | .finish => True

/-- A channel as `create_channel` leaves it.  Memory and what lies beyond
`bdtable` are arbitrary. -/
def created (memory : Int → UInt8) (beyond : Int → Int)
    (direction : Direction) : KernelChannel :=
  { memory := memory
    dmaHandle := fun index =>
      if 0 ≤ index ∧ index < bufferCount then entryAddress index
      else beyond index
    bdindex := 0
    direction := direction
    descriptors := [] }

/-- The bus addresses are those of the payloads, and every descriptor in the
engine covers part of the payload of its buffer. -/
structure Prepared (channel : KernelChannel) : Prop where
  handles : ∀ index, InTable index →
    channel.dmaHandle index = entryAddress index
  covers : ∀ descriptor ∈ channel.descriptors,
    (Access.descriptor descriptor.index descriptor.start
      descriptor.length).Confined ∧ descriptor.moved ≤ descriptor.length

end KernelChannel

theorem writeBytes_outside (memory : Int → UInt8) {start address : Int}
    {bytes : List UInt8}
    (outside : address < start ∨ start + bytes.length ≤ address) :
    writeBytes memory start bytes address = memory address := by
  have elsewhere :
      ¬(start ≤ address ∧ address < start + bytes.length) := by
    omega
  simp only [writeBytes, if_neg elsewhere]

theorem writeBytes_inPayload (memory : Int → UInt8) {index start : Int}
    {bytes : List UInt8} (above : entryAddress index ≤ start)
    (below : start + bytes.length ≤ entryAddress index + bufferSize)
    {address : Int} (outside : ¬InPayload index address) :
    writeBytes memory start bytes address = memory address := by
  apply writeBytes_outside
  simp only [InPayload] at outside
  omega

namespace KernelChannel

variable {channel : KernelChannel}

theorem startAccesses_confined_iff (prepared : Prepared channel)
    (index : Int) (response : SubmitResponse) :
    (∀ access ∈ channel.startAccesses index response, access.Confined) ↔
      InTable index ∧ (response = .accepted →
        (readWord channel.memory (lengthAddress index)).toNat ≤
          bufferSize) := by
  constructor
  · intro confined
    have inTable : InTable index :=
      confined (.bdtable index) (by simp [startAccesses])
    refine ⟨inTable, ?_⟩
    intro accepted
    obtain ⟨_, _, below⟩ := confined (.descriptor index
      (channel.descriptor index).start (channel.descriptor index).length)
      (by simp [startAccesses, accepted])
    simp only [descriptor, prepared.handles index inTable] at below
    omega
  · rintro ⟨inTable, fits⟩ access member
    simp only [startAccesses, List.mem_append, List.mem_cons,
      List.not_mem_nil, or_false] at member
    rcases member with (rfl | rfl) | submitted
    · exact inTable
    · exact inTable
    · by_cases accepted : response = .accepted
      · rw [if_pos accepted, List.mem_singleton] at submitted
        subst access
        have length := fits accepted
        simp only [Access.Confined, descriptor,
          prepared.handles index inTable]
        exact ⟨inTable, Int.le_refl _, by omega⟩
      · rw [if_neg accepted] at submitted
        cases submitted

theorem write_confined_iff (bytes : List UInt8) :
    channel.Confined (.write bytes) ↔ channel.InRange (.write bytes) := by
  by_cases nothing : bytes = []
  · subst bytes
    simp only [Confined, accesses, InRange, AltersOwnPayload, step,
      bufferWrite, if_true, true_or, iff_true]
    constructor
    · intro access member
      cases member
    · intro address outside
      apply writeBytes_outside
      simp only [List.length_nil]
      omega
  · simp only [Confined, accesses, InRange, AltersOwnPayload, step,
      bufferWrite, nothing, if_false, false_or]
    constructor
    · rintro ⟨confined, _⟩
      obtain ⟨inTable, _, below⟩ := confined (.copy channel.bdindex
        (entryAddress channel.bdindex) bytes.length) (by simp)
      exact ⟨inTable, by omega⟩
    · rintro ⟨inTable, fits⟩
      have below : entryAddress channel.bdindex + bytes.length ≤
          entryAddress channel.bdindex + bufferSize := by
        omega
      constructor
      · intro access member
        simp only [List.mem_cons, List.not_mem_nil, or_false] at member
        rcases member with rfl | rfl
        · exact inTable
        · exact ⟨inTable, Int.le_refl _, below⟩
      · intro address outside
        exact writeBytes_inPayload _ (Int.le_refl _) below outside

/-- The engine keeps to the payloads that its descriptors cover. -/
theorem deliver_altersOwnPayload (prepared : Prepared channel)
    (bytes : List UInt8) :
    channel.AltersOwnPayload (.deliver bytes) := by
  intro descriptor first address outside
  simp only [step, deliver]
  split
  · rename_i head rest _ queue
    have same : head = descriptor := by simpa [queue] using first
    subst head
    obtain ⟨⟨_, above, below⟩, moved⟩ := prepared.covers descriptor
      (by simp [queue])
    have accepted : (accepted descriptor bytes).length ≤
        descriptor.length - descriptor.moved := by
      simp only [KernelChannel.accepted, List.length_take]
      omega
    apply writeBytes_inPayload _ _ _ outside
    · omega
    · omega
  · rfl

/-- An operation is confined exactly when its arguments are in range. -/
theorem confined_iff_inRange (prepared : Prepared channel)
    (event : KernelEvent) :
    channel.Confined event ↔ channel.InRange event := by
  cases event with
  | ioctl cmd arg response outcome =>
      cases cmd with
      | startXfer =>
          simp only [Confined, accesses, AltersOwnPayload, and_true, InRange]
          exact startAccesses_confined_iff prepared _ _
      | finishXfer =>
          simp [Confined, accesses, AltersOwnPayload, InRange,
            Access.Confined]
      | xfer =>
          simp only [Confined, accesses, AltersOwnPayload, and_true, InRange]
          exact startAccesses_confined_iff prepared _ _
      | other => simp [Confined, accesses, AltersOwnPayload, InRange]
  | write bytes => exact write_confined_iff bytes
  | store address bytes =>
      simp [Confined, accesses, AltersOwnPayload, InRange]
  | deliver bytes =>
      have alters := deliver_altersOwnPayload prepared bytes
      simp [Confined, accesses, alters, InRange]
  | finish => simp [Confined, accesses, AltersOwnPayload, InRange]

namespace Prepared

theorem created (memory : Int → UInt8) (beyond : Int → Int)
    (direction : Direction) :
    Prepared (KernelChannel.created memory beyond direction) := by
  constructor
  · intro index inTable
    exact if_pos inTable
  · intro descriptor member
    cases member

theorem setStatus (prepared : Prepared channel) (index : Int)
    (status : ProxyStatus) : Prepared (channel.setStatus index status) :=
  ⟨prepared.handles, prepared.covers⟩

theorem startTransfer (prepared : Prepared channel)
    {response : SubmitResponse} (inTable : InTable channel.bdindex)
    (fits : response = .accepted →
      (readWord channel.memory (lengthAddress channel.bdindex)).toNat ≤
        bufferSize) :
    Prepared (channel.startTransfer response) := by
  cases response with
  | prepError => exact prepared
  | submitError errno => exact prepared
  | accepted =>
      refine ⟨prepared.handles, ?_⟩
      intro item member
      rcases List.mem_append.mp member with old | new
      · exact prepared.covers item old
      · rw [List.mem_singleton.mp new]
        have length := fits rfl
        simp only [Access.Confined, descriptor,
          prepared.handles _ inTable]
        exact ⟨⟨inTable, Int.le_refl _, by omega⟩, Nat.zero_le _⟩

theorem deliver (prepared : Prepared channel) (bytes : List UInt8) :
    Prepared (channel.deliver bytes) := by
  unfold KernelChannel.deliver
  split
  · rename_i head rest _ queue
    refine ⟨prepared.handles, ?_⟩
    intro item member
    rcases List.mem_cons.mp member with rfl | later
    · obtain ⟨confined, moved⟩ := prepared.covers head (by simp [queue])
      refine ⟨confined, ?_⟩
      simp only [accepted, List.length_take]
      omega
    · exact prepared.covers item (by simp [queue, later])
  · exact prepared

theorem step (prepared : Prepared channel) {event : KernelEvent}
    (inRange : channel.InRange event) : Prepared (channel.step event) := by
  cases event with
  | ioctl cmd arg response outcome =>
      have selected :
          Prepared { channel with bdindex := wrapInt arg } :=
        ⟨prepared.handles, prepared.covers⟩
      cases cmd with
      | startXfer => exact selected.startTransfer inRange.1 inRange.2
      | finishXfer => exact (selected.setStatus _ _).setStatus _ _
      | xfer =>
          exact ((selected.startTransfer inRange.1 inRange.2).setStatus _
            _).setStatus _ _
      | other => exact selected
  | write bytes => exact ⟨prepared.handles, prepared.covers⟩
  | store address bytes => exact ⟨prepared.handles, prepared.covers⟩
  | deliver bytes => exact prepared.deliver bytes
  | finish =>
      refine ⟨prepared.handles, ?_⟩
      intro item member
      exact prepared.covers item (List.mem_of_mem_tail member)

end Prepared

/-- Every operation of a run stays inside the buffers of the channel exactly
when every operation has its arguments in range. -/
theorem everyStep_confined_iff_inRange (memory : Int → UInt8)
    (beyond : Int → Int) (direction : Direction)
    (events : List KernelEvent) :
    EveryStep step Confined (created memory beyond direction) events ↔
      EveryStep step InRange (created memory beyond direction) events := by
  apply everyStep_congr
  · intro channel event prepared
    exact confined_iff_inRange prepared event
  · intro channel event prepared inRange
    exact prepared.step inRange
  · exact Prepared.created memory beyond direction

/-- `io_write_stream_local` on a buffer: the length word and `START_XFER`. -/
def writeStreamEvents (index : Nat) (size : UInt32)
    (response : SubmitResponse) : List KernelEvent :=
  [.store (lengthAddress index) (littleEndian32 size),
    .ioctl .startXfer index response .noError]

/-- One byte more than the payload is submitted through
`io_write_stream_device`. -/
theorem oversized_write_unconfined :
    ¬∀ (memory : Int → UInt8) (beyond : Int → Int) (direction : Direction)
      (events : List KernelEvent),
      EveryStep step Confined (created memory beyond direction) events := by
  intro always
  obtain ⟨_, ⟨confined, _⟩, _⟩ := always (fun _ => 0) (fun _ => 0) .memToDev
    (writeStreamEvents 0 131073 .accepted)
  have below := (confined (.descriptor 0 0 131073) (by decide +kernel)).2.2
  revert below
  decide +kernel

end KernelChannel

end StreamIO.Driver
