import StreamIO.Driver.EngineEffect

/-!
# The local stream device

The stream half of `bbio_backend_local.c`.  Pointers into the mapping are
byte offsets from its start.  Calls that may sleep in the driver take the
script of their wait.
-/

namespace StreamIO.Local

open StreamIO.Driver

/-- An open local stream device: the channel behind its descriptor and its
mapping, and the ring index of `local_buffer_d`. -/
structure StreamDevice where
  channel : DmaProxyChannel
  bufferCount : Nat
  currentBufferId : Nat

/-- Status word of one channel buffer. -/
def StreamDevice.status (device : StreamDevice) (index : Nat) :
    ProxyStatus :=
  (device.channel.bufferTable index).status

/-- Address of `channel_buffer[index]` in the mapping. -/
def bufferAddress (index : Nat) : Nat := index * sizeofChannelBuffer

/-- `io_local_buffer_init`, the mapping having succeeded. -/
def ioLocalBufferInit (channel : DmaProxyChannel) : StreamDevice :=
  { channel := (List.range bufferCount).foldl
      (fun channel index => channel.setStatus index .noError) channel
    bufferCount := bufferCount
    currentBufferId := 0 }

/-- `io_open_stream_local`, the device file and its mapping being available. -/
def ioOpenStreamLocal (channel : DmaProxyChannel) : StreamDevice :=
  ioLocalBufferInit (localOpen channel)

/-- `io_write_stream_local`. -/
def ioWriteStreamLocal (device : StreamDevice) (data : Nat) (size : UInt32)
    (response : SubmitResponse) : StreamDevice × Nat :=
  let bufferId := data / sizeofChannelBuffer
  let channel := device.channel.setLength bufferId size
  ({ device with channel := ioctl channel .startXfer bufferId response {} },
    bufferId)

/-- `io_stream_zc_buffer_local`. -/
def ioStreamZcBufferLocal (device : StreamDevice) (script : WaitScript) :
    StreamDevice × Option Nat :=
  let nextBufferId := device.currentBufferId
  let channel :=
    if (device.channel.bufferTable nextBufferId).status ≠ .noError then
      ioctl device.channel .finishXfer nextBufferId .accepted script
    else device.channel
  if (channel.bufferTable nextBufferId).status = .timeout then
    ({ device with channel := channel }, none)
  else
    ({ device with
        channel := channel
        currentBufferId := (nextBufferId + 1) % device.bufferCount },
      some (bufferAddress nextBufferId))

/-- The body of the loop of `io_finish_stream_local`. -/
def finishBuffer (scripts : Nat → WaitScript) (channel : DmaProxyChannel)
    (index : Nat) : DmaProxyChannel :=
  if (channel.bufferTable index).status ≠ .noError then
    ioctl channel .finishXfer index .accepted (scripts index)
  else channel

/-- `io_finish_stream_local`; buffer `i` is waited for with `scripts i`. -/
def ioFinishStreamLocal (device : StreamDevice)
    (scripts : Nat → WaitScript) : StreamDevice :=
  { device with
    channel := (List.range device.bufferCount).foldl (finishBuffer scripts)
      device.channel }

/-- `io_stream_get_buffer` on a local device. -/
def ioStreamGetBuffer (device : StreamDevice) (script : WaitScript) :
    StreamDevice × Option Nat :=
  ioStreamZcBufferLocal device script

/-- `io_write_stream_device` on a local device. -/
def ioWriteStreamDevice (device : StreamDevice) (data : Nat) (size : UInt32)
    (response : SubmitResponse) : StreamDevice :=
  (ioWriteStreamLocal device data size response).1

/-- `io_read_stream_device` on a local device, whose `read_stream` is
`io_write_stream_local` as well. -/
def ioReadStreamDevice (device : StreamDevice) (data : Nat) (size : UInt32)
    (response : SubmitResponse) : StreamDevice :=
  (ioWriteStreamLocal device data size response).1

/-- `io_sync_stream_device` on a local device. -/
def ioSyncStreamDevice (device : StreamDevice)
    (scripts : Nat → WaitScript) : StreamDevice :=
  ioFinishStreamLocal device scripts

theorem bufferAddress_div (index : Nat) :
    bufferAddress index / sizeofChannelBuffer = index :=
  Nat.mul_div_cancel index (by decide)

/-- What `FINISH_XFER` on one buffer leaves behind. -/
structure Finished (channel : DmaProxyChannel) (index : Nat)
    (script : WaitScript) (after : DmaProxyChannel) : Prop where
  engine : after.engine = (script.awaited channel index).engine
  bdtable : after.bdtable = (script.awaited channel index).bdtable
  buffer : ∀ other, (after.bufferTable other).buffer =
    ((script.awaited channel index).bufferTable other).buffer
  statusSelf : (after.bufferTable index).status =
    script.verdict channel index
  statusOther : ∀ other, other ≠ index →
    (after.bufferTable other).status = (channel.bufferTable other).status

theorem ioctl_finishXfer_finished (channel : DmaProxyChannel) {index : Nat}
    (bound : index < bufferCount) (response : SubmitResponse)
    (script : WaitScript) :
    Finished channel index script
      (ioctl channel .finishXfer index response script) := by
  have small : index < 2 ^ 32 := by
    simp only [bufferCount] at bound
    omega
  obtain ⟨count, equation⟩ :=
    ioctl_finishXfer channel small response script
  rw [equation]
  have same := script.awaited_sameDriver channel index
  refine ⟨rfl, rfl, ?_, ?_, ?_⟩
  · intro other
    by_cases equal : other = index
    · simp [equal, DmaProxyChannel.setStatus, DmaProxyChannel.setBdindex]
    · simp [DmaProxyChannel.setStatus, DmaProxyChannel.setBdindex,
        Function.update_of_ne equal]
  · simp [DmaProxyChannel.setStatus]
  · intro other different
    simp [DmaProxyChannel.setStatus, DmaProxyChannel.setBdindex,
      Function.update_of_ne different, same.status]

/-- The outcomes of taking a buffer: the current one is free, or it is waited
for and is withheld exactly when the wait runs out. -/
theorem ioStreamZcBufferLocal_cases (device : StreamDevice)
    (ring : device.currentBufferId < bufferCount) (script : WaitScript) :
    let index := device.currentBufferId
    let advanced := (index + 1) % device.bufferCount
    (device.status index = .noError ∧
      ioStreamZcBufferLocal device script =
        ({ device with currentBufferId := advanced },
          some (bufferAddress index))) ∨
    (device.status index ≠ .noError ∧
      ∃ after, Finished device.channel index script after ∧
        ((script.Expires device.channel index ∧
            ioStreamZcBufferLocal device script =
              ({ device with channel := after }, none)) ∨
          (¬script.Expires device.channel index ∧
            ioStreamZcBufferLocal device script =
              ({ device with
                  channel := after, currentBufferId := advanced },
                some (bufferAddress index))))) := by
  intro index advanced
  by_cases free : device.status index = .noError
  · left
    refine ⟨free, ?_⟩
    have status : (device.channel.bufferTable
        device.currentBufferId).status = .noError := free
    simp [ioStreamZcBufferLocal, status, index, advanced]
  · right
    refine ⟨free, _, ioctl_finishXfer_finished device.channel ring .accepted
      script, ?_⟩
    have finish :=
      ioctl_finishXfer_finished device.channel ring .accepted script
    have waited : (device.channel.bufferTable
        device.currentBufferId).status ≠ .noError := free
    have timeout := script.verdict_eq_timeout_iff device.channel index
    simp only [ioStreamZcBufferLocal, if_pos waited, finish.statusSelf]
    by_cases expires : script.Expires device.channel index
    · left
      exact ⟨expires, by rw [if_pos (timeout.mpr expires)]⟩
    · right
      refine ⟨expires, ?_⟩
      rw [if_neg (fun withheld => expires (timeout.mp withheld))]

/-- What an accepted `START_XFER` on one buffer leaves behind. -/
structure Started (channel : DmaProxyChannel) (index : Nat) (size : UInt32)
    (after : DmaProxyChannel) : Prop where
  engine : after.engine = { channel.engine with
    lastCookie := channel.engine.lastCookie + 1
    pending := channel.engine.pending ++
      [{ cookie := channel.engine.lastCookie + 1, bdindex := index,
         length := size.toNat, moved := none }] }
  bdtable : after.bdtable = Function.update channel.bdtable index
    { done := 0, cookie := channel.engine.lastCookie + 1 }
  buffer : ∀ other, (after.bufferTable other).buffer =
    (channel.bufferTable other).buffer
  statusSelf : (after.bufferTable index).status = .queued
  statusOther : ∀ other, other ≠ index →
    (after.bufferTable other).status = (channel.bufferTable other).status

/-- What a rejected `START_XFER` on one buffer leaves behind. -/
structure Rejected (channel : DmaProxyChannel) (index : Nat)
    (after : DmaProxyChannel) : Prop where
  engine : after.engine = channel.engine
  bdtable : ∀ other, other ≠ index →
    after.bdtable other = channel.bdtable other
  buffer : ∀ other, (after.bufferTable other).buffer =
    (channel.bufferTable other).buffer
  status : ∀ other, (after.bufferTable other).status =
    (channel.bufferTable other).status

theorem setLength_status (channel : DmaProxyChannel) (index other : Nat)
    (length : UInt32) :
    ((channel.setLength index length).bufferTable other).status =
      (channel.bufferTable other).status := by
  by_cases same : other = index
  · simp [same, DmaProxyChannel.setLength]
  · simp [DmaProxyChannel.setLength, Function.update_of_ne same]

theorem setLength_buffer (channel : DmaProxyChannel) (index other : Nat)
    (length : UInt32) :
    ((channel.setLength index length).bufferTable other).buffer =
      (channel.bufferTable other).buffer := by
  by_cases same : other = index
  · simp [same, DmaProxyChannel.setLength]
  · simp [DmaProxyChannel.setLength, Function.update_of_ne same]

theorem ioWriteStreamLocal_started (device : StreamDevice) {index : Nat}
    (bound : index < bufferCount) (size : UInt32) :
    Started device.channel index size
      (ioWriteStreamLocal device (bufferAddress index) size
        .accepted).1.channel := by
  have reduced : index % 2 ^ 32 = index := by
    simp only [bufferCount] at bound
    omega
  simp only [ioWriteStreamLocal, bufferAddress_div, ioctl, reduced,
    startTransfer]
  refine ⟨?_, rfl, ?_, ?_, ?_⟩
  · simp [DmaProxyChannel.setLength, DmaProxyChannel.setBdindex]
  · intro other
    rw [← setLength_buffer device.channel index other size]
    by_cases same : other = index
    · simp [same, DmaProxyChannel.setStatus, DmaProxyChannel.setBdindex]
    · simp [DmaProxyChannel.setStatus, DmaProxyChannel.setBdindex,
        Function.update_of_ne same]
  · simp [DmaProxyChannel.setStatus, DmaProxyChannel.setBdindex]
  · intro other different
    rw [← setLength_status device.channel index other size]
    simp [DmaProxyChannel.setStatus, DmaProxyChannel.setBdindex,
      Function.update_of_ne different]

theorem ioWriteStreamLocal_rejected (device : StreamDevice) {index : Nat}
    (bound : index < bufferCount) (size : UInt32) {response : SubmitResponse}
    (refused : response ≠ .accepted) :
    Rejected device.channel index
      (ioWriteStreamLocal device (bufferAddress index) size
        response).1.channel := by
  have reduced : index % 2 ^ 32 = index := by
    simp only [bufferCount] at bound
    omega
  simp only [ioWriteStreamLocal, bufferAddress_div, ioctl, reduced,
    startTransfer]
  cases response with
  | accepted => exact (refused rfl).elim
  | prepError =>
      exact ⟨rfl, fun _ _ => rfl, fun other => setLength_buffer _ _ other _,
        fun other => setLength_status _ _ other _⟩
  | submitError errno =>
      refine ⟨rfl, ?_, fun other => setLength_buffer _ _ other _,
        fun other => setLength_status _ _ other _⟩
      intro other different
      exact Function.update_of_ne different _ _

theorem ioWriteStreamLocal_spoiled (device : StreamDevice) {index : Nat}
    (bound : index < bufferCount) (size : UInt32) {response : SubmitResponse}
    (refused : response ≠ .accepted) :
    let after := (ioWriteStreamLocal device (bufferAddress index) size
      response).1.channel
    after.bdtable index = device.channel.bdtable index ∨
      (after.bdtable index).cookie < 0 := by
  have reduced : index % 2 ^ 32 = index := by
    simp only [bufferCount] at bound
    omega
  simp only [ioWriteStreamLocal, bufferAddress_div, ioctl, reduced,
    startTransfer]
  cases response with
  | accepted => exact (refused rfl).elim
  | prepError => exact Or.inl rfl
  | submitError errno =>
      right
      simp only [DmaProxyChannel.setBdindex, Function.update_self]
      omega

theorem foldl_setStatus_noError (indices : List Nat)
    (channel : DmaProxyChannel) :
    let cleared := indices.foldl
      (fun channel index => channel.setStatus index .noError) channel
    (∀ index, (cleared.bufferTable index).status =
      if index ∈ indices then .noError
      else (channel.bufferTable index).status) ∧
    (∀ index, (cleared.bufferTable index).buffer =
      (channel.bufferTable index).buffer) ∧
    cleared.bdtable = channel.bdtable ∧ cleared.engine = channel.engine := by
  induction indices generalizing channel with
  | nil => simp
  | cons head tail induction =>
      obtain ⟨status, buffer, bdtable, engine⟩ :=
        induction (channel.setStatus head .noError)
      refine ⟨?_, ?_, ?_, ?_⟩
      · intro index
        rw [List.foldl_cons, status]
        by_cases same : index = head
        · simp [same, DmaProxyChannel.setStatus]
        · simp [same, DmaProxyChannel.setStatus]
      · intro index
        rw [List.foldl_cons, buffer]
        by_cases same : index = head
        · simp [same, DmaProxyChannel.setStatus]
        · simp [DmaProxyChannel.setStatus, Function.update_of_ne same]
      · exact bdtable
      · exact engine

/-- A freshly opened device: no status word is set, the engine is idle and
the ring starts at buffer zero. -/
theorem ioOpenStreamLocal_spec (channel : DmaProxyChannel) :
    let device := ioOpenStreamLocal channel
    (∀ index, index < bufferCount → device.status index = .noError) ∧
    (∀ index, (device.channel.bufferTable index).buffer =
      (channel.bufferTable index).buffer) ∧
    device.channel.bdtable = channel.bdtable ∧
    device.channel.engine = { channel.engine with
      pending := [], completed := [], failed := [] } ∧
    device.bufferCount = bufferCount ∧ device.currentBufferId = 0 := by
  obtain ⟨_, openBuffer, openBdtable, openEngine⟩ :=
    foldl_setStatus_noError (List.range bufferCount)
      (deviceTerminateAll channel)
  obtain ⟨status, buffer, bdtable, engine⟩ :=
    foldl_setStatus_noError (List.range bufferCount) (localOpen channel)
  refine ⟨?_, ?_, ?_, ?_, rfl, rfl⟩
  · intro index bound
    have cleared := status index
    rw [if_pos (List.mem_range.mpr bound)] at cleared
    exact cleared
  · intro index
    exact (buffer index).trans (openBuffer index)
  · exact bdtable.trans openBdtable
  · exact engine.trans openEngine

end StreamIO.Local
