import Mathlib.Algebra.Order.Ring.Int
import StreamIO.Library.ByteMemory

/-!
# The DMA proxy channel and its engine

The state of one channel of `streamio-drv.c`: the table of channel buffers
that is mapped into user space, the descriptor table of the driver, and the
DMA engine behind the channel.

The engine is not part of the repository.  It takes descriptors in submission
order.  A memory-to-device descriptor reads its payload once, at any point
between submission and completion; a device-to-memory descriptor stores the
data it receives piece by piece.  The descriptor at the head of the queue
completes, or fails with or without its callback being called.
-/

namespace StreamIO.Driver

open StreamIO.Library

/-- `BUFFER_SIZE`: payload bytes of one channel buffer. -/
def bufferSize : Nat := 128 * 1024

/-- `BUFFER_COUNT`: channel buffers of one channel. -/
def bufferCount : Nat := 32

/-- `sizeof(struct channel_buffer)`: payload, status and length words, rounded
up to the alignment of 1024. -/
def sizeofChannelBuffer : Nat := 132096

/-- `enum proxy_status`. -/
inductive ProxyStatus where
  | noError
  | busy
  | timeout
  | error
  | queued
  deriving DecidableEq, Repr

/-- `struct channel_buffer`, shared between library and driver. -/
structure ChannelBuffer where
  buffer : ByteMemory
  status : ProxyStatus
  length : UInt32

/-- The part of `struct proxy_bd` the driver reads back: the counter inside
the completion and the cookie of the last submission. -/
structure ProxyBd where
  done : Nat
  cookie : Int

/-- The direction a DMA channel moves data in. -/
inductive Direction where
  | memToDev
  | devToMem
  deriving DecidableEq, Repr

/-- A submitted descriptor: its cookie, the buffer it covers, the length of
its scatter list entry and the bytes moved so far. -/
structure Transfer where
  cookie : Int
  bdindex : Nat
  length : Nat
  moved : Option (List UInt8)
  deriving DecidableEq, Repr

/-- What identifies a descriptor whatever it has moved. -/
def Transfer.key (transfer : Transfer) : Int × Nat × Nat :=
  (transfer.cookie, transfer.bdindex, transfer.length)

/-- The engine: `pending` holds the queued and the running descriptors in
submission order; `completed` and `failed` account for those finished since
the channel was last terminated. -/
structure DmaEngine where
  direction : Direction
  lastCookie : Nat
  pending : List Transfer
  completed : List Transfer
  failed : List Transfer

/-- `struct dma_proxy_channel`. -/
structure DmaProxyChannel where
  bufferTable : Nat → ChannelBuffer
  bdtable : Nat → ProxyBd
  bdindex : Nat
  waitTransferCount : Int
  engine : DmaEngine

/-- What the engine may do between two steps of the driver. -/
inductive EngineEvent where
  | fetch (position : Nat)
  | deliver (bytes : List UInt8)
  | complete
  | fail (callback : Bool)
  deriving DecidableEq, Repr

/-- `UINT_MAX`, where the counter of a completion saturates. -/
def completionMax : Nat := 2 ^ 32 - 1

namespace DmaProxyChannel

/-- A channel as `dma_proxy_probe` leaves it, its buffers being zero. -/
def probed (direction : Direction) : DmaProxyChannel :=
  { bufferTable := fun _ =>
      { buffer := fun _ => 0, status := .noError, length := 0 }
    bdtable := fun _ => { done := 0, cookie := 0 }
    bdindex := 0
    waitTransferCount := 0
    engine :=
      { direction := direction, lastCookie := 0, pending := [],
        completed := [], failed := [] } }

def setStatus (channel : DmaProxyChannel) (index : Nat)
    (status : ProxyStatus) : DmaProxyChannel :=
  { channel with
    bufferTable := Function.update channel.bufferTable index
      { channel.bufferTable index with status := status } }

def setLength (channel : DmaProxyChannel) (index : Nat) (length : UInt32) :
    DmaProxyChannel :=
  { channel with
    bufferTable := Function.update channel.bufferTable index
      { channel.bufferTable index with length := length } }

def setBuffer (channel : DmaProxyChannel) (index : Nat)
    (buffer : ByteMemory) : DmaProxyChannel :=
  { channel with
    bufferTable := Function.update channel.bufferTable index
      { channel.bufferTable index with buffer := buffer } }

def setDone (channel : DmaProxyChannel) (index done : Nat) :
    DmaProxyChannel :=
  { channel with
    bdtable := Function.update channel.bdtable index
      { channel.bdtable index with done := done } }

def setBdindex (channel : DmaProxyChannel) (bdindex : Nat) :
    DmaProxyChannel :=
  { channel with bdindex := bdindex }

/-- `sync_callback`: `complete` on the completion of one descriptor. -/
def syncCallback (channel : DmaProxyChannel) (index : Nat) :
    DmaProxyChannel :=
  let done := (channel.bdtable index).done
  channel.setDone index (if done = completionMax then done else done + 1)

/-- A successful wait consumes one completion, unless the counter is
saturated. -/
def takeCompletion (channel : DmaProxyChannel) (index : Nat) :
    DmaProxyChannel :=
  let done := (channel.bdtable index).done
  channel.setDone index (if done = completionMax then done else done - 1)

/-- A memory-to-device descriptor reads its payload unless it already has. -/
def readPayload (channel : DmaProxyChannel) (transfer : Transfer) :
    Transfer :=
  { transfer with
    moved := some (transfer.moved.getD
      ((channel.bufferTable transfer.bdindex).buffer.load 0
        transfer.length)) }

/-- The bytes of a delivery that still fit the descriptor. -/
def accepted (transfer : Transfer) (bytes : List UInt8) : List UInt8 :=
  bytes.take (transfer.length - (transfer.moved.getD []).length)

/-- A device-to-memory descriptor stores received bytes after those it has
already stored. -/
def storeReceived (channel : DmaProxyChannel) (transfer : Transfer)
    (bytes : List UInt8) : DmaProxyChannel :=
  channel.setBuffer transfer.bdindex
    ((channel.bufferTable transfer.bdindex).buffer.store
      (transfer.moved.getD []).length (accepted transfer bytes))

/-- The descriptor as the engine leaves it on completion. -/
def settle (channel : DmaProxyChannel) (transfer : Transfer) : Transfer :=
  match channel.engine.direction with
  | .memToDev => channel.readPayload transfer
  | .devToMem => transfer

/-- One engine event.  Events that no pending descriptor can take part in
change nothing. -/
def engineStep (channel : DmaProxyChannel) :
    EngineEvent → DmaProxyChannel
  | .fetch position =>
      match channel.engine.direction with
      | .memToDev =>
          { channel with
            engine := { channel.engine with
              pending := channel.engine.pending.modify position
                channel.readPayload } }
      | .devToMem => channel
  | .deliver bytes =>
      match channel.engine.direction, channel.engine.pending with
      | .devToMem, transfer :: rest =>
          { channel.storeReceived transfer bytes with
            engine := { channel.engine with
              pending := { transfer with
                moved := some (transfer.moved.getD [] ++
                  accepted transfer bytes) } :: rest } }
      | _, _ => channel
  | .complete =>
      match channel.engine.pending with
      | [] => channel
      | transfer :: rest =>
          { channel.syncCallback transfer.bdindex with
            engine := { channel.engine with
              pending := rest
              completed :=
                channel.engine.completed ++ [channel.settle transfer] } }
  | .fail callback =>
      match channel.engine.pending with
      | [] => channel
      | transfer :: rest =>
          { (if callback then channel.syncCallback transfer.bdindex
              else channel) with
            engine := { channel.engine with
              pending := rest
              failed := channel.engine.failed ++ [transfer] } }

/-- A sequence of engine events. -/
def runEngine (channel : DmaProxyChannel) (events : List EngineEvent) :
    DmaProxyChannel :=
  events.foldl engineStep channel

@[simp] theorem runEngine_nil (channel : DmaProxyChannel) :
    channel.runEngine [] = channel := rfl

@[simp] theorem runEngine_cons (channel : DmaProxyChannel)
    (event : EngineEvent) (events : List EngineEvent) :
    channel.runEngine (event :: events) =
      (channel.engineStep event).runEngine events := rfl

/-- What every engine event preserves, every sequence of them preserves. -/
theorem runEngine_preserves {holds : DmaProxyChannel → Prop}
    {allowed : EngineEvent → Prop}
    (preserved : ∀ channel event, allowed event → holds channel →
      holds (channel.engineStep event))
    {channel : DmaProxyChannel} {events : List EngineEvent}
    (allAllowed : ∀ event ∈ events, allowed event) (start : holds channel) :
    holds (channel.runEngine events) := by
  induction events generalizing channel with
  | nil => exact start
  | cons event events induction =>
      apply induction
      · intro other member
        exact allAllowed other (by simp [member])
      · exact preserved channel event (allAllowed event (by simp)) start

end DmaProxyChannel

/-- `enum dma_status` as far as the driver tells values apart. -/
inductive DmaStatus where
  | complete
  | inProgress
  | error
  deriving DecidableEq, Repr

/-- `dma_async_is_tx_complete`.  A cookie that belongs to no unfinished or
failed descriptor is reported as complete. -/
def DmaEngine.dmaAsyncIsTxComplete (engine : DmaEngine) (cookie : Int) :
    DmaStatus :=
  if cookie ∈ engine.pending.map Transfer.cookie then .inProgress
  else if cookie ∈ engine.failed.map Transfer.cookie then .error
  else .complete

end StreamIO.Driver
