import StreamIO.Net.Call
import StreamIO.Local.Orderly

/-!
# Serving a remote read stream

The loop of `client_cmd_read_stream_inf`.  One iteration takes a buffer,
synchronises the device, sends the head of the buffer, fills it with `0xFF`
and starts the next transfer on it.  The engine may advance before every
statement.
-/

namespace StreamIO.Backend

open StreamIO.Library StreamIO.Driver StreamIO.Local StreamIO.Net

/-- `stream_size`: `32 * 1024 * sizeof(iq_buffer)`. -/
def readStreamSize : Nat := 32 * 1024 * 4

/-- `send_size`: `1024 * 2 * sizeof(iq_buffer)`. -/
def readSendSize : Nat := 1024 * 2 * 4

/-- What surrounds one iteration: the engine's progress before each
statement, the waits, the result of `writev`, and the engine's answer to the
next transfer. -/
structure IterationScript where
  beforeGet : List EngineEvent := []
  getWait : WaitScript := {}
  beforeSync : List EngineEvent := []
  syncWaits : Nat → WaitScript := fun _ => {}
  beforeSend : List EngineEvent := []
  written : Int := 5 + readSendSize
  beforeFill : List EngineEvent := []
  beforeStart : List EngineEvent := []
  response : SubmitResponse := .accepted

/-- Whether the loop goes on, was left by `break`, or has dereferenced the
`NULL` of a failed `io_stream_get_buffer`. -/
inductive LoopControl where
  | looping
  | left
  | nullBuffer
  deriving DecidableEq, Repr

/-- The state of the loop.  `inFlight` accounts for the descriptors that were
pending at each `writev`. -/
structure ReadStream where
  session : Session
  control : LoopControl
  wire : List (List UInt8)
  inFlight : List (List Transfer)

/-- The three parts of the `iovec`. -/
def readPacket (buffer : ByteMemory) : List UInt8 :=
  [CmdCallType.callReadStream.code <<< 1] ++
    littleEndian32 (UInt32.ofNat readSendSize) ++ buffer.load 0 readSendSize

/-- The engine advances while the session does nothing. -/
def advance (session : Session) (events : List EngineEvent) : Session :=
  { session with
    device := { session.device with
      channel := session.channel.runEngine events } }

namespace ReadStream

def start (channel : DmaProxyChannel) : ReadStream :=
  { session := Session.start channel, control := .looping, wire := [],
    inFlight := [] }

/-- The session when the iteration calls `io_stream_get_buffer`. -/
def asked (state : ReadStream) (script : IterationScript) : Session :=
  advance state.session script.beforeGet

/-- The session when the iteration calls `io_sync_stream_device`. -/
def taken (state : ReadStream) (script : IterationScript) : Session :=
  advance ((state.asked script).step (.getBuffer script.getWait))
    script.beforeSync

/-- The session when the iteration calls `writev`. -/
def synced (state : ReadStream) (script : IterationScript) : Session :=
  advance ((state.taken script).step (.sync script.syncWaits))
    script.beforeSend

/-- The session after `memset` and `io_read_stream_device`. -/
def restarted (state : ReadStream) (script : IterationScript) (data : Nat) :
    Session :=
  let filled := (advance (state.synced script) script.beforeFill).step
    (.store data 0 (List.replicate readStreamSize 0xFF))
  (advance filled script.beforeStart).step
    (.submit data (UInt32.ofNat readStreamSize) script.response)

/-- One iteration of the loop. -/
def iterate (state : ReadStream) (script : IterationScript) : ReadStream :=
  match state.control with
  | .left => state
  | .nullBuffer => state
  | .looping =>
      let session := state.synced script
      match (ioStreamGetBuffer (state.asked script).device
          script.getWait).2 with
      | none => { state with session := session, control := .nullBuffer }
      | some data =>
          let packet := readPacket
            (session.channel.bufferTable (data / sizeofChannelBuffer)).buffer
          if script.written ≤ 0 then
            { state with session := session, control := .left }
          else
            { session := state.restarted script data
              control := .looping
              wire := state.wire ++ [packet.take script.written.toNat]
              inFlight := state.inFlight ++ [session.dma.pending] }

/-- No wait of the iteration times out or is interrupted, no transfer fails or
is refused, and `writev` writes everything. -/
structure Undisturbed (state : ReadStream) (script : IterationScript) :
    Prop where
  beforeGet : ∀ event ∈ script.beforeGet, Faultless event
  getWait : Prompt (state.asked script).channel
    (state.asked script).device.currentBufferId script.getWait
  beforeSync : ∀ event ∈ script.beforeSync, Faultless event
  syncWaits : PromptPass script.syncWaits (List.range bufferCount)
    (state.taken script).channel
  beforeSend : ∀ event ∈ script.beforeSend, Faultless event
  written : script.written = 5 + readSendSize
  beforeFill : ∀ event ∈ script.beforeFill, Faultless event
  beforeStart : ∀ event ∈ script.beforeStart, Faultless event
  response : script.response = .accepted

end ReadStream

/-- Runs of `client_cmd_read_stream_inf` without disturbances, one step an
iteration. -/
def readStreams : TransitionSystem ReadStream IterationScript where
  step state script next :=
    state.Undisturbed script ∧ next = state.iterate script

/-- What a receive transfer leaves in its buffer: `0xFF` overlaid with the
bytes received. -/
def leftBy (transfer : Transfer) : ByteMemory :=
  (ByteMemory.fill (fun _ => 0) 0 readStreamSize 0xFF).store 0
    (transfer.moved.getD [])

namespace ReadStream

variable {state : ReadStream} {script : IterationScript}

theorem iterate_expired (looping : state.control = .looping)
    (none : (ioStreamGetBuffer (state.asked script).device
      script.getWait).2 = none) :
    state.iterate script =
      { state with
        session := state.synced script, control := .nullBuffer } := by
  simp only [iterate, looping, none]

theorem iterate_closed (looping : state.control = .looping) {data : Nat}
    (given : (ioStreamGetBuffer (state.asked script).device
      script.getWait).2 = some data) (ends : script.written ≤ 0) :
    state.iterate script =
      { state with session := state.synced script, control := .left } := by
  simp only [iterate, looping, given, if_pos ends]

theorem iterate_sent (looping : state.control = .looping) {index : Nat}
    (given : (ioStreamGetBuffer (state.asked script).device
      script.getWait).2 = some (bufferAddress index))
    (goesOn : ¬script.written ≤ 0) :
    state.iterate script =
      { session := state.restarted script (bufferAddress index)
        control := .looping
        wire := state.wire ++ [(readPacket ((state.synced
          script).channel.bufferTable index).buffer).take
            script.written.toNat]
        inFlight := state.inFlight ++
          [(state.synced script).dma.pending] } := by
  simp only [iterate, looping, given, if_neg goesOn, bufferAddress_div]

end ReadStream

theorem replicate_filled (memory : ByteMemory) {offset : Nat}
    (inside : offset < readStreamSize) :
    memory.store 0 (List.replicate readStreamSize 0xFF) offset = 0xFF := by
  have within : offset <
      (List.replicate readStreamSize (0xFF : UInt8)).length := by
    simpa using inside
  have stored := memory.store_add 0 within
  simpa using stored

end StreamIO.Backend
