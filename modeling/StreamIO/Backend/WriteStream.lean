import StreamIO.Driver.Channel
import StreamIO.Net.Call
import StreamIO.Net.Socket

/-!
# Serving a remote write stream

`client_cmd_write_stream_inf` as a machine whose state is the program counter
at its blocking calls and its local variables.  A step takes the result of
the call the program counter stands at.  Next to the variables the state
keeps the accounts of what was received and submitted.
-/

namespace StreamIO.Backend

open StreamIO.Library StreamIO.Driver StreamIO.Net

/-- `stream_size`: `MAX_SAMPLES * sizeof(iq_buffer)`. -/
def streamSize : Nat := bufferSize / 4 * 4

/-- The blocking calls of `client_cmd_write_stream_inf`, its end, and the use
of a buffer that `io_stream_get_buffer` did not return. -/
inductive WriteStreamPc where
  | startCmd
  | size
  | payload
  | acknowledge
  | stopped
  | faulted
  deriving DecidableEq, Repr

/-- The variables of `client_cmd_write_stream_inf` and, from `submitted` on,
the accounts: the payloads passed to `io_write_stream_device`, the payload
bytes received, the offset and length of each range that a payload `recv` was
given and of each range it stored to, and whether a payload `recv` was given
no buffer. -/
structure WriteStream where
  pc : WriteStreamPc
  startCmd : UInt8
  recvSize : UInt32
  bufferPtr : UInt32
  chBuffer : Option ByteMemory
  taken : Nat
  accuSize : UInt64
  streamN : UInt32
  submitted : List (List UInt8)
  received : List UInt8
  requested : List (Nat × Nat)
  stored : List (Nat × Nat)
  unbacked : Bool

namespace WriteStream

/-- The function is entered: the first buffer is taken.  `buffers n` is what
the `n`-th `io_stream_get_buffer` returns. -/
def enter (buffers : Nat → Option ByteMemory) (startCmd : UInt8) :
    WriteStream :=
  { pc := .startCmd, startCmd := startCmd, recvSize := 0, bufferPtr := 0,
    chBuffer := buffers 0, taken := 1, accuSize := 0, streamN := 0,
    submitted := [], received := [], requested := [], stored := [],
    unbacked := false }

/-- `recv(sockfd, &start_cmd, sizeof(start_cmd), 0)` and the branch on it. -/
def receiveStartCmd (state : WriteStream) (result : SocketResult) :
    WriteStream :=
  let startCmd := result.bytes.headD state.startCmd
  { state with
    startCmd := startCmd
    pc := if startCmd = CmdCallType.callWriteStream.code then .size
      else .acknowledge }

/-- The loop condition `recv_size > 0`. -/
def payloadOrAcknowledge (recvSize : UInt32) : WriteStreamPc :=
  if 0 < recvSize then .payload else .acknowledge

/-- `recv(sockfd, &recv_size, sizeof(recv_size), 0)`, possibly short. -/
def receiveSize (state : WriteStream) (result : SocketResult) : WriteStream :=
  let recvSize := receiveWord state.recvSize result
  { state with recvSize := recvSize, pc := payloadOrAcknowledge recvSize }

/-- A full buffer is submitted and the next one taken. -/
def startLocalStream (buffers : Nat → Option ByteMemory)
    (state : WriteStream) (buffer : ByteMemory) : WriteStream :=
  { state with
    submitted := state.submitted ++ [buffer.load 0 streamSize]
    chBuffer := buffers state.taken
    taken := state.taken + 1
    bufferPtr := 0
    streamN := state.streamN + 1 }

/-- The range given to a payload `recv` is accounted for. -/
def request (state : WriteStream) : WriteStream :=
  { state with
    requested := state.requested ++
      [(state.bufferPtr.toNat, state.recvSize.toNat)]
    unbacked := state.unbacked || state.chBuffer.isNone }

/-- The bytes are stored behind `buffer_ptr`, and the counters move by the
`n` that `recv` returned. -/
def withPiece (state : WriteStream) (buffer : ByteMemory)
    (result : SocketResult) : WriteStream :=
  { state with
    stored := state.stored ++ [(state.bufferPtr.toNat, result.bytes.length)]
    received := state.received ++ result.bytes
    chBuffer := some (buffer.store state.bufferPtr.toNat result.bytes)
    recvSize := state.recvSize - result.count
    bufferPtr := state.bufferPtr + result.count
    accuSize := state.accuSize + result.count.toUInt64
    pc := payloadOrAcknowledge (state.recvSize - result.count) }

/-- The body of the payload loop.  A failed `recv` makes `n` the largest
`uint32_t`, so that only a closed connection leaves the loop, and it leaves
the loop also when there is no buffer. -/
def receivePayload (buffers : Nat → Option ByteMemory) (state : WriteStream)
    (result : SocketResult) : WriteStream :=
  let n := result.count
  let state := state.request
  if n ≤ 0 then { state with pc := .acknowledge }
  else
    match state.chBuffer with
    | none => { state with pc := .faulted }
    | some buffer =>
        let filled := buffer.store state.bufferPtr.toNat result.bytes
        let state := state.withPiece buffer result
        if streamSize ≤ state.bufferPtr.toNat then
          state.startLocalStream buffers filled
        else state

/-- `send(sockfd, &(uint8_t){1}, 1, 0)`. -/
def sendAcknowledge (state : WriteStream) (result : SocketResult) :
    WriteStream :=
  { state with pc := if result = .failed then .stopped else .startCmd }

/-- One blocking call and the code up to the next one. -/
def step (buffers : Nat → Option ByteMemory) (state : WriteStream)
    (result : SocketResult) : WriteStream :=
  match state.pc with
  | .startCmd => state.receiveStartCmd result
  | .size => state.receiveSize result
  | .payload => state.receivePayload buffers result
  | .acknowledge => state.sendAcknowledge result
  | .stopped => state
  | .faulted => state

variable {state : WriteStream} {buffer : ByteMemory} {result : SocketResult}

theorem receivePayload_nothing (buffers : Nat → Option ByteMemory)
    (nothing : result.count ≤ 0) :
    state.receivePayload buffers result =
      { state.request with pc := .acknowledge } := by
  simp only [receivePayload, if_pos nothing]

theorem receivePayload_missing (buffers : Nat → Option ByteMemory)
    (missing : state.chBuffer = none) (counts : ¬result.count ≤ 0) :
    state.receivePayload buffers result =
      { state.request with pc := .faulted } := by
  have none : state.request.chBuffer = none := missing
  simp only [receivePayload, if_neg counts, none]

theorem receivePayload_eq (buffers : Nat → Option ByteMemory)
    (holding : state.chBuffer = some buffer) (counts : ¬result.count ≤ 0) :
    state.receivePayload buffers result =
      if streamSize ≤ (state.bufferPtr + result.count).toNat then
        (state.request.withPiece buffer result).startLocalStream buffers
          (buffer.store state.bufferPtr.toNat result.bytes)
      else state.request.withPiece buffer result := by
  have held : state.request.chBuffer = some buffer := holding
  simp only [receivePayload, if_neg counts, held]
  rfl

end WriteStream

end StreamIO.Backend
