import StreamIO.Net.ReadClient

/-!
# Reading a packet in parts

`io_read_stream_net`, the reading function that keeps what is left of a
packet in `remain_recv_size` for the next call.  It is a machine like that of
`io_read_stream_net_basic`.
-/

namespace StreamIO.Net

open StreamIO.Library

/-- The variables of `io_read_stream_net`, with the `remain_recv_size` of its
device. -/
structure ResumedRead where
  pc : ReadStreamPc
  startCmd : UInt8
  recvSize : UInt32
  size : UInt32
  remainRecvSize : UInt32
  bufferPtr : UInt32
  memory : ByteMemory

namespace ResumedRead

/-- The loop condition `size > 0`. -/
def payloadOrReturn (size : UInt32) : ReadStreamPc :=
  if 0 < size then .payload else .returned

/-- At most what is left of the packet is read. -/
def startLoop (call : ResumedRead) : ResumedRead :=
  let size :=
    if call.remainRecvSize < call.size then call.remainRecvSize
    else call.size
  { call with size := size, pc := payloadOrReturn size }

/-- The call up to its first `recv`. -/
def enter (device : NetDeviceState) (memory : ByteMemory) (size : UInt32) :
    ResumedRead :=
  let call : ResumedRead :=
    { pc := .startCmd, startCmd := -1, recvSize := 0, size := size,
      remainRecvSize := (readHandshake device).1.remainRecvSize,
      bufferPtr := 0, memory := memory }
  if call.remainRecvSize = 0 then call else call.startLoop

/-- `recv(sockfd, &start_cmd, sizeof(start_cmd), 0)` and the branch on it. -/
def receiveStartCmd (call : ResumedRead) (result : SocketResult) :
    ResumedRead :=
  let startCmd := result.bytes.headD call.startCmd
  let call := { call with startCmd := startCmd }
  if startCmd = readStreamStart then { call with pc := .size }
  else call.startLoop

/-- `recv(sockfd, &recv_size, sizeof(recv_size), 0)`, possibly short. -/
def receiveSize (call : ResumedRead) (result : SocketResult) : ResumedRead :=
  let recvSize := receiveWord call.recvSize result
  { call with
    recvSize := recvSize
    remainRecvSize :=
      if call.size < recvSize then recvSize else call.size }.startLoop

/-- The body of the loop.  As in the server's payload loop `n` is unsigned,
so that only a closed connection leaves the loop. -/
def receivePayload (call : ResumedRead) (result : SocketResult) :
    ResumedRead :=
  let n := result.count
  if n ≤ 0 then { call with pc := .returned }
  else
    { call with
      memory := call.memory.store call.bufferPtr.toNat result.bytes
      size := call.size - n
      remainRecvSize := call.remainRecvSize - n
      bufferPtr := call.bufferPtr + n
      pc := payloadOrReturn (call.size - n) }

/-- One `recv` and the code up to the next one. -/
def step (call : ResumedRead) (result : SocketResult) : ResumedRead :=
  match call.pc with
  | .startCmd => call.receiveStartCmd result
  | .size => call.receiveSize result
  | .payload => call.receivePayload result
  | .returned => call

/-- A `recv` that fails counts as one byte taken back. -/
theorem receivePayload_failed (call : ResumedRead) :
    let after := call.receivePayload .failed
    after.size = call.size + 1 ∧
      after.remainRecvSize = call.remainRecvSize + 1 ∧
      after.bufferPtr = call.bufferPtr - 1 := by
  simp only [receivePayload, if_neg SocketResult.not_count_failed_le,
    SocketResult.sub_count_failed, SocketResult.add_count_failed, and_self]

end ResumedRead

end StreamIO.Net
