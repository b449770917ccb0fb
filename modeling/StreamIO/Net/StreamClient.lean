import StreamIO.Net.Call
import StreamIO.Net.Socket

/-!
# The client of a remote stream

The writing half of `bbio_backend_net.c`: the bytes each call puts on the
connection.
-/

namespace StreamIO.Net

open StreamIO.Library

/-- `struct net_device_state`, less the staging buffer. -/
structure NetDeviceState where
  handshaked : Bool
  remainRecvSize : UInt32
  deriving DecidableEq, Repr

/-- One message of a write stream: the three parts of the `iovec`. -/
def writeStreamMessage (data : List UInt8) : List UInt8 :=
  [CmdCallType.callWriteStream.code] ++
    littleEndian32 (UInt32.ofNat data.length) ++ data

/-- `io_write_stream_net`, `data` being the `size` bytes it is given. -/
def ioWriteStreamNet (state : NetDeviceState) (data : List UInt8) :
    NetDeviceState × List SocketWrite :=
  let handshake : List SocketWrite :=
    if state.handshaked then []
    else [{ vectored := false
            bytes := [CmdCallType.callWriteStream.code] }]
  ({ state with handshaked := true },
    handshake ++ [{ vectored := true, bytes := writeStreamMessage data }])

/-- `io_sync_stream_deivce_net`: it forgets the handshake while part of a
received message is unread, and touches no socket. -/
def ioSyncStreamDeviceNet (state : NetDeviceState) : NetDeviceState :=
  if state.remainRecvSize ≠ 0 then { state with handshaked := false }
  else state

/-- The writes of a sequence of calls. -/
def writeCalls (state : NetDeviceState) :
    List (List UInt8) → List SocketWrite
  | [] => []
  | data :: calls =>
      let (state, writes) := ioWriteStreamNet state data
      writes ++ writeCalls state calls

/-- The state of a stream device that has just been opened. -/
def NetDeviceState.opened : NetDeviceState :=
  { handshaked := false, remainRecvSize := 0 }

theorem writeCalls_handshaked {state : NetDeviceState}
    (handshaked : state.handshaked = true) (calls : List (List UInt8)) :
    writeCalls state calls = calls.map fun data =>
      { vectored := true, bytes := writeStreamMessage data } := by
  induction calls generalizing state with
  | nil => rfl
  | cons data calls induction =>
      rw [writeCalls, ioWriteStreamNet, handshaked, List.map_cons]
      simp only [if_true, List.nil_append, List.singleton_append]
      rw [induction rfl]

/-- On a new connection one byte selects the service, then come the
messages. -/
theorem writeCalls_opened (data : List UInt8) (calls : List (List UInt8)) :
    writeCalls .opened (data :: calls) =
      { vectored := false, bytes := [CmdCallType.callWriteStream.code] } ::
        (data :: calls).map fun data =>
          { vectored := true, bytes := writeStreamMessage data } := by
  rw [writeCalls, ioWriteStreamNet, List.map_cons]
  simp only [NetDeviceState.opened, Bool.false_eq_true, if_false,
    List.cons_append, List.nil_append]
  rw [writeCalls_handshaked rfl]

theorem length_writeStreamMessage (data : List UInt8) :
    (writeStreamMessage data).length = 5 + data.length := by
  simp only [writeStreamMessage, List.length_append, List.length_singleton,
    length_littleEndian32]

end StreamIO.Net
