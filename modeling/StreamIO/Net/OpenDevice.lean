import StreamIO.Net.Frame
import StreamIO.Net.Socket

/-!
# Opening a remote device

`io_open_mapped_net` and `io_open_stream_net` on a socket that is connected:
`io_handshake` and after it `io_open_remote_device`.  One step is one call of
`send` or `recv`.
-/

namespace StreamIO.Net

open StreamIO.Library

/-- `cmd_channel_type`. -/
inductive ChannelType where
  | mapped
  | stream
  deriving DecidableEq, Repr

def ChannelType.code : ChannelType → UInt8
  | .mapped => 0
  | .stream => 1

/-- A C string without the byte that ends it. -/
structure DevicePath where
  bytes : List UInt8
  unended : 0 ∉ bytes

/-- A call of `io_open_mapped_net` or `io_open_stream_net`. -/
inductive OpenCall where
  | mapped (filePath : DevicePath) (size : UInt64)
  | stream (filePath : DevicePath)

namespace OpenCall

def channel : OpenCall → ChannelType
  | .mapped _ _ => .mapped
  | .stream _ => .stream

def filePath : OpenCall → DevicePath
  | .mapped filePath _ => filePath
  | .stream filePath => filePath

/-- The size passed to `io_open_remote_device`. -/
def size : OpenCall → UInt64
  | .mapped _ size => size
  | .stream _ => 0

/-- `path_len`. -/
def pathLen (call : OpenCall) : UInt32 :=
  UInt32.ofNat call.filePath.bytes.length

end OpenCall

/-- The calls at which the client can stand; at the end, the remote descriptor
of its device, or `NULL`. -/
inductive OpenPc where
  | sendHandshake
  | receiveAck
  | sendPathLen
  | sendPath
  | sendSize
  | receiveFd
  | returned (device : Option UInt32)
  deriving DecidableEq, Repr

namespace OpenPc

/-- The bytes the next call sends, and where the client is after it. -/
def send (call : OpenCall) (padding : Padding) :
    OpenPc → Option (List UInt8 × OpenPc)
  | .sendHandshake => some (headed call.channel.code padding, .receiveAck)
  | .sendPathLen => some (littleEndian32 call.pathLen, .sendPath)
  | .sendPath =>
      some (call.filePath.bytes.take call.pathLen.toNat, .sendSize)
  | .sendSize => some (littleEndian64 call.size, .receiveFd)
  | _ => none

/-- The next call is a `recv`; both ask for four bytes. -/
def Receives : OpenPc → Prop
  | .receiveAck => True
  | .receiveFd => True
  | _ => False

/-- `fd <= 0`, for an `int`. -/
def nonpositive (fd : UInt32) : Prop :=
  fd = 0 ∨ 2147483648 ≤ fd.toNat

instance (fd : UInt32) : Decidable (nonpositive fd) :=
  inferInstanceAs (Decidable (_ ∨ _))

/-- The `recv` stores these bytes; `fd` is not initialised before. -/
def receive (fd : UInt32) (bytes : List UInt8) : OpenPc → OpenPc
  | .receiveAck =>
      if bytes = [] ∨
          receiveWord 0 (.received bytes) ≠ handshakeHeader then
        .returned none
      else .sendPathLen
  | .receiveFd =>
      let fd := receiveWord fd (.received bytes)
      if bytes = [] ∨ nonpositive fd then .returned none
      else .returned (some fd)
  | pc => pc

end OpenPc

end StreamIO.Net
