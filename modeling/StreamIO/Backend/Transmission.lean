import StreamIO.Library.TransitionSystem
import StreamIO.Net.StreamClient
import StreamIO.Backend.WriteServer

/-!
# A remote write stream and its device

The client, the connection, the server and the device behind it in one
system.  The client writes and synchronises when it likes, `recv` returns a
header field whole and a payload in any non-empty pieces that end in the
buffer, and the engine moves between any two calls.
-/

namespace StreamIO.Backend

open StreamIO.Library StreamIO.Driver StreamIO.Local StreamIO.Net

/-- How many bytes the `recv` at the program counter asks for. -/
def WriteServer.wanted (server : WriteServer) : Nat :=
  match server.pc with
  | .startCmd => 1
  | .size => 4
  | .payload => server.recvSize.toNat
  | .acknowledge => 0
  | .stopped => 0
  | .faulted => 0

/-- `client_stream_cmd_handle` over an open device: it reads the byte that
selects the service and enters the service. -/
inductive DeviceServer where
  | dispatching
  | writing (server : WriteServer)
  | elsewhere

/-- The channel of the device that the server has opened, and the initial
value of `start_cmd`. -/
structure DeviceSetting where
  channel : DmaProxyChannel
  startCmd : UInt8

namespace DeviceServer

/-- The byte that selects the service, and what the first
`io_stream_get_buffer` of the service meets. -/
def select (setting : DeviceSetting) (byte : UInt8) (script : WaitScript) :
    DeviceServer :=
  if byte = CmdCallType.callWriteStream.code then
    .writing (.enter setting.channel setting.startCmd script)
  else .elsewhere

def session (setting : DeviceSetting) : DeviceServer → Session
  | .dispatching => Session.start setting.channel
  | .writing server => server.session
  | .elsewhere => Session.start setting.channel

/-- The payload bytes received. -/
def received : DeviceServer → List UInt8
  | .dispatching => []
  | .writing server => server.received
  | .elsewhere => []

end DeviceServer

/-- Both ends of a write stream: the client, the payloads of its calls, the
bytes in flight and the server. -/
structure Transmission where
  client : NetDeviceState
  sent : List (List UInt8)
  inFlight : List UInt8
  server : DeviceServer

inductive TransmissionMove where
  | write (data : List UInt8)
  | sync
  | select (script : WaitScript)
  | receive (count : Nat) (response : SubmitResponse) (script : WaitScript)
  | acknowledge
  | engine (event : EngineEvent)

/-- No submission is refused, no wait runs out or is interrupted, no transfer
fails, and no piece of payload runs over the end of its buffer. -/
inductive TransmissionStep (setting : DeviceSetting) :
    Transmission → TransmissionMove → Transmission → Prop where
  | write {transmission : Transmission} (data : List UInt8) :
      data.length < 2 ^ 32 →
      TransmissionStep setting transmission (.write data)
        { transmission with
          client := (ioWriteStreamNet transmission.client data).1
          sent := transmission.sent ++ [data]
          inFlight := transmission.inFlight ++
            (ioWriteStreamNet transmission.client data).2.flatMap
              SocketWrite.bytes }
  | sync {transmission : Transmission} :
      TransmissionStep setting transmission .sync
        { transmission with
          client := ioSyncStreamDeviceNet transmission.client }
  | select {transmission : Transmission} {byte : UInt8}
      {rest : List UInt8} (script : WaitScript) :
      transmission.server = .dispatching →
      transmission.inFlight = byte :: rest →
      Prompt (Session.start setting.channel).channel
        (Session.start setting.channel).device.currentBufferId script →
      TransmissionStep setting transmission (.select script)
        { transmission with
          server := .select setting byte script
          inFlight := rest }
  | receive {transmission : Transmission} {server : WriteServer}
      (count : Nat) (response : SubmitResponse) (script : WaitScript) :
      transmission.server = .writing server →
      0 < count → count ≤ server.wanted →
      count ≤ transmission.inFlight.length →
      (server.pc ≠ .payload → count = server.wanted) →
      (server.pc = .payload →
        server.bufferPtr.toNat + count ≤ bufferSize) →
      server.Calm (.call (.received (transmission.inFlight.take count))
        response script) →
      TransmissionStep setting transmission (.receive count response script)
        { transmission with
          server := .writing (server.step (.call
            (.received (transmission.inFlight.take count)) response script))
          inFlight := transmission.inFlight.drop count }
  | acknowledge {transmission : Transmission} {server : WriteServer} :
      transmission.server = .writing server → server.pc = .acknowledge →
      TransmissionStep setting transmission .acknowledge
        { transmission with
          server := .writing (server.step (.call .sent .accepted {})) }
  | engine {transmission : Transmission} {server : WriteServer}
      (event : EngineEvent) :
      transmission.server = .writing server → Faultless event →
      TransmissionStep setting transmission (.engine event)
        { transmission with
          server := .writing (server.step (.engine event)) }

def transmissions (setting : DeviceSetting) :
    TransitionSystem Transmission TransmissionMove where
  step := TransmissionStep setting

/-- A new stream device of the client, and a server that has opened its
device. -/
def Transmission.opened : Transmission :=
  { client := .opened, sent := [], inFlight := [], server := .dispatching }

end StreamIO.Backend
