import StreamIO.Library.TransitionSystem
import StreamIO.Net.Call
import StreamIO.Net.Socket
import StreamIO.Local.Mapped

/-!
# The connection of a remote mapped device

`io_write_net` and `io_read_net` on one end, `client_mapped_cmd_handle` on
the other, and a byte queue in each direction.  Every `send` of the client is
a step of its own; every `recv` gets the whole field it asks for.
-/

namespace StreamIO.Backend

open StreamIO.Library StreamIO.Local StreamIO.Net

variable {Registers : Type u}

/-- The calls of `client_mapped_cmd_handle` that can block. -/
inductive MappedPc where
  | command
  | writeAddr
  | writeValue
  | readAddr
  | reply
  | closed
  deriving DecidableEq, Repr

/-- The server of a mapped channel; `addr` and `value` are the local variables
of `client_cmd_write` and `client_cmd_read`. -/
structure MappedServer (Registers : Type u) where
  pc : MappedPc
  addr : UInt32
  value : UInt32
  device : MappedDevice Registers

namespace MappedServer

/-- How many bytes the call at the program counter asks for. -/
def wanted (server : MappedServer Registers) : Nat :=
  match server.pc with
  | .command => 1
  | .writeAddr => 4
  | .writeValue => 4
  | .readAddr => 4
  | .reply => 0
  | .closed => 0

/-- The `switch` of `client_mapped_cmd_handle`. -/
def commandPc (cmd : UInt8) : MappedPc :=
  if cmd = CmdCallType.callWrite.code then .writeAddr
  else if cmd = CmdCallType.callRead.code then .readAddr
  else .command

/-- `read(sockfd, &cmd, sizeof(cmd))`; a closed connection ends the loop
around `client_mapped_cmd_handle`, a failure does not. -/
def receiveCommand (server : MappedServer Registers)
    (result : SocketResult) : MappedServer Registers :=
  match result with
  | .received [] => { server with pc := .closed }
  | .received (cmd :: _) => { server with pc := commandPc cmd }
  | .sent => server
  | .failed => server

/-- One blocking call and the code up to the next one. -/
def step (bus : RegisterBus Registers) (server : MappedServer Registers)
    (result : SocketResult) : MappedServer Registers :=
  match server.pc with
  | .command => server.receiveCommand result
  | .writeAddr =>
      { server with
        addr := receiveWord server.addr result, pc := .writeValue }
  | .writeValue =>
      let value := receiveWord server.value result
      { server with
        value := value
        device := ioWriteMappedDevice bus server.device server.addr value
        pc := .command }
  | .readAddr =>
      let addr := receiveWord server.addr result
      let (device, value) := ioReadMappedDevice bus server.device addr
      { pc := .reply, addr := addr, value := value, device := device }
  | .reply => { server with pc := .command }
  | .closed => server

end MappedServer

/-- The fields `io_write_net` and `io_read_net` send, one `send` each. -/
def callFields : MappedCall → List (List UInt8)
  | .write addr value =>
      [[CmdCallType.callWrite.code], littleEndian32 addr,
        littleEndian32 value]
  | .read addr => [[CmdCallType.callRead.code], littleEndian32 addr]

/-- Whether the call waits for a value. -/
def awaitsValue : MappedCall → Bool
  | .write _ _ => false
  | .read _ => true

/-- The client: the calls it has still to make, the fields of the current
call still to be sent, whether that call waits for its value, and the values
returned so far. -/
structure MappedClient where
  calls : List MappedCall
  fields : List (List UInt8)
  awaiting : Bool
  results : List UInt32

structure MappedConnection (Registers : Type u) where
  client : MappedClient
  toServer : List UInt8
  server : MappedServer Registers
  toClient : List UInt8

inductive MappedMove where
  | call
  | send
  | returns
  | receive
  | reply

inductive MappedStep (bus : RegisterBus Registers) :
    MappedConnection Registers → MappedMove →
      MappedConnection Registers → Prop where
  | call {connection : MappedConnection Registers} {call : MappedCall}
      {calls : List MappedCall} :
      connection.client.calls = call :: calls →
      connection.client.fields = [] →
      connection.client.awaiting = false →
      MappedStep bus connection .call
        { connection with
          client := { connection.client with
            calls := calls
            fields := callFields call
            awaiting := awaitsValue call } }
  | send {connection : MappedConnection Registers} {field : List UInt8}
      {fields : List (List UInt8)} :
      connection.client.fields = field :: fields →
      MappedStep bus connection .send
        { connection with
          client := { connection.client with fields := fields }
          toServer := connection.toServer ++ field }
  | returns {connection : MappedConnection Registers} :
      connection.client.fields = [] →
      connection.client.awaiting = true →
      4 ≤ connection.toClient.length →
      MappedStep bus connection .returns
        { connection with
          client := { connection.client with
            awaiting := false
            results := connection.client.results ++
              [ofLittleEndian32 (connection.toClient.take 4)] }
          toClient := connection.toClient.drop 4 }
  | receive {connection : MappedConnection Registers} :
      0 < connection.server.wanted →
      connection.server.wanted ≤ connection.toServer.length →
      MappedStep bus connection .receive
        { connection with
          toServer := connection.toServer.drop connection.server.wanted
          server := connection.server.step bus
            (.received (connection.toServer.take
              connection.server.wanted)) }
  | reply {connection : MappedConnection Registers} :
      connection.server.pc = .reply →
      MappedStep bus connection .reply
        { connection with
          server := connection.server.step bus .sent
          toClient := connection.toClient ++
            littleEndian32 connection.server.value }

def mappedConnections (bus : RegisterBus Registers) :
    TransitionSystem (MappedConnection Registers) MappedMove where
  step := MappedStep bus

/-- A mapped channel that has just been opened, and a client about to make
these calls.  The local variables of the server have arbitrary values. -/
def MappedConnection.opened (registers : Registers) (addr value : UInt32)
    (calls : List MappedCall) : MappedConnection Registers :=
  { client := { calls := calls, fields := [], awaiting := false,
                results := [] }
    toServer := []
    server := { pc := .command, addr := addr, value := value,
                device := ioAddMappedDevice registers }
    toClient := [] }

end StreamIO.Backend
