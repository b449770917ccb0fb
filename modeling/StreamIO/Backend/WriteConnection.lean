import StreamIO.Library.TransitionSystem
import StreamIO.Net.StreamClient
import StreamIO.Backend.WriteStream

/-!
# The connection of a remote write stream

Client and server of a write stream joined by two byte queues of bounded
capacity.  A write blocks while its queue is full, `recv` blocks while its
queue is empty and returns at least one byte.  The client never reads the
acknowledgements.
-/

namespace StreamIO.Backend

open StreamIO.Library StreamIO.Driver StreamIO.Net

/-- How many bytes the `recv` at the program counter asks for. -/
def WriteStream.wanted (state : WriteStream) : Nat :=
  match state.pc with
  | .startCmd => 1
  | .size => 4
  | .payload => state.recvSize.toNat
  | .acknowledge => 0
  | .stopped => 0
  | .faulted => 0

/-- `client_stream_cmd_handle`: it reads the byte that selects the service
and enters the service. -/
inductive StreamServer where
  | dispatching
  | writing (state : WriteStream)
  | elsewhere

/-- What the server needs from outside: the buffers it is given and the
initial value of `start_cmd`. -/
structure ServerSetting where
  buffers : Nat → Option ByteMemory
  startCmd : UInt8

namespace StreamServer

def wanted : StreamServer → Nat
  | .dispatching => 1
  | .writing state => state.wanted
  | .elsewhere => 0

/-- A `recv` returns these bytes. -/
def receive (setting : ServerSetting) (bytes : List UInt8) :
    StreamServer → StreamServer
  | .dispatching =>
      if bytes.head? = some CmdCallType.callWriteStream.code then
        .writing (.enter setting.buffers setting.startCmd)
      else .elsewhere
  | .writing state => .writing (state.step setting.buffers (.received bytes))
  | .elsewhere => .elsewhere

/-- The server stands at the `send` of its acknowledgement. -/
def Acknowledging : StreamServer → Prop
  | .writing state => state.pc = .acknowledge
  | _ => False

instance : DecidablePred Acknowledging
  | .writing state => inferInstanceAs (Decidable (state.pc = .acknowledge))
  | .dispatching => isFalse id
  | .elsewhere => isFalse id

/-- The acknowledgement is sent. -/
def acknowledge (setting : ServerSetting) : StreamServer → StreamServer
  | .writing state => .writing (state.step setting.buffers .sent)
  | server => server

end StreamServer

/-- A connection: the writes the client has still to do, the two queues, and
the server. -/
structure Connection where
  writes : List SocketWrite
  toServer : List UInt8
  server : StreamServer
  toClient : List UInt8

/-- The capacities of the two queues. -/
structure Capacities where
  toServer : Nat
  toClient : Nat

inductive ConnectionMove where
  | write
  | receive (count : Nat)
  | acknowledge

/-- The writes left after one byte of the first one. -/
def afterByte (vectored : Bool) (bytes : List UInt8)
    (rest : List SocketWrite) : List SocketWrite :=
  if bytes = [] then rest
  else { vectored := vectored, bytes := bytes } :: rest

inductive ConnectionStep (setting : ServerSetting) (capacities : Capacities) :
    Connection → ConnectionMove → Connection → Prop where
  | write {connection : Connection} {vectored : Bool} {byte : UInt8}
      {bytes : List UInt8} {rest : List SocketWrite} :
      connection.writes =
        { vectored := vectored, bytes := byte :: bytes } :: rest →
      connection.toServer.length < capacities.toServer →
      ConnectionStep setting capacities connection .write
        { connection with
          writes := afterByte vectored bytes rest
          toServer := connection.toServer ++ [byte] }
  | receive {connection : Connection} (count : Nat) :
      0 < count → count ≤ connection.server.wanted →
      count ≤ connection.toServer.length →
      ConnectionStep setting capacities connection (.receive count)
        { connection with
          toServer := connection.toServer.drop count
          server := connection.server.receive setting
            (connection.toServer.take count) }
  | acknowledge {connection : Connection} :
      connection.server.Acknowledging →
      connection.toClient.length < capacities.toClient →
      ConnectionStep setting capacities connection .acknowledge
        { connection with
          server := connection.server.acknowledge setting
          toClient := connection.toClient ++ [1] }

def connections (setting : ServerSetting) (capacities : Capacities) :
    TransitionSystem Connection ConnectionMove where
  step := ConnectionStep setting capacities

namespace Connection

/-- A connection on which the client is about to make these calls. -/
def opened (calls : List (List UInt8)) : Connection :=
  { writes := writeCalls .opened calls, toServer := [],
    server := .dispatching, toClient := [] }

/-- What the client has still to write. -/
def unwritten (connection : Connection) : List UInt8 :=
  connection.writes.flatMap SocketWrite.bytes

/-- What the server has still to receive. -/
def unreceived (connection : Connection) : List UInt8 :=
  connection.toServer ++ connection.unwritten

/-- The client is blocked in `writev` and the server in the `send` of its
acknowledgement. -/
def Deadlocked (capacities : Capacities) (connection : Connection) : Prop :=
  (∃ bytes rest, bytes ≠ [] ∧ connection.writes =
      { vectored := true, bytes := bytes } :: rest) ∧
    connection.toServer.length = capacities.toServer ∧
    connection.server.Acknowledging ∧
    connection.toClient.length = capacities.toClient

end Connection

/-- The server by itself, with the bytes it will receive and the number of
acknowledgements it has sent. -/
structure ServerAlone where
  server : StreamServer
  stream : List UInt8
  acknowledged : Nat

/-- `recv` cuts the stream into pieces that fit the queue. -/
inductive ServerAloneStep (setting : ServerSetting)
    (capacities : Capacities) :
    ServerAlone → ConnectionMove → ServerAlone → Prop where
  | receive {alone : ServerAlone} (count : Nat) :
      0 < count → count ≤ alone.server.wanted →
      count ≤ alone.stream.length → count ≤ capacities.toServer →
      ServerAloneStep setting capacities alone (.receive count)
        { alone with
          server := alone.server.receive setting (alone.stream.take count)
          stream := alone.stream.drop count }
  | acknowledge {alone : ServerAlone} :
      alone.server.Acknowledging →
      alone.acknowledged < capacities.toClient →
      ServerAloneStep setting capacities alone .acknowledge
        { alone with
          server := alone.server.acknowledge setting
          acknowledged := alone.acknowledged + 1 }

def serversAlone (setting : ServerSetting) (capacities : Capacities) :
    TransitionSystem ServerAlone ConnectionMove where
  step := ServerAloneStep setting capacities

namespace ServerAlone

/-- The server before the bytes of these calls. -/
def opened (calls : List (List UInt8)) : ServerAlone :=
  { server := .dispatching
    stream := (writeCalls .opened calls).flatMap SocketWrite.bytes
    acknowledged := 0 }

/-- The server has one acknowledgement more to send than the queue holds, and
the bytes still to come do not fit the other queue. -/
def Overcommitted (capacities : Capacities) (alone : ServerAlone) : Prop :=
  alone.server.Acknowledging ∧ alone.acknowledged = capacities.toClient ∧
    capacities.toServer < alone.stream.length

end ServerAlone

end StreamIO.Backend
