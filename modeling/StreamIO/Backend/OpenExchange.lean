import StreamIO.Library.TransitionSystem
import StreamIO.Net.OpenDevice
import StreamIO.Backend.Task

/-!
# A client that opens a device

The client of `OpenDevice` and the worker that serves its connection, with a
byte queue in each direction and in any order of steps.  The worker runs
`start_task`; `client_mapped_channel` and `client_stream_channel` are the
services that a handshake asks for.
-/

namespace StreamIO.Backend

open StreamIO.Library StreamIO.Net

/-- Where the worker of a connection stands: in `start_task`, in one of the
two channel services, or after them. -/
inductive WorkerPc where
  | peek
  | handle (frame : List UInt8)
  | receive (frame : List UInt8)
  | finishHandshake (channel : ChannelType)
  | pathLen (channel : ChannelType)
  | devPath (channel : ChannelType) (pathLen : UInt32)
  | mapSize (channel : ChannelType) (devPath : List UInt8)
  | addDevice (channel : ChannelType) (devPath : List UInt8)
  | commands (channel : ChannelType) (devPath : List UInt8)
  | returned
  | faulted
  deriving DecidableEq, Repr

/-- What an exchange depends on: the call of the client, the contents of
variables and padding that are not initialised, and the descriptors of the
paths the server can open. -/
structure OpenSetting where
  call : OpenCall
  handshakePadding : Padding
  fd : UInt32
  stack : TaskStack
  replyPadding : Nat → Padding
  pathLen : UInt32
  openLocal : ChannelType → List UInt8 → Option UInt32

/-- The two ends and the two queues.  `calls` counts the calls of
`handle_context`, `added` is the device a channel service has asked for. -/
structure OpenExchange where
  client : OpenPc
  toServer : List UInt8
  worker : WorkerPc
  server : ContextServer
  calls : Nat
  added : Option (ChannelType × List UInt8)
  toClient : List UInt8

namespace OpenExchange

variable (setting : OpenSetting)

/-- What the worker can receive. -/
def inbound (exchange : OpenExchange) : Inbound :=
  { stream := exchange.toServer, closed := false }

/-- The frame sent back for an action. -/
def reply (padding : Padding) : ContextAction → List UInt8
  | .opened index =>
      headed (frameOpOpen ||| frameDevCtx) padding ++
        littleEndian32 (UInt32.ofNat index)
  | .refused => []
  | .attempted _ => []

/-- One step of the worker; `none` when it blocks or has ended. -/
def workerStep (exchange : OpenExchange) : Option OpenExchange :=
  match exchange.worker with
  | .peek =>
      (exchange.inbound.peek 8).map fun bytes =>
        let frame := overwrite (List.ofFn setting.stack.frameTop) bytes
        { exchange with
          worker := if frameOp frame &&& 0xf0 = frameDevCtx then
            .handle frame else .returned }
  | .handle frame =>
      (handleContext exchange.server
        (List.ofFn (setting.stack.clientFrame exchange.calls))
        exchange.inbound frame).map fun (handled : Handled) =>
          { exchange with
            server := handled.server
            toServer := handled.inbound.stream
            calls := exchange.calls + 1
            toClient := exchange.toClient ++
              handled.actions.flatMap
                (reply (setting.replyPadding exchange.calls))
            worker := if handled.result < 0 then .returned
              else .receive frame }
  | .receive frame =>
      (exchange.inbound.recv 8).map fun (bytes, inbound) =>
        { exchange with
          toServer := inbound.stream
          worker := if bytes = [] then .returned
            else .handle (overwrite frame bytes) }
  | .finishHandshake channel =>
      some { exchange with
        toClient := exchange.toClient ++ littleEndian32 handshakeHeader
        worker := .pathLen channel }
  | .pathLen channel =>
      (exchange.inbound.recv 4).map fun (bytes, inbound) =>
        { exchange with
          toServer := inbound.stream
          worker := .devPath channel
            (receiveWord setting.pathLen (.received bytes)) }
  | .devPath channel pathLen =>
      if pathLen = 0 then
        some { exchange with worker := .mapSize channel [] }
      else
        (exchange.inbound.recv pathLen.toNat).map fun (bytes, inbound) =>
          { exchange with
            toServer := inbound.stream
            worker := .mapSize channel bytes }
  | .mapSize channel devPath =>
      (exchange.inbound.recv 8).map fun (_, inbound) =>
        { exchange with
          toServer := inbound.stream
          worker := .addDevice channel devPath }
  | .addDevice channel devPath =>
      match setting.openLocal channel devPath with
      | some fd =>
          some { exchange with
            added := some (channel, devPath)
            toClient := exchange.toClient ++ littleEndian32 fd
            worker := .commands channel devPath }
      | none =>
          some { exchange with
            added := some (channel, devPath)
            worker := .faulted }
  | .commands _ _ => none
  | .returned => none
  | .faulted => none

end OpenExchange

inductive OpenMove where
  | send
  | receive
  | serve

inductive OpenStep (setting : OpenSetting) :
    OpenExchange → OpenMove → OpenExchange → Prop where
  | send {exchange : OpenExchange} {bytes : List UInt8} {client : OpenPc} :
      exchange.client.send setting.call setting.handshakePadding =
        some (bytes, client) →
      OpenStep setting exchange .send
        { exchange with
          client := client
          toServer := exchange.toServer ++ bytes }
  | receive {exchange : OpenExchange} :
      exchange.client.Receives →
      exchange.toClient ≠ [] →
      OpenStep setting exchange .receive
        { exchange with
          client := exchange.client.receive setting.fd
            (exchange.toClient.take 4)
          toClient := exchange.toClient.drop 4 }
  | serve {exchange next : OpenExchange} :
      exchange.workerStep setting = some next →
      OpenStep setting exchange .serve next

def openExchanges (setting : OpenSetting) :
    TransitionSystem OpenExchange OpenMove where
  step := OpenStep setting

/-- The client has connected, and a worker has taken the connection. -/
def OpenExchange.connected (server : ContextServer) : OpenExchange :=
  { client := .sendHandshake, toServer := [], worker := .peek,
    server := server, calls := 0, added := none, toClient := [] }

/-- The exchange has ended as the two ends mean it to: the channel service of
the call has taken the path, no context has been made, and the client has a
device exactly when the server can open the path. -/
structure OpenExchange.Agreed (setting : OpenSetting)
    (server : ContextServer) (exchange : OpenExchange) : Prop where
  routed : exchange.added =
    some (setting.call.channel, setting.call.filePath.bytes)
  noContext : exchange.server.created = server.created ∧
    exchange.server.openedCtxList = server.openedCtxList
  device : (∃ fd, exchange.client = .returned (some fd)) ↔
    (setting.openLocal setting.call.channel
      setting.call.filePath.bytes).isSome

/-- Whatever the order of steps, an exchange that has come to rest has ended
in agreement. -/
def OpensInAgreement (setting : OpenSetting) (server : ContextServer) :
    Prop :=
  ∀ exchange, (openExchanges setting).Reachable (.connected server)
      exchange →
    (openExchanges setting).Stuck exchange →
    exchange.Agreed setting server

end StreamIO.Backend
