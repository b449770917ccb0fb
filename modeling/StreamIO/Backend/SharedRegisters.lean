import StreamIO.Library.SerialHistory
import StreamIO.Library.Tally
import StreamIO.Backend.MappedSimulation
import StreamIO.Local.RegisterFile

/-!
# Clients that share the registers

Every client of the server has a mapped channel of its own, served by a
thread with a mapping of its own; behind all the mappings are the same
registers.  Whatever the order of the steps, the accesses have one serial
order that keeps the order of every client and explains every value read.
-/

namespace StreamIO.Backend

open StreamIO.Library StreamIO.Local StreamIO.Net

variable {Client : Type v} {Registers : Type u} {bus : RegisterBus Registers}

/-- The channel, its mapping showing these registers. -/
def MappedConnection.withRegisters (connection : MappedConnection Registers)
    (registers : Registers) : MappedConnection Registers :=
  { connection with
    server := { connection.server with
      device := { connection.server.device with registers := registers } } }

/-- The call a move of the server carries out: `io_write_mapped_device`
follows the value of a write, `io_read_mapped_device` the address of a read. -/
def carriedOut (move : MappedMove) (before after : MappedServer Registers) :
    List MappedCall :=
  match move, before.pc with
  | .receive, .writeValue => [.write after.addr after.value]
  | .receive, .readAddr => [.read after.addr]
  | _, _ => []

/-- `served` are the calls carried out so far, in their order. -/
structure SharedChannels (Client : Type v) (Registers : Type u) where
  registers : Registers
  channel : Client → MappedConnection Registers
  served : List (Client × MappedCall)

namespace SharedChannels

def opened (registers : Registers) (addr value : Client → UInt32)
    (calls : Client → List MappedCall) : SharedChannels Client Registers :=
  { registers := registers
    channel := fun client =>
      .opened registers (addr client) (value client) (calls client)
    served := [] }

variable [DecidableEq Client]

/-- A move has brought the channel of the client to this state. -/
def moved (channels : SharedChannels Client Registers) (client : Client)
    (move : MappedMove) (connection : MappedConnection Registers) :
    SharedChannels Client Registers :=
  { registers := connection.server.device.registers
    channel := Function.update channels.channel client connection
    served := channels.served ++
      (carriedOut move (channels.channel client).server
        connection.server).map (Prod.mk client) }

end SharedChannels

/-- Any client or the thread that serves it may move. -/
def sharedChannels [DecidableEq Client] (bus : RegisterBus Registers) :
    TransitionSystem (SharedChannels Client Registers)
      (Client × MappedMove) where
  step channels label next :=
    ∃ connection,
      MappedStep bus
        ((channels.channel label.1).withRegisters channels.registers)
        label.2 connection ∧
      next = channels.moved label.1 label.2 connection

section Direct

variable (bus : RegisterBus Registers) (device : MappedDevice Registers)

theorem directRun_single (call : MappedCall) :
    directRun bus device [call] = directCall bus device call := by
  rw [directRun_cons]
  simp [directRun]

theorem length_directRun (calls : List MappedCall) :
    (directRun bus device calls).2.length =
      (calls.filter awaitsValue).length := by
  induction calls generalizing device with
  | nil => rfl
  | cons call calls induction =>
      rw [directRun_cons, List.length_append, induction]
      cases call with
      | write addr value => simp [directCall, awaitsValue]
      | read addr =>
          rw [List.filter_cons_of_pos rfl, List.length_cons, Nat.add_comm]
          rfl

theorem directCall_opened
    (opened : device = ioAddMappedDevice device.registers)
    (call : MappedCall) :
    (directCall bus device call).1 =
      ioAddMappedDevice (directCall bus device call).1.registers := by
  rw [opened]
  cases call with
  | write addr value =>
      simp only [directCall, ioWriteLocal]
      split
      · rfl
      · rfl
  | read addr =>
      simp only [directCall, ioReadLocal]
      split
      · rfl
      · rfl

theorem directRun_opened
    (opened : device = ioAddMappedDevice device.registers)
    (calls : List MappedCall) :
    (directRun bus device calls).1 =
      ioAddMappedDevice (directRun bus device calls).1.registers := by
  induction calls generalizing device with
  | nil => exact opened
  | cons call calls induction =>
      rw [directRun_cons]
      exact induction _ (directCall_opened bus device opened call)

theorem serialRun_client (client : Client) (calls : List MappedCall) :
    serialRun (directCall bus) device (calls.map (Prod.mk client)) =
      ((directRun bus device calls).1,
        (directRun bus device calls).2.map (Prod.mk client)) := by
  induction calls generalizing device with
  | nil => rfl
  | cons call calls induction =>
      rw [List.map_cons, serialRun_cons, induction, directRun_cons,
        List.map_append]

end Direct

/-- What a received field does to the calls in flight: the ones carried out
are the first of them. -/
structure FieldCarried (bus : RegisterBus Registers)
    (before after : MappedServer Registers) (bytes : List UInt8)
    (calls carried rest : List MappedCall) : Prop where
  order : calls = carried ++ rest
  parsing : InFlight after bytes rest
  device : after.device = (directRun bus before.device carried).1
  values : replying after =
    replying before ++ (directRun bus before.device carried).2

section Fields

variable {server : MappedServer Registers} {queue unsent : List UInt8}
  {calls : List MappedCall}

theorem command_silent (bus : RegisterBus Registers)
    (pc : server.pc = .command) (bytes : List UInt8) :
    (server.step bus (.received bytes)).device = server.device ∧
      replying (server.step bus (.received bytes)) = [] := by
  simp only [MappedServer.step, pc]
  cases bytes with
  | nil => simp [MappedServer.receiveCommand, replying]
  | cons cmd bytes =>
      simp only [MappedServer.receiveCommand, MappedServer.commandPc,
        replying]
      split
      · simp
      · split
        · simp
        · simp

theorem carry_command (pc : server.pc = .command)
    (mapped : server.device.type = .mappedDevice)
    (inFlight : InFlight server (queue ++ unsent) calls)
    (available : 1 ≤ queue.length) :
    FieldCarried bus server (server.step bus (.received (queue.take 1)))
      (queue.drop 1 ++ unsent) calls [] calls := by
  have bytes : queue ++ unsent = requests calls := by
    simpa only [InFlight, pc] using inFlight
  obtain ⟨same, silent⟩ := command_silent bus pc (queue.take 1)
  have received : FieldReceived bus server _ _ calls calls :=
    receive_command pc mapped bytes available
  refine ⟨rfl, received.parsing, same, ?_⟩
  rw [silent]
  simp [replying, pc, directRun]

theorem carry_writeAddr (pc : server.pc = .writeAddr)
    (mapped : server.device.type = .mappedDevice)
    (inFlight : InFlight server (queue ++ unsent) calls)
    (available : 4 ≤ queue.length) :
    FieldCarried bus server (server.step bus (.received (queue.take 4)))
      (queue.drop 4 ++ unsent) calls [] calls := by
  have received : FieldReceived bus server _ _ calls calls :=
    receive_writeAddr pc mapped inFlight available
  refine ⟨rfl, received.parsing, ?_, ?_⟩
  · simp [MappedServer.step, pc, directRun]
  · simp [MappedServer.step, replying, pc, directRun]

theorem carry_writeValue (pc : server.pc = .writeValue)
    (mapped : server.device.type = .mappedDevice)
    (inFlight : InFlight server (queue ++ unsent) calls)
    (available : 4 ≤ queue.length) :
    ∃ rest, FieldCarried bus server
      (server.step bus (.received (queue.take 4))) (queue.drop 4 ++ unsent)
      calls
      [.write server.addr
        (server.step bus (.received (queue.take 4))).value] rest := by
  simp only [InFlight, pc] at inFlight
  obtain ⟨value, later, bytes, rfl⟩ := inFlight
  obtain ⟨taken, rest⟩ := take_field bytes available
  have next : server.step bus (.received (queue.take 4)) =
      { server with
        value := value
        device := ioWriteLocal bus server.device server.addr value
        pc := .command } := by
    rw [show queue.take 4 = littleEndian32 value from taken]
    simp only [MappedServer.step, pc, receiveWord_whole,
      ioWriteMappedDevice, mapped, if_true]
  rw [next]
  refine ⟨later, rfl, rest, ?_, ?_⟩
  · rw [directRun_single]
    rfl
  · rw [directRun_single]
    simp [replying, pc, directCall]

theorem carry_readAddr (pc : server.pc = .readAddr)
    (inFlight : InFlight server (queue ++ unsent) calls)
    (available : 4 ≤ queue.length) :
    ∃ rest, FieldCarried bus server
      (server.step bus (.received (queue.take 4))) (queue.drop 4 ++ unsent)
      calls [.read (server.step bus (.received (queue.take 4))).addr]
      rest := by
  simp only [InFlight, pc] at inFlight
  obtain ⟨addr, later, bytes, rfl⟩ := inFlight
  obtain ⟨taken, rest⟩ := take_field bytes available
  have next : server.step bus (.received (queue.take 4)) =
      { pc := .reply
        addr := addr
        value := (ioReadLocal bus server.device addr).2
        device := (ioReadLocal bus server.device addr).1 } := by
    rw [show queue.take 4 = littleEndian32 addr from taken]
    simp only [MappedServer.step, pc, receiveWord_whole, ioReadMappedDevice]
  rw [next]
  refine ⟨later, rfl, rest, ?_, ?_⟩
  · rw [directRun_single]
    rfl
  · rw [directRun_single]
    simp [replying, pc, directCall]

/-- The server receives the field it waits for and carries out the call that
the field completes. -/
theorem FieldCarried.of_inFlight (bus : RegisterBus Registers)
    (inFlight : InFlight server (queue ++ unsent) calls)
    (mapped : server.device.type = .mappedDevice)
    (waiting : 0 < server.wanted)
    (available : server.wanted ≤ queue.length) :
    ∃ rest, FieldCarried bus server
      (server.step bus (.received (queue.take server.wanted)))
      (queue.drop server.wanted ++ unsent) calls
      (carriedOut .receive server
        (server.step bus (.received (queue.take server.wanted)))) rest := by
  cases pc : server.pc with
  | command =>
      simp only [MappedServer.wanted, carriedOut, pc] at available ⊢
      exact ⟨calls, carry_command pc mapped inFlight available⟩
  | writeAddr =>
      simp only [MappedServer.wanted, carriedOut, pc] at available ⊢
      exact ⟨calls, carry_writeAddr pc mapped inFlight available⟩
  | writeValue =>
      simp only [MappedServer.wanted, pc] at available ⊢
      have sameAddr : (server.step bus (.received (queue.take 4))).addr =
          server.addr := by
        simp only [MappedServer.step, pc]
      simp only [carriedOut, pc, sameAddr]
      exact carry_writeValue pc mapped inFlight available
  | readAddr =>
      simp only [MappedServer.wanted, pc] at available ⊢
      simp only [carriedOut, pc]
      exact carry_readAddr pc inFlight available
  | reply => simp [MappedServer.wanted, pc] at waiting
  | closed => simp [MappedServer.wanted, pc] at waiting

end Fields

/-- A server that waits in vain is at the start of a command, and nothing is
in flight. -/
theorem InFlight.starved {server : MappedServer Registers}
    {queue : List UInt8} {calls : List MappedCall}
    (inFlight : InFlight server queue calls)
    (waits : 0 < server.wanted → queue.length < server.wanted)
    (notReply : server.pc ≠ .reply) :
    replying server = [] ∧ calls = [] := by
  refine ⟨if_neg notReply, ?_⟩
  cases pc : server.pc with
  | command =>
      simp only [MappedServer.wanted, pc] at waits
      have empty : queue = [] := List.length_eq_zero_iff.mp (by omega)
      apply requests_eq_nil
      simp only [InFlight, pc] at inFlight
      rw [← inFlight, empty]
  | writeAddr =>
      simp only [InFlight, pc] at inFlight
      obtain ⟨addr, value, later, bytes, _⟩ := inFlight
      simp only [MappedServer.wanted, pc, bytes, List.length_append,
        length_littleEndian32] at waits
      omega
  | writeValue =>
      simp only [InFlight, pc] at inFlight
      obtain ⟨value, later, bytes, _⟩ := inFlight
      simp only [MappedServer.wanted, pc, bytes, List.length_append,
        length_littleEndian32] at waits
      omega
  | readAddr =>
      simp only [InFlight, pc] at inFlight
      obtain ⟨addr, later, bytes, _⟩ := inFlight
      simp only [MappedServer.wanted, pc, bytes, List.length_append,
        length_littleEndian32] at waits
      omega
  | reply => exact (notReply pc).elim
  | closed => simp [InFlight, pc] at inFlight

/-- The calls of one client: those carried out, which have given these
values, those in flight and those to be made. -/
structure Carries (calls carried : List MappedCall) (values : List UInt32)
    (inFlight : List MappedCall) (replies : List UInt32)
    (connection : MappedConnection Registers) : Prop where
  order : calls = carried ++ (inFlight ++ connection.client.calls)
  parsing : InFlight connection.server
    (connection.toServer ++ connection.client.fields.flatten) inFlight
  device : connection.server.device =
    ioAddMappedDevice connection.server.device.registers
  toClient : connection.toClient = replies.flatMap littleEndian32
  returned : connection.client.results ++
    (replies ++ replying connection.server) = values
  outstanding : replies.length + (replying connection.server).length +
      (inFlight.filter awaitsValue).length =
    if connection.client.awaiting then 1 else 0

namespace Carries

variable {calls carried : List MappedCall} {values : List UInt32}
  {inFlight : List MappedCall} {replies : List UInt32}
  {connection next : MappedConnection Registers} {move : MappedMove}

theorem opened (registers : Registers) (addr value : UInt32)
    (calls : List MappedCall) :
    Carries calls [] [] [] [] (.opened registers addr value calls) :=
  ⟨rfl, rfl, rfl, rfl, rfl, rfl⟩

theorem withRegisters
    (carries : Carries calls carried values inFlight replies connection)
    (registers : Registers) :
    Carries calls carried values inFlight replies
        (connection.withRegisters registers) ∧
      (connection.withRegisters registers).server.device =
        ioAddMappedDevice registers := by
  have device : (connection.withRegisters registers).server.device =
      ioAddMappedDevice registers := by
    rw [MappedConnection.withRegisters, carries.device]
    rfl
  have parsing : InFlight (connection.withRegisters registers).server
      (connection.toServer ++ connection.client.fields.flatten) inFlight :=
    carries.parsing
  refine ⟨⟨carries.order, parsing, ?_, carries.toClient, carries.returned,
    carries.outstanding⟩, device⟩
  rw [device]
  rfl

theorem call {call : MappedCall} {later : List MappedCall}
    (carries : Carries calls carried values inFlight replies connection)
    (next : connection.client.calls = call :: later)
    (sent : connection.client.fields = [])
    (idle : connection.client.awaiting = false) :
    Carries calls carried values (inFlight ++ [call]) replies
      { connection with
        client := { connection.client with
          calls := later
          fields := callFields call
          awaiting := awaitsValue call } } := by
  have parsing := carries.parsing
  rw [sent, List.flatten_nil, List.append_nil] at parsing
  have outstanding := carries.outstanding
  rw [idle] at outstanding
  refine ⟨?_, parsing.append call, carries.device, carries.toClient,
    carries.returned, ?_⟩
  · rw [carries.order, next, List.append_assoc, List.singleton_append]
  · rw [List.filter_append, List.length_append, ← Nat.add_assoc, outstanding]
    cases call with
    | write addr value => rfl
    | read addr => rfl

theorem send {field : List UInt8} {fields : List (List UInt8)}
    (carries : Carries calls carried values inFlight replies connection)
    (next : connection.client.fields = field :: fields) :
    Carries calls carried values inFlight replies
      { connection with
        client := { connection.client with fields := fields }
        toServer := connection.toServer ++ field } := by
  have parsing := carries.parsing
  rw [next, List.flatten_cons, ← List.append_assoc] at parsing
  exact ⟨carries.order, parsing, carries.device, carries.toClient,
    carries.returned, carries.outstanding⟩

theorem returns
    (carries : Carries calls carried values inFlight replies connection)
    (awaiting : connection.client.awaiting = true)
    (available : 4 ≤ connection.toClient.length) :
    ∃ rest, Carries calls carried values inFlight rest
      { connection with
        client := { connection.client with
          awaiting := false
          results := connection.client.results ++
            [ofLittleEndian32 (connection.toClient.take 4)] }
        toClient := connection.toClient.drop 4 } := by
  cases replies with
  | nil =>
      rw [carries.toClient] at available
      simp at available
  | cons value rest =>
      have queue : connection.toClient ++ [] =
          littleEndian32 value ++ rest.flatMap littleEndian32 := by
        rw [List.append_nil, carries.toClient, List.flatMap_cons]
      obtain ⟨taken, dropped⟩ := take_field queue available
      rw [List.append_nil] at dropped
      have outstanding := carries.outstanding
      rw [awaiting, List.length_cons, if_pos rfl] at outstanding
      refine ⟨rest, carries.order, carries.parsing, carries.device, dropped,
        ?_, ?_⟩
      · rw [show connection.toClient.take 4 = littleEndian32 value from
            taken, ofLittleEndian32_littleEndian32, ← carries.returned,
          List.append_assoc]
        rfl
      · simp only [Bool.false_eq_true, if_false]
        omega

theorem reply
    (carries : Carries calls carried values inFlight replies connection)
    (ready : connection.server.pc = .reply) :
    Carries calls carried values inFlight
      (replies ++ [connection.server.value])
      { connection with
        server := connection.server.step bus .sent
        toClient := connection.toClient ++
          littleEndian32 connection.server.value } := by
  have next : connection.server.step bus .sent =
      { connection.server with pc := .command } := by
    simp only [MappedServer.step, ready]
  have parsing := carries.parsing
  have returned := carries.returned
  have outstanding := carries.outstanding
  simp only [InFlight, ready] at parsing
  simp only [replying, ready, if_true] at returned
  simp only [replying, ready, if_true, List.length_singleton] at outstanding
  rw [next]
  refine ⟨carries.order, parsing, carries.device, ?_, ?_, ?_⟩
  · rw [carries.toClient, List.flatMap_append]
    simp
  · simp only [replying, reduceCtorEq, if_false, List.append_nil]
    exact returned
  · simp only [replying, reduceCtorEq, if_false, List.length_append,
      List.length_singleton, List.length_nil]
    omega

theorem receive (bus : RegisterBus Registers)
    (carries : Carries calls carried values inFlight replies connection)
    {server : MappedServer Registers} {toServer : List UInt8}
    {now rest : List MappedCall}
    (field : FieldCarried bus connection.server server
      (toServer ++ connection.client.fields.flatten) inFlight now rest) :
    Carries calls (carried ++ now)
      (values ++ (directRun bus connection.server.device now).2) rest
      replies { connection with toServer := toServer, server := server } := by
  have outstanding := carries.outstanding
  rw [field.order, List.filter_append, List.length_append,
    ← length_directRun bus connection.server.device] at outstanding
  refine ⟨?_, field.parsing, ?_, carries.toClient, ?_, ?_⟩
  · rw [carries.order, field.order]
    simp only [List.append_assoc]
  · rw [field.device]
    exact directRun_opened bus _ carries.device now
  · rw [field.values, ← carries.returned]
    simp only [List.append_assoc]
  · rw [← outstanding, field.values, List.length_append]
    omega

/-- What a move carries out happens to the registers as they are. -/
theorem step
    (carries : Carries calls carried values inFlight replies connection)
    (step : MappedStep bus connection move next) :
    next.server.device =
        (directRun bus connection.server.device
          (carriedOut move connection.server next.server)).1 ∧
      ∃ inFlight' replies', Carries calls
        (carried ++ carriedOut move connection.server next.server)
        (values ++ (directRun bus connection.server.device
          (carriedOut move connection.server next.server)).2)
        inFlight' replies' next := by
  cases step with
  | call next sent idle =>
      simp only [carriedOut, directRun, List.append_nil]
      exact ⟨trivial, _, _, carries.call next sent idle⟩
  | send next =>
      simp only [carriedOut, directRun, List.append_nil]
      exact ⟨trivial, _, _, carries.send next⟩
  | returns sent awaiting available =>
      simp only [carriedOut, directRun, List.append_nil]
      obtain ⟨rest, after⟩ := carries.returns awaiting available
      exact ⟨trivial, _, _, after⟩
  | receive waiting available =>
      have mapped : connection.server.device.type = .mappedDevice := by
        rw [carries.device]
        rfl
      obtain ⟨rest, field⟩ := FieldCarried.of_inFlight bus carries.parsing
        mapped waiting available
      exact ⟨field.device, _, _, carries.receive bus field⟩
  | reply ready =>
      simp only [carriedOut, directRun, List.append_nil]
      refine ⟨?_, _, _, carries.reply ready⟩
      simp only [MappedServer.step, ready]

theorem drained
    (carries : Carries calls carried values inFlight replies connection)
    (drained : Drained connection) : inFlight = [] := by
  have parsing := carries.parsing
  rw [drained.fields, drained.toServer] at parsing
  apply requests_eq_nil
  rcases drained.pc with pc | pc
  · simp only [InFlight, pc] at parsing
    exact parsing.symm
  · simp only [InFlight, pc] at parsing
    exact parsing.symm

theorem complete
    (carries : Carries calls carried values inFlight replies connection)
    (stuck : (mappedConnections bus).Stuck connection) :
    carried = calls ∧ connection.client.results = values := by
  have sent : connection.client.fields = [] := by
    cases fields : connection.client.fields with
    | nil => rfl
    | cons field rest => exact (stuck _ _ (.send fields)).elim
  have notReply : connection.server.pc ≠ .reply :=
    fun ready => stuck _ _ (.reply ready)
  have waits : 0 < connection.server.wanted →
      connection.toServer.length < connection.server.wanted := by
    intro waiting
    apply Nat.lt_of_not_le
    intro available
    exact stuck _ _ (.receive waiting available)
  have parsing := carries.parsing
  rw [sent, List.flatten_nil, List.append_nil] at parsing
  obtain ⟨silent, rfl⟩ := parsing.starved waits notReply
  have outstanding := carries.outstanding
  rw [silent, List.filter_nil, List.length_nil] at outstanding
  have idle : connection.client.awaiting = false := by
    cases awaiting : connection.client.awaiting with
    | false => rfl
    | true =>
        rw [awaiting, if_pos rfl] at outstanding
        have available : 4 ≤ connection.toClient.length := by
          rw [carries.toClient]
          obtain ⟨value, rfl⟩ := List.length_eq_one_iff.mp outstanding
          simp
        exact (stuck _ _ (.returns sent awaiting available)).elim
  have noReplies : replies = [] := by
    rw [idle] at outstanding
    exact List.length_eq_zero_iff.mp outstanding
  have ended : connection.client.calls = [] := by
    cases remaining : connection.client.calls with
    | nil => rfl
    | cons call rest => exact (stuck _ _ (.call remaining sent idle)).elim
  constructor
  · rw [carries.order, ended]
    simp
  · rw [← carries.returned, noReplies, silent]
    simp

end Carries

section Serialised

variable [DecidableEq Client]

/-- The calls carried out explain the registers and the values on their way
to every client. -/
structure Serialised (bus : RegisterBus Registers) (registers : Registers)
    (calls : Client → List MappedCall)
    (channels : SharedChannels Client Registers) : Prop where
  serial : (serialRun (directCall bus) (ioAddMappedDevice registers)
      channels.served).1 = ioAddMappedDevice channels.registers
  client : ∀ client, ∃ inFlight replies, Carries (calls client)
    (ofClient client channels.served)
    (ofClient client (serialRun (directCall bus)
      (ioAddMappedDevice registers) channels.served).2)
    inFlight replies (channels.channel client)

variable {registers : Registers} {calls : Client → List MappedCall}
  {channels next : SharedChannels Client Registers}

theorem serialised_opened (addr value : Client → UInt32) :
    Serialised bus registers calls (.opened registers addr value calls) :=
  { serial := rfl
    client := fun client =>
      ⟨[], [], Carries.opened registers (addr client) (value client)
        (calls client)⟩ }

theorem Serialised.step {label : Client × MappedMove}
    (serialised : Serialised bus registers calls channels)
    (step : (sharedChannels bus).step channels label next) :
    Serialised bus registers calls next := by
  obtain ⟨mover, move⟩ := label
  obtain ⟨connection, moved, rfl⟩ := step
  obtain ⟨inFlight, replies, carries⟩ := serialised.client mover
  obtain ⟨current, shared⟩ := carries.withRegisters channels.registers
  obtain ⟨device, inFlight', replies', after⟩ := current.step moved
  rw [shared] at device after
  have opened := after.device
  have history := serialRun_append (directCall bus)
    (ioAddMappedDevice registers) channels.served
    ((carriedOut move (channels.channel mover).server
      connection.server).map (Prod.mk mover))
  rw [serialised.serial, serialRun_client] at history
  constructor
  · simp only [SharedChannels.moved, history]
    rw [← opened]
    exact device.symm
  · intro client
    simp only [SharedChannels.moved, history, ofClient_append]
    by_cases same : client = mover
    · subst same
      rw [Function.update_self, ofClient_same, ofClient_same]
      exact ⟨inFlight', replies', after⟩
    · obtain ⟨inFlight, replies, carries⟩ := serialised.client client
      have apart : mover ≠ client := fun equal => same equal.symm
      rw [Function.update_of_ne same, ofClient_other apart,
        ofClient_other apart, List.append_nil, List.append_nil]
      exact ⟨inFlight, replies, carries⟩

theorem serialised_reachable {addr value : Client → UInt32}
    (reached : (sharedChannels bus).Reachable
      (.opened registers addr value calls) channels) :
    Serialised bus registers calls channels :=
  reached.invariant (Serialised bus registers calls)
    (serialised_opened addr value)
    fun _ _ _ serialised step => serialised.step step

/-- What is carried out stays where it is in the order. -/
theorem served_kept
    (later : (sharedChannels bus).Reachable channels next) :
    channels.served <+: next.served :=
  later.invariant (fun state => channels.served <+: state.served)
    (List.prefix_refl _) fun state label next earlier step => by
      obtain ⟨connection, _, rfl⟩ := step
      exact earlier.trans (List.prefix_append _ _)

theorem channel_stuck (stuck : (sharedChannels bus).Stuck channels)
    (client : Client) :
    (mappedConnections bus).Stuck
      ((channels.channel client).withRegisters channels.registers) :=
  fun move connection step => stuck (client, move) _ ⟨connection, step, rfl⟩

theorem shared_work_lowered [Fintype Client] {label : Client × MappedMove}
    (step : (sharedChannels bus).step channels label next) :
    tally work next.channel < tally work channels.channel := by
  obtain ⟨mover, move⟩ := label
  obtain ⟨connection, moved, rfl⟩ := step
  have lowered := work_lowered moved
  have same : work ((channels.channel mover).withRegisters
      channels.registers) = work (channels.channel mover) := rfl
  have changed := tally_update work channels.channel mover connection
  simp only [SharedChannels.moved]
  rw [same] at lowered
  omega

/-- The clients see the registers as if their calls were made one after
another: at any time the calls carried out, in their order, give the
registers and every value returned; each client's calls keep their order and
none takes effect before it is made; the order never changes afterwards.
The steps are bounded, and where none is left all calls are carried out and
all values returned. -/
theorem shared_registers_consistent [Fintype Client]
    (bus : RegisterBus Registers) (registers : Registers)
    (addr value : Client → UInt32) (calls : Client → List MappedCall) :
    let device := ioAddMappedDevice registers
    let start := SharedChannels.opened registers addr value calls
    (∀ channels, (sharedChannels bus).Reachable start channels →
      let history := serialRun (directCall bus) device channels.served
      history.1 = ioAddMappedDevice channels.registers ∧
      (∀ client,
        (∃ pending, calls client = ofClient client channels.served ++
            (pending ++ (channels.channel client).client.calls) ∧
          (Drained (channels.channel client) → pending = [])) ∧
        (channels.channel client).client.results <+:
          ofClient client history.2) ∧
      (∀ later, (sharedChannels bus).Reachable channels later →
        channels.served <+: later.served) ∧
      ((sharedChannels bus).Stuck channels → ∀ client,
        ofClient client channels.served = calls client ∧
          (channels.channel client).client.results =
            ofClient client history.2)) ∧
    ∀ labels channels, (sharedChannels bus).Run start labels channels →
      labels.length ≤ tally work start.channel := by
  intro device start
  constructor
  · intro channels reached history
    have serialised := serialised_reachable reached
    refine ⟨serialised.serial, ?_, fun _ => served_kept, ?_⟩
    · intro client
      obtain ⟨inFlight, replies, carries⟩ := serialised.client client
      constructor
      · exact ⟨inFlight, carries.order, carries.drained⟩
      · rw [← carries.returned]
        exact List.prefix_append _ _
    · intro stuck client
      obtain ⟨inFlight, replies, carries⟩ := serialised.client client
      obtain ⟨current, _⟩ := carries.withRegisters channels.registers
      exact current.complete (channel_stuck stuck client)
  · intro labels channels run
    have bound := run.length_le_measure (fun _ => True) trivial
      (fun _ _ _ _ _ => trivial) (fun state => tally work state.channel)
      (fun _ _ _ _ step => shared_work_lowered step)
    omega

end Serialised

/-- One client writes a register and another one reads it. -/
def racing : SharedChannels Bool PlainMemory :=
  .opened { words := fun _ => 0, touched := [] } (fun _ => 0) (fun _ => 0)
    fun writes => if writes then [.write 3 5] else [.read 3]

theorem racing_orders {served : List (Bool × MappedCall)}
    {written read : MappedCall} (left : ofClient true served = [written])
    (right : ofClient false served = [read]) :
    served = [(true, written), (false, read)] ∨
      served = [(false, read), (true, written)] := by
  cases served with
  | nil => cases left
  | cons head served =>
      obtain ⟨client, call⟩ := head
      cases client with
      | true =>
          rw [ofClient_cons_same, List.cons.injEq] at left
          rw [ofClient_cons_other (by decide)] at right
          have alone : ∀ other, other ≠ false →
              ofClient other served = [] := by
            rintro (_ | _) apart
            · exact (apart rfl).elim
            · exact left.2
          rw [ofClient_alone alone, right, left.1]
          exact Or.inl rfl
      | false =>
          rw [ofClient_cons_same, List.cons.injEq] at right
          rw [ofClient_cons_other (by decide)] at left
          have alone : ∀ other, other ≠ true →
              ofClient other served = [] := by
            rintro (_ | _) apart
            · exact right.2
            · exact (apart rfl).elim
          rw [ofClient_alone alone, left, right.1]
          exact Or.inr rfl

theorem shared_registers_consistent_race :
    ∃ channels, (sharedChannels plainMemory).Reachable racing channels ∧
      ((channels.channel false).client.results = [0] ∨
        (channels.channel false).client.results = [5]) := by
  obtain ⟨channels, reached, stuck⟩ :=
    (sharedChannels plainMemory).exists_stuck
      (fun state => tally work state.channel)
      (fun _ _ _ step => shared_work_lowered step) racing
  obtain ⟨consistent, _⟩ := shared_registers_consistent plainMemory
    { words := fun _ => 0, touched := [] } (fun _ : Bool => 0) (fun _ => 0)
    fun writes => if writes then [.write 3 5] else [.read 3]
  obtain ⟨_, _, _, ended⟩ := consistent channels reached
  obtain ⟨written, _⟩ := ended stuck true
  obtain ⟨read, results⟩ := ended stuck false
  refine ⟨channels, reached, ?_⟩
  rcases racing_orders written read with order | order
  · rw [results, order]
    exact Or.inr rfl
  · rw [results, order]
    exact Or.inl rfl

end StreamIO.Backend
