import StreamIO.Backend.MappedConnection

/-!
# The remote mapped device simulates the local one

The relation ties the direct run of the calls made so far to the server's
device and what is still on its way: requests sent or half parsed, and at
most one reply.
-/

namespace StreamIO.Backend

open StreamIO.Library StreamIO.Local StreamIO.Net

variable {Registers : Type u} {bus : RegisterBus Registers}

/-- The requests of a sequence of calls on the wire. -/
def requests (calls : List MappedCall) : List UInt8 :=
  calls.flatMap fun call => (callFields call).flatten

theorem requests_append (first second : List MappedCall) :
    requests (first ++ second) = requests first ++ requests second :=
  List.flatMap_append

/-- The bytes that complete the command the server is parsing, followed by
whole requests, are those of these calls. -/
def InFlight (server : MappedServer Registers) (bytes : List UInt8)
    (calls : List MappedCall) : Prop :=
  match server.pc with
  | .command => bytes = requests calls
  | .writeAddr => ∃ addr value later,
      bytes = littleEndian32 addr ++
        (littleEndian32 value ++ requests later) ∧
      calls = .write addr value :: later
  | .writeValue => ∃ value later,
      bytes = littleEndian32 value ++ requests later ∧
      calls = .write server.addr value :: later
  | .readAddr => ∃ addr later,
      bytes = littleEndian32 addr ++ requests later ∧
      calls = .read addr :: later
  | .reply => bytes = requests calls
  | .closed => False

/-- The value the server is about to send. -/
def replying (server : MappedServer Registers) : List UInt32 :=
  if server.pc = .reply then [server.value] else []

theorem InFlight.append {server : MappedServer Registers}
    {bytes : List UInt8} {calls : List MappedCall}
    (inFlight : InFlight server bytes calls) (call : MappedCall) :
    InFlight server (bytes ++ (callFields call).flatten)
      (calls ++ [call]) := by
  have request : requests [call] = (callFields call).flatten := by
    simp [requests]
  rw [← request]
  unfold InFlight at inFlight ⊢
  cases pc : server.pc with
  | command =>
      simp only [pc] at inFlight ⊢
      rw [inFlight, requests_append]
  | writeAddr =>
      simp only [pc] at inFlight ⊢
      obtain ⟨addr, value, later, rfl, rfl⟩ := inFlight
      refine ⟨addr, value, later ++ [call], ?_, rfl⟩
      rw [requests_append]
      simp only [List.append_assoc]
  | writeValue =>
      simp only [pc] at inFlight ⊢
      obtain ⟨value, later, rfl, rfl⟩ := inFlight
      refine ⟨value, later ++ [call], ?_, rfl⟩
      rw [requests_append, List.append_assoc]
  | readAddr =>
      simp only [pc] at inFlight ⊢
      obtain ⟨addr, later, rfl, rfl⟩ := inFlight
      refine ⟨addr, later ++ [call], ?_, rfl⟩
      rw [requests_append, List.append_assoc]
  | reply =>
      simp only [pc] at inFlight ⊢
      rw [inFlight, requests_append]
  | closed => simp [pc] at inFlight

theorem take_field {queue unsent field rest : List UInt8}
    (bytes : queue ++ unsent = field ++ rest)
    (available : field.length ≤ queue.length) :
    queue.take field.length = field ∧
      queue.drop field.length ++ unsent = rest := by
  have taken := congrArg (List.take field.length) bytes
  have dropped := congrArg (List.drop field.length) bytes
  rw [List.take_append_of_le_length available,
    List.take_append_of_le_length (Nat.le_refl _), List.take_length] at taken
  rw [List.drop_append_of_le_length available,
    List.drop_append_of_le_length (Nat.le_refl _), List.drop_length,
    List.nil_append] at dropped
  exact ⟨taken, dropped⟩

/-- What a received field leaves of the calls in flight. -/
structure FieldReceived (bus : RegisterBus Registers)
    (before after : MappedServer Registers) (bytes : List UInt8)
    (calls rest : List MappedCall) : Prop where
  parsing : InFlight after bytes rest
  mapped : after.device.type = .mappedDevice
  registers : (directRun bus after.device rest).1 =
    (directRun bus before.device calls).1
  values : replying after ++ (directRun bus after.device rest).2 =
    replying before ++ (directRun bus before.device calls).2
  outstanding : (replying after).length +
      (rest.filter awaitsValue).length =
    (replying before).length + (calls.filter awaitsValue).length

section Fields

variable {server : MappedServer Registers} {queue unsent : List UInt8}
  {calls : List MappedCall}

theorem receive_command (pc : server.pc = .command)
    (mapped : server.device.type = .mappedDevice)
    (bytes : queue ++ unsent = requests calls)
    (available : 1 ≤ queue.length) :
    FieldReceived bus server
      (server.step bus (.received (queue.take 1))) (queue.drop 1 ++ unsent)
      calls calls := by
  cases calls with
  | nil =>
      have lengths := congrArg List.length bytes
      simp only [requests, List.flatMap_nil, List.length_append,
        List.length_nil] at lengths
      omega
  | cons call later =>
      cases call with
      | write addr value =>
          have split : queue ++ unsent = [CmdCallType.callWrite.code] ++
              (littleEndian32 addr ++
                (littleEndian32 value ++ requests later)) := by
            rw [bytes]
            simp [requests, callFields]
          obtain ⟨taken, rest⟩ := take_field split available
          have next : server.step bus (.received (queue.take 1)) =
              { server with pc := .writeAddr } := by
            rw [show queue.take 1 = [CmdCallType.callWrite.code] from taken]
            simp [MappedServer.step, pc, MappedServer.receiveCommand,
              MappedServer.commandPc]
          rw [next]
          refine ⟨⟨addr, value, later, rest, rfl⟩, mapped, rfl, ?_, ?_⟩
          · simp [replying, pc]
          · simp [replying, pc]
      | read addr =>
          have split : queue ++ unsent = [CmdCallType.callRead.code] ++
              (littleEndian32 addr ++ requests later) := by
            rw [bytes]
            simp [requests, callFields]
          obtain ⟨taken, rest⟩ := take_field split available
          have next : server.step bus (.received (queue.take 1)) =
              { server with pc := .readAddr } := by
            rw [show queue.take 1 = [CmdCallType.callRead.code] from taken]
            simp [MappedServer.step, pc, MappedServer.receiveCommand,
              MappedServer.commandPc, CmdCallType.code]
          rw [next]
          refine ⟨⟨addr, later, rest, rfl⟩, mapped, rfl, ?_, ?_⟩
          · simp [replying, pc]
          · simp [replying, pc]

theorem receive_writeAddr (pc : server.pc = .writeAddr)
    (mapped : server.device.type = .mappedDevice)
    (inFlight : InFlight server (queue ++ unsent) calls)
    (available : 4 ≤ queue.length) :
    FieldReceived bus server
      (server.step bus (.received (queue.take 4))) (queue.drop 4 ++ unsent)
      calls calls := by
  simp only [InFlight, pc] at inFlight
  obtain ⟨addr, value, later, bytes, rfl⟩ := inFlight
  obtain ⟨taken, rest⟩ := take_field bytes available
  have next : server.step bus (.received (queue.take 4)) =
      { server with addr := addr, pc := .writeValue } := by
    rw [show queue.take 4 = littleEndian32 addr from taken]
    simp only [MappedServer.step, pc, receiveWord_whole]
  rw [next]
  refine ⟨⟨value, later, rest, rfl⟩, mapped, rfl, ?_, ?_⟩
  · simp [replying, pc]
  · simp [replying, pc]

theorem receive_writeValue (pc : server.pc = .writeValue)
    (mapped : server.device.type = .mappedDevice)
    (inFlight : InFlight server (queue ++ unsent) calls)
    (available : 4 ≤ queue.length) :
    ∃ later, FieldReceived bus server
      (server.step bus (.received (queue.take 4))) (queue.drop 4 ++ unsent)
      calls later := by
  simp only [InFlight, pc] at inFlight
  obtain ⟨value, later, bytes, rfl⟩ := inFlight
  obtain ⟨taken, rest⟩ := take_field bytes available
  have written : ioWriteMappedDevice bus server.device server.addr value =
      (directCall bus server.device (.write server.addr value)).1 := by
    simp only [ioWriteMappedDevice, mapped, if_true, directCall]
  have next : server.step bus (.received (queue.take 4)) =
      { server with
        value := value
        device :=
          (directCall bus server.device (.write server.addr value)).1
        pc := .command } := by
    rw [show queue.take 4 = littleEndian32 value from taken]
    simp only [MappedServer.step, pc, receiveWord_whole, written]
  rw [next]
  refine ⟨later, rest, ?_, rfl, ?_, ?_⟩
  · rw [directCall_type]
    exact mapped
  · simp only [replying, pc, reduceCtorEq, if_false]
    rw [directRun_cons]
    rfl
  · simp [replying, pc, awaitsValue]

theorem receive_readAddr (pc : server.pc = .readAddr)
    (mapped : server.device.type = .mappedDevice)
    (inFlight : InFlight server (queue ++ unsent) calls)
    (available : 4 ≤ queue.length) :
    ∃ later, FieldReceived bus server
      (server.step bus (.received (queue.take 4))) (queue.drop 4 ++ unsent)
      calls later := by
  simp only [InFlight, pc] at inFlight
  obtain ⟨addr, later, bytes, rfl⟩ := inFlight
  obtain ⟨taken, rest⟩ := take_field bytes available
  have next : server.step bus (.received (queue.take 4)) =
      { pc := .reply
        addr := addr
        value := (ioReadLocal bus server.device addr).2
        device := (directCall bus server.device (.read addr)).1 } := by
    rw [show queue.take 4 = littleEndian32 addr from taken]
    simp only [MappedServer.step, pc, receiveWord_whole, ioReadMappedDevice,
      directCall]
  rw [next]
  refine ⟨later, rest, ?_, rfl, ?_, ?_⟩
  · rw [directCall_type]
    exact mapped
  · simp only [replying, pc, reduceCtorEq, if_false, if_true]
    rw [directRun_cons]
    rfl
  · rw [List.filter_cons_of_pos rfl, List.length_cons, Nat.add_comm]
    simp [replying, pc]

theorem FieldReceived.of_inFlight (bus : RegisterBus Registers)
    (inFlight : InFlight server (queue ++ unsent) calls)
    (mapped : server.device.type = .mappedDevice)
    (waiting : 0 < server.wanted)
    (available : server.wanted ≤ queue.length) :
    ∃ rest, FieldReceived bus server
      (server.step bus (.received (queue.take server.wanted)))
      (queue.drop server.wanted ++ unsent) calls rest := by
  cases pc : server.pc with
  | command =>
      have bytes : queue ++ unsent = requests calls := by
        simpa only [InFlight, pc] using inFlight
      simp only [MappedServer.wanted, pc] at available ⊢
      exact ⟨calls, receive_command pc mapped bytes available⟩
  | writeAddr =>
      simp only [MappedServer.wanted, pc] at available ⊢
      exact ⟨calls, receive_writeAddr pc mapped inFlight available⟩
  | writeValue =>
      simp only [MappedServer.wanted, pc] at available ⊢
      exact receive_writeValue pc mapped inFlight available
  | readAddr =>
      simp only [MappedServer.wanted, pc] at available ⊢
      exact receive_readAddr pc mapped inFlight available
  | reply => simp [MappedServer.wanted, pc] at waiting
  | closed => simp [MappedServer.wanted, pc] at waiting

end Fields

/-- The relation between a connection and the direct run of the calls begun
so far. -/
structure Simulates (bus : RegisterBus Registers)
    (device : MappedDevice Registers) (begun inFlight : List MappedCall)
    (replies : List UInt32) (connection : MappedConnection Registers) :
    Prop where
  parsing : InFlight connection.server
    (connection.toServer ++ connection.client.fields.flatten) inFlight
  mapped : connection.server.device.type = .mappedDevice
  toClient : connection.toClient = replies.flatMap littleEndian32
  registers : (directRun bus connection.server.device inFlight).1 =
    (directRun bus device begun).1
  values : connection.client.results ++ (replies ++
      (replying connection.server ++
        (directRun bus connection.server.device inFlight).2)) =
    (directRun bus device begun).2
  outstanding : replies.length + (replying connection.server).length +
      (inFlight.filter awaitsValue).length =
    if connection.client.awaiting then 1 else 0

namespace Simulates

variable {device : MappedDevice Registers} {begun inFlight : List MappedCall}
  {replies : List UInt32} {connection : MappedConnection Registers}

theorem call {call : MappedCall} {calls : List MappedCall}
    (simulates : Simulates bus device begun inFlight replies connection)
    (sent : connection.client.fields = [])
    (idle : connection.client.awaiting = false) :
    Simulates bus device (begun ++ [call]) (inFlight ++ [call]) replies
      { connection with
        client := { connection.client with
          calls := calls
          fields := callFields call
          awaiting := awaitsValue call } } := by
  have parsing := simulates.parsing
  rw [sent, List.flatten_nil, List.append_nil] at parsing
  have outstanding := simulates.outstanding
  rw [idle] at outstanding
  refine ⟨parsing.append call, simulates.mapped, simulates.toClient, ?_, ?_,
    ?_⟩
  · rw [directRun_append, directRun_append, simulates.registers]
  · rw [directRun_append, directRun_append, simulates.registers,
      ← simulates.values]
    simp only [List.append_assoc]
  · rw [List.filter_append, List.length_append]
    cases call with
    | write addr value => simpa [awaitsValue] using outstanding
    | read addr =>
        have one : ([MappedCall.read addr].filter awaitsValue).length = 1 :=
          rfl
        have awaits : awaitsValue (.read addr) = true := rfl
        simp only [Bool.false_eq_true, if_false] at outstanding
        rw [one, awaits, if_pos rfl, ← Nat.add_assoc]
        exact congrArg (· + 1) outstanding

theorem send {field : List UInt8} {fields : List (List UInt8)}
    (simulates : Simulates bus device begun inFlight replies connection)
    (next : connection.client.fields = field :: fields) :
    Simulates bus device begun inFlight replies
      { connection with
        client := { connection.client with fields := fields }
        toServer := connection.toServer ++ field } := by
  have parsing := simulates.parsing
  rw [next, List.flatten_cons, ← List.append_assoc] at parsing
  exact ⟨parsing, simulates.mapped, simulates.toClient, simulates.registers,
    simulates.values, simulates.outstanding⟩

theorem returns
    (simulates : Simulates bus device begun inFlight replies connection)
    (awaiting : connection.client.awaiting = true)
    (available : 4 ≤ connection.toClient.length) :
    ∃ rest, Simulates bus device begun inFlight rest
      { connection with
        client := { connection.client with
          awaiting := false
          results := connection.client.results ++
            [ofLittleEndian32 (connection.toClient.take 4)] }
        toClient := connection.toClient.drop 4 } := by
  cases replies with
  | nil =>
      rw [simulates.toClient] at available
      simp at available
  | cons value rest =>
      have queue := simulates.toClient
      rw [List.flatMap_cons] at queue
      have four : (littleEndian32 value).length = 4 := rfl
      have taken : connection.toClient.take 4 = littleEndian32 value := by
        rw [queue, ← four, List.take_append_of_le_length (Nat.le_refl _),
          List.take_length]
      have dropped : connection.toClient.drop 4 =
          rest.flatMap littleEndian32 := by
        rw [queue, ← four, List.drop_append_of_le_length (Nat.le_refl _),
          List.drop_length, List.nil_append]
      have outstanding := simulates.outstanding
      rw [awaiting, List.length_cons, if_pos rfl] at outstanding
      have values := simulates.values
      rw [List.cons_append] at values
      refine ⟨rest, simulates.parsing, simulates.mapped, dropped,
        simulates.registers, ?_, ?_⟩
      · rw [taken, ofLittleEndian32_littleEndian32, List.append_assoc,
          List.singleton_append]
        exact values
      · simp only [Bool.false_eq_true, if_false]
        omega

theorem reply
    (simulates : Simulates bus device begun inFlight replies connection)
    (ready : connection.server.pc = .reply) :
    Simulates bus device begun inFlight
      (replies ++ [connection.server.value])
      { connection with
        server := connection.server.step bus .sent
        toClient := connection.toClient ++
          littleEndian32 connection.server.value } := by
  have next : connection.server.step bus .sent =
      { connection.server with pc := .command } := by
    simp only [MappedServer.step, ready]
  have parsing := simulates.parsing
  have values := simulates.values
  have outstanding := simulates.outstanding
  simp only [InFlight, ready] at parsing
  simp only [replying, ready, if_true, List.length_singleton]
    at values outstanding
  rw [next]
  refine ⟨parsing, simulates.mapped, ?_, simulates.registers, ?_, ?_⟩
  · rw [simulates.toClient, List.flatMap_append]
    simp
  · simp only [replying, reduceCtorEq, if_false, List.nil_append,
      List.append_assoc]
    exact values
  · simp only [replying, reduceCtorEq, if_false, List.length_append,
      List.length_singleton, List.length_nil]
    omega

theorem receive
    (simulates : Simulates bus device begun inFlight replies connection)
    (waiting : 0 < connection.server.wanted)
    (available :
      connection.server.wanted ≤ connection.toServer.length) :
    ∃ rest, Simulates bus device begun rest replies
      { connection with
        toServer := connection.toServer.drop connection.server.wanted
        server := connection.server.step bus
          (.received (connection.toServer.take
            connection.server.wanted)) } := by
  obtain ⟨rest, received⟩ := FieldReceived.of_inFlight bus
    simulates.parsing simulates.mapped waiting available
  refine ⟨rest, received.parsing, received.mapped, simulates.toClient, ?_, ?_,
    ?_⟩
  · exact received.registers.trans simulates.registers
  · rw [received.values]
    exact simulates.values
  · have outstanding := simulates.outstanding
    rw [Nat.add_assoc] at outstanding
    rw [Nat.add_assoc, received.outstanding]
    exact outstanding

end Simulates

/-- The connection simulates the direct run of the calls begun so far. -/
def Simulated (bus : RegisterBus Registers) (device : MappedDevice Registers)
    (calls : List MappedCall) (connection : MappedConnection Registers) :
    Prop :=
  ∃ begun inFlight replies, calls = begun ++ connection.client.calls ∧
    Simulates bus device begun inFlight replies connection

theorem simulated_opened (registers : Registers) (addr value : UInt32)
    (calls : List MappedCall) :
    Simulated bus (ioAddMappedDevice registers) calls
      (.opened registers addr value calls) :=
  ⟨[], [], [], rfl, rfl, rfl, rfl, rfl, rfl, rfl⟩

theorem Simulated.step {device : MappedDevice Registers}
    {calls : List MappedCall} {connection next : MappedConnection Registers}
    {move : MappedMove} (simulated : Simulated bus device calls connection)
    (step : MappedStep bus connection move next) :
    Simulated bus device calls next := by
  obtain ⟨begun, inFlight, replies, made, simulates⟩ := simulated
  cases step with
  | @call call later next sent idle =>
      refine ⟨begun ++ [call], inFlight ++ [call], replies, ?_,
        simulates.call sent idle⟩
      rw [made, next, List.append_assoc, List.singleton_append]
  | send next => exact ⟨begun, inFlight, replies, made, simulates.send next⟩
  | returns sent awaiting available =>
      obtain ⟨rest, after⟩ := simulates.returns awaiting available
      exact ⟨begun, inFlight, rest, made, after⟩
  | receive waiting available =>
      obtain ⟨rest, after⟩ := simulates.receive waiting available
      exact ⟨begun, rest, replies, made, after⟩
  | reply ready =>
      exact ⟨begun, inFlight, _, made, simulates.reply ready⟩

theorem simulated_reachable {registers : Registers} {addr value : UInt32}
    {calls : List MappedCall} {connection : MappedConnection Registers}
    (reached : (mappedConnections bus).Reachable
      (.opened registers addr value calls) connection) :
    Simulated bus (ioAddMappedDevice registers) calls connection :=
  reached.invariant (Simulated bus (ioAddMappedDevice registers) calls)
    (simulated_opened registers addr value calls)
    fun _ _ _ simulated step => simulated.step step

/-- Everything sent has been received. -/
structure Drained (connection : MappedConnection Registers) : Prop where
  fields : connection.client.fields = []
  toServer : connection.toServer = []
  pc : connection.server.pc = .command ∨ connection.server.pc = .reply

theorem requests_eq_nil {calls : List MappedCall}
    (empty : requests calls = []) : calls = [] := by
  cases calls with
  | nil => rfl
  | cons call later =>
      cases call with
      | write addr value => simp [requests, callFields] at empty
      | read addr => simp [requests, callFields] at empty

theorem Simulates.drained {device : MappedDevice Registers}
    {begun inFlight : List MappedCall} {replies : List UInt32}
    {connection : MappedConnection Registers}
    (simulates : Simulates bus device begun inFlight replies connection)
    (drained : Drained connection) : inFlight = [] := by
  have parsing := simulates.parsing
  rw [drained.fields, drained.toServer] at parsing
  apply requests_eq_nil
  rcases drained.pc with pc | pc
  · simp only [InFlight, pc] at parsing
    exact parsing.symm
  · simp only [InFlight, pc] at parsing
    exact parsing.symm

theorem Simulates.drained_or_step {device : MappedDevice Registers}
    {begun inFlight : List MappedCall} {replies : List UInt32}
    {connection : MappedConnection Registers}
    (simulates : Simulates bus device begun inFlight replies connection)
    (stuck : (mappedConnections bus).Stuck connection) :
    Drained connection ∧ connection.server.pc = .command := by
  have sent : connection.client.fields = [] := by
    cases fields : connection.client.fields with
    | nil => rfl
    | cons field rest => exact (stuck _ _ (.send fields)).elim
  have notReply : connection.server.pc ≠ .reply :=
    fun ready => stuck _ _ (.reply ready)
  have waits : 0 < connection.server.wanted →
      connection.toServer.length < connection.server.wanted := by
    intro waiting
    apply Nat.lt_of_not_le
    intro available
    exact stuck _ _ (.receive waiting available)
  have parsing := simulates.parsing
  rw [sent, List.flatten_nil, List.append_nil] at parsing
  cases pc : connection.server.pc with
  | command =>
      simp only [MappedServer.wanted, pc] at waits
      have empty : connection.toServer = [] :=
        List.length_eq_zero_iff.mp (by omega)
      exact ⟨⟨sent, empty, Or.inl pc⟩, rfl⟩
  | writeAddr =>
      simp only [InFlight, pc] at parsing
      obtain ⟨addr, value, later, bytes, _⟩ := parsing
      simp only [MappedServer.wanted, pc, bytes, List.length_append,
        length_littleEndian32] at waits
      omega
  | writeValue =>
      simp only [InFlight, pc] at parsing
      obtain ⟨value, later, bytes, _⟩ := parsing
      simp only [MappedServer.wanted, pc, bytes, List.length_append,
        length_littleEndian32] at waits
      omega
  | readAddr =>
      simp only [InFlight, pc] at parsing
      obtain ⟨addr, later, bytes, _⟩ := parsing
      simp only [MappedServer.wanted, pc, bytes, List.length_append,
        length_littleEndian32] at waits
      omega
  | reply => exact (notReply pc).elim
  | closed => simp [InFlight, pc] at parsing

/-- A connection that cannot go on has made every call and returned every
value. -/
theorem Simulates.complete {device : MappedDevice Registers}
    {begun inFlight : List MappedCall} {replies : List UInt32}
    {connection : MappedConnection Registers}
    (simulates : Simulates bus device begun inFlight replies connection)
    (stuck : (mappedConnections bus).Stuck connection) :
    connection.client.calls = [] ∧ connection.client.awaiting = false ∧
      connection.client.results = (directRun bus device begun).2 ∧
      connection.server.device = (directRun bus device begun).1 := by
  obtain ⟨drained, pc⟩ := simulates.drained_or_step stuck
  have none := simulates.drained drained
  subst none
  have outstanding := simulates.outstanding
  have values := simulates.values
  have silent : replying connection.server = [] := by
    simp [replying, pc]
  simp only [silent, List.length_nil, List.filter_nil, Nat.add_zero]
    at outstanding
  have idle : connection.client.awaiting = false := by
    cases awaiting : connection.client.awaiting with
    | false => rfl
    | true =>
        rw [awaiting, if_pos rfl] at outstanding
        have available : 4 ≤ connection.toClient.length := by
          rw [simulates.toClient]
          obtain ⟨value, rfl⟩ := List.length_eq_one_iff.mp outstanding
          simp
        exact (stuck _ _ (.returns drained.fields awaiting available)).elim
  have noReplies : replies = [] := by
    rw [idle] at outstanding
    exact List.length_eq_zero_iff.mp outstanding
  refine ⟨?_, idle, ?_, simulates.registers⟩
  · cases calls : connection.client.calls with
    | nil => rfl
    | cons call rest =>
        exact (stuck _ _ (.call calls drained.fields idle)).elim
  · rw [noReplies, silent] at values
    simpa [directRun] using values

/-- What is left to do for fields that have not been sent. -/
def fieldsWork (fields : List (List UInt8)) : Nat :=
  (fields.map fun field => 2 * field.length + 1).sum

/-- What is left to do on a connection.  A byte on its way counts twice, so
that the reply to a read weighs less than its address. -/
def work (connection : MappedConnection Registers) : Nat :=
  (connection.client.calls.map
      fun call => fieldsWork (callFields call) + 2).sum +
    fieldsWork connection.client.fields +
    (if connection.client.awaiting then 1 else 0) +
    2 * connection.toServer.length +
    if connection.server.pc = .reply then 1 else 0

theorem work_receive (bus : RegisterBus Registers)
    (server : MappedServer Registers) (bytes : List UInt8) :
    (if (server.step bus (.received bytes)).pc = .reply then 1 else 0) ≤
      (if server.pc = .reply then 1 else 0) + 1 := by
  split
  · omega
  · omega

theorem work_lowered {connection next : MappedConnection Registers}
    {move : MappedMove} (step : MappedStep bus connection move next) :
    work next < work connection := by
  cases step with
  | @call call later next sent idle =>
      have awaits : (if awaitsValue call then 1 else 0) ≤ 1 := by
        split <;> omega
      simp only [work, next, sent, idle, List.map_cons, List.sum_cons]
      simp only [fieldsWork, List.map_nil, List.sum_nil, Bool.false_eq_true,
        if_false]
      omega
  | send next =>
      simp only [work, next, fieldsWork, List.map_cons, List.sum_cons,
        List.length_append]
      omega
  | returns sent awaiting available =>
      simp only [work, awaiting, Bool.false_eq_true, if_false, if_true]
      omega
  | receive waiting available =>
      have weight := work_receive bus connection.server
        (connection.toServer.take connection.server.wanted)
      simp only [work, List.length_drop]
      omega
  | reply ready =>
      have next : (connection.server.step bus .sent).pc = .command := by
        simp only [MappedServer.step, ready]
      simp only [work, next, ready, reduceCtorEq, if_false, if_true]
      omega

/-- The remote device simulates the local one: in every interleaving the
values returned are those of the direct run in order, the registers are those
of the direct run of the calls begun once their requests are drained, and
every run ends with all calls made and all values returned. -/
theorem remote_mapped_simulates_local (bus : RegisterBus Registers)
    (registers : Registers) (addr value : UInt32) (calls : List MappedCall) :
    let device := ioAddMappedDevice registers
    let start := MappedConnection.opened registers addr value calls
    (∀ connection, (mappedConnections bus).Reachable start connection →
      connection.client.results <+: (directRun bus device calls).2 ∧
      (∀ begun, calls = begun ++ connection.client.calls →
        Drained connection →
          connection.server.device = (directRun bus device begun).1) ∧
      ((mappedConnections bus).Stuck connection →
        connection.client.calls = [] ∧
          connection.client.results = (directRun bus device calls).2 ∧
          connection.server.device = (directRun bus device calls).1)) ∧
    ∀ labels connection, (mappedConnections bus).Run start labels
        connection → labels.length ≤ work start := by
  intro device start
  refine ⟨?_, ?_⟩
  · intro connection reached
    obtain ⟨begun, inFlight, replies, made, simulates⟩ :=
      simulated_reachable reached
    refine ⟨?_, ?_, ?_⟩
    · have values := simulates.values
      rw [made, directRun_append, ← values]
      simp only [List.append_assoc]
      exact List.prefix_append _ _
    · intro other same drained
      have equal : other = begun := List.append_cancel_right
        (same.symm.trans made)
      have none := simulates.drained drained
      subst none
      rw [equal]
      exact simulates.registers
    · intro stuck
      obtain ⟨ended, _, results, contents⟩ := simulates.complete stuck
      rw [ended, List.append_nil] at made
      rw [made]
      exact ⟨ended, results, contents⟩
  · intro labels connection run
    have bound := run.length_le_measure (fun _ => True) trivial
      (fun _ _ _ _ _ => trivial) work
      (fun _ _ _ _ step => work_lowered step)
    omega

end StreamIO.Backend
