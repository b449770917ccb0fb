import StreamIO.Backend.WriteConnection

/-!
# Acknowledgements nobody reads

The server acknowledges every message and the client reads no
acknowledgement, so the queue to the client only fills.  The server by itself
decides whether both ends can block: it has to reach one acknowledgement more
than the queue holds before the bytes left fit the other queue.
-/

namespace StreamIO.Backend

open StreamIO.Library StreamIO.Driver StreamIO.Net

variable {setting : ServerSetting} {capacities : Capacities}

/-- The server's share of a connection. -/
def Connection.alone (connection : Connection) : ServerAlone :=
  { server := connection.server, stream := connection.unreceived,
    acknowledged := connection.toClient.length }

theorem afterByte_bytes (vectored : Bool) (bytes : List UInt8)
    (rest : List SocketWrite) :
    (afterByte vectored bytes rest).flatMap SocketWrite.bytes =
      bytes ++ rest.flatMap SocketWrite.bytes := by
  unfold afterByte
  split
  · rename_i empty
    rw [empty, List.nil_append]
  · rfl

/-- Every step of a connection is a step of its server, or the server does
not see it; the queue to the server stays within its capacity. -/
theorem Connection.step_alone {connection next : Connection}
    {move : ConnectionMove}
    (bounded : connection.toServer.length ≤ capacities.toServer)
    (step : ConnectionStep setting capacities connection move next) :
    next.toServer.length ≤ capacities.toServer ∧
      (next.alone = connection.alone ∨
        ServerAloneStep setting capacities connection.alone move
          next.alone) := by
  cases step with
  | @write vectored byte bytes rest writes room =>
      refine ⟨?_, Or.inl ?_⟩
      · simp only [List.length_append, List.length_singleton]
        omega
      · simp only [Connection.alone, Connection.unreceived,
          Connection.unwritten, writes, afterByte_bytes, List.flatMap_cons,
          List.append_assoc, List.cons_append, List.nil_append]
  | receive count positive wanted available =>
      refine ⟨?_, Or.inr ?_⟩
      · simp only [List.length_drop]
        omega
      · have total : count ≤ connection.alone.stream.length := by
          simp only [Connection.alone, Connection.unreceived,
            List.length_append]
          omega
        have step : ServerAloneStep setting capacities connection.alone
            (.receive count) _ :=
          .receive count positive wanted total
            (Nat.le_trans available bounded)
        simp only [Connection.alone, Connection.unreceived,
          List.take_append_of_le_length available,
          List.drop_append_of_le_length available] at step
        exact step
  | acknowledge ready room =>
      refine ⟨bounded, Or.inr ?_⟩
      have step : ServerAloneStep setting capacities connection.alone
          .acknowledge _ :=
        .acknowledge ready room
      simp only [Connection.alone, Connection.unreceived,
        Connection.unwritten, List.length_append, List.length_singleton]
      exact step

theorem Connection.reachable_alone {calls : List (List UInt8)}
    {connection : Connection}
    (reached : (connections setting capacities).Reachable (.opened calls)
      connection) :
    connection.toServer.length ≤ capacities.toServer ∧
      (serversAlone setting capacities).Reachable (.opened calls)
        connection.alone := by
  apply reached.invariant fun connection =>
    connection.toServer.length ≤ capacities.toServer ∧
      (serversAlone setting capacities).Reachable (.opened calls)
        connection.alone
  · exact ⟨Nat.zero_le _, .refl _ _⟩
  · rintro state move next ⟨bounded, alone⟩ step
    obtain ⟨nextBounded, same | moved⟩ := Connection.step_alone bounded step
    · exact ⟨nextBounded, by rw [same]; exact alone⟩
    · exact ⟨nextBounded, alone.step moved⟩

theorem Connection.Deadlocked.overcommitted {connection : Connection}
    (deadlocked : connection.Deadlocked capacities) :
    connection.alone.Overcommitted capacities := by
  obtain ⟨⟨bytes, rest, nonempty, writes⟩, full, ready, count⟩ := deadlocked
  refine ⟨ready, count, ?_⟩
  have positive := List.length_pos_of_ne_nil nonempty
  simp only [Connection.alone, Connection.unreceived, Connection.unwritten,
    writes, List.flatMap_cons, List.length_append, full]
  omega

/-- The writes of the client: none is empty, only the first can be the
`send` of one byte, and it is over once the server has been reached. -/
structure Connection.Shaped (connection : Connection) : Prop where
  nonempty : ∀ write ∈ connection.writes, write.bytes ≠ []
  handshake : ∀ write ∈ connection.writes, write.vectored = false →
    write.bytes.length = 1
  later : ∀ write ∈ connection.writes.tail, write.vectored = true
  reached : connection.server ≠ .dispatching ∨ connection.toServer ≠ [] →
    ∀ write ∈ connection.writes, write.vectored = true

namespace Connection

theorem shaped_opened (calls : List (List UInt8)) :
    (opened calls).Shaped := by
  cases calls with
  | nil => exact ⟨by simp [opened, writeCalls], by simp [opened, writeCalls],
      by simp [opened, writeCalls], by simp [opened, writeCalls]⟩
  | cons data calls =>
      have writes : (opened (data :: calls)).writes =
        writeCalls .opened (data :: calls) := rfl
      rw [writeCalls_opened] at writes
      refine ⟨?_, ?_, ?_, ?_⟩
      · intro write member
        rw [writes] at member
        rcases List.mem_cons.mp member with first | message
        · simp [first]
        · obtain ⟨item, _, rfl⟩ := List.mem_map.mp message
          simp [writeStreamMessage]
      · intro write member
        rw [writes] at member
        rcases List.mem_cons.mp member with first | message
        · simp [first]
        · obtain ⟨item, _, rfl⟩ := List.mem_map.mp message
          simp
      · intro write member
        rw [writes, List.tail_cons] at member
        obtain ⟨item, _, rfl⟩ := List.mem_map.mp member
        rfl
      · intro reached
        simp [opened] at reached

theorem Shaped.step {connection next : Connection} {move : ConnectionMove}
    (shaped : connection.Shaped)
    (step : ConnectionStep setting capacities connection move next) :
    next.Shaped := by
  cases step with
  | @write vectored byte bytes rest writes room =>
      have first := shaped.handshake
        { vectored := vectored, bytes := byte :: bytes }
        (by rw [writes]; simp)
      have later : ∀ write ∈ rest, write.vectored = true := by
        have tail := shaped.later
        rwa [writes] at tail
      have nonempty : ∀ write ∈ rest, write.bytes ≠ [] := by
        intro write member
        exact shaped.nonempty write (by rw [writes]; simp [member])
      have handshake : ∀ write ∈ rest, write.vectored = false →
          write.bytes.length = 1 := by
        intro write member unvectored
        rw [later write member] at unvectored
        cases unvectored
      by_cases ended : bytes = []
      · simp only [afterByte, if_pos ended]
        refine ⟨nonempty, handshake, ?_, fun _ => later⟩
        intro write member
        exact later write (List.mem_of_mem_tail member)
      · have isVectored : vectored = true := by
          cases vectored with
          | true => rfl
          | false =>
              have single := first rfl
              simp only [List.length_cons, Nat.add_eq_right,
                List.length_eq_zero_iff] at single
              exact (ended single).elim
        simp only [afterByte, if_neg ended]
        have all : ∀ write ∈
            ({ vectored := vectored, bytes := bytes } :: rest :
              List SocketWrite), write.vectored = true := by
          intro write member
          rcases List.mem_cons.mp member with rfl | old
          · exact isVectored
          · exact later write old
        refine ⟨?_, ?_, later, fun _ => all⟩
        · intro write member
          rcases List.mem_cons.mp member with rfl | old
          · exact ended
          · exact nonempty write old
        · intro write member unvectored
          rw [all write member] at unvectored
          cases unvectored
  | receive count positive wanted available =>
      have queued : connection.toServer ≠ [] := by
        intro empty
        rw [empty, List.length_nil] at available
        omega
      exact ⟨shaped.nonempty, shaped.handshake, shaped.later,
        fun _ => shaped.reached (Or.inr queued)⟩
  | acknowledge ready room =>
      have started : connection.server ≠ .dispatching := by
        intro dispatching
        rw [dispatching] at ready
        exact ready
      exact ⟨shaped.nonempty, shaped.handshake, shaped.later,
        fun _ => shaped.reached (Or.inl started)⟩

theorem shaped_reachable {calls : List (List UInt8)}
    {connection : Connection}
    (reached : (connections setting capacities).Reachable (.opened calls)
      connection) : connection.Shaped :=
  reached.invariant Shaped (shaped_opened calls)
    fun _ _ _ shaped step => shaped.step step

theorem fill {calls : List (List UInt8)} {connection : Connection}
    (reached : (connections setting capacities).Reachable (.opened calls)
      connection) {count : Nat}
    (available : count ≤ connection.unwritten.length)
    (room : connection.toServer.length + count ≤ capacities.toServer) :
    ∃ next, (connections setting capacities).Reachable (.opened calls) next ∧
      next.server = connection.server ∧
      next.toClient = connection.toClient ∧
      next.toServer =
        connection.toServer ++ connection.unwritten.take count ∧
      next.unwritten = connection.unwritten.drop count := by
  induction count generalizing connection with
  | zero => exact ⟨connection, reached, rfl, rfl, by simp, by simp⟩
  | succ count induction =>
      have shaped := shaped_reachable reached
      cases writes : connection.writes with
      | nil =>
          simp [unwritten, writes] at available
      | cons write rest =>
          obtain ⟨vectored, content⟩ := write
          cases content with
          | nil =>
              have nonempty := shaped.nonempty ⟨vectored, []⟩
                (by rw [writes]; simp)
              exact (nonempty rfl).elim
          | cons byte bytes =>
              have unwritten_eq : connection.unwritten = byte ::
                  (bytes ++ rest.flatMap SocketWrite.bytes) := by
                simp [unwritten, writes]
              have step : (connections setting capacities).step connection
                  .write _ :=
                .write writes (by omega)
              have nextUnwritten : unwritten { connection with
                  writes := afterByte vectored bytes rest
                  toServer := connection.toServer ++ [byte] } =
                  bytes ++ rest.flatMap SocketWrite.bytes :=
                afterByte_bytes vectored bytes rest
              obtain ⟨next, nextReached, server, toClient, toServer, left⟩ :=
                induction (reached.step step)
                  (by
                    rw [nextUnwritten]
                    rw [unwritten_eq, List.length_cons] at available
                    omega)
                  (by
                    simp only [List.length_append, List.length_singleton]
                    omega)
              refine ⟨next, nextReached, server, toClient, ?_, ?_⟩
              · rw [toServer, nextUnwritten, unwritten_eq, List.take_succ_cons,
                  List.append_assoc, List.singleton_append]
              · rw [left, nextUnwritten, unwritten_eq, List.drop_succ_cons]

/-- Whatever the server does by itself, it does on a connection whose client
writes just what the server asks for. -/
theorem realise {calls : List (List UInt8)} {server : ServerAlone}
    (reached : (serversAlone setting capacities).Reachable (.opened calls)
      server) :
    ∃ connection, (connections setting capacities).Reachable (.opened calls)
        connection ∧ connection.toServer = [] ∧
      connection.alone = server := by
  apply reached.invariant fun server =>
    ∃ connection, (connections setting capacities).Reachable (.opened calls)
        connection ∧ connection.toServer = [] ∧ connection.alone = server
  · exact ⟨.opened calls, .refl _ _, rfl, rfl⟩
  · rintro state move next ⟨connection, reached, empty, rfl⟩ step
    have stream : connection.alone.stream = connection.unwritten := by
      simp [alone, unreceived, empty]
    cases step with
    | receive count positive wanted total within =>
        rw [stream] at total
        obtain ⟨filled, filledReached, same, toClient, toServer, left⟩ :=
          fill reached total (by rw [empty]; simpa using within)
        rw [empty, List.nil_append] at toServer
        have enough : filled.toServer.length = count := by
          rw [toServer, List.length_take]
          omega
        have step : (connections setting capacities).step filled
            (.receive count) _ :=
          .receive count positive (by rw [same]; exact wanted)
            (Nat.le_of_eq enough.symm)
        refine ⟨_, filledReached.step step, ?_, ?_⟩
        · simp only [List.drop_eq_nil_iff]
          omega
        · have whole : filled.toServer.take count = filled.toServer :=
            List.take_of_length_le (Nat.le_of_eq enough)
          have drained : filled.toServer.drop count = [] :=
            List.drop_of_length_le (Nat.le_of_eq enough)
          have unwritten : unwritten { filled with
              toServer := []
              server := filled.server.receive setting
                filled.toServer } = filled.unwritten := rfl
          simp only [alone, unreceived, drained, whole, empty,
            List.nil_append]
          rw [unwritten, left, same, toClient, toServer]
    | acknowledge ready room =>
        have step : (connections setting capacities).step connection
            .acknowledge _ :=
          .acknowledge ready room
        refine ⟨_, reached.step step, empty, ?_⟩
        simp only [alone, unreceived, unwritten, List.length_append,
          List.length_singleton]

/-- An overcommitted server leads to a deadlock. -/
theorem deadlock_of_overcommitted {calls : List (List UInt8)}
    {alone : ServerAlone}
    (reached : (serversAlone setting capacities).Reachable (.opened calls)
      alone) (overcommitted : alone.Overcommitted capacities) :
    ∃ connection, (connections setting capacities).Reachable (.opened calls)
      connection ∧ connection.Deadlocked capacities := by
  obtain ⟨connection, connected, empty, rfl⟩ := realise reached
  obtain ⟨ready, count, excess⟩ := overcommitted
  have stream : connection.alone.stream = connection.unwritten := by
    simp [Connection.alone, unreceived, empty]
  rw [stream] at excess
  obtain ⟨full, fullReached, server, toClient, toServer, left⟩ :=
    fill connected (Nat.le_of_lt excess) (by simp [empty])
  refine ⟨full, fullReached, ?_, ?_, ?_, ?_⟩
  · have shaped := shaped_reachable fullReached
    have started : full.server ≠ .dispatching := by
      intro dispatching
      have blocked : connection.server.Acknowledging := ready
      rw [← server, dispatching] at blocked
      exact blocked
    cases writes : full.writes with
    | nil =>
        have lengths := congrArg List.length left
        simp only [unwritten, writes, List.flatMap_nil, List.length_nil,
          List.length_drop] at lengths
        simp only [unwritten] at excess
        omega
    | cons write rest =>
        have member : write ∈ full.writes := by
          rw [writes]
          simp
        refine ⟨write.bytes, rest, shaped.nonempty write member, ?_⟩
        rw [← shaped.reached (Or.inl started) write member]
  · rw [toServer, empty, List.nil_append, List.length_take]
    omega
  · rw [server]
    exact ready
  · rw [toClient]
    exact count

end Connection

/-- How many bytes the server has received at least, by what it has done:
every round takes its start byte, and the first one is a message, so that it
takes a byte of the size as well. -/
def Paced (total : Nat) (alone : ServerAlone) : Prop :=
  match alone.server with
  | .dispatching =>
      alone.acknowledged = 0 ∧ alone.stream.length = total ∧
        (alone.stream.drop 1).head? ∈
          [none, some CmdCallType.callWriteStream.code]
  | .elsewhere => True
  | .writing state =>
      match state.pc with
      | .startCmd =>
          alone.acknowledged = 0 ∧ alone.stream.length + 1 ≤ total ∧
              alone.stream.head? ∈
                [none, some CmdCallType.callWriteStream.code] ∨
            alone.stream.length + alone.acknowledged + 2 ≤ total
      | .size => alone.stream.length + alone.acknowledged + 2 ≤ total
      | .payload => alone.stream.length + alone.acknowledged + 3 ≤ total
      | .acknowledge => alone.stream.length + alone.acknowledged + 3 ≤ total
      | .stopped => True
      | .faulted => True

theorem paced_opened (calls : List (List UInt8)) :
    Paced (ServerAlone.opened calls).stream.length
      (ServerAlone.opened calls) := by
  refine ⟨rfl, rfl, ?_⟩
  cases calls with
  | nil => simp [ServerAlone.opened, writeCalls]
  | cons data calls =>
      simp [ServerAlone.opened, writeCalls_opened, writeStreamMessage]

theorem payloadOrAcknowledge_cases (size : UInt32) :
    WriteStream.payloadOrAcknowledge size = .payload ∨
      WriteStream.payloadOrAcknowledge size = .acknowledge := by
  unfold WriteStream.payloadOrAcknowledge
  split
  · exact Or.inl rfl
  · exact Or.inr rfl

theorem receivePayload_pc (buffers : Nat → Option ByteMemory)
    (state : WriteStream) (result : SocketResult) :
    (state.receivePayload buffers result).pc = .payload ∨
      (state.receivePayload buffers result).pc = .acknowledge ∨
      (state.receivePayload buffers result).pc = .faulted := by
  by_cases nothing : result.count ≤ 0
  · rw [WriteStream.receivePayload_nothing buffers nothing]
    exact Or.inr (Or.inl rfl)
  · cases holding : state.chBuffer with
    | none =>
        rw [WriteStream.receivePayload_missing buffers holding nothing]
        exact Or.inr (Or.inr rfl)
    | some buffer =>
        rw [WriteStream.receivePayload_eq buffers holding nothing]
        have loop := payloadOrAcknowledge_cases
          (state.recvSize - result.count)
        split
        · rcases loop with more | done
          · exact Or.inl more
          · exact Or.inr (Or.inl done)
        · rcases loop with more | done
          · exact Or.inl more
          · exact Or.inr (Or.inl done)

private theorem paced_payload {total : Nat} {state : WriteStream}
    {stream : List UInt8} {acknowledged : Nat}
    (loop : state.pc = .payload ∨ state.pc = .acknowledge ∨
      state.pc = .faulted)
    (spent : stream.length + acknowledged + 3 ≤ total) :
    Paced total
      { server := .writing state, stream := stream,
        acknowledged := acknowledged } := by
  rcases loop with pc | pc | pc
  · simpa [Paced, pc] using spent
  · simpa [Paced, pc] using spent
  · simp [Paced, pc]

private theorem paced_startCmd {total : Nat} {alone : ServerAlone}
    {state : WriteStream} (serving : alone.server = .writing state)
    (pc : state.pc = .startCmd) (paced : Paced total alone) {count : Nat}
    (positive : 0 < count) (wanted : count ≤ alone.server.wanted)
    (total_le : count ≤ alone.stream.length) :
    Paced total
      { alone with
        server := alone.server.receive setting (alone.stream.take count)
        stream := alone.stream.drop count } := by
  have one : count = 1 := by
    simp only [serving, StreamServer.wanted, WriteStream.wanted, pc]
      at wanted
    omega
  subst count
  obtain ⟨server, stream, acknowledged⟩ := alone
  simp only at serving
  subst serving
  cases stream with
  | nil => simp at total_le
  | cons byte stream =>
      simp only [Paced, pc, List.head?_cons, List.length_cons] at paced
      by_cases message : byte = CmdCallType.callWriteStream.code
      · have next : ((StreamServer.writing state).receive setting [byte]) =
            .writing { state with startCmd := byte, pc := .size } := by
          simp [StreamServer.receive, WriteStream.step, pc,
            WriteStream.receiveStartCmd, SocketResult.bytes, message]
        simp only [List.take_succ_cons, List.take_zero, List.drop_succ_cons,
          List.drop_zero, next, Paced]
        omega
      · have next : ((StreamServer.writing state).receive setting [byte]) =
            .writing { state with startCmd := byte, pc := .acknowledge } := by
          simp [StreamServer.receive, WriteStream.step, pc,
            WriteStream.receiveStartCmd, SocketResult.bytes, message]
        simp only [List.take_succ_cons, List.take_zero, List.drop_succ_cons,
          List.drop_zero, next, Paced]
        rcases paced with ⟨_, _, first⟩ | later
        · simp [message] at first
        · omega

theorem Paced.step {total : Nat} {alone next : ServerAlone}
    {move : ConnectionMove} (paced : Paced total alone)
    (step : ServerAloneStep setting capacities alone move next) :
    Paced total next := by
  cases step with
  | receive count positive wanted available within =>
      cases serving : alone.server with
      | elsewhere => simp [Paced, StreamServer.receive]
      | dispatching =>
          simp only [Paced, serving] at paced
          obtain ⟨none, length, second⟩ := paced
          have one : count = 1 := by
            simp only [serving, StreamServer.wanted] at wanted
            omega
          subst count
          simp only [StreamServer.receive]
          split
          · left
            refine ⟨none, ?_, second⟩
            simp only [List.length_drop]
            omega
          · trivial
      | writing state =>
          cases pc : state.pc with
          | startCmd =>
              rw [← serving]
              exact paced_startCmd serving pc paced positive wanted available
          | size =>
              simp only [Paced, serving, pc] at paced
              apply paced_payload
              · simp only [WriteStream.step, pc, WriteStream.receiveSize]
                exact (payloadOrAcknowledge_cases _).imp_right Or.inl
              · simp only [List.length_drop]
                omega
          | payload =>
              simp only [Paced, serving, pc] at paced
              apply paced_payload
              · simp only [WriteStream.step, pc]
                exact receivePayload_pc _ _ _
              · simp only [List.length_drop]
                omega
          | acknowledge =>
              simp only [serving, StreamServer.wanted, WriteStream.wanted,
                pc] at wanted
              omega
          | stopped =>
              simp only [serving, StreamServer.wanted, WriteStream.wanted,
                pc] at wanted
              omega
          | faulted =>
              simp only [serving, StreamServer.wanted, WriteStream.wanted,
                pc] at wanted
              omega
  | acknowledge ready room =>
      cases serving : alone.server with
      | dispatching =>
          rw [serving] at ready
          exact ready.elim
      | elsewhere =>
          rw [serving] at ready
          exact ready.elim
      | writing state =>
          rw [serving] at ready
          have pc : state.pc = .acknowledge := ready
          simp only [Paced, serving, pc] at paced
          simp only [StreamServer.acknowledge, WriteStream.step, pc,
            WriteStream.sendAcknowledge, Paced]
          right
          omega

/-- The server has received three bytes more than it has sent
acknowledgements when it comes to send the next one. -/
theorem ServerAlone.stream_bound {calls : List (List UInt8)}
    {alone : ServerAlone}
    (reached : (serversAlone setting capacities).Reachable (.opened calls)
      alone) (ready : alone.server.Acknowledging) :
    alone.stream.length + alone.acknowledged + 3 ≤
      (ServerAlone.opened calls).stream.length := by
  have paced : Paced (ServerAlone.opened calls).stream.length alone :=
    reached.invariant (Paced _) (paced_opened calls)
      fun _ _ _ paced step => paced.step step
  cases serving : alone.server with
  | dispatching =>
      rw [serving] at ready
      exact ready.elim
  | elsewhere =>
      rw [serving] at ready
      exact ready.elim
  | writing state =>
      rw [serving] at ready
      have pc : state.pc = .acknowledge := ready
      simpa [Paced, serving, pc] using paced

theorem length_stream_opened (calls : List (List UInt8)) :
    (ServerAlone.opened calls).stream.length ≤
      1 + (calls.map fun data => 5 + data.length).sum := by
  cases calls with
  | nil => simp [ServerAlone.opened, writeCalls]
  | cons data calls =>
      have total : (ServerAlone.opened (data :: calls)).stream.length =
          ((data :: calls).map fun data => 5 + data.length).sum + 1 := by
        simp [ServerAlone.opened, writeCalls_opened, List.length_flatMap,
          Function.comp_def, length_writeStreamMessage]
      exact Nat.le_of_eq (total.trans (Nat.add_comm _ _))

/-- Both ends can block on each other exactly when the server by itself can
be cut short of room for its acknowledgements with more bytes to come than
the other queue holds.  With few enough bytes in all, this cannot happen. -/
theorem deadlock_free_iff_not_overcommitted (setting : ServerSetting)
    (capacities : Capacities) (calls : List (List UInt8)) :
    ((∀ connection, (connections setting capacities).Reachable
        (.opened calls) connection → ¬connection.Deadlocked capacities) ↔
      ∀ alone, (serversAlone setting capacities).Reachable (.opened calls)
        alone → ¬alone.Overcommitted capacities) ∧
    (1 + (calls.map fun data => 5 + data.length).sum ≤
        capacities.toServer + capacities.toClient + 3 →
      ∀ connection, (connections setting capacities).Reachable
        (.opened calls) connection → ¬connection.Deadlocked capacities) := by
  refine ⟨⟨?_, ?_⟩, ?_⟩
  · intro free alone reached overcommitted
    obtain ⟨connection, connected, deadlocked⟩ :=
      Connection.deadlock_of_overcommitted reached overcommitted
    exact free connection connected deadlocked
  · intro committed connection reached deadlocked
    exact committed connection.alone (Connection.reachable_alone reached).2
      deadlocked.overcommitted
  · intro short connection reached deadlocked
    obtain ⟨ready, count, excess⟩ := deadlocked.overcommitted
    have spent := ServerAlone.stream_bound
      (Connection.reachable_alone reached).2 ready
    have total := length_stream_opened calls
    omega

theorem ServerAlone.receives {start alone : ServerAlone}
    (reached : (serversAlone setting capacities).Reachable start alone)
    (count : Nat) (positive : 0 < count)
    (wanted : count ≤ alone.server.wanted)
    (available : count ≤ alone.stream.length)
    (within : count ≤ capacities.toServer) :
    (serversAlone setting capacities).Reachable start
      { alone with
        server := alone.server.receive setting (alone.stream.take count)
        stream := alone.stream.drop count } :=
  have step : (serversAlone setting capacities).step alone (.receive count)
      _ := .receive count positive wanted available within
  reached.step step

theorem ServerAlone.acknowledges {start alone : ServerAlone}
    (reached : (serversAlone setting capacities).Reachable start alone)
    (ready : alone.server.Acknowledging)
    (room : alone.acknowledged < capacities.toClient) :
    (serversAlone setting capacities).Reachable start
      { alone with
        server := alone.server.acknowledge setting
        acknowledged := alone.acknowledged + 1 } :=
  have step : (serversAlone setting capacities).step alone .acknowledge _ :=
    .acknowledge ready room
  reached.step step

/-- Four empty messages, with room for five bytes to the server and for one
acknowledgement to the client. -/
theorem four_messages_deadlock :
    ¬∀ (setting : ServerSetting) (capacities : Capacities)
      (calls : List (List UInt8)),
      0 < capacities.toServer → 0 < capacities.toClient →
      ∀ connection, (connections setting capacities).Reachable
        (.opened calls) connection → ¬connection.Deadlocked capacities := by
  intro free
  let setting : ServerSetting :=
    { buffers := fun _ => some fun _ => 0, startCmd := 0 }
  let capacities : Capacities := { toServer := 5, toClient := 1 }
  let calls : List (List UInt8) := [[], [], [], []]
  have dispatched := ServerAlone.receives
    (.refl (serversAlone setting capacities) (.opened calls)) 1
    (by decide) (by decide) (by decide +kernel) (by decide)
  have first := ServerAlone.receives dispatched 1 (by decide)
    (by decide +kernel) (by decide +kernel) (by decide)
  have firstSize := ServerAlone.receives first 4 (by decide)
    (by decide +kernel) (by decide +kernel) (by decide)
  have acknowledged := ServerAlone.acknowledges firstSize
    (by decide +kernel) (by decide +kernel)
  have second := ServerAlone.receives acknowledged 1 (by decide)
    (by decide +kernel) (by decide +kernel) (by decide)
  have secondSize := ServerAlone.receives second 4 (by decide)
    (by decide +kernel) (by decide +kernel) (by decide)
  obtain ⟨connection, connected, deadlocked⟩ :=
    Connection.deadlock_of_overcommitted secondSize
      ⟨by decide +kernel, by decide +kernel, by decide +kernel⟩
  exact free setting capacities calls (by decide) (by decide) connection
    connected deadlocked

end StreamIO.Backend
