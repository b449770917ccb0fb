import StreamIO.Library.Blocks
import StreamIO.Backend.Framing
import StreamIO.Backend.Transmission

/-!
# What a remote write stream puts on the wire

The calls of the client, the pieces that `recv` returns, the buffers of the
ring and the transfers of the engine carry one stream of bytes: the transfers
are the blocks of `stream_size` bytes of what the client has written.
-/

namespace StreamIO.Backend

open StreamIO.Library StreamIO.Driver StreamIO.Local StreamIO.Net

namespace WriteStream

variable {buffers : Nat → Option ByteMemory} {state : WriteStream}

/-- Submitted blocks are whole, and the current buffer is not full. -/
structure Blocked (state : WriteStream) : Prop where
  whole : ∀ block ∈ state.submitted, block.length = streamSize
  room : state.bufferPtr.toNat < streamSize

theorem Blocked.enter (buffers : Nat → Option ByteMemory)
    (startCmd : UInt8) : (enter buffers startCmd).Blocked := by
  constructor
  · intro block member
    cases member
  · exact Nat.two_pow_pos 17

theorem Blocked.receivePayload (blocked : state.Blocked)
    (result : SocketResult) :
    (state.receivePayload buffers result).Blocked := by
  by_cases nothing : result.count ≤ 0
  · rw [receivePayload_nothing buffers nothing]
    exact ⟨blocked.whole, blocked.room⟩
  · cases holding : state.chBuffer with
    | none =>
        rw [receivePayload_missing buffers holding nothing]
        exact ⟨blocked.whole, blocked.room⟩
    | some buffer =>
        rw [receivePayload_eq buffers holding nothing]
        split
        · constructor
          · intro block member
            rcases List.mem_append.mp member with old | new
            · exact blocked.whole block old
            · rw [List.mem_singleton.mp new]
              exact ByteMemory.length_load ..
          · exact Nat.two_pow_pos 17
        · rename_i partly
          exact ⟨blocked.whole, Nat.lt_of_not_le partly⟩

theorem Blocked.step (blocked : state.Blocked)
    (buffers : Nat → Option ByteMemory) (result : SocketResult) :
    (state.step buffers result).Blocked := by
  cases pc : state.pc with
  | payload =>
      simp only [WriteStream.step, pc]
      exact blocked.receivePayload result
  | startCmd =>
      simp only [WriteStream.step, pc]
      exact ⟨blocked.whole, blocked.room⟩
  | size =>
      simp only [WriteStream.step, pc]
      exact ⟨blocked.whole, blocked.room⟩
  | acknowledge =>
      simp only [WriteStream.step, pc]
      exact ⟨blocked.whole, blocked.room⟩
  | stopped =>
      simp only [WriteStream.step, pc]
      exact blocked
  | faulted =>
      simp only [WriteStream.step, pc]
      exact blocked

theorem payloadOrAcknowledge_ne_startCmd (size : UInt32) :
    payloadOrAcknowledge size ≠ .startCmd := by
  unfold payloadOrAcknowledge
  split
  · simp
  · simp

end WriteStream

/-- The server holds the buffer it has taken last, and has submitted the ones
before, each of them full. -/
structure ServingWrite (server : WriteServer) : Prop where
  transmitting : Transmitting server.session
  holding : server.session.handed.length =
    server.session.submitted.length + 1
  latest : ∃ data, server.chBuffer = some data ∧
    server.session.handed.getLast? = some data
  whole : ∀ entry ∈ server.session.submitted, entry.length = streamSize

namespace ServingWrite

variable {server : WriteServer}

theorem take (transmitting : Transmitting server.session)
    (settled : server.session.handed.length =
      server.session.submitted.length)
    (whole : ∀ entry ∈ server.session.submitted, entry.length = streamSize)
    {script : WaitScript}
    (prompt : Prompt server.session.channel
      server.session.device.currentBufferId script) :
    ServingWrite (server.getBuffer script) := by
  obtain ⟨_, _, handed, _⟩ := transmitting.inTurn.getBuffer prompt
  have taken := transmitting.inTurn.ioStreamGetBuffer_prompt prompt
  constructor
  · exact transmitting.getBuffer ⟨settled, prompt⟩
  · have length := congrArg List.length handed
    rw [List.length_append, List.length_singleton, settled] at length
    exact length
  · refine ⟨_, congrArg Prod.snd taken, ?_⟩
    exact (congrArg List.getLast? handed).trans List.getLast?_concat
  · exact whole

theorem enter {channel : DmaProxyChannel}
    (direction : channel.engine.direction = .memToDev) (startCmd : UInt8)
    {script : WaitScript}
    (prompt : Prompt (Session.start channel).channel
      (Session.start channel).device.currentBufferId script) :
    ServingWrite (WriteServer.enter channel startCmd script) := by
  apply take
  · exact .start direction
  · rfl
  · intro entry member
    cases member
  · exact prompt

theorem store (serving : ServingWrite server) {data : Nat}
    (held : server.chBuffer = some data) {result : SocketResult}
    (fits : server.bufferPtr.toNat + result.bytes.length ≤ bufferSize) :
    ServingWrite (server.store data result) := by
  obtain ⟨latest, isHeld, last⟩ := serving.latest
  have same : latest = data := by
    rw [held] at isHeld
    exact (Option.some.inj isHeld).symm
  subst same
  exact
    { transmitting := serving.transmitting.store
        ⟨serving.holding, last, fits⟩
      holding := serving.holding
      latest := ⟨latest, held, last⟩
      whole := serving.whole }

theorem startLocalStream (serving : ServingWrite server) {data : Nat}
    (held : server.chBuffer = some data) {script : WaitScript}
    (prompt : Prompt (server.submit data .accepted).session.channel
      (server.submit data .accepted).session.device.currentBufferId
      script) :
    ServingWrite (server.startLocalStream data .accepted script) := by
  obtain ⟨latest, isHeld, last⟩ := serving.latest
  have same : latest = data := by
    rw [held] at isHeld
    exact (Option.some.inj isHeld).symm
  subst same
  have size : (UInt32.ofNat streamSize).toNat = streamSize := rfl
  have submitted : (server.submit latest .accepted).session.submitted =
      server.session.submitted ++ [server.session.submission
        (latest / sizeofChannelBuffer) (UInt32.ofNat streamSize)] := rfl
  have taken : ServingWrite
      ((server.submit latest .accepted).getBuffer script) := by
    apply take
    · exact serving.transmitting.submit
        ⟨serving.holding, last, Nat.le_refl _, rfl⟩
    · rw [submitted, List.length_append, List.length_singleton]
      exact serving.holding
    · intro entry member
      rw [submitted] at member
      rcases List.mem_append.mp member with old | new
      · exact serving.whole entry old
      · rw [List.mem_singleton.mp new]
        exact size
    · exact prompt
  exact
    { transmitting := taken.transmitting
      holding := taken.holding
      latest := taken.latest
      whole := taken.whole }

theorem of_same {next : WriteServer} (serving : ServingWrite server)
    (session : next.session = server.session)
    (chBuffer : next.chBuffer = server.chBuffer) : ServingWrite next := by
  constructor
  · rw [session]
    exact serving.transmitting
  · rw [session]
    exact serving.holding
  · rw [session, chBuffer]
    exact serving.latest
  · rw [session]
    exact serving.whole

theorem call (serving : ServingWrite server) {result : SocketResult}
    {response : SubmitResponse} {script : WaitScript}
    (calm : server.Calm (.call result response script))
    (fits : server.pc = .payload → ¬result.count ≤ 0 →
      server.bufferPtr.toNat + result.bytes.length ≤ bufferSize) :
    ServingWrite (server.step (.call result response script)) := by
  cases pc : server.pc with
  | payload =>
      obtain ⟨data, held, _⟩ := serving.latest
      simp only [WriteServer.step, pc, WriteServer.receivePayload, held]
      by_cases failed : result.count ≤ 0
      · rw [if_pos failed]
        exact serving.of_same rfl held.symm
      · rw [if_neg failed]
        have stored := serving.store held (fits pc failed)
        by_cases full : streamSize ≤
            (server.store data result).bufferPtr.toNat
        · obtain ⟨accepted, prompt⟩ := calm data ⟨pc, held, failed, full⟩
          subst accepted
          rw [if_pos full]
          exact stored.startLocalStream held prompt
        · rw [if_neg full]
          exact stored
  | startCmd =>
      simp only [WriteServer.step, pc]
      exact serving.of_same rfl rfl
  | size =>
      simp only [WriteServer.step, pc]
      exact serving.of_same rfl rfl
  | acknowledge =>
      simp only [WriteServer.step, pc]
      exact serving.of_same rfl rfl
  | stopped =>
      simp only [WriteServer.step, pc]
      exact serving
  | faulted =>
      simp only [WriteServer.step, pc]
      exact serving

theorem engine (serving : ServingWrite server) {event : EngineEvent}
    (faultless : Faultless event) :
    ServingWrite (server.step (.engine event)) :=
  have allowed : TransmitStep server.session (.engine event) := faultless
  { transmitting := serving.transmitting.step allowed
    holding := serving.holding
    latest := serving.latest
    whole := serving.whole }

end ServingWrite

theorem Mirrors.enter {setting : DeviceSetting} {script : WaitScript}
    {data : Nat}
    (held : (WriteServer.enter setting.channel setting.startCmd
      script).chBuffer = some data) :
    Mirrors (WriteStream.enter (present fun _ => (WriteServer.enter
        setting.channel setting.startCmd script).content data)
        setting.startCmd)
      (WriteServer.enter setting.channel setting.startCmd script) := by
  refine ⟨rfl, rfl, rfl, rfl, ?_, rfl, rfl, rfl, rfl⟩
  rw [held, Option.map_some]
  rfl

theorem Mirrors.wanted {stream : WriteStream} {server : WriteServer}
    (mirrors : Mirrors stream server) : stream.wanted = server.wanted := by
  rw [WriteStream.wanted, mirrors.pc, mirrors.recvSize]
  rfl

/-- The machine with accounts behind the server, and what its iterations have
read. -/
structure Linked (finished : List Iteration) (current : Iteration)
    (stream : WriteStream) (server : WriteServer) : Prop where
  mirrors : Mirrors stream server
  serving : ServingWrite server
  steady : Steady stream
  blocked : stream.Blocked
  between : stream.pc = .startCmd →
    stream.received = finished.flatMap Iteration.payload
  inside : stream.pc ≠ .startCmd → stream.received =
    finished.flatMap Iteration.payload ++ current.payload

namespace Linked

variable {finished : List Iteration} {current : Iteration}
  {stream : WriteStream} {server : WriteServer}

theorem enter {setting : DeviceSetting}
    (direction : setting.channel.engine.direction = .memToDev)
    {script : WaitScript}
    (prompt : Prompt (Session.start setting.channel).channel
      (Session.start setting.channel).device.currentBufferId script)
    (current : Iteration) :
    ∃ buffers : Nat → ByteMemory,
      Linked [] current
        (WriteStream.enter (present buffers) setting.startCmd)
        (WriteServer.enter setting.channel setting.startCmd script) := by
  have serving := ServingWrite.enter direction setting.startCmd prompt
  obtain ⟨data, held, _⟩ := serving.latest
  refine ⟨_, .enter held, serving, ?_, .enter _ _, ?_, ?_⟩
  · exact ⟨⟨_, rfl, rfl⟩, rfl⟩
  · intro _
    rfl
  · intro elsewhere
    exact absurd rfl elsewhere

theorem receive (linked : Linked finished current stream server)
    {bytes : List UInt8} {response : SubmitResponse} {script : WaitScript}
    (nonempty : bytes ≠ []) (within : bytes.length ≤ server.wanted)
    (fits : server.pc = .payload →
      server.bufferPtr.toNat + bytes.length ≤ bufferSize)
    (calm : server.Calm (.call (.received bytes) response script)) :
    ∃ buffers : Nat → ByteMemory,
      Linked finished (stream.record bytes current)
        (stream.step (present buffers) (.received bytes))
        (server.step (.call (.received bytes) response script)) := by
  have serving := linked.serving.call calm (fun pc _ => fits pc)
  obtain ⟨data, held, _⟩ := serving.latest
  let buffers : Nat → ByteMemory := fun _ =>
    (server.step (.call (.received bytes) response script)).content data
  have mirrors : Mirrors
      (stream.step (present buffers) (.received bytes))
      (server.step (.call (.received bytes) response script)) := by
    apply linked.mirrors.call calm
    rw [held, Option.map_some]
    rfl
  have blocked := linked.blocked.step (present buffers) (.received bytes)
  have steady := linked.steady
  rw [← linked.mirrors.wanted, WriteStream.wanted] at within
  have positive := List.length_pos_of_ne_nil nonempty
  refine ⟨buffers, ?_⟩
  cases pc : stream.pc with
  | startCmd =>
      have received := linked.between pc
      simp only [WriteStream.step, pc] at mirrors blocked
      simp only [WriteStream.step, WriteStream.record, pc]
      refine ⟨mirrors, serving, ⟨steady.conserved, steady.position⟩,
        blocked, ?_, ?_⟩
      · intro _
        exact received
      · intro _
        rw [List.append_nil]
        exact received
  | size =>
      have received := linked.inside (by simp [pc])
      simp only [WriteStream.step, pc] at mirrors blocked
      simp only [WriteStream.step, WriteStream.record, pc]
      refine ⟨mirrors, serving, ⟨steady.conserved, steady.position⟩,
        blocked, ?_, ?_⟩
      · intro back
        exact absurd back (WriteStream.payloadOrAcknowledge_ne_startCmd _)
      · intro _
        exact received
  | payload =>
      have received := linked.inside (by simp [pc])
      simp only [pc] at within
      have room := fits (linked.mirrors.pc.symm.trans pc)
      rw [← linked.mirrors.bufferPtr] at room
      obtain ⟨buffer, holding, _⟩ := steady.conserved
      obtain ⟨grown, _, next, _, _⟩ :=
        receivePayload_accounts buffers holding nonempty within
      have still : Steady (stream.receivePayload (present buffers)
          (.received bytes)) :=
        steady.receivePayload nonempty within room
      simp only [WriteStream.step, pc] at mirrors blocked
      simp only [WriteStream.step, WriteStream.record, pc]
      refine ⟨mirrors, serving, still, blocked, ?_, ?_⟩
      · intro back
        rw [next] at back
        exact absurd back (WriteStream.payloadOrAcknowledge_ne_startCmd _)
      · intro _
        rw [grown, received, List.append_assoc]
  | acknowledge =>
      simp only [pc] at within
      omega
  | stopped =>
      simp only [pc] at within
      omega
  | faulted =>
      simp only [pc] at within
      omega

theorem acknowledge (linked : Linked finished current stream server)
    (ready : server.pc = .acknowledge) (buffers : Nat → ByteMemory) :
    Linked (finished ++ [current]) current
      (stream.step (present buffers) .sent)
      (server.step (.call .sent .accepted {})) := by
  have pc : stream.pc = .acknowledge := linked.mirrors.pc.trans ready
  have received := linked.inside (by simp [pc])
  have mirrors := linked.mirrors
  have blocked := linked.blocked
  have after : server.step (.call .sent .accepted {}) =
      { server with pc := .startCmd } := by
    simp only [WriteServer.step, ready]
    rfl
  have afterStream : stream.step (present buffers) .sent =
      { stream with pc := .startCmd } := by
    simp only [WriteStream.step, pc]
    rfl
  rw [after, afterStream]
  refine ⟨⟨rfl, mirrors.startCmd, mirrors.recvSize, mirrors.bufferPtr,
      mirrors.chBuffer, mirrors.accuSize, mirrors.streamN,
      mirrors.submitted, mirrors.received⟩,
    linked.serving.of_same rfl rfl,
    ⟨linked.steady.conserved, linked.steady.position⟩,
    ⟨blocked.whole, blocked.room⟩, ?_, ?_⟩
  · intro _
    rw [List.flatMap_append, List.flatMap_singleton]
    exact received
  · intro elsewhere
    exact absurd rfl elsewhere

theorem engine (linked : Linked finished current stream server)
    {event : EngineEvent} (faultless : Faultless event) :
    Linked finished current stream (server.step (.engine event)) :=
  { linked with
    mirrors := linked.mirrors.engine
      linked.serving.transmitting.conveyed.direction event
    serving := linked.serving.engine faultless }

end Linked

/-- The server without and with its device. -/
def Corresponds (exchange : WriteExchange) : DeviceServer → Prop
  | .dispatching => exchange.server = .dispatching
  | .writing server => ∃ stream, exchange.server = .writing stream ∧
      Linked exchange.finished exchange.current stream server
  | .elsewhere => False

/-- The exchange of the two ends that a transmission is, less the device. -/
structure Transmission.Follows (transmission : Transmission)
    (exchange : WriteExchange) : Prop where
  inStep : WriteExchange.InStep exchange
  client : transmission.client = exchange.client
  sent : transmission.sent = exchange.sent
  inFlight : transmission.inFlight = exchange.inFlight
  server : Corresponds exchange transmission.server

namespace Transmission.Follows

variable {transmission next : Transmission} {exchange : WriteExchange}
  {setting : DeviceSetting}

theorem opened : Transmission.opened.Follows .opened :=
  ⟨.opened, rfl, rfl, rfl, rfl⟩

theorem writing (follows : transmission.Follows exchange)
    {server : WriteServer} (at_ : transmission.server = .writing server) :
    ∃ stream, exchange.server = .writing stream ∧
      Linked exchange.finished exchange.current stream server := by
  have corresponds := follows.server
  rw [at_] at corresponds
  exact corresponds

theorem write (follows : transmission.Follows exchange) {data : List UInt8}
    (small : data.length < 2 ^ 32) :
    ∃ exchange, Follows { transmission with
      client := (ioWriteStreamNet transmission.client data).1
      sent := transmission.sent ++ [data]
      inFlight := transmission.inFlight ++
        (ioWriteStreamNet transmission.client data).2.flatMap
          SocketWrite.bytes } exchange := by
  rw [follows.client, follows.sent, follows.inFlight]
  refine ⟨_, follows.inStep.write small, rfl, rfl, rfl, ?_⟩
  exact follows.server

theorem sync (follows : transmission.Follows exchange) :
    ∃ exchange, Follows { transmission with
      client := ioSyncStreamDeviceNet transmission.client } exchange := by
  rw [follows.client]
  refine ⟨_, follows.inStep.sync, rfl, follows.sent, follows.inFlight, ?_⟩
  exact follows.server

theorem select (follows : transmission.Follows exchange)
    (direction : setting.channel.engine.direction = .memToDev)
    {byte : UInt8} {rest : List UInt8} {script : WaitScript}
    (at_ : transmission.server = .dispatching)
    (arrived : transmission.inFlight = byte :: rest)
    (prompt : Prompt (Session.start setting.channel).channel
      (Session.start setting.channel).device.currentBufferId script) :
    ∃ exchange, Follows { transmission with
      server := .select setting byte script
      inFlight := rest } exchange := by
  have dispatching := follows.server
  rw [at_] at dispatching
  have dispatching : exchange.server = .dispatching := dispatching
  have bytes := arrived
  rw [follows.inFlight] at bytes
  have server := follows.inStep.server
  rw [dispatching] at server
  obtain ⟨nothing, written⟩ := server
  obtain ⟨buffers, linked⟩ := Linked.enter direction prompt
    (exchange.server.record (exchange.inFlight.take 1) exchange.current)
  have selects : byte = CmdCallType.callWriteStream.code := by
    rw [written, follows.inStep.writes] at bytes
    split at bytes
    · rename_i none
      simp [none] at bytes
    · exact (List.cons.inj bytes).1.symm
  have moved : WriteExchangeStep
      { buffers := present buffers, startCmd := setting.startCmd }
      exchange (.receive 1) _ :=
    .receive 1 Nat.one_pos (by rw [dispatching]; exact Nat.le_refl 1)
      (by rw [bytes]; exact Nat.succ_le_succ (Nat.zero_le _))
      (fun _ => by rw [dispatching]; rfl)
  refine ⟨_, follows.inStep.step moved, follows.client, follows.sent, ?_, ?_⟩
  · simp only [bytes, List.drop_succ_cons, List.drop_zero]
  · simp only [DeviceServer.select, if_pos selects, Corresponds]
    refine ⟨.enter (present buffers) setting.startCmd, ?_, ?_⟩
    · simp only [dispatching, StreamServer.receive, bytes,
        List.take_succ_cons, List.take_zero, List.head?_cons, selects,
        if_true]
    · rw [nothing]
      exact linked

theorem receive (follows : transmission.Follows exchange)
    {server : WriteServer} {count : Nat} {response : SubmitResponse}
    {script : WaitScript} (at_ : transmission.server = .writing server)
    (positive : 0 < count) (wanted : count ≤ server.wanted)
    (available : count ≤ transmission.inFlight.length)
    (whole : server.pc ≠ .payload → count = server.wanted)
    (fits : server.pc = .payload →
      server.bufferPtr.toNat + count ≤ bufferSize)
    (calm : server.Calm (.call (.received (transmission.inFlight.take count))
      response script)) :
    ∃ exchange, Follows { transmission with
      server := .writing (server.step (.call
        (.received (transmission.inFlight.take count)) response script))
      inFlight := transmission.inFlight.drop count } exchange := by
  obtain ⟨stream, streamAt, linked⟩ := follows.writing at_
  have length : (transmission.inFlight.take count).length = count :=
    List.length_take_of_le available
  have nonempty : transmission.inFlight.take count ≠ [] := by
    apply List.ne_nil_of_length_pos
    rw [length]
    exact positive
  obtain ⟨buffers, next⟩ := linked.receive nonempty
    (by rw [length]; exact wanted)
    (fun pc => by rw [length]; exact fits pc) calm
  have asks : exchange.server.wanted = server.wanted := by
    rw [streamAt]
    exact linked.mirrors.wanted
  have asked : count ≤ exchange.server.wanted := asks ▸ wanted
  have arrived : count ≤ exchange.inFlight.length :=
    follows.inFlight ▸ available
  have field : ¬exchange.server.AtPayload →
      count = exchange.server.wanted := by
    intro elsewhere
    rw [asks]
    apply whole
    intro pc
    apply elsewhere
    rw [streamAt]
    exact linked.mirrors.pc.trans pc
  have moved : WriteExchangeStep
      { buffers := present buffers, startCmd := 0 } exchange
      (.receive count) _ :=
    .receive count positive asked arrived field
  refine ⟨_, follows.inStep.step moved, follows.client, follows.sent, ?_,
    ?_⟩
  · simp only [follows.inFlight]
  · refine ⟨stream.step (present buffers)
      (.received (exchange.inFlight.take count)), ?_, ?_⟩
    · simp only [streamAt, StreamServer.receive]
    · simp only [streamAt, StreamServer.record, ← follows.inFlight]
      exact next

theorem acknowledge (follows : transmission.Follows exchange)
    {server : WriteServer} (at_ : transmission.server = .writing server)
    (ready : server.pc = .acknowledge) :
    ∃ exchange, Follows { transmission with
      server := .writing (server.step (.call .sent .accepted {})) }
      exchange := by
  obtain ⟨stream, streamAt, linked⟩ := follows.writing at_
  have acknowledging : exchange.server.Acknowledging := by
    rw [streamAt]
    exact linked.mirrors.pc.trans ready
  have moved : WriteExchangeStep
      { buffers := present fun _ _ => 0, startCmd := 0 } exchange
      .acknowledge _ :=
    .acknowledge acknowledging
  refine ⟨_, follows.inStep.step moved, follows.client, follows.sent,
    follows.inFlight, ?_⟩
  refine ⟨stream.step (present fun _ _ => 0) .sent, ?_,
    linked.acknowledge ready _⟩
  simp only [streamAt, StreamServer.acknowledge]

theorem engine (follows : transmission.Follows exchange)
    {server : WriteServer} {event : EngineEvent}
    (at_ : transmission.server = .writing server)
    (faultless : Faultless event) :
    ∃ exchange, Follows { transmission with
      server := .writing (server.step (.engine event)) } exchange := by
  obtain ⟨stream, streamAt, linked⟩ := follows.writing at_
  exact ⟨exchange, follows.inStep, follows.client, follows.sent,
    follows.inFlight, stream, streamAt, linked.engine faultless⟩

/-- Every move of a transmission is a move of the exchange it follows, or of
the engine alone. -/
theorem step (follows : transmission.Follows exchange)
    (direction : setting.channel.engine.direction = .memToDev)
    {move : TransmissionMove}
    (moved : TransmissionStep setting transmission move next) :
    ∃ exchange, next.Follows exchange := by
  cases moved with
  | write data small => exact follows.write small
  | sync => exact follows.sync
  | select script at_ arrived prompt =>
      exact follows.select direction at_ arrived prompt
  | receive count response script at_ positive wanted available whole fits
      calm =>
      exact follows.receive at_ positive wanted available whole fits calm
  | acknowledge at_ ready => exact follows.acknowledge at_ ready
  | engine event at_ faultless => exact follows.engine at_ faultless

theorem of_reachable
    (direction : setting.channel.engine.direction = .memToDev)
    (reached : (transmissions setting).Reachable .opened transmission) :
    ∃ exchange, transmission.Follows exchange := by
  apply reached.invariant (fun transmission =>
    ∃ exchange, transmission.Follows exchange) ⟨_, opened⟩
  rintro state move next ⟨exchange, follows⟩ moved
  exact follows.step direction moved

end Transmission.Follows

theorem flatMap_iterationOf (calls : List (List UInt8)) :
    (calls.map iterationOf).flatMap Iteration.payload = calls.flatten := by
  rw [List.flatMap_map, List.flatMap_def]
  congr 1
  exact List.map_id' _

/-- What the server has read is the beginning of what the client has written,
and all of it when nothing is in flight. -/
theorem Linked.received_isPrefix {exchange : WriteExchange}
    {stream : WriteStream} {server : WriteServer}
    (linked : Linked exchange.finished exchange.current stream server)
    (inStep : WriteExchange.InStep exchange)
    (at_ : exchange.server = .writing stream) :
    server.received <+: exchange.sent.flatten ∧
      (exchange.inFlight = [] →
        server.received = exchange.sent.flatten) := by
  have corresponds := inStep.server
  rw [at_] at corresponds
  obtain ⟨_, _, aligned⟩ := corresponds
  have first : exchange.finished.flatMap Iteration.payload =
      (exchange.sent.take exchange.finished.length).flatten := by
    have iterations := congrArg
      (fun finished => finished.flatMap Iteration.payload) inStep.iterations
    exact iterations.trans (flatMap_iterationOf _)
  have split : exchange.sent.flatten =
      exchange.finished.flatMap Iteration.payload ++
        (exchange.sent.drop exchange.finished.length).flatten := by
    rw [first, ← List.flatten_append, List.take_append_drop]
  rw [← linked.mirrors.received, split]
  cases aligned with
  | startCmd pc bytes accumulated =>
      rw [linked.between pc]
      refine ⟨List.prefix_append _ _, ?_⟩
      intro nothing
      cases waiting : exchange.sent.drop exchange.finished.length with
      | nil => exact (List.append_nil _).symm
      | cons data rest =>
          rw [waiting, flatMap_message_cons, nothing] at bytes
          cases bytes
  | size data rest next pc start empty bytes accumulated =>
      rw [linked.inside (by simp [pc]), empty, List.append_nil]
      refine ⟨List.prefix_append _ _, ?_⟩
      intro nothing
      have length := congrArg List.length bytes
      rw [nothing, List.length_append, length_littleEndian32,
        List.length_nil] at length
      omega
  | payload front back rest next pc more iteration left bytes accumulated =>
      rw [linked.inside (by simp [pc]), iteration, next, List.flatten_cons,
        List.append_assoc]
      refine ⟨(List.prefix_append_right_inj _).mpr
        (List.prefix_append _ _), ?_⟩
      intro nothing
      rw [nothing] at bytes
      exact absurd (List.append_eq_nil_iff.mp bytes.symm).1 more
  | acknowledge data rest next pc iteration bytes accumulated =>
      rw [linked.inside (by simp [pc]), iteration, next, List.flatten_cons]
      refine ⟨(List.prefix_append_right_inj _).mpr
        (List.prefix_append _ _), ?_⟩
      intro nothing
      cases rest with
      | nil =>
          rw [List.flatten_nil, List.append_nil]
          rfl
      | cons later rest =>
          rw [flatMap_message_cons, nothing] at bytes
          cases bytes

/-- The transfers of the engine are the whole blocks of what was received. -/
theorem wire_blocks {stream : WriteStream} {server : WriteServer}
    (serving : ServingWrite server) (mirrors : Mirrors stream server)
    (blocked : stream.Blocked) (conserved : stream.Conserved) :
    let transfers := server.session.dma.completed ++
      server.session.dma.pending.map server.session.channel.readPayload
    transfers.length = server.received.length / streamSize ∧
      ∀ turn transfer, transfers[turn]? = some transfer →
        transferred transfer =
            (some (blockAt streamSize server.received turn), streamSize) ∧
          (turn + 1) * streamSize ≤ server.received.length := by
  intro transfers
  obtain ⟨buffer, _, total⟩ := conserved
  rw [mirrors.received] at total
  have wire : transfers.map transferred =
      server.session.submitted.map packet := by
    rw [List.map_append, List.map_map]
    exact serving.transmitting.conveyed.stream_packets
  constructor
  · have short : (buffer.load 0 stream.bufferPtr.toNat).length <
        streamSize := by
      rw [ByteMemory.length_load]
      exact blocked.room
    have count := length_blocks blocked.whole short
    rw [total, mirrors.submitted, List.length_map] at count
    have lengths := congrArg List.length wire
    rw [List.length_map, List.length_map, count] at lengths
    exact lengths
  · intro turn transfer found
    have here := congrArg (fun packets => packets[turn]?) wire
    simp only [List.getElem?_map, found, Option.map_some] at here
    obtain ⟨entry, isEntry, same⟩ := Option.map_eq_some_iff.mp here.symm
    have block : stream.submitted[turn]? = some entry.bytes := by
      rw [mirrors.submitted, List.getElem?_map, isEntry, Option.map_some]
    have own := blockAt_eq blocked.whole
      (buffer.load 0 stream.bufferPtr.toNat) block
    rw [total] at own
    constructor
    · rw [← same, packet, own,
        serving.whole entry (List.mem_of_getElem? isEntry)]
    · rw [← total, List.length_append,
        length_flatten_of_blocks blocked.whole]
      have bound := (List.getElem?_eq_some_iff.mp block).1
      have room : (turn + 1) * streamSize ≤
          stream.submitted.length * streamSize :=
        Nat.mul_le_mul_right streamSize bound
      exact Nat.le_trans room (Nat.le_add_right _ _)

theorem start_no_transfers (channel : DmaProxyChannel) :
    (Session.start channel).dma.completed = [] ∧
      (Session.start channel).dma.pending = [] := by
  obtain ⟨_, _, _, engine, _, _⟩ := ioOpenStreamLocal_spec channel
  change (ioOpenStreamLocal channel).channel.engine.completed = [] ∧
    (ioOpenStreamLocal channel).channel.engine.pending = []
  rw [engine]
  exact ⟨rfl, rfl⟩

/-- Whatever a client writes, the transfers of the engine, those completed
and those to come, are the blocks of `stream_size` bytes of it, in order, and
they are all whole blocks received so far; none has failed, and when nothing
is in flight everything has been received. -/
theorem remote_transmit {setting : DeviceSetting}
    (direction : setting.channel.engine.direction = .memToDev)
    {transmission : Transmission}
    (reached : (transmissions setting).Reachable .opened transmission) :
    let session := transmission.server.session setting
    let transfers := session.dma.completed ++
      session.dma.pending.map session.channel.readPayload
    let written := transmission.sent.flatten
    let received := transmission.server.received
    session.dma.failed = [] ∧
      received <+: written ∧
      (transmission.inFlight = [] → received = written) ∧
      transfers.length = received.length / streamSize ∧
      ∀ turn transfer, transfers[turn]? = some transfer →
        transferred transfer =
          (some (blockAt streamSize written turn), streamSize) := by
  intro session transfers written received
  obtain ⟨exchange, follows⟩ :=
    Transmission.Follows.of_reachable direction reached
  have corresponds := follows.server
  cases at_ : transmission.server with
  | elsewhere =>
      rw [at_] at corresponds
      exact corresponds.elim
  | dispatching =>
      rw [at_] at corresponds
      have dispatching : exchange.server = .dispatching := corresponds
      have server := follows.inStep.server
      rw [dispatching] at server
      obtain ⟨nothing, written⟩ := server
      obtain ⟨completed, pending⟩ := start_no_transfers setting.channel
      simp only [transfers, session, received, at_, DeviceServer.session,
        DeviceServer.received, completed, pending]
      refine ⟨(Transmitting.start
        direction).inTurn.orderly.punctual.failed, List.nil_prefix, ?_,
        rfl, ?_⟩
      · intro empty
        rw [follows.inFlight, written, follows.inStep.writes] at empty
        split at empty
        · rename_i none
          change [] = transmission.sent.flatten
          rw [follows.sent, none]
          rfl
        · cases empty
      · intro turn transfer found
        cases found
  | writing server =>
      obtain ⟨stream, streamAt, linked⟩ := follows.writing at_
      have own : session = server.session := by
        simp only [session, at_, DeviceServer.session]
      have bytes : received = server.received := by
        simp only [received, at_, DeviceServer.received]
      obtain ⟨isPrefix, all⟩ :=
        linked.received_isPrefix follows.inStep streamAt
      rw [← follows.sent] at isPrefix all
      rw [← follows.inFlight] at all
      obtain ⟨length, blocks⟩ := wire_blocks linked.serving linked.mirrors
        linked.blocked linked.steady.conserved
      simp only [transfers, own, bytes]
      refine ⟨linked.serving.transmitting.inTurn.orderly.punctual.failed,
        isPrefix, all, length, ?_⟩
      intro turn transfer found
      obtain ⟨block, inside⟩ := blocks turn transfer found
      rw [blockAt_of_isPrefix isPrefix inside]
      exact block

/-- The payload of one whole buffer. -/
@[irreducible] def wholeBlock : List UInt8 := List.replicate streamSize 7

theorem length_wholeBlock : wholeBlock.length = streamSize := by
  rw [wholeBlock]
  exact List.length_replicate

def probedSetting : DeviceSetting :=
  { channel := .probed .memToDev, startCmd := 0 }

/-- A transmission of one whole buffer. -/
def blockInFlight (server : DeviceServer) (inFlight : List UInt8) :
    Transmission :=
  { client := { handshaked := true, remainRecvSize := 0 }
    sent := [wholeBlock], inFlight := inFlight, server := server }

/-- The server after these calls, none of which meets a refusal or a wait. -/
def serverAfter (results : List SocketResult) : WriteServer :=
  runInputs WriteServer.step (.enter probedSetting.channel 0 {})
    (results.map fun result => .call result .accepted {})

theorem serverAfter_append (results : List SocketResult)
    (result : SocketResult) :
    serverAfter (results ++ [result]) =
      (serverAfter results).step (.call result .accepted {}) := by
  simp only [serverAfter, List.map_append, runInputs_append, List.map_cons,
    List.map_nil, runInputs_cons, runInputs_nil]

/-- The header fields of one message that fills a buffer. -/
def headerResults : List SocketResult :=
  [.received [CmdCallType.callWriteStream.code],
    .received (littleEndian32 (UInt32.ofNat streamSize))]

theorem blockInFlight_selected :
    (transmissions probedSetting).Reachable .opened
      (blockInFlight (.writing (serverAfter []))
        (writeStreamMessage wholeBlock)) := by
  have written : (transmissions probedSetting).Reachable .opened
      (blockInFlight .dispatching (CmdCallType.callWriteStream.code ::
        (writeStreamMessage wholeBlock ++ []))) := by
    refine (TransitionSystem.Reachable.refl _ _).step
      (TransmissionStep.write wholeBlock ?_)
    rw [length_wholeBlock]
    decide
  rw [List.append_nil] at written
  have selecting : TransmissionStep probedSetting
      (blockInFlight .dispatching (CmdCallType.callWriteStream.code ::
        writeStreamMessage wholeBlock)) (.select {}) _ :=
    .select {} rfl rfl (by decide +kernel)
  exact written.step selecting

theorem blockInFlight_receive {results : List SocketResult}
    {bytes rest : List UInt8}
    (reached : (transmissions probedSetting).Reachable .opened
      (blockInFlight (.writing (serverAfter results)) (bytes ++ rest)))
    (positive : 0 < bytes.length)
    (wanted : bytes.length = (serverAfter results).wanted)
    (fits : (serverAfter results).pc = .payload →
      (serverAfter results).bufferPtr.toNat + bytes.length ≤ bufferSize)
    (calm : (serverAfter results).Calm
      (.call (.received bytes) .accepted {})) :
    (transmissions probedSetting).Reachable .opened
      (blockInFlight
        (.writing (serverAfter (results ++ [.received bytes]))) rest) := by
  have front : (bytes ++ rest).take bytes.length = bytes :=
    List.take_left
  have back : (bytes ++ rest).drop bytes.length = rest :=
    List.drop_left
  have available : bytes.length ≤ (bytes ++ rest).length := by
    simp
  have next := reached.step (.receive bytes.length .accepted {} rfl positive
    (Nat.le_of_eq wanted) available (fun _ => wanted) fits
    (by simp only [blockInFlight, front]; exact calm))
  simp only [blockInFlight, front, back, ← serverAfter_append] at next
  exact next

theorem WriteServer.calm_field {server : WriteServer}
    (field : server.pc ≠ .payload) (result : SocketResult)
    (response : SubmitResponse) (script : WaitScript) :
    server.Calm (.call result response script) := by
  rintro data ⟨pc, _⟩
  exact absurd pc field

theorem serverAfter_calm_payload : (serverAfter headerResults).Calm
    (.call (.received wholeBlock) .accepted {}) := by
  rintro data ⟨_, held, _⟩
  have first : (serverAfter headerResults).chBuffer = some 0 := by
    decide +kernel
  rw [held] at first
  rw [Option.some.inj first]
  refine ⟨rfl, ?_⟩
  decide +kernel

theorem WriteServer.receivePayload_pc {server : WriteServer} {data : Nat}
    (payload : server.pc = .payload) (held : server.chBuffer = some data)
    {result : SocketResult} (positive : ¬result.count ≤ 0)
    (response : SubmitResponse) (script : WaitScript) :
    (server.step (.call result response script)).pc =
      WriteStream.payloadOrAcknowledge (server.recvSize - result.count) := by
  simp only [step, payload, receivePayload, if_neg positive, held]
  split
  · rfl
  · rfl

theorem serverAfter_payload :
    (serverAfter (headerResults ++ [.received wholeBlock])).pc =
      .acknowledge := by
  have payload : (serverAfter headerResults).pc = .payload := by
    decide +kernel
  have held : (serverAfter headerResults).chBuffer = some 0 := by
    decide +kernel
  have asked : (serverAfter headerResults).recvSize = 131072 := by
    decide +kernel
  have count : (SocketResult.received wholeBlock).count = 131072 := by
    rw [SocketResult.count, length_wholeBlock]
    rfl
  have positive : ¬(SocketResult.received wholeBlock).count ≤ 0 := by
    rw [count]
    decide
  rw [serverAfter_append, WriteServer.receivePayload_pc payload held positive,
    asked, count]
  decide

theorem block_transmitted : (transmissions probedSetting).Reachable .opened
    (blockInFlight (.writing ((serverAfter (headerResults ++
      [.received wholeBlock, .sent])).step (.engine .complete))) []) := by
  have message : writeStreamMessage wholeBlock =
      [CmdCallType.callWriteStream.code] ++
        (littleEndian32 (UInt32.ofNat streamSize) ++
          (wholeBlock ++ [])) := by
    rw [writeStreamMessage, length_wholeBlock, List.append_nil,
      List.append_assoc]
  have selected := blockInFlight_selected
  rw [message] at selected
  have start := blockInFlight_receive selected (by decide) (by decide)
    (by decide +kernel) (WriteServer.calm_field (by decide +kernel) _ _ _)
  have header : (transmissions probedSetting).Reachable .opened
      (blockInFlight (.writing (serverAfter headerResults))
        (wholeBlock ++ [])) :=
    blockInFlight_receive start (by decide) (by decide)
      (by decide +kernel) (WriteServer.calm_field (by decide +kernel) _ _ _)
  have payload := blockInFlight_receive header
    (by rw [length_wholeBlock]; decide)
    (by rw [length_wholeBlock]; decide +kernel)
    (fun _ => by rw [length_wholeBlock]; decide +kernel)
    serverAfter_calm_payload
  have acknowledged := payload.step (.acknowledge rfl serverAfter_payload)
  rw [List.append_cons, serverAfter_append]
  exact acknowledged.step (.engine .complete rfl trivial)

theorem remote_transmit_block :
    ∃ transmission : Transmission,
      (transmissions probedSetting).Reachable .opened transmission ∧
      transmission.sent = [wholeBlock] ∧
      let session := transmission.server.session probedSetting
      let transfers := session.dma.completed ++
        session.dma.pending.map session.channel.readPayload
      transfers.length = 1 ∧
        ∀ turn transfer, transfers[turn]? = some transfer →
          transferred transfer =
            (some (blockAt streamSize wholeBlock turn), streamSize) := by
  obtain ⟨_, _, all, length, blocks⟩ :=
    remote_transmit rfl block_transmitted
  refine ⟨_, block_transmitted, rfl, ?_, ?_⟩
  · rw [length, all rfl]
    change [wholeBlock].flatten.length / streamSize = 1
    rw [List.flatten_singleton, length_wholeBlock]
    decide
  · intro turn transfer found
    have written : [wholeBlock].flatten = wholeBlock := by simp
    have block := blocks turn transfer found
    simp only [blockInFlight, written] at block
    exact block

end StreamIO.Backend
