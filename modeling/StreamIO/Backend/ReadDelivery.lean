import Mathlib.Logic.Function.Iterate
import StreamIO.Backend.ReadStream

/-!
# What a remote read stream delivers

The last 32 transfers of the loop are still in their buffers, so the packet
sent from a buffer is what the transfer 32 iterations earlier left there.
-/

namespace StreamIO.Backend

open StreamIO.Library StreamIO.Driver StreamIO.Local StreamIO.Net

/-- Every transfer started so far, in order. -/
def transfers (channel : DmaProxyChannel) : List Transfer :=
  channel.engine.completed ++ channel.engine.pending

/-- The transfers of the engine are those submitted, in ring order, and the
buffers hold what the last 32 of them have left there. -/
structure Received (submitted : List Submission)
    (channel : DmaProxyChannel) : Prop where
  direction : channel.engine.direction = .devToMem
  keys : (transfers channel).map Transfer.key =
    submitted.map fun entry => (entry.cookie, entry.bdindex, entry.length)
  turn : ∀ position entry, submitted[position]? = some entry →
    entry.bdindex = position % bufferCount
  recent : submitted.length ≤ channel.engine.completed.length + 1
  content : ∀ position transfer,
    (transfers channel)[position]? = some transfer →
    submitted.length ≤ position + bufferCount →
    ∀ offset, offset < readStreamSize →
      (channel.bufferTable (position % bufferCount)).buffer offset =
        leftBy transfer offset

namespace Received

variable {submitted : List Submission} {channel after : DmaProxyChannel}

theorem length_transfers (received : Received submitted channel) :
    (transfers channel).length = submitted.length := by
  have lengths := congrArg List.length received.keys
  simpa using lengths

theorem bdindex (received : Received submitted channel) {position : Nat}
    {transfer : Transfer}
    (started : (transfers channel)[position]? = some transfer) :
    transfer.bdindex = position % bufferCount := by
  have key := congrArg (fun keys => keys[position]?) received.keys
  simp only [List.getElem?_map, started, Option.map_some] at key
  obtain ⟨entry, submission, same⟩ := Option.map_eq_some_iff.mp key.symm
  have own := received.turn position entry submission
  have index : entry.bdindex = transfer.bdindex :=
    congrArg (fun key => key.2.1) same
  rw [← index]
  exact own

theorem head_bdindex (received : Received submitted channel)
    {transfer : Transfer} {rest : List Transfer}
    (pending : channel.engine.pending = transfer :: rest) :
    transfer.bdindex =
      channel.engine.completed.length % bufferCount := by
  apply received.bdindex
  simp [transfers, pending]

theorem congr (received : Received submitted channel)
    (engine : after.engine = channel.engine)
    (buffer : ∀ index, (after.bufferTable index).buffer =
      (channel.bufferTable index).buffer) :
    Received submitted after := by
  have same : transfers after = transfers channel := by
    simp only [transfers, engine]
  refine ⟨?_, ?_, received.turn, ?_, ?_⟩
  · rw [engine]
    exact received.direction
  · rw [same]
    exact received.keys
  · rw [engine]
    exact received.recent
  · intro position transfer started window offset inside
    rw [same] at started
    rw [buffer]
    exact received.content position transfer started window offset inside

theorem leftBy_deliver (transfer : Transfer) (bytes : List UInt8)
    {buffer : ByteMemory} {offset : Nat}
    (before : buffer offset = leftBy transfer offset) :
    buffer.store (transfer.moved.getD []).length bytes offset =
      leftBy { transfer with
        moved := some (transfer.moved.getD [] ++ bytes) } offset := by
  have appended := ByteMemory.store_append
    (ByteMemory.fill (fun _ => 0) 0 readStreamSize 0xFF) 0
    (transfer.moved.getD []) bytes
  rw [Nat.zero_add] at appended
  simp only [leftBy, Option.getD_some]
  rw [← appended]
  simp only [leftBy] at before
  unfold ByteMemory.store at before ⊢
  simp only [before]

theorem deliver (received : Received submitted channel)
    (bytes : List UInt8) :
    Received submitted (channel.engineStep (.deliver bytes)) := by
  have direction := received.direction
  cases pending : channel.engine.pending with
  | nil =>
      simp only [DmaProxyChannel.engineStep, direction, pending]
      exact received
  | cons running rest =>
      have own := received.head_bdindex pending
      have total := received.length_transfers
      have recent := received.recent
      have keys := received.keys
      simp only [transfers, pending, List.length_append,
        List.length_cons] at total keys
      simp only [DmaProxyChannel.engineStep, direction, pending]
      refine ⟨rfl, ?_, received.turn, recent, ?_⟩
      · rw [← keys]
        simp [transfers, Transfer.key]
      · intro position transfer started window offset inside
        simp only [transfers] at started
        by_cases current : position = channel.engine.completed.length
        · subst position
          simp only [List.getElem?_append_right (Nat.le_refl _),
            Nat.sub_self, List.getElem?_cons_zero,
            Option.some.injEq] at started
          subst transfer
          have before := received.content _ running
            (by simp [transfers, pending]) window offset inside
          simp only [DmaProxyChannel.storeReceived, own,
            DmaProxyChannel.setBuffer, Function.update_self]
          exact leftBy_deliver running _ before
        · have present : position <
              (channel.engine.completed ++ running :: rest).length := by
            have bound := (List.getElem?_eq_some_iff.mp started).1
            simpa using bound
          have elsewhere : position % bufferCount ≠ running.bdindex := by
            rw [own]
            simp only [List.length_append, List.length_cons] at present
            simp only [bufferCount] at window ⊢
            omega
          have unchanged : (transfers channel)[position]? =
              some transfer := by
            rw [← started]
            simp only [transfers, pending, List.getElem?_append]
            split
            · rfl
            · have later : position - channel.engine.completed.length ≠ 0 := by
                omega
              obtain ⟨distance, equation⟩ :=
                Nat.exists_eq_succ_of_ne_zero later
              rw [equation]
              rfl
          have before := received.content position transfer unchanged window
            offset inside
          simp only [DmaProxyChannel.storeReceived,
            DmaProxyChannel.setBuffer, Function.update_of_ne elsewhere]
          exact before

theorem complete (received : Received submitted channel) :
    Received submitted (channel.engineStep .complete) := by
  have direction := received.direction
  cases pending : channel.engine.pending with
  | nil =>
      simp only [DmaProxyChannel.engineStep, pending]
      exact received
  | cons running rest =>
      have same : transfers (channel.engineStep .complete) =
          transfers channel := by
        simp [DmaProxyChannel.engineStep, transfers, pending,
          DmaProxyChannel.settle, direction]
      refine ⟨?_, ?_, received.turn, ?_, ?_⟩
      · rw [(channel.engineStep_sameDriver .complete).direction]
        exact direction
      · rw [same]
        exact received.keys
      · have recent := received.recent
        simp only [DmaProxyChannel.engineStep, pending, List.length_append,
          List.length_singleton]
        omega
      · rw [same]
        simp only [DmaProxyChannel.engineStep, pending]
        exact received.content

theorem engineStep (received : Received submitted channel)
    {event : EngineEvent} (faultless : Faultless event) :
    Received submitted (channel.engineStep event) := by
  cases event with
  | fetch position =>
      simp only [DmaProxyChannel.engineStep, received.direction]
      exact received
  | deliver bytes => exact received.deliver bytes
  | complete => exact received.complete
  | fail callback => exact faultless.elim

theorem payloadInvariant : PayloadInvariant (Received submitted) where
  engineStep faultless received := received.engineStep faultless
  congr engine buffer received := received.congr engine buffer

theorem idle_completed (received : Received submitted channel)
    (idle : channel.engine.pending = []) :
    transfers channel = channel.engine.completed ∧
      channel.engine.completed.length = submitted.length := by
  have total := received.length_transfers
  have all : transfers channel = channel.engine.completed := by
    simp [transfers, idle]
  rw [all] at total
  exact ⟨all, total⟩

/-- Filling the next buffer of the ring and starting a transfer on it takes
the oldest transfer out of the window. -/
theorem restart (received : Received submitted channel)
    (idle : channel.engine.pending = []) {filled : ByteMemory}
    (ones : ∀ offset, offset < readStreamSize → filled offset = 0xFF)
    {size : UInt32} (entry : Submission)
    (start : Started (channel.setBuffer (submitted.length % bufferCount)
      filled) (submitted.length % bufferCount) size after)
    (cookie : entry.cookie = channel.engine.lastCookie + 1)
    (bdindex : entry.bdindex = submitted.length % bufferCount)
    (length : entry.length = size.toNat) :
    Received (submitted ++ [entry]) after := by
  obtain ⟨all, count⟩ := received.idle_completed idle
  have started : transfers after = transfers channel ++
      [{ cookie := channel.engine.lastCookie + 1
         bdindex := submitted.length % bufferCount
         length := size.toNat, moved := none }] := by
    simp [transfers, start.engine, DmaProxyChannel.setBuffer]
  have completed : after.engine.completed = channel.engine.completed := by
    rw [start.engine]
    rfl
  refine ⟨?_, ?_, ?_, ?_, ?_⟩
  · rw [start.engine]
    exact received.direction
  · rw [started, List.map_append, received.keys, List.map_append]
    simp [Transfer.key, cookie, bdindex, length]
  · intro position item submission
    rw [List.getElem?_append] at submission
    split at submission
    · exact received.turn position item submission
    · obtain ⟨bound, same⟩ := List.getElem?_eq_some_iff.mp submission
      have last : position = submitted.length := by
        simp only [List.length_singleton] at bound
        omega
      subst position
      simp only [Nat.sub_self, List.getElem_singleton] at same
      rw [← same]
      exact bdindex
  · simp [completed, count]
  · intro position transfer present window offset inside
    rw [List.length_append, List.length_singleton] at window
    rw [start.buffer]
    rw [started, List.getElem?_append, received.length_transfers] at present
    split at present
    · rename_i earlier
      have elsewhere : position % bufferCount ≠
          submitted.length % bufferCount := by
        simp only [bufferCount] at window ⊢
        omega
      simp only [DmaProxyChannel.setBuffer, Function.update_of_ne elsewhere]
      exact received.content position transfer present (by omega) offset
        inside
    · obtain ⟨bound, same⟩ := List.getElem?_eq_some_iff.mp present
      have last : position = submitted.length := by
        simp only [List.length_singleton] at bound
        omega
      subst position
      simp only [Nat.sub_self, List.getElem_singleton] at same
      subst transfer
      have untouched := ByteMemory.store_of_ge
        (ByteMemory.fill (fun _ => 0) 0 readStreamSize 0xFF)
        [] (Nat.zero_le offset)
      simp only [DmaProxyChannel.setBuffer, Function.update_self, leftBy,
        Option.getD_none]
      rw [ones offset inside, untouched,
        ByteMemory.fill_of_lt _ _ (Nat.zero_le _) (by omega)]

end Received

theorem advance_idle {session : Session} (idle : session.dma.pending = [])
    (events : List EngineEvent) : advance session events = session := by
  have same := DmaProxyChannel.runEngine_idle idle events
  simp only [advance, Session.channel, same]

theorem advance_inTurn {session : Session} (inTurn : InTurn session)
    {events : List EngineEvent}
    (faultless : ∀ event ∈ events, Faultless event) :
    InTurn (advance session events) :=
  ⟨inTurn.count, inTurn.handed, inTurn.current, inTurn.inRange,
    DmaProxyChannel.runEngine_preserves
      (fun _ _ allowed orderly => orderly.engineStep allowed) faultless
      inTurn.orderly⟩

theorem completed_invariant (earlier : List Transfer) :
    PayloadInvariant fun channel => earlier <+: channel.engine.completed where
  engineStep := by
    intro channel event faultless isPrefix
    cases channel.engineStep_effect event with
    | quiet pending completed failed =>
        rw [completed]
        exact isPrefix
    | completes transfer settled rest head pending same completed failed =>
        rw [completed]
        exact isPrefix.trans (List.prefix_append _ _)
    | fails transfer rest head pending completed failed =>
        rw [completed]
        exact isPrefix
  congr := by
    intro channel after engine _ isPrefix
    rw [engine]
    exact isPrefix

/-- The state of an undisturbed iteration when its packet is written. -/
structure Synced (before : Session) (after : Session) : Prop where
  inTurn : InTurn after
  idle : after.dma.pending = []
  free : ∀ index, index < bufferCount → after.device.status index = .noError
  handed : after.handed = before.handed ++
    [bufferAddress (before.handed.length % bufferCount)]
  submitted : after.submitted = before.submitted
  payload : ∀ {holds}, PayloadInvariant holds → holds before.channel →
    holds after.channel

theorem ReadStream.synced_spec {state : ReadStream}
    {script : IterationScript} (inTurn : InTurn state.session)
    (undisturbed : state.Undisturbed script) :
    Synced state.session (state.synced script) ∧
      (ioStreamGetBuffer (state.asked script).device script.getWait).2 =
        some (bufferAddress (state.session.handed.length % bufferCount)) := by
  have asked : InTurn (state.asked script) :=
    advance_inTurn inTurn undisturbed.beforeGet
  obtain ⟨got, _, handed, gotChannel⟩ := asked.getBuffer undisturbed.getWait
  have taken : InTurn (state.taken script) :=
    advance_inTurn got undisturbed.beforeSync
  obtain ⟨synced, free, idle⟩ := taken.sync undisturbed.syncWaits
  have same : state.synced script =
      (state.taken script).step (.sync script.syncWaits) :=
    advance_idle idle script.beforeSend
  refine ⟨?_, ?_⟩
  · rw [same]
    refine ⟨synced, idle, free, handed, rfl, ?_⟩
    intro holds invariant before
    rw [taken.sync_channel]
    apply invariant.finishAll (fun index member => List.mem_range.mp member)
      undisturbed.syncWaits
    apply invariant.runEngine undisturbed.beforeSync
    rw [gotChannel]
    apply invariant.finishBuffer asked.current_bound undisturbed.getWait
    exact invariant.runEngine undisturbed.beforeGet before
  · rw [asked.ioStreamGetBuffer_prompt undisturbed.getWait]
    rfl

/-- The loop invariant. -/
structure Delivering (state : ReadStream) : Prop where
  looping : state.control = .looping
  inTurn : InTurn state.session
  received : Received state.session.submitted state.session.channel
  turns : state.session.handed.length = state.wire.length
  started : state.session.submitted.length = state.wire.length
  delivered : state.wire.drop bufferCount =
    (state.session.dma.completed.take (state.wire.length - bufferCount)).map
      fun transfer => readPacket (leftBy transfer)
  quiet : state.inFlight = List.replicate state.wire.length []

namespace Delivering

variable {state : ReadStream}

theorem start {channel : DmaProxyChannel}
    (direction : channel.engine.direction = .devToMem) :
    Delivering (ReadStream.start channel) := by
  obtain ⟨_, _, _, engine, _, _⟩ := ioOpenStreamLocal_spec channel
  have none : transfers (Session.start channel).channel = [] := by
    change (ioOpenStreamLocal channel).channel.engine.completed ++
      (ioOpenStreamLocal channel).channel.engine.pending = []
    rw [engine]
    rfl
  refine ⟨rfl, .start channel, ⟨?_, ?_, ?_, Nat.zero_le _, ?_⟩, rfl, rfl, ?_,
    rfl⟩
  · change (ioOpenStreamLocal channel).channel.engine.direction = .devToMem
    rw [engine]
    exact direction
  · exact congrArg (List.map Transfer.key) none
  · intro position entry submission
    simp [ReadStream.start, Session.start] at submission
  · intro position transfer present
    have absent : (transfers (Session.start channel).channel)[position]? =
        some transfer := present
    rw [none] at absent
    simp at absent
  · simp [ReadStream.start]

/-- The bytes sent are what the transfer 32 iterations earlier left. -/
theorem packet_sent (delivering : Delivering state) {after : Session}
    (synced : Synced state.session after)
    (wrapped : bufferCount ≤ state.wire.length) :
    ∃ transfer,
      after.dma.completed[state.wire.length - bufferCount]? =
        some transfer ∧
      readPacket (after.channel.bufferTable
          (state.wire.length % bufferCount)).buffer =
        readPacket (leftBy transfer) := by
  have received := synced.payload Received.payloadInvariant
    delivering.received
  obtain ⟨all, count⟩ := received.idle_completed synced.idle
  have inside : state.wire.length - bufferCount <
      after.channel.engine.completed.length := by
    rw [count, delivering.started]
    simp only [bufferCount] at wrapped ⊢
    omega
  refine ⟨after.channel.engine.completed[state.wire.length - bufferCount],
    List.getElem?_eq_getElem inside, ?_⟩
  have own : (state.wire.length - bufferCount) % bufferCount =
      state.wire.length % bufferCount :=
    (Nat.mod_eq_sub_mod wrapped).symm
  have content := received.content (state.wire.length - bufferCount) _
    (by rw [all]; exact List.getElem?_eq_getElem inside)
    (by rw [delivering.started]; omega)
  rw [own] at content
  have sent : (after.channel.bufferTable
      (state.wire.length % bufferCount)).buffer.load 0 readSendSize =
      (leftBy after.channel.engine.completed[
        state.wire.length - bufferCount]).load 0 readSendSize := by
    apply ByteMemory.load_congr
    intro offset _ bound
    apply content
    simp only [readSendSize] at bound
    simp only [readStreamSize]
    omega
  simp only [readPacket, sent]

theorem delivered_next (delivering : Delivering state) {after : Session}
    (synced : Synced state.session after) :
    (state.wire ++ [readPacket (after.channel.bufferTable
        (state.wire.length % bufferCount)).buffer]).drop bufferCount =
      (after.dma.completed.take (state.wire.length + 1 - bufferCount)).map
        fun transfer => readPacket (leftBy transfer) := by
  by_cases wrapped : bufferCount ≤ state.wire.length
  · obtain ⟨transfer, position, sent⟩ :=
      delivering.packet_sent synced wrapped
    obtain ⟨rest, extended⟩ := synced.payload (completed_invariant
      state.session.dma.completed) (List.prefix_refl _)
    have enough : state.wire.length - bufferCount ≤
        state.session.dma.completed.length := by
      have recent := delivering.received.recent
      rw [delivering.started] at recent
      have same : state.session.dma.completed.length =
        state.session.channel.engine.completed.length := rfl
      simp only [bufferCount] at wrapped ⊢
      omega
    have earlier : after.dma.completed.take
        (state.wire.length - bufferCount) =
        state.session.dma.completed.take
          (state.wire.length - bufferCount) := by
      change after.channel.engine.completed.take _ = _
      rw [← extended, List.take_append_of_le_length enough]
    have next : state.wire.length + 1 - bufferCount =
        state.wire.length - bufferCount + 1 := by omega
    rw [List.drop_append_of_le_length wrapped, delivering.delivered, next,
      List.take_add_one, List.map_append, earlier, position, sent]
    rfl
  · have none : state.wire.length + 1 - bufferCount = 0 := by omega
    rw [none, List.take_zero, List.map_nil]
    apply List.drop_of_length_le
    simp only [List.length_append, List.length_singleton]
    omega

/-- The two calls that restart a buffer. -/
def restartBuffer (session : Session) (index : Nat) : Session :=
  (session.step (.store (bufferAddress index) 0
    (List.replicate readStreamSize 0xFF))).step
      (.submit (bufferAddress index) (UInt32.ofNat readStreamSize) .accepted)

theorem restartBuffer_received {session : Session}
    (received : Received session.submitted session.channel)
    (idle : session.dma.pending = []) :
    let after := restartBuffer session
      (session.submitted.length % bufferCount)
    Received after.submitted after.channel := by
  have bound : session.submitted.length % bufferCount < bufferCount :=
    Nat.mod_lt _ (by decide)
  let filled := session.step (.store
    (bufferAddress (session.submitted.length % bufferCount)) 0
    (List.replicate readStreamSize 0xFF))
  have start := ioWriteStreamLocal_started filled.device bound
    (UInt32.ofNat readStreamSize)
  simp only [filled, Session.step, bufferAddress_div] at start
  have received := received.restart idle
    (fun offset inside => replicate_filled _ inside)
    (filled.submission (session.submitted.length % bufferCount)
      (UInt32.ofNat readStreamSize)) start rfl rfl rfl
  simp only [restartBuffer, Session.step, bufferAddress_div, if_true]
  simp only [filled, Session.step, bufferAddress_div] at received
  exact received

theorem restartBuffer_inTurn {session : Session} (inTurn : InTurn session)
    {index : Nat} (bound : index < bufferCount)
    (free : session.device.status index = .noError) :
    InTurn (restartBuffer session index) := by
  apply (inTurn.store _ _ _).submit bound
  exact ((SameDriver.setBuffer session.channel _ _).status _).trans free

theorem restartBuffer_accounts (session : Session) {index : Nat}
    (bound : index < bufferCount) :
    (restartBuffer session index).handed = session.handed ∧
      (restartBuffer session index).submitted.length =
        session.submitted.length + 1 ∧
      (restartBuffer session index).dma.completed =
        session.dma.completed := by
  let filled := session.step (.store (bufferAddress index) 0
    (List.replicate readStreamSize 0xFF))
  have start := ioWriteStreamLocal_started filled.device bound
    (UInt32.ofNat readStreamSize)
  refine ⟨rfl, ?_, ?_⟩
  · simp [restartBuffer, Session.step]
  · have completed := congrArg DmaEngine.completed start.engine
    exact completed

theorem restarted_eq {script : IterationScript}
    (idle : (state.synced script).dma.pending = [])
    (accepted : script.response = .accepted) (index : Nat) :
    state.restarted script (bufferAddress index) =
      restartBuffer (state.synced script) index := by
  have stillIdle : ((state.synced script).step (.store (bufferAddress index)
      0 (List.replicate readStreamSize 0xFF))).dma.pending = [] := idle
  simp only [ReadStream.restarted, advance_idle idle,
    advance_idle stillIdle, accepted, restartBuffer]

/-- One undisturbed iteration keeps the loop invariant. -/
theorem iterate (delivering : Delivering state) {script : IterationScript}
    (undisturbed : state.Undisturbed script) :
    Delivering (state.iterate script) := by
  obtain ⟨synced, pointer⟩ :=
    ReadStream.synced_spec delivering.inTurn undisturbed
  have bound : state.wire.length % bufferCount < bufferCount :=
    Nat.mod_lt _ (by decide)
  have received := synced.payload Received.payloadInvariant
    delivering.received
  rw [← synced.submitted] at received
  have count : (state.synced script).submitted.length =
      state.wire.length := by
    rw [synced.submitted]
    exact delivering.started
  have restart := restartBuffer_received received synced.idle
  rw [count] at restart
  obtain ⟨handed, submitted, completed⟩ :=
    restartBuffer_accounts (state.synced script) bound
  have packet : ∀ buffer, (readPacket buffer).take
      script.written.toNat = readPacket buffer := by
    intro buffer
    apply List.take_of_length_le
    rw [undisturbed.written]
    simp only [readPacket, List.length_append, List.length_singleton,
      length_littleEndian32, ByteMemory.length_load]
    omega
  have positive : ¬script.written ≤ 0 := by
    rw [undisturbed.written]
    simp only [readSendSize]
    omega
  rw [delivering.turns] at pointer
  rw [ReadStream.iterate_sent delivering.looping pointer positive, packet,
    restarted_eq synced.idle undisturbed.response]
  refine ⟨rfl, restartBuffer_inTurn synced.inTurn bound
    (synced.free _ bound), restart, ?_, ?_, ?_, ?_⟩
  · rw [handed, synced.handed, List.length_append, delivering.turns,
      List.length_append]
    rfl
  · rw [submitted, count, List.length_append]
    rfl
  · rw [completed, List.length_append]
    exact delivering.delivered_next synced
  · rw [synced.idle, delivering.quiet, List.length_append]
    exact List.replicate_succ'.symm

theorem wire_iterate (delivering : Delivering state)
    {script : IterationScript} (undisturbed : state.Undisturbed script) :
    (state.iterate script).wire.length = state.wire.length + 1 := by
  obtain ⟨_, pointer⟩ :=
    ReadStream.synced_spec delivering.inTurn undisturbed
  have positive : ¬script.written ≤ 0 := by
    rw [undisturbed.written]
    simp only [readSendSize]
    omega
  rw [ReadStream.iterate_sent delivering.looping pointer positive]
  simp

theorem run {channel : DmaProxyChannel}
    (direction : channel.engine.direction = .devToMem)
    {scripts : List IterationScript}
    (reached : readStreams.Run (ReadStream.start channel) scripts state) :
    Delivering state := by
  apply reached.invariant Delivering (.start direction)
  rintro state script next delivering ⟨undisturbed, rfl⟩
  exact delivering.iterate undisturbed

theorem wire_length {channel : DmaProxyChannel}
    (direction : channel.engine.direction = .devToMem)
    {scripts : List IterationScript}
    (reached : readStreams.Run (ReadStream.start channel) scripts state) :
    state.wire.length = scripts.length := by
  induction reached with
  | refl => rfl
  | snoc earlier step induction =>
      obtain ⟨undisturbed, rfl⟩ := step
      have delivering := Delivering.run direction earlier
      rw [delivering.wire_iterate undisturbed, induction,
        List.length_append]
      rfl

theorem packet_at (delivering : Delivering state) {position : Nat}
    (sent : position + 32 < state.wire.length) :
    ∃ transfer, state.session.dma.completed[position]? = some transfer ∧
      transfer.bdindex = position % 32 ∧
      state.wire[position + 32]? = some (readPacket (leftBy transfer)) := by
  have recent : state.wire.length ≤
      state.session.dma.completed.length + 1 := by
    rw [← delivering.started]
    exact delivering.received.recent
  have inside : position < state.session.dma.completed.length := by
    omega
  have completed := List.getElem?_eq_getElem inside
  refine ⟨state.session.dma.completed[position], completed, ?_, ?_⟩
  · apply delivering.received.bdindex
    rw [transfers, List.getElem?_append_left inside]
    exact completed
  · have packets := congrArg (fun packets => packets[position]?)
      delivering.delivered
    have early : position < state.wire.length - bufferCount := by
      simp only [bufferCount]
      omega
    simp only [List.getElem?_drop, List.getElem?_map, List.getElem?_take,
      if_pos early, completed] at packets
    rw [Nat.add_comm]
    exact packets

end Delivering

/-- An undisturbed run never leaves the loop, and writes one packet and
starts one transfer an iteration.  From the 33rd packet on the packets are the
transfers of the device, in order and each once, and no transfer is in flight
at a write. -/
theorem read_stream_delivers {channel : DmaProxyChannel}
    (direction : channel.engine.direction = .devToMem) {state : ReadStream}
    {scripts : List IterationScript}
    (run : readStreams.Run (ReadStream.start channel) scripts state) :
    state.control = .looping ∧
      state.wire.length = scripts.length ∧
      (state.session.dma.completed ++ state.session.dma.pending).map
          Transfer.key =
        state.session.submitted.map
          (fun entry => (entry.cookie, entry.bdindex, entry.length)) ∧
      state.session.submitted.Pairwise
        (fun left right => left.cookie < right.cookie) ∧
      state.session.submitted.length = scripts.length ∧
      state.wire.drop 32 =
        (state.session.dma.completed.take (scripts.length - 32)).map
          (fun transfer => [14] ++ littleEndian32 8192 ++
            (leftBy transfer).load 0 8192) ∧
      (∀ position, position + 32 < scripts.length →
        ∃ transfer,
          state.session.dma.completed[position]? = some transfer ∧
          transfer.bdindex = position % 32 ∧
          state.wire[position + 32]? = some ([14] ++ littleEndian32 8192 ++
            (leftBy transfer).load 0 8192)) ∧
      state.inFlight = List.replicate scripts.length [] := by
  have delivering := Delivering.run direction run
  have written := Delivering.wire_length direction run
  rw [← written]
  refine ⟨delivering.looping, rfl, delivering.received.keys,
    delivering.inTurn.orderly.sound.accounted.increasing, delivering.started,
    delivering.delivered, ?_, delivering.quiet⟩
  intro position sent
  exact delivering.packet_at sent

/-- An iteration whose waits end with one byte received. -/
def timelyIteration : IterationScript :=
  { syncWaits := fun _ => { blocked := [.deliver [7], .complete] } }

def timelyStream (count : Nat) : ReadStream :=
  Nat.iterate (fun state => state.iterate timelyIteration) count
    (ReadStream.start (.probed .devToMem))

theorem timelyStream_waits : ∀ count, count < 33 →
    Prompt ((timelyStream count).asked timelyIteration).channel
        ((timelyStream count).asked timelyIteration).device.currentBufferId
        timelyIteration.getWait ∧
      PromptPass timelyIteration.syncWaits (List.range bufferCount)
        ((timelyStream count).taken timelyIteration).channel := by
  decide +kernel

theorem timelyStream_run {count : Nat} (bound : count ≤ 33) :
    readStreams.Run (ReadStream.start (.probed .devToMem))
      (List.replicate count timelyIteration) (timelyStream count) := by
  induction count with
  | zero => exact .refl _
  | succ count induction =>
      obtain ⟨getWait, syncWaits⟩ := timelyStream_waits count (by omega)
      have undisturbed : (timelyStream count).Undisturbed timelyIteration :=
        ⟨by simp [timelyIteration], getWait, by simp [timelyIteration],
          syncWaits, by simp [timelyIteration], rfl,
          by simp [timelyIteration], by simp [timelyIteration], rfl⟩
      have next : readStreams.step (timelyStream count) timelyIteration
          (timelyStream (count + 1)) :=
        ⟨undisturbed, Function.iterate_succ_apply' _ _ _⟩
      rw [List.replicate_succ']
      exact .snoc (induction (by omega)) next

/-- After 33 iterations the first byte of the first transfer has reached the
wire, in packet 32. -/
theorem first_transfer_in_packet_32 :
    (timelyStream 33).wire.length = 33 ∧
      ∃ transfer,
        (timelyStream 33).session.dma.completed[0]? = some transfer ∧
        transfer.moved = some [7] ∧
        (timelyStream 33).wire[32]? = some ([14] ++ littleEndian32 8192 ++
          (leftBy transfer).load 0 8192) := by
  obtain ⟨_, written, _, _, _, _, packets, _⟩ :=
    read_stream_delivers rfl (timelyStream_run (Nat.le_refl 33))
  obtain ⟨transfer, completed, _, packet⟩ := packets 0 (by decide)
  have first : (timelyStream 33).session.dma.completed[0]? =
      some { cookie := 1, bdindex := 0, length := 131072,
             moved := some [7] } := by
    decide +kernel
  refine ⟨written, transfer, completed, ?_, packet⟩
  rw [first] at completed
  rw [← Option.some.inj completed]

end StreamIO.Backend
