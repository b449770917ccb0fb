import StreamIO.Library.ScriptedRun
import StreamIO.Local.Orderly

/-!
# The zero-copy transmit ring is a FIFO

The application takes a buffer, fills it and submits it, packet by packet,
and may synchronise between packets.  What the engine has transferred and
what it will still transfer is at any time the list of submitted packets.
-/

namespace StreamIO.Local

open StreamIO.Driver StreamIO.Library

/-- What a descriptor has put on the wire, if it has read its payload. -/
def carried (transfer : Transfer) : Option Submission :=
  transfer.moved.map fun bytes =>
    { cookie := transfer.cookie, bdindex := transfer.bdindex,
      length := transfer.length, bytes := bytes }

/-- The submissions, in order, are what has been transferred followed by what
the pending descriptors will transfer. -/
structure Conveyed (submitted : List Submission)
    (channel : DmaProxyChannel) : Prop where
  direction : channel.engine.direction = .memToDev
  stream : channel.engine.completed.map carried ++
      channel.engine.pending.map
        (fun transfer => carried (channel.readPayload transfer)) =
    submitted.map some

namespace Conveyed

variable {submitted : List Submission} {channel after : DmaProxyChannel}

theorem readPayload_readPayload (channel : DmaProxyChannel)
    (transfer : Transfer) :
    channel.readPayload (channel.readPayload transfer) =
      channel.readPayload transfer := rfl

theorem readPayload_congr
    (same : ∀ index, (after.bufferTable index).buffer =
      (channel.bufferTable index).buffer) :
    after.readPayload = channel.readPayload := by
  funext transfer
  simp only [DmaProxyChannel.readPayload, same]

private theorem map_carried_modify (pending : List Transfer)
    (position : Nat) :
    (pending.modify position channel.readPayload).map
        (fun transfer => carried (channel.readPayload transfer)) =
      pending.map fun transfer => carried (channel.readPayload transfer) := by
  apply List.ext_getElem
  · simp
  · intro index left right
    simp only [List.getElem_map, List.getElem_modify]
    split
    · rw [readPayload_readPayload]
    · rfl

theorem engineStep (conveyed : Conveyed submitted channel)
    {event : EngineEvent} (faultless : Faultless event) :
    Conveyed submitted (channel.engineStep event) := by
  have direction := conveyed.direction
  cases event with
  | fetch position =>
      simp only [DmaProxyChannel.engineStep, direction]
      refine ⟨rfl, ?_⟩
      have stream := conveyed.stream
      rw [← map_carried_modify channel.engine.pending position] at stream
      exact stream
  | deliver bytes =>
      simp only [DmaProxyChannel.engineStep, direction]
      exact conveyed
  | complete =>
      cases pending : channel.engine.pending with
      | nil =>
          simp only [DmaProxyChannel.engineStep, pending]
          exact conveyed
      | cons transfer rest =>
          have stream := conveyed.stream
          rw [pending, List.map_cons] at stream
          simp only [DmaProxyChannel.engineStep, pending]
          refine ⟨direction, ?_⟩
          simp only [List.map_append, List.map_cons, List.map_nil,
            DmaProxyChannel.settle, direction, List.append_assoc,
            List.singleton_append]
          exact stream
  | fail callback => exact faultless.elim

theorem congr (conveyed : Conveyed submitted channel)
    (engine : after.engine = channel.engine)
    (buffer : ∀ index, (after.bufferTable index).buffer =
      (channel.bufferTable index).buffer) :
    Conveyed submitted after := by
  refine ⟨by rw [engine]; exact conveyed.direction, ?_⟩
  rw [engine, readPayload_congr buffer]
  exact conveyed.stream

theorem payloadInvariant : PayloadInvariant (Conveyed submitted) where
  engineStep faultless conveyed := conveyed.engineStep faultless
  congr engine buffer conveyed := conveyed.congr engine buffer

theorem setBuffer (conveyed : Conveyed submitted channel) {index : Nat}
    (unused : Unused channel index) (buffer : ByteMemory) :
    Conveyed submitted (channel.setBuffer index buffer) := by
  refine ⟨conveyed.direction, ?_⟩
  have same : channel.engine.pending.map (fun transfer =>
        carried ((channel.setBuffer index buffer).readPayload transfer)) =
      channel.engine.pending.map fun transfer =>
        carried (channel.readPayload transfer) := by
    apply List.map_congr_left
    intro transfer pending
    simp only [DmaProxyChannel.readPayload, DmaProxyChannel.setBuffer,
      Function.update_of_ne (unused transfer pending)]
  rw [← conveyed.stream]
  exact congrArg _ same

/-- The payload of a new submission is the one present at that moment. -/
theorem started (conveyed : Conveyed submitted channel) {index : Nat}
    {size : UInt32} (start : Started channel index size after) :
    Conveyed (submitted ++
        [{ cookie := channel.engine.lastCookie + 1
           bdindex := index
           length := size.toNat
           bytes := (channel.bufferTable index).buffer.load 0
             size.toNat }]) after := by
  refine ⟨by rw [start.engine]; exact conveyed.direction, ?_⟩
  rw [readPayload_congr start.buffer, start.engine]
  simp only [List.map_append, List.map_cons, List.map_nil,
    ← List.append_assoc]
  rw [conveyed.stream]
  rfl

end Conveyed

/-- The steps of the transmitting application, and of an engine without
errors: a buffer is taken when none is held, the held buffer is filled and
submitted, and synchronisation happens between packets. -/
def TransmitStep (session : Session) : SessionEvent → Prop
  | .getBuffer script =>
      session.handed.length = session.submitted.length ∧
        Prompt session.channel session.device.currentBufferId script
  | .store data offset bytes =>
      session.handed.length = session.submitted.length + 1 ∧
        session.handed.getLast? = some data ∧
        offset + bytes.length ≤ bufferSize
  | .submit data size response =>
      session.handed.length = session.submitted.length + 1 ∧
        session.handed.getLast? = some data ∧
        size.toNat ≤ bufferSize ∧ response = .accepted
  | .sync scripts =>
      session.handed.length = session.submitted.length ∧
        PromptPass scripts (List.range bufferCount) session.channel
  | .engine event => Faultless event

def transmitSessions : TransitionSystem Session SessionEvent where
  step session event next :=
    TransmitStep session event ∧ next = session.step event

/-- The invariant of a transmitting session; `held` says that the buffer the
application holds, if any, is free. -/
structure Transmitting (session : Session) : Prop where
  inTurn : InTurn session
  conveyed : Conveyed session.submitted session.channel
  packets : session.submitted.length ≤ session.handed.length
  held : session.handed.length = session.submitted.length + 1 →
    session.device.status (session.submitted.length % bufferCount) = .noError

namespace Transmitting

variable {session : Session}

theorem start {channel : DmaProxyChannel}
    (direction : channel.engine.direction = .memToDev) :
    Transmitting (Session.start channel) := by
  obtain ⟨_, _, _, engine, _, _⟩ := ioOpenStreamLocal_spec channel
  refine ⟨.start channel, ⟨?_, ?_⟩, Nat.le_refl _, ?_⟩
  · change (ioOpenStreamLocal channel).channel.engine.direction = .memToDev
    rw [engine]
    exact direction
  · change (ioOpenStreamLocal channel).channel.engine.completed.map carried ++
      (ioOpenStreamLocal channel).channel.engine.pending.map _ = []
    rw [engine]
    rfl
  · simp [Session.start]

theorem heldAddress (transmitting : Transmitting session) {data : Nat}
    (holding : session.handed.length = session.submitted.length + 1)
    (latest : session.handed.getLast? = some data) :
    data = bufferAddress (session.submitted.length % bufferCount) := by
  rw [transmitting.inTurn.handed, holding, List.range_succ, List.map_append,
    List.map_singleton, List.getLast?_concat] at latest
  exact (Option.some.inj latest).symm

theorem getBuffer (transmitting : Transmitting session)
    {script : WaitScript}
    (allowed : TransmitStep session (.getBuffer script)) :
    Transmitting (session.step (.getBuffer script)) := by
  obtain ⟨settled, prompt⟩ := allowed
  obtain ⟨inTurn, free, handed, channel⟩ :=
    transmitting.inTurn.getBuffer prompt
  refine ⟨inTurn, ?_, ?_, ?_⟩
  · rw [channel]
    exact Conveyed.payloadInvariant.finishBuffer
      transmitting.inTurn.current_bound prompt transmitting.conveyed
  · rw [handed, List.length_append]
    exact Nat.le_trans transmitting.packets (Nat.le_add_right _ _)
  · intro _
    have turn : (session.step (.getBuffer script)).submitted.length =
        session.handed.length := settled.symm
    rw [turn]
    exact free

theorem store (transmitting : Transmitting session) {data offset : Nat}
    {bytes : List UInt8}
    (allowed : TransmitStep session (.store data offset bytes)) :
    Transmitting (session.step (.store data offset bytes)) := by
  obtain ⟨holding, latest, _⟩ := allowed
  have free := transmitting.held holding
  obtain rfl := transmitting.heldAddress holding latest
  refine ⟨transmitting.inTurn.store _ _ _, ?_, transmitting.packets, ?_⟩
  · simp only [Session.step, bufferAddress_div]
    exact transmitting.conveyed.setBuffer
      (transmitting.inTurn.orderly.unused free) _
  · intro _
    simp only [Session.step, StreamDevice.status]
    exact ((SameDriver.setBuffer session.channel _ _).status _).trans free

theorem submit (transmitting : Transmitting session) {data : Nat}
    {size : UInt32} {response : SubmitResponse}
    (allowed : TransmitStep session (.submit data size response)) :
    Transmitting (session.step (.submit data size response)) := by
  obtain ⟨holding, latest, _, rfl⟩ := allowed
  have free := transmitting.held holding
  obtain rfl := transmitting.heldAddress holding latest
  have bound : session.submitted.length % bufferCount < bufferCount :=
    Nat.mod_lt _ (by decide)
  have conveyed := transmitting.conveyed.started
    (ioWriteStreamLocal_started session.device bound size)
  have inTurn := transmitting.inTurn.submit bound size free
  refine ⟨inTurn, ?_, ?_, ?_⟩
  · simp only [Session.step, if_true, bufferAddress_div]
    exact conveyed
  · simp only [Session.step, if_true, List.length_append,
      List.length_singleton, holding, Nat.le_refl]
  · simp only [Session.step, if_true, List.length_append,
      List.length_singleton, holding]
    omega

theorem sync (transmitting : Transmitting session)
    {scripts : Nat → WaitScript}
    (allowed : TransmitStep session (.sync scripts)) :
    Transmitting (session.step (.sync scripts)) := by
  obtain ⟨settled, prompt⟩ := allowed
  obtain ⟨inTurn, free, _⟩ := transmitting.inTurn.sync prompt
  refine ⟨inTurn, ?_, transmitting.packets, ?_⟩
  · rw [transmitting.inTurn.sync_channel]
    exact Conveyed.payloadInvariant.finishAll
      (fun index member => List.mem_range.mp member) prompt
      transmitting.conveyed
  · intro _
    exact free _ (Nat.mod_lt _ (by decide))

/-- Every step of the application and of the engine keeps the invariant. -/
theorem step (transmitting : Transmitting session) {event : SessionEvent}
    (allowed : TransmitStep session event) :
    Transmitting (session.step event) := by
  cases event with
  | getBuffer script => exact transmitting.getBuffer allowed
  | store data offset bytes => exact transmitting.store allowed
  | submit data size response => exact transmitting.submit allowed
  | sync scripts => exact transmitting.sync allowed
  | engine event =>
      refine ⟨transmitting.inTurn.engine allowed,
        transmitting.conveyed.engineStep allowed, transmitting.packets, ?_⟩
      intro holding
      have same := session.channel.engineStep_sameDriver event
      exact (same.status _).trans (transmitting.held holding)

theorem reachable {channel : DmaProxyChannel}
    (direction : channel.engine.direction = .memToDev) {session : Session}
    (reached : transmitSessions.Reachable (Session.start channel) session) :
    Transmitting session := by
  apply reached.invariant Transmitting (.start direction)
  rintro state event next transmitting ⟨allowed, rfl⟩
  exact transmitting.step allowed

end Transmitting

/-- The bytes and the length a descriptor has put on the wire. -/
def transferred (transfer : Transfer) : Option (List UInt8) × Nat :=
  (transfer.moved, transfer.length)

/-- The bytes and the length of a packet when it was submitted. -/
def packet (entry : Submission) : Option (List UInt8) × Nat :=
  (some entry.bytes, entry.length)

theorem transferred_of_carried {transfer : Transfer} {entry : Submission}
    (same : carried transfer = some entry) :
    transferred transfer = packet entry := by
  simp only [carried, Option.map_eq_some_iff] at same
  obtain ⟨bytes, moved, rfl⟩ := same
  simp [transferred, packet, moved]

private theorem map_transferred (transfers : List Transfer)
    (entries : List Submission)
    (same : transfers.map carried = entries.map some) :
    transfers.map transferred = entries.map packet := by
  induction transfers generalizing entries with
  | nil =>
      cases entries with
      | nil => rfl
      | cons entry entries => simp at same
  | cons transfer transfers induction =>
      cases entries with
      | nil => simp at same
      | cons entry entries =>
          rw [List.map_cons, List.map_cons, List.cons.injEq] at same
          rw [List.map_cons, List.map_cons, transferred_of_carried same.1,
            induction entries same.2]

namespace Conveyed

variable {submitted : List Submission} {channel : DmaProxyChannel}

theorem stream_packets (conveyed : Conveyed submitted channel) :
    channel.engine.completed.map transferred ++
        channel.engine.pending.map
          (fun transfer => transferred (channel.readPayload transfer)) =
      submitted.map packet := by
  have stream := conveyed.stream
  have whole := map_transferred (channel.engine.completed ++
    channel.engine.pending.map channel.readPayload) submitted
  simp only [List.map_append, List.map_map, Function.comp_def] at whole
  exact whole stream

theorem completed_packets (conveyed : Conveyed submitted channel) :
    channel.engine.completed.map transferred =
      (submitted.take channel.engine.completed.length).map packet := by
  rw [List.map_take, ← conveyed.stream_packets]
  rw [List.take_append_of_le_length (by simp),
    List.take_of_length_le (by simp)]

/-- With an idle engine everything submitted has been transferred. -/
theorem all_packets (conveyed : Conveyed submitted channel)
    (idle : channel.engine.pending = []) :
    channel.engine.completed.map transferred = submitted.map packet := by
  have stream := conveyed.stream_packets
  rwa [idle, List.map_nil, List.append_nil] at stream

end Conveyed

/-- In every run, buffers are handed out in ring order, what has been
transferred is the beginning of the list of submitted packets, the others are
pending, and a synchronisation completes the list. -/
theorem transmit_ring_fifo {channel : DmaProxyChannel}
    (direction : channel.engine.direction = .memToDev) {session : Session}
    (reached : transmitSessions.Reachable (Session.start channel) session) :
    session.handed = (List.range session.handed.length).map
        (fun turn => bufferAddress (turn % bufferCount)) ∧
      (∀ script, TransmitStep session (.getBuffer script) →
        (ioStreamGetBuffer session.device script).2 =
          some (bufferAddress (session.handed.length % bufferCount))) ∧
      session.dma.completed.map transferred =
        (session.submitted.take session.dma.completed.length).map packet ∧
      session.dma.completed.map transferred ++
          session.dma.pending.map (fun transfer =>
            transferred (session.channel.readPayload transfer)) =
        session.submitted.map packet ∧
      session.dma.failed = [] ∧
      ∀ scripts, TransmitStep session (.sync scripts) →
        (session.step (.sync scripts)).dma.completed.map transferred =
          session.submitted.map packet := by
  have transmitting := Transmitting.reachable direction reached
  refine ⟨transmitting.inTurn.handed, ?_,
    transmitting.conveyed.completed_packets,
    transmitting.conveyed.stream_packets,
    transmitting.inTurn.orderly.punctual.failed, ?_⟩
  · rintro script ⟨_, prompt⟩
    rw [transmitting.inTurn.ioStreamGetBuffer_prompt prompt]
  · intro scripts allowed
    obtain ⟨_, _, idle⟩ := transmitting.inTurn.sync allowed.2
    exact (transmitting.sync allowed).conveyed.all_packets idle

instance (session : Session) : DecidablePred (TransmitStep session)
  | .getBuffer script => inferInstanceAs (Decidable
      (session.handed.length = session.submitted.length ∧
        Prompt session.channel session.device.currentBufferId script))
  | .store data offset bytes => inferInstanceAs (Decidable
      (session.handed.length = session.submitted.length + 1 ∧
        session.handed.getLast? = some data ∧
        offset + bytes.length ≤ bufferSize))
  | .submit data size response => inferInstanceAs (Decidable
      (session.handed.length = session.submitted.length + 1 ∧
        session.handed.getLast? = some data ∧
        size.toNat ≤ bufferSize ∧ response = .accepted))
  | .sync scripts => inferInstanceAs (Decidable
      (session.handed.length = session.submitted.length ∧
        PromptPass scripts (List.range bufferCount) session.channel))
  | .engine event => inferInstanceAs (Decidable (Faultless event))

/-- A packet of one byte.  Where the buffer is still in flight, one transfer
completes before it is given out. -/
def packetEvents (turn : Nat) : List SessionEvent :=
  [.getBuffer { blocked := [.complete] },
    .store (bufferAddress (turn % bufferCount)) 0 [UInt8.ofNat turn],
    .submit (bufferAddress (turn % bufferCount)) 1 .accepted]

def roundTheRing : Session :=
  runInputs Session.step (Session.start (.probed .memToDev))
    ((List.range 34).flatMap packetEvents)

/-- Packets of which 32 are in flight and the last two are in the first two
buffers again, and a synchronisation. -/
theorem roundTheRing_transferred :
    roundTheRing.dma.pending.length = 32 ∧
      (roundTheRing.step (.sync fun _ =>
          { blocked := List.replicate 32 .complete })
        ).dma.completed.map transferred =
        (List.range 34).map fun turn => (some [UInt8.ofNat turn], 1) := by
  have every : EveryStep Session.step TransmitStep
      (Session.start (.probed .memToDev))
      ((List.range 34).flatMap packetEvents) := by
    decide +kernel
  have run : transmitSessions.Run (Session.start (.probed .memToDev))
      ((List.range 34).flatMap packetEvents) roundTheRing := by
    apply every.run
    intro session event allowed
    exact ⟨allowed, rfl⟩
  have packets : roundTheRing.submitted.map packet =
      (List.range 34).map fun turn => (some [UInt8.ofNat turn], 1) := by
    decide +kernel
  have synced := (transmit_ring_fifo rfl ⟨_, run⟩).2.2.2.2.2
    (fun _ => { blocked := List.replicate 32 .complete })
    ⟨by decide +kernel, by decide +kernel⟩
  rw [packets] at synced
  exact ⟨by decide +kernel, synced⟩

end StreamIO.Local
