import StreamIO.Library.ScriptedRun
import StreamIO.Backend.ReadStream

/-!
# What the buffers held before a remote read

Two runs of `client_cmd_read_stream_inf` on channels that differ in nothing
but their channel buffers.  The loop sends a buffer before it clears it, so
the first pass around the ring shows what the buffers held when the device
was opened; afterwards the two runs cannot be told apart.
-/

namespace StreamIO.Backend

open StreamIO.Library StreamIO.Driver StreamIO.Local StreamIO.Net

/-- `client_cmd_read_stream_inf` on a newly opened device. -/
def clientCmdReadStreamInf (channel : DmaProxyChannel)
    (scripts : List IterationScript) : ReadStream :=
  runInputs ReadStream.iterate (ReadStream.start channel) scripts

/-- The bytes the client receives. -/
def ReadStream.sent (state : ReadStream) : List UInt8 := state.wire.flatten

/-- The iteration belongs to the first pass around the ring, and no `writev`
has ended the loop before or in it. -/
def FirstPass (scripts : List IterationScript) (position : Nat)
    (script : IterationScript) : Prop :=
  position < bufferCount ∧ scripts[position]? = some script ∧
    ∀ reached ∈ scripts.take (position + 1), 0 < reached.written

/-- The buffers agree in the bytes that the first pass writes out. -/
def SameView (held other : Nat → ByteMemory)
    (scripts : List IterationScript) : Prop :=
  ∀ position script, FirstPass scripts position script →
    ∀ offset : Nat, offset < readSendSize → 5 + offset < script.written →
      held position offset = other position offset

/-- The payloads of a table of channel buffers. -/
def payloads (table : Nat → ChannelBuffer) : Nat → ByteMemory :=
  fun index => (table index).buffer

/-- Two channels in step.  The buffers below `served` have been cleared and
agree; the others hold what they held at first. -/
structure Parted (served : Nat) (held other : Nat → ByteMemory)
    (first second : DmaProxyChannel) : Prop where
  bdtable : first.bdtable = second.bdtable
  status : ∀ index, index < bufferCount →
    (first.bufferTable index).status = (second.bufferTable index).status
  direction : first.engine.direction = second.engine.direction
  lastCookie : first.engine.lastCookie = second.engine.lastCookie
  pending : first.engine.pending.map Transfer.key =
    second.engine.pending.map Transfer.key
  failed : first.engine.failed.map Transfer.key =
    second.engine.failed.map Transfer.key
  moved : first.engine.direction = .devToMem →
    first.engine.pending = second.engine.pending
  early : ∀ transfer ∈ first.engine.pending, transfer.bdindex < served
  alike : ∀ index, index < served → ∀ offset, offset < readStreamSize →
    (first.bufferTable index).buffer offset =
      (second.bufferTable index).buffer offset
  untouched : ∀ index, served ≤ index →
    (first.bufferTable index).buffer = held index ∧
      (second.bufferTable index).buffer = other index

theorem store_alike {first second : ByteMemory} {offset : Nat}
    (alike : first offset = second offset) (start : Nat)
    (bytes : List UInt8) :
    first.store start bytes offset = second.store start bytes offset := by
  simp only [ByteMemory.store, alike]

theorem same_keys_cases {first second : List Transfer}
    (same : first.map Transfer.key = second.map Transfer.key) :
    (first = [] ∧ second = []) ∨
      ∃ head rest head' rest', first = head :: rest ∧
        second = head' :: rest' ∧ head.key = head'.key ∧
        rest.map Transfer.key = rest'.map Transfer.key := by
  cases first with
  | nil =>
      left
      exact ⟨rfl, List.map_eq_nil_iff.mp same.symm⟩
  | cons head rest =>
      cases second with
      | nil => cases same
      | cons head' rest' =>
          right
          simp only [List.map_cons, List.cons.injEq] at same
          exact ⟨head, rest, head', rest', rfl, rfl, same.1, same.2⟩

namespace Parted

variable {served : Nat} {held other : Nat → ByteMemory}
variable {first second : DmaProxyChannel}

theorem redrive (parted : Parted served held other first second)
    {first' second' : DmaProxyChannel}
    (firstEngine : first'.engine = first.engine)
    (secondEngine : second'.engine = second.engine)
    (firstBuffer : ∀ index, (first'.bufferTable index).buffer =
      (first.bufferTable index).buffer)
    (secondBuffer : ∀ index, (second'.bufferTable index).buffer =
      (second.bufferTable index).buffer)
    (bdtable : first'.bdtable = second'.bdtable)
    (status : ∀ index, index < bufferCount →
      (first'.bufferTable index).status =
        (second'.bufferTable index).status) :
    Parted served held other first' second' where
  bdtable := bdtable
  status := status
  direction := by
    rw [firstEngine, secondEngine]
    exact parted.direction
  lastCookie := by
    rw [firstEngine, secondEngine]
    exact parted.lastCookie
  pending := by
    rw [firstEngine, secondEngine]
    exact parted.pending
  failed := by
    rw [firstEngine, secondEngine]
    exact parted.failed
  moved := by
    rw [firstEngine, secondEngine]
    exact parted.moved
  early := by
    rw [firstEngine]
    exact parted.early
  alike := by
    intro index below offset inside
    rw [firstBuffer, secondBuffer]
    exact parted.alike index below offset inside
  untouched := by
    intro index above
    rw [firstBuffer, secondBuffer]
    exact parted.untouched index above

theorem syncCallback (parted : Parted served held other first second)
    (index : Nat) :
    Parted served held other (first.syncCallback index)
      (second.syncCallback index) := by
  refine parted.redrive rfl rfl (fun _ => rfl) (fun _ => rfl) ?_ ?_
  · simp only [DmaProxyChannel.syncCallback, DmaProxyChannel.setDone,
      parted.bdtable]
  · exact parted.status

theorem takeCompletion (parted : Parted served held other first second)
    (index : Nat) :
    Parted served held other (first.takeCompletion index)
      (second.takeCompletion index) := by
  refine parted.redrive rfl rfl (fun _ => rfl) (fun _ => rfl) ?_ ?_
  · simp only [DmaProxyChannel.takeCompletion, DmaProxyChannel.setDone,
      parted.bdtable]
  · exact parted.status

theorem early_of_keys (parted : Parted served held other first second)
    {pending : List Transfer}
    (keys : pending.map Transfer.key =
      first.engine.pending.map Transfer.key) :
    ∀ transfer ∈ pending, transfer.bdindex < served := by
  intro transfer member
  have key : transfer.key ∈ first.engine.pending.map Transfer.key := by
    rw [← keys]
    exact List.mem_map_of_mem member
  obtain ⟨original, originalMember, same⟩ := List.mem_map.mp key
  have index : original.bdindex = transfer.bdindex :=
    congrArg (fun key => key.2.1) same
  rw [← index]
  exact parted.early original originalMember

theorem store (parted : Parted served held other first second)
    {index : Nat} (below : index < served) (start : Nat)
    (bytes : List UInt8) :
    Parted served held other
      (first.setBuffer index
        ((first.bufferTable index).buffer.store start bytes))
      (second.setBuffer index
        ((second.bufferTable index).buffer.store start bytes)) := by
  refine ⟨parted.bdtable, ?_, parted.direction, parted.lastCookie,
    parted.pending, parted.failed, parted.moved, parted.early, ?_, ?_⟩
  · intro place bound
    rw [(SameDriver.setBuffer first index _).status,
      (SameDriver.setBuffer second index _).status]
    exact parted.status place bound
  · intro place placeBelow offset inside
    by_cases same : place = index
    · subst place
      simp only [DmaProxyChannel.setBuffer, Function.update_self]
      exact store_alike (parted.alike index below offset inside) start bytes
    · simp only [DmaProxyChannel.setBuffer, Function.update_of_ne same]
      exact parted.alike place placeBelow offset inside
  · intro place above
    have different : place ≠ index := by omega
    simp only [DmaProxyChannel.setBuffer, Function.update_of_ne different]
    exact parted.untouched place above

theorem fetch (parted : Parted served held other first second)
    (position : Nat) :
    Parted served held other (first.engineStep (.fetch position))
      (second.engineStep (.fetch position)) := by
  cases direction : first.engine.direction with
  | memToDev =>
      have direction' := parted.direction.symm.trans direction
      have keys := DmaProxyChannel.map_key_modify first.engine.pending
        position _ first.readPayload_key
      have keys' := DmaProxyChannel.map_key_modify second.engine.pending
        position _ second.readPayload_key
      simp only [DmaProxyChannel.engineStep, direction, direction']
      refine ⟨parted.bdtable, parted.status, rfl, parted.lastCookie, ?_,
        parted.failed, ?_, parted.early_of_keys keys, parted.alike,
        parted.untouched⟩
      · rw [keys, keys']
        exact parted.pending
      · intro receiving
        cases receiving
  | devToMem =>
      have direction' := parted.direction.symm.trans direction
      simp only [DmaProxyChannel.engineStep, direction, direction']
      exact parted

theorem deliver (parted : Parted served held other first second)
    (bytes : List UInt8) :
    Parted served held other (first.engineStep (.deliver bytes))
      (second.engineStep (.deliver bytes)) := by
  cases direction : first.engine.direction with
  | memToDev =>
      have direction' := parted.direction.symm.trans direction
      simp only [DmaProxyChannel.engineStep, direction, direction']
      exact parted
  | devToMem =>
      have direction' := parted.direction.symm.trans direction
      have same := parted.moved direction
      cases pending : first.engine.pending with
      | nil =>
          rw [pending] at same
          simp only [DmaProxyChannel.engineStep, direction, direction',
            pending, ← same]
          exact parted
      | cons transfer rest =>
          have below : transfer.bdindex < served :=
            parted.early transfer (by simp [pending])
          have stored := parted.store below (transfer.moved.getD []).length
            (DmaProxyChannel.accepted transfer bytes)
          rw [pending] at same
          simp only [DmaProxyChannel.engineStep, direction, direction',
            pending, ← same]
          refine ⟨stored.bdtable, stored.status, rfl, parted.lastCookie, rfl,
            parted.failed, fun _ => rfl, ?_, stored.alike,
            stored.untouched⟩
          intro item member
          rcases List.mem_cons.mp member with rfl | later
          · exact below
          · exact parted.early item (by simp [pending, later])

theorem dequeue (parted : Parted served held other first second)
    {head head' : Transfer} {rest rest' : List Transfer}
    (queue : first.engine.pending = head :: rest)
    (queue' : second.engine.pending = head' :: rest') :
    head.bdindex = head'.bdindex ∧
      rest.map Transfer.key = rest'.map Transfer.key ∧
      (first.engine.failed ++ [head]).map Transfer.key =
        (second.engine.failed ++ [head']).map Transfer.key ∧
      (first.engine.direction = .devToMem → rest = rest') ∧
      ∀ transfer ∈ rest, transfer.bdindex < served := by
  have keys := parted.pending
  simp only [queue, queue', List.map_cons, List.cons.injEq] at keys
  refine ⟨congrArg (fun key => key.2.1) keys.1, keys.2, ?_, ?_, ?_⟩
  · simp only [List.map_append, List.map_cons, List.map_nil, keys.1,
      parted.failed]
  · intro receiving
    have same := parted.moved receiving
    rw [queue, queue'] at same
    exact (List.cons.inj same).2
  · intro transfer member
    exact parted.early transfer (by simp [queue, member])

theorem complete (parted : Parted served held other first second) :
    Parted served held other (first.engineStep .complete)
      (second.engineStep .complete) := by
  rcases same_keys_cases parted.pending with ⟨none, none'⟩ |
    ⟨head, rest, head', rest', queue, queue', _, _⟩
  · simp only [DmaProxyChannel.engineStep, none, none']
    exact parted
  · obtain ⟨index, keys, _, moved, early⟩ := parted.dequeue queue queue'
    have called := parted.syncCallback head.bdindex
    simp only [DmaProxyChannel.engineStep, queue, queue', ← index]
    exact ⟨called.bdtable, called.status, parted.direction,
      parted.lastCookie, keys, parted.failed, moved, early, called.alike,
      called.untouched⟩

theorem fail (parted : Parted served held other first second)
    (callback : Bool) :
    Parted served held other (first.engineStep (.fail callback))
      (second.engineStep (.fail callback)) := by
  rcases same_keys_cases parted.pending with ⟨none, none'⟩ |
    ⟨head, rest, head', rest', queue, queue', _, _⟩
  · simp only [DmaProxyChannel.engineStep, none, none']
    exact parted
  · obtain ⟨index, keys, failed, moved, early⟩ :=
      parted.dequeue queue queue'
    have called := parted.syncCallback head.bdindex
    simp only [DmaProxyChannel.engineStep, queue, queue', ← index]
    cases callback with
    | true =>
        exact ⟨called.bdtable, called.status, parted.direction,
          parted.lastCookie, keys, failed, moved, early, called.alike,
          called.untouched⟩
    | false =>
        exact ⟨parted.bdtable, parted.status, parted.direction,
          parted.lastCookie, keys, failed, moved, early, parted.alike,
          parted.untouched⟩

theorem engineStep (parted : Parted served held other first second)
    (event : EngineEvent) :
    Parted served held other (first.engineStep event)
      (second.engineStep event) := by
  cases event with
  | fetch position => exact parted.fetch position
  | deliver bytes => exact parted.deliver bytes
  | complete => exact parted.complete
  | fail callback => exact parted.fail callback

theorem runEngine (parted : Parted served held other first second)
    (events : List EngineEvent) :
    Parted served held other (first.runEngine events)
      (second.runEngine events) := by
  induction events generalizing first second with
  | nil => exact parted
  | cons event events induction =>
      exact induction (parted.engineStep event)

theorem awaited (parted : Parted served held other first second)
    (script : WaitScript) (index : Nat) :
    Parted served held other (script.awaited first index)
      (script.awaited second index) := by
  have slept := parted.runEngine script.blocked
  simp only [WaitScript.awaited, ← slept.bdtable]
  split
  · exact (slept.takeCompletion index).runEngine script.woken
  · exact slept.runEngine script.woken

theorem dmaAsyncIsTxComplete
    (parted : Parted served held other first second) (cookie : Int) :
    first.engine.dmaAsyncIsTxComplete cookie =
      second.engine.dmaAsyncIsTxComplete cookie := by
  simp only [DmaEngine.dmaAsyncIsTxComplete, map_cookie_eq, parted.pending,
    parted.failed]

theorem verdict (parted : Parted served held other first second)
    (script : WaitScript) (index : Nat) :
    script.verdict first index = script.verdict second index := by
  have slept := parted.runEngine script.blocked
  have woken := parted.awaited script index
  have expires : script.Expires first index ↔
      script.Expires second index := by
    simp only [WaitScript.Expires, slept.bdtable]
  simp only [WaitScript.verdict, expires, woken.bdtable,
    woken.dmaAsyncIsTxComplete]

theorem finishXfer (parted : Parted served held other first second)
    {index : Nat} (bound : index < bufferCount) (script : WaitScript) :
    Parted served held other
      (ioctl first .finishXfer index .accepted script)
      (ioctl second .finishXfer index .accepted script) := by
  have done := ioctl_finishXfer_finished first bound .accepted script
  have done' := ioctl_finishXfer_finished second bound .accepted script
  apply (parted.awaited script index).redrive done.engine done'.engine
    done.buffer done'.buffer
  · rw [done.bdtable, done'.bdtable]
    exact (parted.awaited script index).bdtable
  · intro place placeBound
    by_cases same : place = index
    · subst place
      rw [done.statusSelf, done'.statusSelf]
      exact parted.verdict script index
    · rw [done.statusOther place same, done'.statusOther place same]
      exact parted.status place placeBound

theorem finishBuffer (parted : Parted served held other first second)
    (scripts : Nat → WaitScript) {index : Nat}
    (bound : index < bufferCount) :
    Parted served held other (Local.finishBuffer scripts first index)
      (Local.finishBuffer scripts second index) := by
  simp only [Local.finishBuffer, parted.status index bound]
  split
  · exact parted.finishXfer bound (scripts index)
  · exact parted

theorem finishAll (parted : Parted served held other first second)
    (scripts : Nat → WaitScript) (indices : List Nat)
    (bounds : ∀ index ∈ indices, index < bufferCount) :
    Parted served held other
      (indices.foldl (Local.finishBuffer scripts) first)
      (indices.foldl (Local.finishBuffer scripts) second) := by
  induction indices generalizing first second with
  | nil => exact parted
  | cons index rest induction =>
      apply induction
      · exact parted.finishBuffer scripts (bounds index (by simp))
      · intro later member
        exact bounds later (by simp [member])

theorem clear (parted : Parted served held other first second)
    {index : Nat} (next : index ≤ served) :
    Parted (max served (index + 1)) held other
      (first.setBuffer index ((first.bufferTable index).buffer.store 0
        (List.replicate readStreamSize 0xFF)))
      (second.setBuffer index ((second.bufferTable index).buffer.store 0
        (List.replicate readStreamSize 0xFF))) := by
  refine ⟨parted.bdtable, ?_, parted.direction, parted.lastCookie,
    parted.pending, parted.failed, parted.moved, ?_, ?_, ?_⟩
  · intro place bound
    rw [(SameDriver.setBuffer first index _).status,
      (SameDriver.setBuffer second index _).status]
    exact parted.status place bound
  · intro transfer member
    have below := parted.early transfer member
    omega
  · intro place below offset inside
    by_cases same : place = index
    · subst place
      simp only [DmaProxyChannel.setBuffer, Function.update_self]
      rw [replicate_filled _ inside, replicate_filled _ inside]
    · simp only [DmaProxyChannel.setBuffer, Function.update_of_ne same]
      exact parted.alike place (by omega) offset inside
  · intro place above
    have different : place ≠ index := by omega
    simp only [DmaProxyChannel.setBuffer, Function.update_of_ne different]
    exact parted.untouched place (by omega)

theorem opened {bdtable : Nat → ProxyBd} {dma : DmaEngine}
    (firstBdtable : first.bdtable = bdtable)
    (secondBdtable : second.bdtable = bdtable)
    (firstEngine : first.engine = { dma with
      pending := [], completed := [], failed := [] })
    (secondEngine : second.engine = { dma with
      pending := [], completed := [], failed := [] })
    (firstStatus : ∀ index, index < bufferCount →
      (first.bufferTable index).status = .noError)
    (secondStatus : ∀ index, index < bufferCount →
      (second.bufferTable index).status = .noError)
    (firstBuffer : ∀ index,
      (first.bufferTable index).buffer = held index)
    (secondBuffer : ∀ index,
      (second.bufferTable index).buffer = other index) :
    Parted 0 held other first second := by
  have engine := firstEngine.trans secondEngine.symm
  refine ⟨firstBdtable.trans secondBdtable.symm, ?_, by rw [engine],
    by rw [engine], by rw [engine], by rw [engine], ?_, ?_, ?_, ?_⟩
  · intro index bound
    rw [firstStatus index bound, secondStatus index bound]
  · intro _
    rw [engine]
  · intro transfer member
    rw [firstEngine] at member
    cases member
  · intro index below
    exact (Nat.not_lt_zero index below).elim
  · intro index _
    exact ⟨firstBuffer index, secondBuffer index⟩

theorem started (parted : Parted served held other first second)
    {index : Nat} (below : index < served) {size : UInt32}
    {after after' : DmaProxyChannel}
    (start : Started first index size after)
    (start' : Started second index size after') :
    Parted served held other after after' := by
  refine ⟨?_, ?_, ?_, ?_, ?_, ?_, ?_, ?_, ?_, ?_⟩
  · rw [start.bdtable, start'.bdtable, parted.bdtable, parted.lastCookie]
  · intro place placeBound
    by_cases same : place = index
    · subst place
      rw [start.statusSelf, start'.statusSelf]
    · rw [start.statusOther place same, start'.statusOther place same]
      exact parted.status place placeBound
  · rw [start.engine, start'.engine]
    exact parted.direction
  · rw [start.engine, start'.engine]
    exact congrArg (· + 1) parted.lastCookie
  · rw [start.engine, start'.engine]
    simp only [List.map_append, parted.pending, parted.lastCookie]
  · rw [start.engine, start'.engine]
    exact parted.failed
  · rw [start.engine, start'.engine]
    intro receiving
    simp only [parted.moved receiving, parted.lastCookie]
  · rw [start.engine]
    intro transfer member
    rcases List.mem_append.mp member with old | new
    · exact parted.early transfer old
    · rw [List.mem_singleton.mp new]
      exact below
  · intro place placeBelow offset inside
    rw [start.buffer, start'.buffer]
    exact parted.alike place placeBelow offset inside
  · intro place above
    rw [start.buffer, start'.buffer]
    exact parted.untouched place above

theorem submit {device device' : StreamDevice}
    (parted : Parted served held other device.channel device'.channel)
    {index : Nat} (bound : index < bufferCount) (below : index < served)
    (size : UInt32) (response : SubmitResponse) :
    Parted served held other
      (ioWriteStreamDevice device (bufferAddress index) size
        response).channel
      (ioWriteStreamDevice device' (bufferAddress index) size
        response).channel := by
  by_cases taken : response = .accepted
  · subst response
    exact parted.started below (ioWriteStreamLocal_started device bound size)
      (ioWriteStreamLocal_started device' bound size)
  · have refusal := ioWriteStreamLocal_rejected device bound size taken
    have refusal' := ioWriteStreamLocal_rejected device' bound size taken
    refine parted.redrive refusal.engine refusal'.engine refusal.buffer
      refusal'.buffer ?_ (fun place placeBound => ?_)
    · cases response with
      | accepted => exact (taken rfl).elim
      | prepError => exact parted.bdtable
      | submitError errno =>
          exact congrArg (fun table => Function.update table _ _)
            parted.bdtable
    · exact (refusal.status place).trans
        ((parted.status place placeBound).trans
          (refusal'.status place).symm)

end Parted

/-- Two sessions in step: the ring is at the same place in both. -/
structure InStep (served position : Nat) (held other : Nat → ByteMemory)
    (first second : Session) : Prop where
  parted : Parted served held other first.channel second.channel
  ring : first.device.bufferCount = bufferCount
  ring' : second.device.bufferCount = bufferCount
  current : first.device.currentBufferId = position % bufferCount
  current' : second.device.currentBufferId = position % bufferCount

namespace InStep

variable {served position : Nat} {held other : Nat → ByteMemory}
variable {first second : Session}

theorem advance (inStep : InStep served position held other first second)
    (events : List EngineEvent) :
    InStep served position held other (Backend.advance first events)
      (Backend.advance second events) :=
  ⟨inStep.parted.runEngine events, inStep.ring, inStep.ring',
    inStep.current, inStep.current'⟩

theorem sync (inStep : InStep served position held other first second)
    (scripts : Nat → WaitScript) :
    InStep served position held other (first.step (.sync scripts))
      (second.step (.sync scripts)) := by
  have finished := inStep.parted.finishAll scripts (List.range bufferCount)
    (fun index member => List.mem_range.mp member)
  constructor
  · simp only [Session.step, ioSyncStreamDevice, ioFinishStreamLocal,
      Session.channel, inStep.ring, inStep.ring']
    exact finished
  · exact inStep.ring
  · exact inStep.ring'
  · exact inStep.current
  · exact inStep.current'

theorem getBuffer (inStep : InStep served position held other first second)
    (script : WaitScript) :
    ((ioStreamGetBuffer first.device script).2 = none ∧
        (ioStreamGetBuffer second.device script).2 = none) ∨
      ((ioStreamGetBuffer first.device script).2 =
          some (bufferAddress (position % bufferCount)) ∧
        (ioStreamGetBuffer second.device script).2 =
          some (bufferAddress (position % bufferCount)) ∧
        InStep served (position + 1) held other
          (first.step (.getBuffer script))
          (second.step (.getBuffer script))) := by
  have bound : position % bufferCount < bufferCount :=
    Nat.mod_lt _ (by decide)
  have finished := inStep.parted.finishBuffer (fun _ => script) bound
  have status := finished.status _ bound
  simp only [Local.finishBuffer] at finished status
  simp only [Session.step, ioStreamGetBuffer, ioStreamZcBufferLocal,
    inStep.current, inStep.current', inStep.ring, inStep.ring']
  by_cases expired : ((if (first.channel.bufferTable
      (position % bufferCount)).status ≠ .noError then
        ioctl first.channel .finishXfer (position % bufferCount) .accepted
          script
      else first.channel).bufferTable
        (position % bufferCount)).status = .timeout
  · left
    have expired' := status.symm.trans expired
    simp only [if_pos expired, if_pos expired', and_self]
  · right
    have expired' := fun withheld => expired (status.trans withheld)
    simp only [if_neg expired, if_neg expired', true_and]
    have successor : (position % bufferCount + 1) % bufferCount =
        (position + 1) % bufferCount := Nat.mod_add_mod _ _ _
    exact ⟨finished, rfl, rfl, successor, successor⟩

theorem restart (inStep : InStep served position held other first second)
    {index : Nat} (bound : index < bufferCount) (next : index ≤ served)
    (events : List EngineEvent) (size : UInt32)
    (response : SubmitResponse) :
    let clear := fun session : Session =>
      session.step (.store (bufferAddress index) 0
        (List.replicate readStreamSize 0xFF))
    let start := fun session : Session =>
      session.step (.submit (bufferAddress index) size response)
    InStep (max served (index + 1)) position held other
      (start (Backend.advance (clear first) events))
      (start (Backend.advance (clear second) events)) := by
  intro clear start
  have cleared : InStep (max served (index + 1)) position held other
      (clear first) (clear second) := by
    refine ⟨?_, inStep.ring, inStep.ring', inStep.current, inStep.current'⟩
    simp only [clear, Session.step, bufferAddress_div]
    exact inStep.parted.clear next
  have advanced := cleared.advance events
  refine ⟨?_, advanced.ring, advanced.ring', advanced.current,
    advanced.current'⟩
  exact advanced.parted.submit bound (by omega) size response

end InStep

theorem take_load_eq_iff (first second : ByteMemory) (count size : Nat) :
    (first.load 0 count).take size = (second.load 0 count).take size ↔
      ∀ offset, offset < count → offset < size →
        first offset = second offset := by
  simp only [ByteMemory.load, Nat.zero_add, ← List.map_take,
    List.take_range, List.map_inj_left, List.mem_range]
  constructor
  · intro same offset inside written
    exact same offset (by omega)
  · intro same offset inside
    exact same offset (by omega) (by omega)

/-- Two written packets are equal when the payload bytes in them are. -/
theorem take_readPacket_eq_iff (first second : ByteMemory)
    (written : Int) :
    (readPacket first).take written.toNat =
        (readPacket second).take written.toNat ↔
      ∀ offset : Nat, offset < readSendSize → 5 + offset < written →
        first offset = second offset := by
  simp only [readPacket, List.take_append, List.append_cancel_left_eq,
    take_load_eq_iff, List.length_append, List.length_singleton,
    length_littleEndian32]
  constructor
  · intro same offset inside sent
    exact same offset inside (by omega)
  · intro same offset inside sent
    exact same offset inside (by omega)

/-- Two runs of the loop in step. -/
structure Abreast (held other : Nat → ByteMemory)
    (first second : ReadStream) : Prop where
  control : first.control = second.control
  size : first.sent.length = second.sent.length
  inStep : first.control = .looping →
    InStep (min first.wire.length bufferCount) first.wire.length held other
      first.session second.session

/-- What one iteration does to two runs in step: both end, or both send a
packet, from what the buffers held at first or from equal contents. -/
inductive Alongside (held other : Nat → ByteMemory)
    (script : IterationScript) (first second first' second' : ReadStream) :
    Prop where
  | expired (control : first'.control = .nullBuffer)
      (control' : second'.control = .nullBuffer)
      (wire : first'.wire = first.wire) (wire' : second'.wire = second.wire)
  | closed (ends : script.written ≤ 0) (control : first'.control = .left)
      (control' : second'.control = .left)
      (wire : first'.wire = first.wire) (wire' : second'.wire = second.wire)
  | sent (goesOn : 0 < script.written) (buffer buffer' : ByteMemory)
      (control : first'.control = .looping)
      (control' : second'.control = .looping)
      (wire : first'.wire =
        first.wire ++ [(readPacket buffer).take script.written.toNat])
      (wire' : second'.wire =
        second.wire ++ [(readPacket buffer').take script.written.toNat])
      (firstPass : first.wire.length < bufferCount →
        buffer = held first.wire.length ∧ buffer' = other first.wire.length)
      (later : bufferCount ≤ first.wire.length →
        ∀ offset, offset < readStreamSize → buffer offset = buffer' offset)
      (inStep : InStep (min (first.wire.length + 1) bufferCount)
        (first.wire.length + 1) held other first'.session second'.session)

namespace Abreast

variable {held other : Nat → ByteMemory} {first second : ReadStream}

theorem alongside (abreast : Abreast held other first second)
    (looping : first.control = .looping) (script : IterationScript) :
    Alongside held other script first second (first.iterate script)
      (second.iterate script) := by
  have looping' : second.control = .looping :=
    abreast.control.symm.trans looping
  have bound : first.wire.length % bufferCount < bufferCount :=
    Nat.mod_lt _ (by decide)
  have asked := (abreast.inStep looping).advance script.beforeGet
  rcases asked.getBuffer script.getWait with ⟨none, none'⟩ |
    ⟨given, given', got⟩
  · rw [ReadStream.iterate_expired looping none,
      ReadStream.iterate_expired looping' none']
    exact .expired rfl rfl rfl rfl
  · have synced := (((got.advance script.beforeSync).sync
      script.syncWaits).advance script.beforeSend)
    by_cases ends : script.written ≤ 0
    · rw [ReadStream.iterate_closed looping given ends,
        ReadStream.iterate_closed looping' given' ends]
      exact .closed ends rfl rfl rfl rfl
    · have restarted := (synced.advance script.beforeFill).restart bound
        (by simp only [bufferCount] at bound ⊢; omega) script.beforeStart
        (UInt32.ofNat readStreamSize) script.response
      have served : max (min first.wire.length bufferCount)
          (first.wire.length % bufferCount + 1) =
            min (first.wire.length + 1) bufferCount := by
        simp only [bufferCount]
        omega
      rw [served] at restarted
      rw [ReadStream.iterate_sent looping given ends,
        ReadStream.iterate_sent looping' given' ends]
      refine .sent (by omega) _ _ rfl rfl rfl rfl ?_ ?_ restarted
      · intro firstPass
        rw [Nat.mod_eq_of_lt firstPass]
        exact synced.parted.untouched _ (by omega)
      · intro later
        exact synced.parted.alike _ (by omega)

theorem start (channel : DmaProxyChannel) (table : Nat → ChannelBuffer) :
    Abreast (payloads channel.bufferTable) (payloads table)
      (ReadStream.start channel)
      (ReadStream.start { channel with bufferTable := table }) := by
  obtain ⟨status, buffer, bdtable, engine, ring, current⟩ :=
    ioOpenStreamLocal_spec channel
  obtain ⟨status', buffer', bdtable', engine', ring', current'⟩ :=
    ioOpenStreamLocal_spec { channel with bufferTable := table }
  have parted := Parted.opened bdtable bdtable' engine engine' status
    status' buffer buffer'
  have none : min ([] : List (List UInt8)).length bufferCount = 0 := rfl
  constructor
  · simp only [ReadStream.start]
  · simp only [ReadStream.start, ReadStream.sent]
  · intro _
    simp only [ReadStream.start, Session.start, none]
    exact ⟨parted, ring, ring', current, current'⟩

end Abreast

theorem firstPass_append (scripts : List IterationScript)
    (script : IterationScript) (position : Nat) (chosen : IterationScript) :
    FirstPass (scripts ++ [script]) position chosen ↔
      FirstPass scripts position chosen ∨
        (position = scripts.length ∧ chosen = script ∧
          position < bufferCount ∧
          ∀ reached ∈ scripts ++ [script], 0 < reached.written) := by
  by_cases earlier : position < scripts.length
  · have taken : (scripts ++ [script]).take (position + 1) =
        scripts.take (position + 1) :=
      List.take_append_of_le_length (by omega)
    have different : position ≠ scripts.length := by omega
    simp only [FirstPass, List.getElem?_append_left earlier, taken,
      different, false_and, or_false]
  · have absent : scripts[position]? = none :=
      List.getElem?_eq_none (by omega)
    have whole : (scripts ++ [script]).take (position + 1) =
        scripts ++ [script] := by
      apply List.take_of_length_le
      simp only [List.length_append, List.length_singleton]
      omega
    simp only [FirstPass, absent, whole, reduceCtorEq, false_and, and_false,
      false_or]
    constructor
    · rintro ⟨bound, chosenHere, reached⟩
      obtain ⟨inside, same⟩ := List.getElem?_eq_some_iff.mp chosenHere
      have last : position = scripts.length := by
        simp only [List.length_append, List.length_singleton] at inside
        omega
      subst position
      refine ⟨rfl, ?_, bound, reached⟩
      rw [← same, List.getElem_concat_length rfl]
    · rintro ⟨rfl, rfl, bound, reached⟩
      exact ⟨bound, List.getElem?_concat_length, reached⟩

theorem sameView_append (held other : Nat → ByteMemory)
    (scripts : List IterationScript) (script : IterationScript) :
    SameView held other (scripts ++ [script]) ↔
      SameView held other scripts ∧
        (scripts.length < bufferCount →
          (∀ reached ∈ scripts ++ [script], 0 < reached.written) →
          ∀ offset : Nat, offset < readSendSize →
            5 + offset < script.written →
            held scripts.length offset = other scripts.length offset) := by
  simp only [SameView, firstPass_append]
  constructor
  · intro same
    constructor
    · intro position chosen earlier
      exact same position chosen (Or.inl earlier)
    · intro bound reached
      exact same scripts.length script (Or.inr ⟨rfl, rfl, bound, reached⟩)
  · rintro ⟨same, last⟩ position chosen (earlier | ⟨rfl, rfl, bound, reached⟩)
    · exact same position chosen earlier
    · exact last bound reached

/-- Two runs of the same iterations, and when they have sent the same. -/
structure Compared (held other : Nat → ByteMemory)
    (scripts : List IterationScript) (first second : ReadStream) :
    Prop where
  abreast : Abreast held other first second
  reached : first.control = .looping →
    first.wire.length = scripts.length ∧
      ∀ script ∈ scripts, 0 < script.written
  ended : first.control = .left → ∃ script ∈ scripts, script.written ≤ 0
  view : first.control ≠ .nullBuffer →
    (first.sent = second.sent ↔ SameView held other scripts)

namespace Compared

variable {held other : Nat → ByteMemory} {first second : ReadStream}
variable {scripts : List IterationScript}

theorem start (channel : DmaProxyChannel) (table : Nat → ChannelBuffer) :
    Compared (payloads channel.bufferTable) (payloads table) []
      (ReadStream.start channel)
      (ReadStream.start { channel with bufferTable := table }) := by
  refine ⟨.start channel table, ?_, ?_, ?_⟩
  · intro _
    simp [ReadStream.start]
  · intro left
    simp [ReadStream.start] at left
  · intro _
    simp [ReadStream.start, ReadStream.sent, SameView, FirstPass]

theorem sameView_append_ended {script : IterationScript}
    (ended : ∃ ending ∈ scripts ++ [script], ending.written ≤ 0) :
    SameView held other (scripts ++ [script]) ↔
      SameView held other scripts := by
  rw [sameView_append]
  constructor
  · exact And.left
  · intro same
    refine ⟨same, ?_⟩
    intro _ reached
    obtain ⟨ending, member, ends⟩ := ended
    have goesOn := reached ending member
    omega

theorem stop (compared : Compared held other scripts first second)
    (stopped : first.control ≠ .looping) (script : IterationScript) :
    Compared held other (scripts ++ [script]) (first.iterate script)
      (second.iterate script) := by
  have control := compared.abreast.control
  have unchanged : first.iterate script = first ∧
      second.iterate script = second := by
    cases state : first.control with
    | looping => exact (stopped state).elim
    | left =>
        have state' := control.symm.trans state
        simp only [ReadStream.iterate, state, state', and_self]
    | nullBuffer =>
        have state' := control.symm.trans state
        simp only [ReadStream.iterate, state, state', and_self]
  rw [unchanged.1, unchanged.2]
  have ended : first.control = .left →
      ∃ ending ∈ scripts ++ [script], ending.written ≤ 0 := by
    intro left
    obtain ⟨ending, member, ends⟩ := compared.ended left
    exact ⟨ending, List.mem_append_left _ member, ends⟩
  refine ⟨compared.abreast, fun looping => (stopped looping).elim, ended, ?_⟩
  intro inTime
  have left : first.control = .left := by
    cases state : first.control with
    | looping => exact (stopped state).elim
    | left => rfl
    | nullBuffer => exact (inTime state).elim
  rw [compared.view inTime, sameView_append_ended (ended left)]

/-- The packet of one more iteration decides about one more buffer. -/
theorem sent (compared : Compared held other scripts first second)
    (looping : first.control = .looping) {script : IterationScript}
    (goesOn : 0 < script.written) {buffer buffer' : ByteMemory}
    (firstPass : first.wire.length < bufferCount →
      buffer = held first.wire.length ∧ buffer' = other first.wire.length)
    (later : bufferCount ≤ first.wire.length →
      ∀ offset, offset < readStreamSize → buffer offset = buffer' offset) :
    (first.sent ++ (readPacket buffer).take script.written.toNat =
        second.sent ++ (readPacket buffer').take script.written.toNat) ↔
      SameView held other (scripts ++ [script]) := by
  obtain ⟨count, reached⟩ := compared.reached looping
  have all : ∀ earlier ∈ scripts ++ [script], 0 < earlier.written := by
    intro earlier member
    rcases List.mem_append.mp member with old | new
    · exact reached earlier old
    · rw [List.mem_singleton.mp new]
      exact goesOn
  have inTime : first.control ≠ .nullBuffer := by
    rw [looping]
    decide
  have parts : (first.sent ++ (readPacket buffer).take script.written.toNat =
        second.sent ++ (readPacket buffer').take script.written.toNat) ↔
      first.sent = second.sent ∧
        (readPacket buffer).take script.written.toNat =
          (readPacket buffer').take script.written.toNat := by
    constructor
    · intro same
      exact List.append_inj same compared.abreast.size
    · rintro ⟨before, now⟩
      rw [before, now]
  rw [parts, compared.view inTime, sameView_append,
    take_readPacket_eq_iff]
  apply and_congr_right
  intro _
  by_cases pass : scripts.length < bufferCount
  · rw [count] at firstPass
    obtain ⟨rfl, rfl⟩ := firstPass pass
    constructor
    · intro same _ _
      exact same
    · intro same
      exact same pass all
  · constructor
    · intro _ within
      exact (pass within).elim
    · intro _ offset inside _
      apply later
      · omega
      · simp only [readSendSize] at inside
        simp only [readStreamSize]
        omega

theorem iterate (compared : Compared held other scripts first second)
    (script : IterationScript) :
    Compared held other (scripts ++ [script]) (first.iterate script)
      (second.iterate script) := by
  by_cases looping : first.control = .looping
  · cases compared.abreast.alongside looping script with
    | expired control control' wire wire' =>
        have size := compared.abreast.size
        simp only [ReadStream.sent] at size
        refine ⟨⟨control.trans control'.symm, ?_, ?_⟩, ?_, ?_, ?_⟩
        · simp only [ReadStream.sent, wire, wire', size]
        · simp [control]
        · simp [control]
        · simp [control]
        · simp [control]
    | closed ends control control' wire wire' =>
        have size := compared.abreast.size
        have view := compared.view (by rw [looping]; decide)
        have ended : ∃ ending ∈ scripts ++ [script],
            ending.written ≤ 0 := ⟨script, by simp, ends⟩
        simp only [ReadStream.sent] at size view
        refine ⟨⟨control.trans control'.symm, ?_, ?_⟩, ?_, ?_, ?_⟩
        · simp only [ReadStream.sent, wire, wire', size]
        · simp [control]
        · simp [control]
        · intro _
          exact ended
        · intro _
          rw [sameView_append_ended ended, ← view]
          simp only [ReadStream.sent, wire, wire']
    | sent goesOn buffer buffer' control control' wire wire' firstPass later
        inStep =>
        have size := compared.abreast.size
        obtain ⟨count, reached⟩ := compared.reached looping
        have more : (first.iterate script).sent = first.sent ++
            (readPacket buffer).take script.written.toNat := by
          simp [ReadStream.sent, wire]
        have more' : (second.iterate script).sent = second.sent ++
            (readPacket buffer').take script.written.toNat := by
          simp [ReadStream.sent, wire']
        have longer : (first.iterate script).wire.length =
            first.wire.length + 1 := by
          simp [wire]
        refine ⟨⟨control.trans control'.symm, ?_, ?_⟩, ?_, ?_, ?_⟩
        · rw [more, more', List.length_append, List.length_append, size]
          simp [readPacket]
        · intro _
          rw [longer]
          exact inStep
        · intro _
          refine ⟨by rw [longer, count, List.length_append]; rfl, ?_⟩
          intro earlier member
          rcases List.mem_append.mp member with old | new
          · exact reached earlier old
          · rw [List.mem_singleton.mp new]
            exact goesOn
        · simp [control]
        · intro _
          rw [more, more']
          exact compared.sent looping goesOn firstPass later
  · exact compared.stop looping script

/-- The comparison holds at every point of the two runs. -/
theorem run (channel : DmaProxyChannel) (table : Nat → ChannelBuffer)
    (scripts : List IterationScript) :
    Compared (payloads channel.bufferTable) (payloads table) scripts
      (clientCmdReadStreamInf channel scripts)
      (clientCmdReadStreamInf { channel with bufferTable := table }
        scripts) := by
  induction scripts using List.reverseRecOn with
  | nil => exact .start channel table
  | append_singleton earlier script induction =>
      simp only [clientCmdReadStreamInf, runInputs_append, runInputs_cons,
        runInputs_nil]
      exact induction.iterate script

end Compared

/-- Two runs on channels that differ in their channel buffers only, with no
`io_stream_get_buffer` timing out, send the same bytes exactly when the
buffers agree in what the first pass around the ring writes out. -/
theorem sent_eq_iff_sameView (channel : DmaProxyChannel)
    (table : Nat → ChannelBuffer) (scripts : List IterationScript)
    (inTime : (clientCmdReadStreamInf channel scripts).control ≠
      .nullBuffer) :
    (clientCmdReadStreamInf channel scripts).sent =
        (clientCmdReadStreamInf { channel with bufferTable := table }
          scripts).sent ↔
      SameView (payloads channel.bufferTable) (payloads table) scripts :=
  (Compared.run channel table scripts).view inTime

/-- A table of buffers whose first one holds a byte of its own. -/
def markedTable (place : Nat) : Nat → ChannelBuffer :=
  Function.update (DmaProxyChannel.probed .devToMem).bufferTable 0
    { buffer := ByteMemory.store (fun _ => 0) place [1]
      status := .noError, length := 0 }

/-- A byte behind the part that is sent is not seen. -/
theorem unsent_byte_not_seen :
    (clientCmdReadStreamInf (.probed .devToMem) [{}]).sent =
      (clientCmdReadStreamInf { DmaProxyChannel.probed .devToMem with
        bufferTable := markedTable 8192 } [{}]).sent := by
  apply (sent_eq_iff_sameView (.probed .devToMem) (markedTable 8192) [{}]
    (by decide +kernel)).mpr
  rintro position script ⟨_, chosen, _⟩ offset inside _
  obtain ⟨first, _⟩ := List.getElem?_eq_some_iff.mp chosen
  have zero : position = 0 := by
    simp only [List.length_singleton] at first
    omega
  subst position
  simp only [readSendSize] at inside
  have unstored := ByteMemory.store_of_lt (fun _ => 0) [1]
    (show offset < 8192 by omega)
  simp only [payloads, markedTable, Function.update_self, unstored]
  rfl

/-- A byte left in the first buffer is sent to the client. -/
theorem leftover_byte_sent :
    ¬∀ (channel : DmaProxyChannel) (table : Nat → ChannelBuffer)
      (scripts : List IterationScript),
      (clientCmdReadStreamInf channel scripts).control ≠ .nullBuffer →
      (clientCmdReadStreamInf channel scripts).sent =
        (clientCmdReadStreamInf { channel with bufferTable := table }
          scripts).sent := by
  intro always
  have same := always (.probed .devToMem) (markedTable 0) [{}]
    (by decide +kernel)
  have head := congrArg (fun bytes => bytes[5]?) same
  revert head
  decide +kernel

end StreamIO.Backend
