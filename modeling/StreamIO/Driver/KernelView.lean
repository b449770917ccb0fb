import Mathlib.Data.List.Forall2
import StreamIO.Driver.Confinement
import StreamIO.Driver.EngineEffect

/-!
# The channel by address and by index

The channel as the kernel addresses it and the channel by index are the same
machine as long as the arguments are in range: every run by index has a run
by address with the same payloads, status and length words and descriptors.
-/

namespace StreamIO.Driver

open StreamIO.Library

/-- What the driver, the application and the engine do with a channel by
index. -/
inductive ChannelEvent where
  | setLength (index : Nat) (size : UInt32)
  | start (index : Nat) (response : SubmitResponse)
  | finish (index : Nat) (script : WaitScript)
  | engine (event : EngineEvent)

def DmaProxyChannel.step (channel : DmaProxyChannel) :
    ChannelEvent → DmaProxyChannel
  | .setLength index size => channel.setLength index size
  | .start index response => ioctl channel .startXfer index response {}
  | .finish index script => ioctl channel .finishXfer index .accepted script
  | .engine event => channel.engineStep event

/-- The engine's part in an event by address. -/
def EngineEvent.byAddress : EngineEvent → List KernelEvent
  | .fetch _ => []
  | .deliver bytes => [.deliver bytes]
  | .complete => [.finish]
  | .fail _ => [.finish]

/-- The event by address. -/
def ChannelEvent.byAddress (channel : DmaProxyChannel) :
    ChannelEvent → List KernelEvent
  | .setLength index size =>
      [.store (lengthAddress index) (littleEndian32 size)]
  | .start index response => [.ioctl .startXfer index response .noError]
  | .finish index script =>
      (script.blocked ++ script.woken).flatMap EngineEvent.byAddress ++
        [.ioctl .finishXfer index .accepted (script.verdict channel index)]
  | .engine event => event.byAddress

/-- The run by address. -/
def byAddress (channel : DmaProxyChannel) :
    List ChannelEvent → List KernelEvent
  | [] => []
  | event :: events =>
      event.byAddress channel ++ byAddress (channel.step event) events

/-- The arguments of the event are in range. -/
def DmaProxyChannel.InRange (channel : DmaProxyChannel) :
    ChannelEvent → Prop
  | .setLength index _ => index < bufferCount
  | .start index response => index < bufferCount ∧
      (response = .accepted →
        (channel.bufferTable index).length.toNat ≤ bufferSize)
  | .finish index _ => index < bufferCount
  | .engine _ => True

/-- The same descriptor by address and by index. -/
structure SameTransfer (direction : Direction)
    (descriptor : KernelDescriptor) (transfer : Transfer) : Prop where
  index : descriptor.index = transfer.bdindex
  start : descriptor.start = entryAddress transfer.bdindex
  length : descriptor.length = transfer.length
  bound : transfer.bdindex < bufferCount
  fits : transfer.length ≤ bufferSize
  within : descriptor.moved ≤ descriptor.length
  moved : direction = .devToMem →
    descriptor.moved = (transfer.moved.getD []).length

/-- The memory of the kernel shows the channel. -/
structure Shows (kernel : KernelChannel) (channel : DmaProxyChannel) :
    Prop where
  handles : ∀ index, InTable index →
    kernel.dmaHandle index = entryAddress index
  direction : kernel.direction = channel.engine.direction
  payload : ∀ index, index < bufferCount → ∀ offset, offset < bufferSize →
    kernel.memory (entryAddress index + offset) =
      (channel.bufferTable index).buffer offset
  status : ∀ index, index < bufferCount →
    readWord kernel.memory (statusAddress index) =
      (channel.bufferTable index).status.code
  length : ∀ index, index < bufferCount →
    readWord kernel.memory (lengthAddress index) =
      (channel.bufferTable index).length
  descriptors : List.Forall₂ (SameTransfer channel.engine.direction)
    kernel.descriptors channel.engine.pending

theorem readWord_writeBytes_apart (memory : Int → UInt8)
    {start address : Int} {bytes : List UInt8}
    (apart : address + 4 ≤ start ∨ start + bytes.length ≤ address) :
    readWord (writeBytes memory start bytes) address =
      readWord memory address := by
  have same : ∀ distance, 0 ≤ distance → distance < 4 →
      writeBytes memory start bytes (address + distance) =
        memory (address + distance) := by
    intro distance above below
    apply writeBytes_outside
    omega
  have first := same 0 (by decide) (by decide)
  rw [Int.add_zero] at first
  simp only [readWord, first, same 1 (by decide) (by decide),
    same 2 (by decide) (by decide), same 3 (by decide) (by decide)]

theorem writeBytes_inside (memory : Int → UInt8) (start : Int)
    {bytes : List UInt8} {distance : Nat} (inside : distance < bytes.length) :
    writeBytes memory start bytes (start + distance) =
      bytes.getD distance 0 := by
  have within : start ≤ start + distance ∧
      start + distance < start + bytes.length := by
    omega
  have back : (start + distance - start).toNat = distance := by omega
  simp only [writeBytes, if_pos within, back]

theorem readWord_writeBytes_self (memory : Int → UInt8) (start : Int)
    (word : UInt32) :
    readWord (writeBytes memory start (littleEndian32 word)) start = word := by
  have byte : ∀ distance : Nat, distance < 4 →
      writeBytes memory start (littleEndian32 word) (start + distance) =
        (littleEndian32 word).getD distance 0 := by
    intro distance below
    exact writeBytes_inside memory start below
  have first := byte 0 (by decide)
  simp only [Nat.cast_zero, Int.add_zero] at first
  have bytes : readWord (writeBytes memory start (littleEndian32 word))
      start = ofLittleEndian32 (littleEndian32 word) := by
    simp only [readWord, first]
    rw [show start + 1 = start + (1 : Nat) from rfl, byte 1 (by decide),
      show start + 2 = start + (2 : Nat) from rfl, byte 2 (by decide),
      show start + 3 = start + (3 : Nat) from rfl, byte 3 (by decide)]
    rfl
  rw [bytes, ofLittleEndian32_littleEndian32]

theorem forall₂_tail {Left Right : Type} {related : Left → Right → Prop}
    {left : List Left} {right : List Right}
    (all : List.Forall₂ related left right) :
    List.Forall₂ related left.tail right.tail := by
  cases all with
  | nil => exact .nil
  | cons _ rest => exact rest

theorem forall₂_left {Left Right : Type} {related : Left → Right → Prop}
    {holds : Left → Prop} {left : List Left} {right : List Right}
    (each : ∀ first second, related first second → holds first)
    (all : List.Forall₂ related left right) :
    ∀ first ∈ left, holds first := by
  induction all with
  | nil => simp
  | cons head _ induction =>
      intro first member
      rcases List.mem_cons.mp member with rfl | later
      · exact each _ _ head
      · exact induction first later

theorem forall₂_modify {Left Right : Type} {related : Left → Right → Prop}
    {left : List Left} {right : List Right} {change : Right → Right}
    (kept : ∀ first second, related first second →
      related first (change second))
    (all : List.Forall₂ related left right) (position : Nat) :
    List.Forall₂ related left (right.modify position change) := by
  induction all generalizing position with
  | nil =>
      rw [List.modify_nil]
      exact .nil
  | cons first rest induction =>
      cases position with
      | zero => exact .cons (kept _ _ first) rest
      | succ position =>
          rw [List.modify_succ_cons]
          exact .cons first (induction position)

namespace Shows

variable {kernel : KernelChannel} {channel : DmaProxyChannel}

theorem congr (shows : Shows kernel channel) {after : DmaProxyChannel}
    (engine : after.engine = channel.engine)
    (table : after.bufferTable = channel.bufferTable) :
    Shows kernel after := by
  refine ⟨shows.handles, ?_, ?_, ?_, ?_, ?_⟩
  · rw [engine]
    exact shows.direction
  · rw [table]
    exact shows.payload
  · rw [table]
    exact shows.status
  · rw [table]
    exact shows.length
  · rw [engine]
    exact shows.descriptors

theorem rewrite (shows : Shows kernel channel) (index : Nat)
    {after : DmaProxyChannel} {start : Int} {bytes : List UInt8}
    (above : entryAddress index + bufferSize ≤ start)
    (below : start + bytes.length ≤ entryAddress index + sizeofChannelBuffer)
    (engine : after.engine = channel.engine)
    (buffer : ∀ other, (after.bufferTable other).buffer =
      (channel.bufferTable other).buffer)
    (status : ∀ other, other < bufferCount →
      readWord (writeBytes kernel.memory start bytes)
        (statusAddress other) = (after.bufferTable other).status.code)
    (length : ∀ other, other < bufferCount →
      readWord (writeBytes kernel.memory start bytes)
        (lengthAddress other) = (after.bufferTable other).length) :
    Shows { kernel with memory := writeBytes kernel.memory start bytes }
      after := by
  refine ⟨shows.handles, ?_, ?_, status, length, ?_⟩
  · rw [engine]
    exact shows.direction
  · intro other otherBound offset inside
    rw [buffer, ← shows.payload other otherBound offset inside]
    apply writeBytes_outside
    simp only [entryAddress, sizeofChannelBuffer, bufferSize]
      at above below inside ⊢
    omega
  · rw [engine]
    exact shows.descriptors

theorem setStatus (shows : Shows kernel channel) (index : Nat)
    (status : ProxyStatus) :
    Shows (kernel.setStatus index status)
      (channel.setStatus index status) := by
  have size : (littleEndian32 status.code).length = 4 := rfl
  apply shows.rewrite index
  · exact Int.le_refl _
  · simp only [size, statusAddress, sizeofChannelBuffer, bufferSize]
    omega
  · rfl
  · intro other
    by_cases same : other = index
    · simp [same, DmaProxyChannel.setStatus]
    · simp [DmaProxyChannel.setStatus, Function.update_of_ne same]
  · intro other otherBound
    by_cases same : other = index
    · subst other
      rw [readWord_writeBytes_self]
      simp only [DmaProxyChannel.setStatus, Function.update_self]
    · rw [readWord_writeBytes_apart]
      · simp only [DmaProxyChannel.setStatus, Function.update_of_ne same]
        exact shows.status other otherBound
      · simp only [size, statusAddress, entryAddress, sizeofChannelBuffer]
        omega
  · intro other otherBound
    rw [readWord_writeBytes_apart, shows.length other otherBound]
    · by_cases same : other = index
      · simp [same, DmaProxyChannel.setStatus]
      · simp [DmaProxyChannel.setStatus, Function.update_of_ne same]
    · simp only [size, statusAddress, lengthAddress, entryAddress,
        sizeofChannelBuffer, bufferSize]
      omega

theorem setLength (shows : Shows kernel channel) (index : Nat)
    (size : UInt32) :
    Shows (kernel.step (.store (lengthAddress index) (littleEndian32 size)))
      (channel.setLength index size) := by
  have bytes : (littleEndian32 size).length = 4 := rfl
  apply shows.rewrite index
  · simp only [lengthAddress]
    omega
  · simp only [bytes, lengthAddress, sizeofChannelBuffer, bufferSize]
    omega
  · rfl
  · intro other
    by_cases same : other = index
    · simp [same, DmaProxyChannel.setLength]
    · simp [DmaProxyChannel.setLength, Function.update_of_ne same]
  · intro other otherBound
    rw [readWord_writeBytes_apart, shows.status other otherBound]
    · by_cases same : other = index
      · simp [same, DmaProxyChannel.setLength]
      · simp [DmaProxyChannel.setLength, Function.update_of_ne same]
    · simp only [bytes, statusAddress, lengthAddress, entryAddress,
        sizeofChannelBuffer, bufferSize]
      omega
  · intro other otherBound
    by_cases same : other = index
    · subst other
      rw [readWord_writeBytes_self]
      simp only [DmaProxyChannel.setLength, Function.update_self]
    · rw [readWord_writeBytes_apart]
      · simp only [DmaProxyChannel.setLength, Function.update_of_ne same]
        exact shows.length other otherBound
      · simp only [bytes, lengthAddress, entryAddress, sizeofChannelBuffer]
        omega

theorem inTable_of_lt {index : Nat} (bound : index < bufferCount) :
    InTable index := by
  constructor
  · exact Int.natCast_nonneg index
  · omega

theorem wrapInt_of_lt {index : Nat} (bound : index < bufferCount) :
    wrapInt index = index := by
  simp only [wrapInt, bufferCount] at bound ⊢
  omega

theorem startXfer (shows : Shows kernel channel) {index : Nat}
    (bound : index < bufferCount) (response : SubmitResponse)
    (fits : response = .accepted →
      (channel.bufferTable index).length.toNat ≤ bufferSize) :
    Shows (kernel.step (.ioctl .startXfer index response .noError))
      (ioctl channel .startXfer index response {}) := by
  have reduced : index % 2 ^ 32 = index := by
    simp only [bufferCount] at bound
    omega
  have selected : Shows { kernel with bdindex := index }
      (channel.setBdindex index) :=
    ⟨shows.handles, shows.direction, shows.payload, shows.status,
      shows.length, shows.descriptors⟩
  simp only [KernelChannel.step, KernelChannel.ioctl, wrapInt_of_lt bound,
    ioctl, reduced]
  cases response with
  | prepError => exact selected
  | submitError errno => exact selected.congr rfl rfl
  | accepted =>
      have marked := selected.setStatus index .queued
      have length := shows.length index bound
      have handle := shows.handles index (inTable_of_lt bound)
      refine ⟨marked.handles, marked.direction, marked.payload,
        marked.status, marked.length, ?_⟩
      apply List.rel_append shows.descriptors
      refine List.Forall₂.cons ⟨rfl, handle, ?_, bound, fits rfl,
        Nat.zero_le _, fun _ => rfl⟩ .nil
      exact congrArg UInt32.toNat length

theorem storePayload (shows : Shows kernel channel) (index : Nat)
    {start : Nat} {bytes : List UInt8}
    (fits : start + bytes.length ≤ bufferSize) :
    Shows
      { kernel with
        memory := writeBytes kernel.memory (entryAddress index + start)
          bytes }
      (channel.setBuffer index
        ((channel.bufferTable index).buffer.store start bytes)) := by
  have same := SameDriver.setBuffer channel index
    ((channel.bufferTable index).buffer.store start bytes)
  refine ⟨shows.handles, shows.direction, ?_, ?_, ?_, shows.descriptors⟩
  · intro other otherBound offset inside
    have before := shows.payload other otherBound offset inside
    by_cases here : other = index
    · subst other
      simp only [DmaProxyChannel.setBuffer, Function.update_self]
      by_cases within : start ≤ offset ∧ offset < start + bytes.length
      · have distance : entryAddress index + (offset : Int) =
            entryAddress index + start + (offset - start : Nat) := by
          omega
        rw [distance, writeBytes_inside _ _ (by omega)]
        simp only [ByteMemory.store, if_pos within]
      · rw [writeBytes_outside _ (by omega), before]
        simp only [ByteMemory.store, if_neg within]
    · simp only [DmaProxyChannel.setBuffer, Function.update_of_ne here]
      rw [← before]
      apply writeBytes_outside
      simp only [entryAddress, sizeofChannelBuffer, bufferSize]
        at fits inside ⊢
      omega
  · intro other otherBound
    rw [same.status, ← shows.status other otherBound]
    apply readWord_writeBytes_apart
    simp only [statusAddress, entryAddress, sizeofChannelBuffer, bufferSize]
      at fits ⊢
    omega
  · intro other otherBound
    rw [same.length, ← shows.length other otherBound]
    apply readWord_writeBytes_apart
    simp only [lengthAddress, entryAddress, sizeofChannelBuffer, bufferSize]
      at fits ⊢
    omega

theorem deliver (shows : Shows kernel channel) (bytes : List UInt8) :
    Shows (kernel.step (.deliver bytes))
      (channel.engineStep (.deliver bytes)) := by
  cases direction : channel.engine.direction with
  | memToDev =>
      have direction' := shows.direction.trans direction
      simp only [KernelChannel.step, KernelChannel.deliver, direction',
        DmaProxyChannel.engineStep, direction]
      exact shows
  | devToMem =>
      have direction' := shows.direction.trans direction
      have queues := shows.descriptors
      rw [direction] at queues
      cases queue : kernel.descriptors with
      | nil =>
          rw [queue, List.forall₂_nil_left_iff] at queues
          simp only [KernelChannel.step, KernelChannel.deliver, direction',
            queue, DmaProxyChannel.engineStep, direction, queues]
          exact shows
      | cons descriptor rest =>
          rw [queue, List.forall₂_cons_left_iff] at queues
          obtain ⟨transfer, later, same, others, pending⟩ := queues
          have moved := same.moved rfl
          have within := same.within
          have taken : KernelChannel.accepted descriptor bytes =
              DmaProxyChannel.accepted transfer bytes := by
            simp only [KernelChannel.accepted, DmaProxyChannel.accepted,
              same.length, moved]
          have room : (DmaProxyChannel.accepted transfer bytes).length ≤
              transfer.length - (transfer.moved.getD []).length := by
            rw [DmaProxyChannel.accepted, List.length_take]
            omega
          have length := same.length
          have fits := same.fits
          have stored := shows.storePayload transfer.bdindex
            (show (transfer.moved.getD []).length +
              (DmaProxyChannel.accepted transfer bytes).length ≤
                bufferSize by omega)
          simp only [KernelChannel.step, KernelChannel.deliver, direction',
            queue, DmaProxyChannel.engineStep, direction, pending, taken,
            same.start, moved]
          refine ⟨stored.handles, rfl, stored.payload, stored.status,
            stored.length, List.Forall₂.cons ?_ others⟩
          refine ⟨same.index, rfl, same.length, same.bound, same.fits, ?_,
            ?_⟩
          · simp only
            omega
          · intro _
            simp only [Option.getD_some, List.length_append]

theorem dequeue (shows : Shows kernel channel) {after : DmaProxyChannel}
    (pending : after.engine.pending = channel.engine.pending.tail)
    (direction : after.engine.direction = channel.engine.direction)
    (table : after.bufferTable = channel.bufferTable) :
    Shows (kernel.step .finish) after := by
  refine ⟨shows.handles, shows.direction.trans direction.symm, ?_, ?_, ?_,
    ?_⟩
  · rw [table]
    exact shows.payload
  · rw [table]
    exact shows.status
  · rw [table]
    exact shows.length
  · rw [direction, pending]
    exact forall₂_tail shows.descriptors

theorem fetch (shows : Shows kernel channel) (position : Nat) :
    Shows kernel (channel.engineStep (.fetch position)) := by
  cases direction : channel.engine.direction with
  | devToMem =>
      simp only [DmaProxyChannel.engineStep, direction]
      exact shows
  | memToDev =>
      have queues := shows.descriptors
      rw [direction] at queues
      simp only [DmaProxyChannel.engineStep, direction]
      refine ⟨shows.handles, shows.direction.trans direction, shows.payload,
        shows.status, shows.length, ?_⟩
      apply forall₂_modify _ queues
      intro descriptor transfer same
      refine ⟨same.index, same.start, same.length, same.bound, same.fits,
        same.within, ?_⟩
      intro receiving
      cases receiving

theorem engineStep_dequeues (channel : DmaProxyChannel) {event : EngineEvent}
    (finishes : event = .complete ∨ ∃ callback, event = .fail callback) :
    (channel.engineStep event).engine.pending =
        channel.engine.pending.tail ∧
      (channel.engineStep event).bufferTable = channel.bufferTable := by
  cases queue : channel.engine.pending with
  | nil =>
      rcases finishes with rfl | ⟨callback, rfl⟩
      · simp [DmaProxyChannel.engineStep, queue]
      · simp [DmaProxyChannel.engineStep, queue]
  | cons transfer rest =>
      rcases finishes with rfl | ⟨callback, rfl⟩
      · simp only [DmaProxyChannel.engineStep, queue]
        exact ⟨rfl, rfl⟩
      · simp only [DmaProxyChannel.engineStep, queue]
        cases callback with
        | true => exact ⟨rfl, rfl⟩
        | false => exact ⟨rfl, rfl⟩

theorem engineStep (shows : Shows kernel channel) (event : EngineEvent) :
    Shows (runInputs KernelChannel.step kernel event.byAddress)
      (channel.engineStep event) := by
  have driver := channel.engineStep_sameDriver event
  cases event with
  | fetch position => exact shows.fetch position
  | deliver bytes => exact shows.deliver bytes
  | complete =>
      obtain ⟨pending, table⟩ := engineStep_dequeues channel (Or.inl rfl)
      exact shows.dequeue pending driver.direction table
  | fail callback =>
      obtain ⟨pending, table⟩ :=
        engineStep_dequeues channel (Or.inr ⟨callback, rfl⟩)
      exact shows.dequeue pending driver.direction table

theorem runEngine (shows : Shows kernel channel)
    (events : List EngineEvent) :
    Shows (runInputs KernelChannel.step kernel
        (events.flatMap EngineEvent.byAddress))
      (channel.runEngine events) := by
  induction events generalizing kernel channel with
  | nil => exact shows
  | cons event events induction =>
      rw [List.flatMap_cons, runInputs_append]
      exact induction (shows.engineStep event)

theorem awaited (shows : Shows kernel channel) (script : WaitScript)
    (index : Nat) :
    Shows (runInputs KernelChannel.step kernel
        ((script.blocked ++ script.woken).flatMap EngineEvent.byAddress))
      (script.awaited channel index) := by
  have slept := shows.runEngine script.blocked
  rw [List.flatMap_append, runInputs_append]
  simp only [WaitScript.awaited]
  split
  · have taken : Shows (runInputs KernelChannel.step kernel
        (script.blocked.flatMap EngineEvent.byAddress))
        ((channel.runEngine script.blocked).takeCompletion index) :=
      slept.congr rfl rfl
    exact taken.runEngine script.woken
  · exact slept.runEngine script.woken

theorem finishXfer (shows : Shows kernel channel) {index : Nat}
    (bound : index < bufferCount) (script : WaitScript) :
    Shows (runInputs KernelChannel.step kernel
        (ChannelEvent.byAddress channel (.finish index script)))
      (ioctl channel .finishXfer index .accepted script) := by
  have small : index < 2 ^ 32 := by
    simp only [bufferCount] at bound
    omega
  obtain ⟨count, after⟩ := ioctl_finishXfer channel small .accepted script
  have waited := shows.awaited script index
  rw [after, ChannelEvent.byAddress, runInputs_append, runInputs_cons,
    runInputs_nil]
  simp only [KernelChannel.step, KernelChannel.ioctl, wrapInt_of_lt bound,
    KernelChannel.waitForTransfer]
  have busy := (waited.setStatus index .busy).setStatus index
    (script.verdict channel index)
  rw [DmaProxyChannel.setStatus_setStatus] at busy
  exact ⟨busy.handles, busy.direction, busy.payload, busy.status,
    busy.length, busy.descriptors⟩

theorem step (shows : Shows kernel channel) {event : ChannelEvent}
    (inRange : channel.InRange event) :
    Shows (runInputs KernelChannel.step kernel (event.byAddress channel))
      (channel.step event) := by
  cases event with
  | setLength index size => exact shows.setLength index size
  | start index response =>
      exact shows.startXfer inRange.1 response inRange.2
  | finish index script => exact shows.finishXfer inRange script
  | engine event => exact shows.engineStep event

/-- Runs whose arguments are in range agree by index and by address. -/
theorem run (shows : Shows kernel channel) {events : List ChannelEvent}
    (inRange : EveryStep DmaProxyChannel.step DmaProxyChannel.InRange channel
      events) :
    Shows (runInputs KernelChannel.step kernel (byAddress channel events))
      (runInputs DmaProxyChannel.step channel events) := by
  induction events generalizing kernel channel with
  | nil => exact shows
  | cons event events induction =>
      rw [byAddress, runInputs_append, runInputs_cons]
      exact induction (shows.step inRange.1) inRange.2

theorem created (beyond : Int → Int) (direction : Direction) :
    Shows (KernelChannel.created (fun _ => 0) beyond direction)
      (.probed direction) := by
  have zero : ofLittleEndian32 [0, 0, 0, 0] = 0 := by decide
  refine ⟨?_, rfl, fun _ _ _ _ => rfl, fun _ _ => zero, fun _ _ => zero,
    .nil⟩
  intro index inTable
  exact if_pos inTable

theorem prepared (shows : Shows kernel channel) : kernel.Prepared := by
  refine ⟨shows.handles, ?_⟩
  refine forall₂_left ?_ shows.descriptors
  intro descriptor transfer same
  have length := same.length
  have fits := same.fits
  refine ⟨?_, same.within⟩
  rw [same.index, same.start]
  exact ⟨inTable_of_lt same.bound, Int.le_refl _, by omega⟩

theorem inRange_step (shows : Shows kernel channel) {event : ChannelEvent}
    (inRange : channel.InRange event) :
    EveryStep KernelChannel.step KernelChannel.InRange kernel
      (event.byAddress channel) := by
  have engineInRange : ∀ events : List EngineEvent,
      EveryStep KernelChannel.step KernelChannel.InRange kernel
        (events.flatMap EngineEvent.byAddress) := by
    intro events
    apply everyStep_of_always
    intro input member state
    obtain ⟨event, _, made⟩ := List.mem_flatMap.mp member
    cases event with
    | fetch position => cases made
    | deliver bytes =>
        rw [List.mem_singleton.mp made]
        exact True.intro
    | complete =>
        rw [List.mem_singleton.mp made]
        exact True.intro
    | fail callback =>
        rw [List.mem_singleton.mp made]
        exact True.intro
  cases event with
  | setLength index size => exact ⟨True.intro, True.intro⟩
  | start index response =>
      obtain ⟨bound, fits⟩ := inRange
      refine ⟨?_, True.intro⟩
      simp only [KernelChannel.InRange, wrapInt_of_lt bound,
        shows.length index bound]
      exact ⟨inTable_of_lt bound, fits⟩
  | finish index script =>
      rw [ChannelEvent.byAddress, everyStep_append]
      refine ⟨engineInRange _, ?_, True.intro⟩
      simp only [KernelChannel.InRange, wrapInt_of_lt inRange]
      exact inTable_of_lt inRange
  | engine event =>
      have single := engineInRange [event]
      rw [List.flatMap_singleton] at single
      exact single

theorem confined (shows : Shows kernel channel) {events : List ChannelEvent}
    (inRange : EveryStep DmaProxyChannel.step DmaProxyChannel.InRange channel
      events) :
    EveryStep KernelChannel.step KernelChannel.Confined kernel
      (byAddress channel events) := by
  induction events generalizing kernel channel with
  | nil => exact True.intro
  | cons event events induction =>
      rw [byAddress, everyStep_append]
      constructor
      · have agree := everyStep_congr
          (fun state input (prepared : KernelChannel.Prepared state) =>
            KernelChannel.confined_iff_inRange prepared input)
          (fun _ _ prepared allowed => prepared.step allowed)
          shows.prepared (event.byAddress channel)
        exact agree.mpr (shows.inRange_step inRange.1)
      · exact induction (shows.step inRange.1) inRange.2

end Shows

/-- Runs of a newly probed channel with their arguments in range agree by index
and by address, and are confined. -/
theorem probed_run (beyond : Int → Int) (direction : Direction)
    {events : List ChannelEvent}
    (inRange : EveryStep DmaProxyChannel.step DmaProxyChannel.InRange
      (.probed direction) events) :
    let kernel := KernelChannel.created (fun _ => 0) beyond direction
    let inputs := byAddress (.probed direction) events
    Shows (runInputs KernelChannel.step kernel inputs)
        (runInputs DmaProxyChannel.step (.probed direction) events) ∧
      EveryStep KernelChannel.step KernelChannel.Confined kernel inputs := by
  have start := Shows.created beyond direction
  exact ⟨start.run inRange, start.confined inRange⟩

end StreamIO.Driver
