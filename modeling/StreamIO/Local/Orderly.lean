import StreamIO.Local.Punctual

/-!
# Sessions in which every wait succeeds

With prompt waits a status word is `PROXY_NO_ERROR` or `PROXY_QUEUED`, every
buffer taken from the ring is free, and a synchronisation drains the engine.
-/

namespace StreamIO.Local

open StreamIO.Driver StreamIO.Library

/-- A property of the engine and the payloads that faultless progress keeps. -/
structure PayloadInvariant (holds : DmaProxyChannel → Prop) : Prop where
  engineStep : ∀ {channel event}, Faultless event → holds channel →
    holds (channel.engineStep event)
  congr : ∀ {channel after : DmaProxyChannel},
    after.engine = channel.engine →
    (∀ index, (after.bufferTable index).buffer =
      (channel.bufferTable index).buffer) →
    holds channel → holds after

namespace PayloadInvariant

variable {holds : DmaProxyChannel → Prop}

theorem runEngine (invariant : PayloadInvariant holds)
    {channel : DmaProxyChannel} {events : List EngineEvent}
    (faultless : ∀ event ∈ events, Faultless event) (start : holds channel) :
    holds (channel.runEngine events) :=
  DmaProxyChannel.runEngine_preserves
    (fun _ _ allowed before => invariant.engineStep allowed before)
    faultless start

theorem finished (invariant : PayloadInvariant holds)
    {channel after : DmaProxyChannel} {index : Nat} {script : WaitScript}
    (blocked : ∀ event ∈ script.blocked, Faultless event)
    (woken : ∀ event ∈ script.woken, Faultless event)
    (finish : Finished channel index script after) (start : holds channel) :
    holds after := by
  apply invariant.congr finish.engine finish.buffer
  simp only [WaitScript.awaited]
  apply invariant.runEngine woken
  have before := invariant.runEngine blocked start
  split
  · have engine : ((channel.runEngine script.blocked).takeCompletion
        index).engine = (channel.runEngine script.blocked).engine := rfl
    exact invariant.congr engine (fun _ => rfl) before
  · exact before

theorem finishBuffer (invariant : PayloadInvariant holds)
    {channel : DmaProxyChannel} {index : Nat}
    {scripts : Nat → WaitScript} (bound : index < bufferCount)
    (prompt : Prompt channel index (scripts index)) (start : holds channel) :
    holds (finishBuffer scripts channel index) := by
  unfold Local.finishBuffer
  split
  · rename_i waited
    obtain ⟨_, _, blocked, woken⟩ := prompt waited
    exact invariant.finished blocked woken
      (ioctl_finishXfer_finished channel bound .accepted (scripts index))
      start
  · exact start

theorem finishAll (invariant : PayloadInvariant holds)
    {scripts : Nat → WaitScript} {indices : List Nat}
    (bound : ∀ index ∈ indices, index < bufferCount)
    {channel : DmaProxyChannel} (prompt : PromptPass scripts indices channel)
    (start : holds channel) :
    holds (indices.foldl (Local.finishBuffer scripts) channel) := by
  induction indices generalizing channel with
  | nil => exact start
  | cons head tail induction =>
      apply induction
      · intro index member
        exact bound index (by simp [member])
      · exact prompt.2
      · exact invariant.finishBuffer (bound head (by simp)) prompt.1 start

end PayloadInvariant

/-- A channel all of whose waits have been prompt. -/
structure Orderly (submitted : List Submission) (channel : DmaProxyChannel) :
    Prop where
  sound : Sound Completed submitted channel
  punctual : Punctual submitted channel
  statuses : ∀ index, index < bufferCount →
    (channel.bufferTable index).status = .noError ∨
      (channel.bufferTable index).status = .queued ∧
        ∃ entry, lastOf submitted index = some entry

namespace Orderly

variable {submitted : List Submission} {channel after : DmaProxyChannel}

theorem engineStep (orderly : Orderly submitted channel)
    {event : EngineEvent} (faultless : Faultless event) :
    Orderly submitted (channel.engineStep event) := by
  refine ⟨orderly.sound.engineStep completed_notion event,
    orderly.punctual.engineStep faultless, ?_⟩
  intro index bound
  rw [(channel.engineStep_sameDriver event).status]
  exact orderly.statuses index bound

theorem setBuffer (orderly : Orderly submitted channel) (index : Nat)
    (buffer : ByteMemory) :
    Orderly submitted (channel.setBuffer index buffer) := by
  have same := SameDriver.setBuffer channel index buffer
  refine ⟨⟨orderly.sound.accounted, orderly.sound.cookie, ?_⟩,
    orderly.punctual.congr rfl rfl, ?_⟩
  · intro other entry last status
    rw [same.status] at status
    exact orderly.sound.status other entry last status
  · intro other bound
    rw [same.status]
    exact orderly.statuses other bound

theorem unused (orderly : Orderly submitted channel) {index : Nat}
    (free : (channel.bufferTable index).status = .noError) :
    Unused channel index :=
  orderly.punctual.unused orderly.sound.accounted
    fun entry last => orderly.sound.status index entry last free

theorem started (orderly : Orderly submitted channel) {index : Nat}
    {size : UInt32} (entry : Submission)
    (free : (channel.bufferTable index).status = .noError)
    (start : Started channel index size after)
    (cookie : entry.cookie = channel.engine.lastCookie + 1)
    (bdindex : entry.bdindex = index) (length : entry.length = size.toNat) :
    Orderly (submitted ++ [entry]) after := by
  refine ⟨orderly.sound.started completed_notion entry start cookie bdindex
      length,
    orderly.punctual.started (orderly.unused free) start cookie bdindex, ?_⟩
  intro other bound
  rw [lastOf_append, bdindex]
  by_cases same : other = index
  · right
    rw [same, start.statusSelf, if_pos rfl]
    exact ⟨rfl, entry, rfl⟩
  · rw [start.statusOther other same, if_neg (Ne.symm same)]
    exact orderly.statuses other bound

/-- A prompt wait frees its buffer and leaves the other status words alone. -/
theorem finishBuffer (orderly : Orderly submitted channel)
    (scripts : Nat → WaitScript) {index : Nat} (bound : index < bufferCount)
    (prompt : Prompt channel index (scripts index)) :
    Orderly submitted (finishBuffer scripts channel index) ∧
      ((Local.finishBuffer scripts channel index).bufferTable
        index).status = .noError ∧
      ∀ other, other ≠ index →
        ((Local.finishBuffer scripts channel index).bufferTable
          other).status = (channel.bufferTable other).status := by
  unfold Local.finishBuffer
  split
  · rename_i waited
    obtain ⟨awake, uninterrupted, blocked, woken⟩ := prompt waited
    have finish :=
      ioctl_finishXfer_finished channel bound .accepted (scripts index)
    obtain ⟨entry, last⟩ :=
      ((orderly.statuses index bound).resolve_left waited).2
    have verdict := orderly.punctual.verdict orderly.sound.accounted last
      awake uninterrupted blocked woken
    have freed := finish.statusSelf.trans verdict
    refine ⟨⟨orderly.sound.finished completed_notion finish,
      orderly.punctual.finished blocked woken finish, ?_⟩, freed,
      finish.statusOther⟩
    intro other otherBound
    by_cases same : other = index
    · exact Or.inl (by rw [same]; exact freed)
    · rw [finish.statusOther other same]
      exact orderly.statuses other otherBound
  · rename_i free
    exact ⟨orderly, by simpa using free, fun _ _ => rfl⟩

theorem finishAll (orderly : Orderly submitted channel)
    {scripts : Nat → WaitScript} {indices : List Nat}
    (bound : ∀ index ∈ indices, index < bufferCount)
    (prompt : PromptPass scripts indices channel) :
    Orderly submitted
        (indices.foldl (Local.finishBuffer scripts) channel) ∧
      ∀ index, (index ∈ indices ∨
          (channel.bufferTable index).status = .noError) →
        ((indices.foldl (Local.finishBuffer scripts) channel).bufferTable
          index).status = .noError := by
  induction indices generalizing channel with
  | nil => exact ⟨orderly, fun index free => by simpa using free⟩
  | cons head tail induction =>
      obtain ⟨next, freed, others⟩ :=
        orderly.finishBuffer scripts (bound head (by simp)) prompt.1
      obtain ⟨final, statuses⟩ := induction next
        (fun index member => bound index (by simp [member])) prompt.2
      refine ⟨final, ?_⟩
      intro index passed
      apply statuses index
      by_cases same : index = head
      · right
        rw [same]
        exact freed
      · rw [others index same]
        rcases passed with member | free
        · exact Or.inl ((List.mem_cons.mp member).resolve_left same)
        · exact Or.inr free

end Orderly

/-- The accounts of a session in which buffers are taken in ring order. -/
structure InTurn (session : Session) : Prop where
  count : session.device.bufferCount = bufferCount
  handed : session.handed = (List.range session.handed.length).map
    fun turn => bufferAddress (turn % bufferCount)
  current : session.device.currentBufferId =
    session.handed.length % bufferCount
  inRange : ∀ entry ∈ session.submitted, entry.bdindex < bufferCount
  orderly : Orderly session.submitted session.channel

namespace InTurn

variable {session : Session}

theorem start (channel : DmaProxyChannel) :
    InTurn (Session.start channel) := by
  have tracked : Tracked Completed (Session.start channel) := .start channel
  obtain ⟨free, _, _, engine, count, ring⟩ := ioOpenStreamLocal_spec channel
  have none : ∀ index entry,
      lastOf (Session.start channel).submitted index ≠ some entry := by
    simp [lastOf, Session.start]
  refine ⟨count, rfl, ring, tracked.inRange, tracked.sound, ?_, ?_⟩
  · refine ⟨?_, ?_, ?_, ?_⟩
    · change (ioOpenStreamLocal channel).channel.engine.failed = []
      rw [engine]
    · intro index entry last
      exact (none index entry last).elim
    · change ∀ key ∈ (ioOpenStreamLocal
        channel).channel.engine.pending.map Transfer.key, _
      rw [engine]
      simp
    · intro index entry last
      exact (none index entry last).elim
  · intro index bound
    exact Or.inl (free index bound)

theorem current_bound (inTurn : InTurn session) :
    session.device.currentBufferId < bufferCount := by
  rw [inTurn.current]
  exact Nat.mod_lt _ (by decide)

theorem ioStreamGetBuffer_prompt (inTurn : InTurn session)
    {script : WaitScript}
    (prompt : Prompt session.channel session.device.currentBufferId script) :
    ioStreamGetBuffer session.device script =
      ({ session.device with
          channel := finishBuffer (fun _ => script) session.channel
            session.device.currentBufferId
          currentBufferId := (session.handed.length + 1) % bufferCount },
        some (bufferAddress (session.handed.length % bufferCount))) := by
  obtain ⟨_, freed, _⟩ := inTurn.orderly.finishBuffer
    (fun _ => script) inTurn.current_bound prompt
  have available : ((finishBuffer (fun _ => script) session.channel
      session.device.currentBufferId).bufferTable
        session.device.currentBufferId).status ≠ .timeout := by
    rw [freed]
    decide
  have next : (session.device.currentBufferId + 1) %
      session.device.bufferCount =
        (session.handed.length + 1) % bufferCount := by
    rw [inTurn.count, inTurn.current, Nat.mod_add_mod]
  have unfolded : ioStreamGetBuffer session.device script =
      (if ((finishBuffer (fun _ => script) session.channel
          session.device.currentBufferId).bufferTable
            session.device.currentBufferId).status = .timeout then
        ({ session.device with
            channel := finishBuffer (fun _ => script) session.channel
              session.device.currentBufferId }, none)
      else
        ({ session.device with
            channel := finishBuffer (fun _ => script) session.channel
              session.device.currentBufferId
            currentBufferId := (session.device.currentBufferId + 1) %
              session.device.bufferCount },
          some (bufferAddress session.device.currentBufferId))) := rfl
  rw [unfolded, if_neg available, next]
  rw [← inTurn.current]

theorem getBuffer (inTurn : InTurn session) {script : WaitScript}
    (prompt : Prompt session.channel session.device.currentBufferId script) :
    InTurn (session.step (.getBuffer script)) ∧
      (session.step (.getBuffer script)).device.status
        (session.handed.length % bufferCount) = .noError ∧
      (session.step (.getBuffer script)).handed = session.handed ++
        [bufferAddress (session.handed.length % bufferCount)] ∧
      (session.step (.getBuffer script)).channel =
        finishBuffer (fun _ => script) session.channel
          session.device.currentBufferId := by
  obtain ⟨orderly, freed, _⟩ := inTurn.orderly.finishBuffer
    (fun _ => script) inTurn.current_bound prompt
  have taken := inTurn.ioStreamGetBuffer_prompt prompt
  simp only [Session.step, taken, Option.toList]
  refine ⟨⟨inTurn.count, ?_, ?_, inTurn.inRange, orderly⟩, ?_, trivial,
    trivial⟩
  · rw [List.length_append, List.length_singleton, List.range_succ,
      List.map_append, ← inTurn.handed]
    rfl
  · rw [List.length_append, List.length_singleton]
  · rw [← inTurn.current]
    exact freed

theorem store (inTurn : InTurn session) (data offset : Nat)
    (bytes : List UInt8) :
    InTurn (session.step (.store data offset bytes)) :=
  ⟨inTurn.count, inTurn.handed, inTurn.current, inTurn.inRange,
    inTurn.orderly.setBuffer _ _⟩

theorem submit (inTurn : InTurn session) {index : Nat}
    (bound : index < bufferCount) (size : UInt32)
    (free : session.device.status index = .noError) :
    InTurn (session.step (.submit (bufferAddress index) size .accepted)) := by
  have orderly := inTurn.orderly.started (session.submission index size) free
    (ioWriteStreamLocal_started session.device bound size) rfl rfl rfl
  simp only [Session.step, if_true, bufferAddress_div]
  refine ⟨inTurn.count, inTurn.handed, inTurn.current, ?_, orderly⟩
  intro entry member
  rcases List.mem_append.mp member with old | new
  · exact inTurn.inRange entry old
  · rw [List.mem_singleton.mp new]
    exact bound

theorem engine (inTurn : InTurn session) {event : EngineEvent}
    (faultless : Faultless event) :
    InTurn (session.step (.engine event)) :=
  ⟨inTurn.count, inTurn.handed, inTurn.current, inTurn.inRange,
    inTurn.orderly.engineStep faultless⟩

theorem sync_channel (inTurn : InTurn session)
    (scripts : Nat → WaitScript) :
    (session.step (.sync scripts)).channel =
      (List.range bufferCount).foldl (finishBuffer scripts)
        session.channel := by
  simp only [Session.step, ioSyncStreamDevice, ioFinishStreamLocal,
    inTurn.count]

/-- A prompt synchronisation frees every buffer and drains the engine. -/
theorem sync (inTurn : InTurn session) {scripts : Nat → WaitScript}
    (prompt : PromptPass scripts (List.range bufferCount) session.channel) :
    InTurn (session.step (.sync scripts)) ∧
      (∀ index, index < bufferCount →
        (session.step (.sync scripts)).device.status index = .noError) ∧
      (session.step (.sync scripts)).dma.pending = [] := by
  have passed := inTurn.sync_channel scripts
  obtain ⟨orderly, statuses⟩ := inTurn.orderly.finishAll
    (fun index member => List.mem_range.mp member) prompt
  have free : ∀ index, index < bufferCount →
      (session.step (.sync scripts)).device.status index = .noError := by
    intro index bound
    change ((session.step (.sync scripts)).channel.bufferTable
      index).status = .noError
    rw [passed]
    exact statuses index (Or.inl (List.mem_range.mpr bound))
  have after : Orderly session.submitted
      (session.step (.sync scripts)).channel := by
    rw [passed]
    exact orderly
  refine ⟨⟨inTurn.count, inTurn.handed, inTurn.current, inTurn.inRange,
    after⟩, free, ?_⟩
  apply List.eq_nil_iff_forall_not_mem.mpr
  intro transfer pending
  obtain ⟨entry, last, _⟩ := after.punctual.latest transfer.key
    (List.mem_map_of_mem pending)
  obtain ⟨member, bdindex⟩ := lastOf_mem last
  have bound : transfer.bdindex < bufferCount := by
    have inRange := inTurn.inRange entry member
    rw [bdindex] at inRange
    exact inRange
  exact after.unused (free _ bound) transfer pending rfl

end InTurn

end StreamIO.Local
