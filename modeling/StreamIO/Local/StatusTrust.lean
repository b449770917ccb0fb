import StreamIO.Local.Session

/-!
# Status words and unfinished transfers

The status word of a buffer, the cookie kept for it and the accounts of the
engine are tied together for every call of a session.  Two readings of
"settled" share the argument: a settled transfer has completed, or it has
merely left the engine.
-/

namespace StreamIO.Local

open StreamIO.Driver StreamIO.Library

/-- A property of cookies that the engine never takes back and that a
descriptor reported as complete has. -/
structure SettledNotion (settled : DmaEngine → Int → Prop) : Prop where
  effect : ∀ {before after : DmaEngine} {cookie : Int},
    EngineEffect before after → settled before cookie → settled after cookie
  submit : ∀ {before after : DmaEngine} {cookie : Int} {transfer : Transfer},
    after.pending = before.pending ++ [transfer] →
    after.completed = before.completed →
    cookie < transfer.cookie → settled before cookie → settled after cookie
  complete : ∀ {engine : DmaEngine} {cookie : Int},
    (cookie ∈ engine.pending.map Transfer.cookie ∨
      cookie ∈ engine.completed.map Transfer.cookie ∨
      cookie ∈ engine.failed.map Transfer.cookie) →
    engine.dmaAsyncIsTxComplete cookie = .complete → settled engine cookie

/-- The transfer has completed. -/
def Completed (engine : DmaEngine) (cookie : Int) : Prop :=
  cookie ∈ engine.completed.map Transfer.cookie

/-- The transfer is neither queued nor running. -/
def Idle (engine : DmaEngine) (cookie : Int) : Prop :=
  cookie ∉ engine.pending.map Transfer.cookie

theorem dmaAsyncIsTxComplete_complete {engine : DmaEngine} {cookie : Int}
    (reported : engine.dmaAsyncIsTxComplete cookie = .complete) :
    cookie ∉ engine.pending.map Transfer.cookie ∧
      cookie ∉ engine.failed.map Transfer.cookie := by
  unfold DmaEngine.dmaAsyncIsTxComplete at reported
  split at reported
  · cases reported
  · split at reported
    · cases reported
    · exact ⟨‹_›, ‹_›⟩

theorem completed_notion : SettledNotion Completed where
  effect := by
    intro before after cookie moved settled
    cases moved with
    | quiet pending completed failed => rwa [Completed, completed]
    | completes transfer item rest head pending same completed failed =>
        rw [Completed, completed, List.map_append]
        exact List.mem_append_left _ settled
    | fails transfer rest head pending completed failed =>
        rwa [Completed, completed]
  submit := by
    intro before after cookie transfer pending completed later settled
    rwa [Completed, completed]
  complete := by
    intro engine cookie tracked reported
    obtain ⟨notPending, notFailed⟩ := dmaAsyncIsTxComplete_complete reported
    rcases tracked with pending | completed | failed
    · exact (notPending pending).elim
    · exact completed
    · exact (notFailed failed).elim

theorem idle_notion : SettledNotion Idle where
  effect := by
    intro before after cookie moved settled member
    apply settled
    cases moved with
    | quiet pending completed failed =>
        rwa [map_cookie_eq, ← pending, ← map_cookie_eq]
    | completes transfer item rest head pending same completed failed =>
        rw [head, List.map_cons, ← pending]
        exact List.mem_cons_of_mem _ member
    | fails transfer rest head pending completed failed =>
        rw [head, List.map_cons, ← pending]
        exact List.mem_cons_of_mem _ member
  submit := by
    intro before after cookie transfer pending completed later settled member
    rw [pending, List.map_append, List.mem_append] at member
    rcases member with old | new
    · exact settled old
    · simp only [List.map_cons, List.map_nil, List.mem_singleton] at new
      omega
  complete := by
    intro engine cookie tracked reported
    exact (dmaAsyncIsTxComplete_complete reported).1

/-- Every buffer used so far either still carries the cookie of its last
transfer or that transfer is settled; it is settled in any case when the
status word says so. -/
structure Sound (settled : DmaEngine → Int → Prop)
    (submitted : List Submission) (channel : DmaProxyChannel) : Prop where
  accounted : Accounted submitted channel.engine
  cookie : ∀ index entry, lastOf submitted index = some entry →
    (channel.bdtable index).cookie = entry.cookie ∨
      settled channel.engine entry.cookie
  status : ∀ index entry, lastOf submitted index = some entry →
    (channel.bufferTable index).status = .noError →
    settled channel.engine entry.cookie

namespace Sound

variable {settled : DmaEngine → Int → Prop} {submitted : List Submission}
  {channel after : DmaProxyChannel}

theorem engineStep (notion : SettledNotion settled)
    (sound : Sound settled submitted channel) (event : EngineEvent) :
    Sound settled submitted (channel.engineStep event) := by
  have moved := channel.engineStep_effect event
  have same := channel.engineStep_sameDriver event
  refine ⟨sound.accounted.effect moved same.lastCookie, ?_, ?_⟩
  · intro index entry last
    rw [same.cookie]
    exact (sound.cookie index entry last).imp_right (notion.effect moved)
  · intro index entry last status
    rw [same.status] at status
    exact notion.effect moved (sound.status index entry last status)

private theorem awaited_engine (notion : SettledNotion settled)
    (sound : Sound settled submitted channel) (script : WaitScript)
    (index : Nat) :
    Accounted submitted (script.awaited channel index).engine ∧
      ∀ cookie, settled channel.engine cookie →
        settled (script.awaited channel index).engine cookie := by
  constructor
  · exact script.awaited_engine_preserves
      (fun _ _ moved accounted same => accounted.effect moved same) index
      sound.accounted
  · intro cookie
    exact script.awaited_engine_preserves
      (fun _ _ moved holds _ => notion.effect moved holds) index

theorem finished {index : Nat} {script : WaitScript}
    (notion : SettledNotion settled)
    (sound : Sound settled submitted channel)
    (finish : Finished channel index script after) :
    Sound settled submitted after := by
  obtain ⟨accounted, kept⟩ := sound.awaited_engine notion script index
  have same := script.awaited_sameDriver channel index
  refine ⟨by rw [finish.engine]; exact accounted, ?_, ?_⟩
  · intro other entry last
    rw [finish.bdtable, finish.engine, same.cookie]
    exact (sound.cookie other entry last).imp_right (kept _)
  · intro other entry last status
    rw [finish.engine]
    by_cases waited : other = index
    · subst other
      rw [finish.statusSelf] at status
      have reported :
          (script.awaited channel index).engine.dmaAsyncIsTxComplete
            (channel.bdtable index).cookie = .complete := by
        simp only [WaitScript.verdict, same.cookie] at status
        split at status
        · cases status
        · split at status
          · assumption
          · cases status
      rcases sound.cookie index entry last with current | earlier
      · rw [current] at reported
        exact notion.complete
          (accounted.tracked entry (lastOf_mem last).1) reported
      · exact kept _ earlier
    · rw [finish.statusOther other waited] at status
      exact kept _ (sound.status other entry last status)

theorem started {index : Nat} {size : UInt32}
    (notion : SettledNotion settled)
    (sound : Sound settled submitted channel) (entry : Submission)
    (start : Started channel index size after)
    (cookie : entry.cookie = channel.engine.lastCookie + 1)
    (bdindex : entry.bdindex = index) (length : entry.length = size.toNat) :
    Sound settled (submitted ++ [entry]) after := by
  have keeps : ∀ item ∈ submitted, settled channel.engine item.cookie →
      settled after.engine item.cookie := by
    intro item member
    have bound := sound.accounted.recent item member
    apply notion.submit (by rw [start.engine]) (by rw [start.engine])
    simp only
    omega
  refine ⟨?_, ?_, ?_⟩
  · apply sound.accounted.submit cookie
    rw [start.engine, bdindex, length]
  · intro other item last
    rw [lastOf_append] at last
    rw [start.bdtable]
    by_cases same : other = index
    · rw [if_pos (bdindex.trans same.symm)] at last
      obtain rfl := Option.some.inj last
      simp [same, cookie]
    · have different : entry.bdindex ≠ other := by
        rw [bdindex]
        exact Ne.symm same
      rw [if_neg different] at last
      rw [Function.update_of_ne same]
      exact (sound.cookie other item last).imp_right
        (keeps item (lastOf_mem last).1)
  · intro other item last status
    rw [lastOf_append] at last
    by_cases same : other = index
    · rw [same, start.statusSelf] at status
      cases status
    · have different : entry.bdindex ≠ other := by
        rw [bdindex]
        exact Ne.symm same
      rw [if_neg different] at last
      rw [start.statusOther other same] at status
      exact keeps item (lastOf_mem last).1
        (sound.status other item last status)

/-- A refused submission is harmless when the buffer's last transfer is
already settled. -/
theorem rejected {index : Nat} (sound : Sound settled submitted channel)
    (reject : Rejected channel index after)
    (quiet : ∀ entry, lastOf submitted index = some entry →
      settled channel.engine entry.cookie) :
    Sound settled submitted after := by
  refine ⟨by rw [reject.engine]; exact sound.accounted, ?_, ?_⟩
  · intro other entry last
    rw [reject.engine]
    by_cases same : other = index
    · subst other
      exact Or.inr (quiet entry last)
    · rw [reject.bdtable other same]
      exact sound.cookie other entry last
  · intro other entry last status
    rw [reject.engine]
    rw [reject.status] at status
    exact sound.status other entry last status

theorem finishBuffer (notion : SettledNotion settled)
    (sound : Sound settled submitted channel) (scripts : Nat → WaitScript)
    {index : Nat} (bound : index < bufferCount) :
    Sound settled submitted (finishBuffer scripts channel index) := by
  unfold Local.finishBuffer
  split
  · exact sound.finished notion
      (ioctl_finishXfer_finished channel bound .accepted (scripts index))
  · exact sound

theorem finishAll (notion : SettledNotion settled)
    (scripts : Nat → WaitScript) {indices : List Nat}
    (bound : ∀ index ∈ indices, index < bufferCount)
    (sound : Sound settled submitted channel) :
    Sound settled submitted
      (indices.foldl (Local.finishBuffer scripts) channel) := by
  induction indices generalizing channel with
  | nil => exact sound
  | cons head tail induction =>
      apply induction
      · intro index member
        exact bound index (by simp [member])
      · exact sound.finishBuffer notion scripts (bound head (by simp))

end Sound

/-- The invariant of a session. -/
structure Tracked (settled : DmaEngine → Int → Prop) (session : Session) :
    Prop where
  count : session.device.bufferCount = bufferCount
  ring : session.device.currentBufferId < bufferCount
  handed : ∀ data ∈ session.handed,
    ∃ index, index < bufferCount ∧ data = bufferAddress index
  inRange : ∀ entry ∈ session.submitted, entry.bdindex < bufferCount
  sound : Sound settled session.submitted session.channel

/-- The application uses only pointers it was given, and a submission that
the engine refuses does not hit a buffer with an unsettled transfer. -/
def Permitted (settled : DmaEngine → Int → Prop) (session : Session) :
    SessionEvent → Prop
  | .store data _ _ => data ∈ session.handed
  | .submit data _ response =>
      data ∈ session.handed ∧
        (response ≠ .accepted → ∀ entry,
          session.lastSubmission (data / sizeofChannelBuffer) = some entry →
          settled session.dma entry.cookie)
  | _ => True

namespace Tracked

variable {settled : DmaEngine → Int → Prop}

theorem start (channel : DmaProxyChannel) :
    Tracked settled (Session.start channel) := by
  obtain ⟨_, _, _, engine, count, ring⟩ := ioOpenStreamLocal_spec channel
  have none : ∀ index entry,
      lastOf (Session.start channel).submitted index ≠ some entry := by
    simp [lastOf, Session.start]
  refine ⟨count, ?_, by simp [Session.start], by simp [Session.start], ?_⟩
  · change (ioOpenStreamLocal channel).currentBufferId < bufferCount
    rw [ring]
    decide
  · refine ⟨?_, ?_, ?_⟩
    · change Accounted [] (ioOpenStreamLocal channel).channel.engine
      rw [engine]
      exact ⟨.nil, by simp, by simp, by simp, .nil, by simp⟩
    · intro index entry last
      exact (none index entry last).elim
    · intro index entry last
      exact (none index entry last).elim

theorem getBuffer (notion : SettledNotion settled) {session : Session}
    (tracked : Tracked settled session) (script : WaitScript) :
    Tracked settled (session.step (.getBuffer script)) := by
  have advanced : (session.device.currentBufferId + 1) %
      session.device.bufferCount < bufferCount := by
    rw [tracked.count]
    exact Nat.mod_lt _ (by decide)
  have extended : ∀ data ∈ session.handed ++
      [bufferAddress session.device.currentBufferId],
      ∃ index, index < bufferCount ∧ data = bufferAddress index := by
    intro data member
    rcases List.mem_append.mp member with old | new
    · exact tracked.handed data old
    · exact ⟨_, tracked.ring, List.mem_singleton.mp new⟩
  rcases ioStreamZcBufferLocal_cases session.device tracked.ring script with
    ⟨_, result⟩ | ⟨_, after, finish, ⟨_, result⟩ | ⟨_, result⟩⟩
  · simp only [Session.step, ioStreamGetBuffer, result, Option.toList]
    exact ⟨tracked.count, advanced, extended, tracked.inRange, tracked.sound⟩
  · simp only [Session.step, ioStreamGetBuffer, result, Option.toList,
      List.append_nil]
    exact ⟨tracked.count, tracked.ring, tracked.handed, tracked.inRange,
      tracked.sound.finished notion finish⟩
  · simp only [Session.step, ioStreamGetBuffer, result, Option.toList]
    exact ⟨tracked.count, advanced, extended, tracked.inRange,
      tracked.sound.finished notion finish⟩

theorem store {session : Session} (tracked : Tracked settled session)
    (data offset : Nat) (bytes : List UInt8) :
    Tracked settled (session.step (.store data offset bytes)) := by
  have same := SameDriver.setBuffer session.channel
    (data / sizeofChannelBuffer)
    ((session.channel.bufferTable (data / sizeofChannelBuffer)).buffer.store
      offset bytes)
  refine ⟨tracked.count, tracked.ring, tracked.handed, tracked.inRange,
    tracked.sound.accounted, tracked.sound.cookie, ?_⟩
  intro index entry last status
  exact tracked.sound.status index entry last
    ((same.status index).symm.trans status)

theorem submit (notion : SettledNotion settled) {session : Session}
    (tracked : Tracked settled session) {data : Nat} {size : UInt32}
    {response : SubmitResponse}
    (permitted : Permitted settled session (.submit data size response)) :
    Tracked settled (session.step (.submit data size response)) := by
  obtain ⟨member, refusedQuietly⟩ := permitted
  obtain ⟨index, bound, rfl⟩ := tracked.handed data member
  rw [bufferAddress_div] at refusedQuietly
  by_cases accepted : response = .accepted
  · subst response
    have started := ioWriteStreamLocal_started session.device bound size
    have sound := tracked.sound.started notion (session.submission index size)
      started rfl rfl rfl
    simp only [Session.step, if_true, bufferAddress_div]
    refine ⟨tracked.count, tracked.ring, tracked.handed, ?_, sound⟩
    intro entry entryMember
    rcases List.mem_append.mp entryMember with old | new
    · exact tracked.inRange entry old
    · rw [List.mem_singleton.mp new]
      exact bound
  · have rejected :=
      ioWriteStreamLocal_rejected session.device bound size accepted
    simp only [Session.step, if_neg accepted]
    exact ⟨tracked.count, tracked.ring, tracked.handed, tracked.inRange,
      tracked.sound.rejected rejected (refusedQuietly accepted)⟩

theorem sync (notion : SettledNotion settled) {session : Session}
    (tracked : Tracked settled session) (scripts : Nat → WaitScript) :
    Tracked settled (session.step (.sync scripts)) := by
  refine ⟨tracked.count, tracked.ring, tracked.handed, tracked.inRange, ?_⟩
  apply Sound.finishAll notion scripts _ tracked.sound
  intro index member
  rw [tracked.count] at member
  exact List.mem_range.mp member

/-- Every call and every step of the engine keeps the invariant. -/
theorem step (notion : SettledNotion settled) {session : Session}
    (tracked : Tracked settled session) {event : SessionEvent}
    (permitted : Permitted settled session event) :
    Tracked settled (session.step event) := by
  cases event with
  | getBuffer script => exact tracked.getBuffer notion script
  | store data offset bytes => exact tracked.store data offset bytes
  | submit data size response => exact tracked.submit notion permitted
  | sync scripts => exact tracked.sync notion scripts
  | engine event =>
      exact ⟨tracked.count, tracked.ring, tracked.handed, tracked.inRange,
        tracked.sound.engineStep notion event⟩

end Tracked

/-- The application uses only pointers it was given and the engine accepts
every submission. -/
def Accepting (session : Session) : SessionEvent → Prop
  | .store data _ _ => data ∈ session.handed
  | .submit data _ response => data ∈ session.handed ∧ response = .accepted
  | _ => True

theorem Accepting.permitted {settled : DmaEngine → Int → Prop}
    {session : Session} {event : SessionEvent}
    (accepting : Accepting session event) :
    Permitted settled session event := by
  cases event with
  | getBuffer script => trivial
  | store data offset bytes => exact accepting
  | submit data size response =>
      exact ⟨accepting.1, fun refused => (refused accepting.2).elim⟩
  | sync scripts => trivial
  | engine event => trivial

def acceptingSessions : TransitionSystem Session SessionEvent where
  step session event next :=
    Accepting session event ∧ next = session.step event

theorem acceptingSessions_getBuffer {start session : Session}
    (reached : acceptingSessions.Reachable start session)
    (script : WaitScript) :
    acceptingSessions.Reachable start (session.step (.getBuffer script)) :=
  have next : acceptingSessions.step session (.getBuffer script)
      (session.step (.getBuffer script)) := ⟨trivial, rfl⟩
  reached.step next

theorem acceptingSessions_submit {start session : Session}
    (reached : acceptingSessions.Reachable start session) (data : Nat)
    (size : UInt32) (member : data ∈ session.handed) :
    acceptingSessions.Reachable start
      (session.step (.submit data size .accepted)) :=
  have next : acceptingSessions.step session (.submit data size .accepted)
      (session.step (.submit data size .accepted)) := ⟨⟨member, rfl⟩, rfl⟩
  reached.step next

theorem acceptingSessions_tracked {channel : DmaProxyChannel}
    {session : Session}
    (reached : acceptingSessions.Reachable (Session.start channel) session) :
    Tracked Completed session := by
  apply reached.invariant (Tracked Completed) (Tracked.start channel)
  rintro state event next tracked ⟨accepting, rfl⟩
  exact tracked.step completed_notion accepting.permitted

theorem finishAll_settles (scripts : Nat → WaitScript)
    {indices : List Nat} (bound : ∀ index ∈ indices, index < bufferCount)
    (channel : DmaProxyChannel) (index : Nat)
    (passed : index ∈ indices ∨
      (channel.bufferTable index).status ≠ .queued ∧
        (channel.bufferTable index).status ≠ .busy) :
    ((indices.foldl (finishBuffer scripts) channel).bufferTable
        index).status ≠ .queued ∧
      ((indices.foldl (finishBuffer scripts) channel).bufferTable
        index).status ≠ .busy := by
  induction indices generalizing channel with
  | nil => simpa using passed
  | cons head tail induction =>
      apply induction
      · intro other member
        exact bound other (by simp [member])
      · have finish := ioctl_finishXfer_finished channel
          (bound head (by simp)) .accepted (scripts head)
        have verdict := (scripts head).verdict_settled channel head
        by_cases same : index = head
        · right
          subst index
          unfold finishBuffer
          split
          · rw [finish.statusSelf]
            exact verdict
          · rename_i free
            have status : (channel.bufferTable head).status = .noError := by
              simpa using free
            simp [status]
        · have unchanged :
              ((finishBuffer scripts channel head).bufferTable
                index).status = (channel.bufferTable index).status := by
            unfold finishBuffer
            split
            · exact finish.statusOther index same
            · rfl
          rw [unchanged]
          rcases passed with member | settled
          · exact Or.inl ((List.mem_cons.mp member).resolve_left same)
          · exact Or.inr settled

/-- In-order completion: once the last transfer of a buffer has completed, no
earlier one is left on that buffer. -/
theorem Tracked.pending_not_completed {session : Session}
    (tracked : Tracked Completed session) {transfer : Transfer}
    (pending : transfer ∈ session.dma.pending) :
    ∃ entry, session.lastSubmission transfer.bdindex = some entry ∧
      ¬Completed session.dma entry.cookie := by
  have accounted := tracked.sound.accounted
  obtain ⟨item, itemMember, key⟩ := accounted.known transfer.key
    (List.mem_map_of_mem pending)
  have bdindex : item.bdindex = transfer.bdindex :=
    congrArg (fun key => key.2.1) key
  have cookie : item.cookie = transfer.cookie := congrArg Prod.fst key
  obtain ⟨entry, last, bound⟩ := lastOf_max accounted.increasing itemMember
  rw [bdindex] at last
  refine ⟨entry, last, ?_⟩
  intro completed
  have earlier := (accounted.finished entry.cookie completed).2
    transfer.cookie (List.mem_map_of_mem pending)
  omega

/-- `PROXY_NO_ERROR` can be trusted, and after a synchronisation whatever is
still in flight is on a buffer marked `PROXY_TIMEOUT` or `PROXY_ERROR`. -/
theorem noError_completed_and_sync_settles {channel : DmaProxyChannel}
    {session : Session}
    (reached : acceptingSessions.Reachable (Session.start channel) session) :
    (∀ index, index < bufferCount →
      session.device.status index = .noError →
      ∀ entry, session.lastSubmission index = some entry →
        Completed session.dma entry.cookie) ∧
    ∀ scripts,
      (∀ index, index < bufferCount →
        (session.step (.sync scripts)).device.status index ≠ .queued ∧
          (session.step (.sync scripts)).device.status index ≠ .busy) ∧
      ∀ transfer ∈ (session.step (.sync scripts)).dma.pending,
        transfer.bdindex < bufferCount ∧
          ((session.step (.sync scripts)).device.status transfer.bdindex =
              .timeout ∨
            (session.step (.sync scripts)).device.status transfer.bdindex =
              .error) := by
  have tracked := acceptingSessions_tracked reached
  refine ⟨fun index _ status entry last =>
    tracked.sound.status index entry last status, ?_⟩
  intro scripts
  have after := tracked.sync completed_notion scripts
  have settles : ∀ index, index < bufferCount →
      (session.step (.sync scripts)).device.status index ≠ .queued ∧
        (session.step (.sync scripts)).device.status index ≠ .busy := by
    intro index bound
    apply finishAll_settles scripts
    · intro other member
      rw [tracked.count] at member
      exact List.mem_range.mp member
    · left
      rw [tracked.count]
      exact List.mem_range.mpr bound
  refine ⟨settles, ?_⟩
  intro transfer pending
  obtain ⟨entry, last, unfinished⟩ := after.pending_not_completed pending
  obtain ⟨member, bdindex⟩ := lastOf_mem last
  have bound : transfer.bdindex < bufferCount := by
    rw [← bdindex]
    exact after.inRange entry member
  refine ⟨bound, ?_⟩
  have notFree : (session.step (.sync scripts)).device.status
      transfer.bdindex ≠ .noError := by
    intro free
    exact unfinished (after.sound.status transfer.bdindex entry last free)
  obtain ⟨notQueued, notBusy⟩ := settles transfer.bdindex bound
  cases status : (session.step (.sync scripts)).device.status
      transfer.bdindex with
  | noError => exact (notFree status).elim
  | busy => exact (notBusy status).elim
  | timeout => exact Or.inl rfl
  | error => exact Or.inr rfl
  | queued => exact (notQueued status).elim

/-- A synchronisation interrupted by a signal while one transfer runs. -/
theorem interrupted_sync_marks_error :
    let session := ((Session.start (.probed .memToDev)).step
      (.getBuffer {})).step (.submit 0 4 .accepted)
    let after := session.step (.sync fun _ => { interrupted := true })
    after.dma.pending ≠ [] ∧
      ∀ transfer ∈ after.dma.pending, transfer.bdindex < bufferCount ∧
        (after.device.status transfer.bdindex = .timeout ∨
          after.device.status transfer.bdindex = .error) := by
  have taken := acceptingSessions_getBuffer
    (.refl acceptingSessions (Session.start (.probed .memToDev))) {}
  have reached := acceptingSessions_submit taken 0 4 (by decide)
  exact ⟨by decide +kernel,
    ((noError_completed_and_sync_settles reached).2 _).2⟩

end StreamIO.Local
