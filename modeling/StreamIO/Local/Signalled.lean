import StreamIO.Local.StatusTrust

/-!
# Completions that are still to be collected

The invariant of sessions in which the engine may refuse any submission.  A
buffer whose last transfer has completed and whose status word is not
`PROXY_NO_ERROR` has a completion waiting for it; a transfer that the status
word declares finished is neither unfinished nor failed.
-/

namespace StreamIO.Local

open StreamIO.Driver StreamIO.Library

/-- Failed transfers are older than pending ones and have not completed. -/
structure Separated (engine : DmaEngine) : Prop where
  recent : ∀ cookie ∈ engine.failed.map Transfer.cookie,
    cookie ≤ engine.lastCookie
  older : ∀ earlier ∈ engine.failed.map Transfer.cookie,
    ∀ later ∈ engine.pending.map Transfer.cookie, earlier < later
  apart : ∀ cookie ∈ engine.completed.map Transfer.cookie,
    cookie ∉ engine.failed.map Transfer.cookie

namespace Separated

variable {submitted : List Submission} {before after : DmaEngine}

theorem effect (separated : Separated before)
    (accounted : Accounted submitted before)
    (moved : EngineEffect before after)
    (same : after.lastCookie = before.lastCookie) : Separated after := by
  cases moved with
  | quiet pending completed failed =>
      have cookies : after.pending.map Transfer.cookie =
          before.pending.map Transfer.cookie := by
        rw [map_cookie_eq, map_cookie_eq, pending]
      refine ⟨?_, ?_, ?_⟩
      · rw [failed, same]
        exact separated.recent
      · rw [failed, cookies]
        exact separated.older
      · rw [completed, failed]
        exact separated.apart
  | completes transfer settled rest head pending sameKey completed failed =>
      have sameCookie : settled.cookie = transfer.cookie :=
        congrArg Prod.fst sameKey
      have older := separated.older
      rw [head, List.map_cons] at older
      refine ⟨?_, ?_, ?_⟩
      · rw [failed, same]
        exact separated.recent
      · rw [failed, pending]
        intro earlier member later laterMember
        exact older earlier member later (List.mem_cons_of_mem _ laterMember)
      · rw [completed, failed, List.map_append]
        intro cookie member isFailed
        rcases List.mem_append.mp member with old | new
        · exact separated.apart cookie old isFailed
        · simp only [List.map_cons, List.map_nil,
            List.mem_singleton] at new
          have smaller := older cookie isFailed transfer.cookie
            (List.mem_cons_self ..)
          omega
  | fails transfer rest head pending completed failed =>
      have ordered := accounted.ordered
      have older := separated.older
      rw [head, List.map_cons] at ordered older
      rw [List.pairwise_cons] at ordered
      have cookies : after.failed.map Transfer.cookie =
          before.failed.map Transfer.cookie ++ [transfer.cookie] := by
        rw [failed, List.map_append, List.map_cons, List.map_nil]
      refine ⟨?_, ?_, ?_⟩
      · rw [cookies, same]
        intro cookie member
        rcases List.mem_append.mp member with old | new
        · exact separated.recent cookie old
        · rw [List.mem_singleton.mp new]
          apply accounted.pending_le_lastCookie
          rw [head, List.map_cons]
          exact List.mem_cons_self ..
      · rw [cookies, pending]
        intro earlier member later laterMember
        rcases List.mem_append.mp member with old | new
        · exact older earlier old later
            (List.mem_cons_of_mem _ laterMember)
        · rw [List.mem_singleton.mp new]
          exact ordered.1 later laterMember
      · rw [cookies, completed]
        intro cookie isCompleted isFailed
        rcases List.mem_append.mp isFailed with old | new
        · exact separated.apart cookie isCompleted old
        · have smaller := (accounted.finished cookie isCompleted).2
            transfer.cookie (by rw [head, List.map_cons]; simp)
          rw [List.mem_singleton.mp new] at smaller
          omega

theorem submit (separated : Separated before) {index length : Nat}
    (appended : after = { before with
      lastCookie := before.lastCookie + 1
      pending := before.pending ++
        [{ cookie := before.lastCookie + 1, bdindex := index,
           length := length, moved := none }] }) : Separated after := by
  subst appended
  refine ⟨?_, ?_, separated.apart⟩
  · intro cookie member
    have bound := separated.recent cookie member
    push_cast
    omega
  · intro earlier member later laterMember
    simp only [List.map_append, List.map_cons, List.map_nil,
      List.mem_append, List.mem_singleton] at laterMember
    rcases laterMember with old | new
    · exact separated.older earlier member later old
    · have bound := separated.recent earlier member
      rw [new]
      omega

end Separated

/-- A completed last transfer of the buffer has left its mark, unless the
cookie of the buffer belongs to a later, refused submission. -/
def Answered (submitted : List Submission) (channel : DmaProxyChannel)
    (index : Nat) : Prop :=
  ∀ entry, lastOf submitted index = some entry →
    (channel.bdtable index).cookie = entry.cookie →
    Completed channel.engine entry.cookie →
    0 < (channel.bdtable index).done

/-- What cookies and status words say about the transfers of a session. -/
structure Kept (submitted : List Submission) (channel : DmaProxyChannel) :
    Prop where
  accounted : Accounted submitted channel.engine
  separated : Separated channel.engine
  positive : ∀ entry ∈ submitted, 0 < entry.cookie
  unused : ∀ index, index < bufferCount → lastOf submitted index = none →
    (channel.bufferTable index).status = .noError
  cookie : ∀ index entry, lastOf submitted index = some entry →
    (channel.bdtable index).cookie = entry.cookie ∨
      (channel.bdtable index).cookie < 0
  trusted : ∀ index entry, lastOf submitted index = some entry →
    (channel.bdtable index).cookie = entry.cookie →
    (channel.bufferTable index).status = .noError →
    Completed channel.engine entry.cookie

/-- `Kept`, and every completed transfer that was not yet reported can still
be. -/
structure Signalled (submitted : List Submission)
    (channel : DmaProxyChannel) : Prop extends Kept submitted channel where
  answered : ∀ index, (channel.bufferTable index).status ≠ .noError →
    Answered submitted channel index

namespace Kept

variable {submitted : List Submission} {channel after : DmaProxyChannel}

theorem engineStep (kept : Kept submitted channel) (event : EngineEvent) :
    Kept submitted (channel.engineStep event) := by
  have moved := channel.engineStep_effect event
  have same := channel.engineStep_sameDriver event
  refine ⟨kept.accounted.effect moved same.lastCookie,
    kept.separated.effect kept.accounted moved same.lastCookie,
    kept.positive, ?_, ?_, ?_⟩
  · intro index bound none
    rw [same.status]
    exact kept.unused index bound none
  · intro index entry last
    rw [same.cookie]
    exact kept.cookie index entry last
  · intro index entry last current status
    rw [same.cookie] at current
    rw [same.status] at status
    exact completed_notion.effect moved
      (kept.trusted index entry last current status)

theorem runEngine (kept : Kept submitted channel)
    (events : List EngineEvent) :
    Kept submitted (channel.runEngine events) := by
  induction events generalizing channel with
  | nil => exact kept
  | cons event events induction => exact induction (kept.engineStep event)

theorem takeCompletion (kept : Kept submitted channel) (index : Nat) :
    Kept submitted (channel.takeCompletion index) := by
  have same : SameDriver channel (channel.takeCompletion index) :=
    SameDriver.setDone channel index _
  refine ⟨kept.accounted, kept.separated, kept.positive, kept.unused, ?_, ?_⟩
  · intro other entry last
    rw [same.cookie]
    exact kept.cookie other entry last
  · intro other entry last current status
    rw [same.cookie] at current
    exact kept.trusted other entry last current status

theorem awaited (kept : Kept submitted channel) (script : WaitScript)
    (index : Nat) : Kept submitted (script.awaited channel index) := by
  simp only [WaitScript.awaited]
  apply Kept.runEngine
  split
  · exact (kept.runEngine script.blocked).takeCompletion index
  · exact kept.runEngine script.blocked

theorem completed_of_reported (kept : Kept submitted channel)
    {entry : Submission} (member : entry ∈ submitted)
    (reported : channel.engine.dmaAsyncIsTxComplete entry.cookie =
      .complete) : Completed channel.engine entry.cookie :=
  completed_notion.complete (kept.accounted.tracked entry member) reported

theorem reported_of_completed (kept : Kept submitted channel)
    {cookie : Int} (completed : Completed channel.engine cookie) :
    channel.engine.dmaAsyncIsTxComplete cookie = .complete := by
  have notPending :
      cookie ∉ channel.engine.pending.map Transfer.cookie := by
    intro pending
    have smaller := (kept.accounted.finished cookie completed).2 cookie
      pending
    omega
  have notFailed := kept.separated.apart cookie completed
  simp only [DmaEngine.dmaAsyncIsTxComplete, if_neg notPending,
    if_neg notFailed]

theorem finished {index : Nat} {script : WaitScript}
    (kept : Kept submitted channel) (bound : index < bufferCount)
    (waited : (channel.bufferTable index).status ≠ .noError)
    (finish : Finished channel index script after) :
    Kept submitted after := by
  have progress := kept.awaited script index
  have same := script.awaited_sameDriver channel index
  refine ⟨by rw [finish.engine]; exact progress.accounted,
    by rw [finish.engine]; exact progress.separated, kept.positive,
    ?_, ?_, ?_⟩
  · intro other otherBound none
    by_cases equal : other = index
    · subst other
      exact (waited (kept.unused index bound none)).elim
    · rw [finish.statusOther other equal]
      exact kept.unused other otherBound none
  · rw [finish.bdtable]
    exact progress.cookie
  · intro other entry last current status
    rw [finish.bdtable] at current
    rw [finish.engine]
    by_cases equal : other = index
    · subst other
      rw [finish.statusSelf] at status
      simp only [WaitScript.verdict, current] at status
      apply progress.completed_of_reported (lastOf_mem last).1
      split at status
      · cases status
      · split at status
        · assumption
        · cases status
    · rw [finish.statusOther other equal, ← same.status] at status
      exact progress.trusted other entry last current status

theorem started {index : Nat} {size : UInt32}
    (kept : Kept submitted channel) (entry : Submission)
    (start : Started channel index size after)
    (cookie : entry.cookie = channel.engine.lastCookie + 1)
    (bdindex : entry.bdindex = index) (length : entry.length = size.toNat) :
    Kept (submitted ++ [entry]) after := by
  have engine := start.engine
  rw [← bdindex, ← length] at engine
  refine ⟨kept.accounted.submit cookie engine, kept.separated.submit engine,
    ?_, ?_, ?_, ?_⟩
  · intro item member
    rcases List.mem_append.mp member with old | new
    · exact kept.positive item old
    · rw [List.mem_singleton.mp new, cookie]
      omega
  · intro other bound none
    rw [lastOf_append] at none
    by_cases same : entry.bdindex = other
    · rw [if_pos same] at none
      cases none
    · rw [if_neg same] at none
      rw [start.statusOther other (by rw [← bdindex]; exact Ne.symm same)]
      exact kept.unused other bound none
  · intro other item last
    rw [lastOf_append] at last
    rw [start.bdtable, ← bdindex]
    by_cases same : entry.bdindex = other
    · rw [if_pos same] at last
      obtain rfl := Option.some.inj last
      left
      simp [same, cookie]
    · rw [if_neg same] at last
      rw [Function.update_of_ne (Ne.symm same)]
      exact kept.cookie other item last
  · intro other item last current status
    rw [lastOf_append] at last
    by_cases same : entry.bdindex = other
    · rw [← same, bdindex, start.statusSelf] at status
      cases status
    · have different : other ≠ index := by
        rw [← bdindex]
        exact Ne.symm same
      rw [if_neg same] at last
      rw [start.bdtable, Function.update_of_ne different] at current
      rw [start.statusOther other different] at status
      rw [Completed, start.engine]
      exact kept.trusted other item last current status

theorem rejected {index : Nat} (kept : Kept submitted channel)
    (reject : Rejected channel index after)
    (spoiled : after.bdtable index = channel.bdtable index ∨
      (after.bdtable index).cookie < 0) :
    Kept submitted after := by
  refine ⟨by rw [reject.engine]; exact kept.accounted,
    by rw [reject.engine]; exact kept.separated, kept.positive, ?_, ?_, ?_⟩
  · intro other bound none
    rw [reject.status]
    exact kept.unused other bound none
  · intro other entry last
    by_cases same : other = index
    · subst other
      rcases spoiled with unchanged | negative
      · rw [unchanged]
        exact kept.cookie index entry last
      · exact Or.inr negative
    · rw [reject.bdtable other same]
      exact kept.cookie other entry last
  · intro other entry last current status
    rw [reject.engine]
    rw [reject.status] at status
    by_cases same : other = index
    · subst other
      rcases spoiled with unchanged | negative
      · rw [unchanged] at current
        exact kept.trusted index entry last current status
      · have positive := kept.positive entry (lastOf_mem last).1
        omega
    · rw [reject.bdtable other same] at current
      exact kept.trusted other entry last current status

end Kept

namespace Answered

variable {submitted : List Submission} {channel after : DmaProxyChannel}
  {index : Nat}

/-- The transfer that an event completes is the last one of its buffer
whenever the two share a cookie. -/
theorem engineStep (answered : Answered submitted channel index)
    (accounted : Accounted submitted channel.engine) (event : EngineEvent) :
    Answered submitted (channel.engineStep event) index := by
  intro entry last current completed
  have same := channel.engineStep_sameDriver event
  rw [same.cookie] at current
  rcases channel.engineStep_completed_marks event completed with
    old | ⟨transfer, pending, sameCookie, marked⟩
  · have before := answered entry last current old
    exact Nat.lt_of_lt_of_le before (channel.engineStep_done_le event index)
  · obtain ⟨item, member, key⟩ := accounted.known transfer.key
      (List.mem_map_of_mem pending)
    have itemCookie : item.cookie = entry.cookie :=
      (congrArg Prod.fst key).trans sameCookie
    have itemIndex : item.bdindex = transfer.bdindex :=
      congrArg (fun key => key.2.1) key
    have equal : item = entry :=
      accounted.eq_of_cookie member (lastOf_mem last).1 itemCookie
    rw [← itemIndex, equal, (lastOf_mem last).2] at marked
    exact marked

theorem runEngine (answered : Answered submitted channel index)
    (kept : Kept submitted channel) (events : List EngineEvent) :
    Answered submitted (channel.runEngine events) index := by
  induction events generalizing channel with
  | nil => exact answered
  | cons event events induction =>
      exact induction (answered.engineStep kept.accounted event)
        (kept.engineStep event)

theorem awaited_other (answered : Answered submitted channel index)
    (kept : Kept submitted channel) (script : WaitScript) {waited : Nat}
    (different : index ≠ waited) :
    Answered submitted (script.awaited channel waited) index := by
  have blocked := answered.runEngine kept script.blocked
  have blockedKept := kept.runEngine script.blocked
  simp only [WaitScript.awaited]
  split
  · apply runEngine _ (blockedKept.takeCompletion waited)
    intro entry last current completed
    have unchanged : (((channel.runEngine script.blocked).takeCompletion
        waited).bdtable index) =
        (channel.runEngine script.blocked).bdtable index :=
      Function.update_of_ne different _ _
    rw [unchanged] at current ⊢
    exact blocked entry last current completed
  · exact blocked.runEngine blockedKept script.woken

theorem awaited_unmarked (answered : Answered submitted channel index)
    (kept : Kept submitted channel) (script : WaitScript)
    (unmarked :
      ((channel.runEngine script.blocked).bdtable index).done = 0) :
    Answered submitted (script.awaited channel index) index := by
  have blocked := answered.runEngine kept script.blocked
  have noneTaken :
      ¬0 < ((channel.runEngine script.blocked).bdtable index).done := by
    omega
  simp only [WaitScript.awaited, if_neg noneTaken]
  exact blocked.runEngine (kept.runEngine script.blocked) script.woken

end Answered

namespace Signalled

variable {submitted : List Submission} {channel after : DmaProxyChannel}

theorem engineStep (signalled : Signalled submitted channel)
    (event : EngineEvent) :
    Signalled submitted (channel.engineStep event) := by
  refine ⟨signalled.toKept.engineStep event, ?_⟩
  intro index status
  rw [(channel.engineStep_sameDriver event).status] at status
  exact (signalled.answered index status).engineStep signalled.accounted event

/-- A wait that takes a completion and still reports no success has found the
transfer unfinished or failed. -/
theorem finished {index : Nat} {script : WaitScript}
    (signalled : Signalled submitted channel) (bound : index < bufferCount)
    (waited : (channel.bufferTable index).status ≠ .noError)
    (finish : Finished channel index script after) :
    Signalled submitted after := by
  have kept := signalled.toKept.finished bound waited finish
  have progress := signalled.toKept.awaited script index
  refine ⟨kept, ?_⟩
  intro other status
  have carried : Answered submitted (script.awaited channel index) other →
      Answered submitted after other := by
    intro answered
    unfold Answered
    rw [finish.bdtable, finish.engine]
    exact answered
  by_cases equal : other = index
  · subst other
    by_cases unmarked :
        ((channel.runEngine script.blocked).bdtable index).done = 0
    · exact carried ((signalled.answered index waited).awaited_unmarked
        signalled.toKept script unmarked)
    · intro entry last current completed
      rw [finish.bdtable] at current
      rw [finish.engine] at completed
      have awake : ¬script.Expires channel index := fun expires =>
        unmarked expires.1
      rw [finish.statusSelf] at status
      simp only [WaitScript.verdict, if_neg awake, current] at status
      refine (status ?_).elim
      rw [if_pos (progress.reported_of_completed completed)]
  · apply carried
    rw [finish.statusOther other equal] at status
    exact (signalled.answered other status).awaited_other signalled.toKept
      script equal

theorem started {index : Nat} {size : UInt32}
    (signalled : Signalled submitted channel) (entry : Submission)
    (start : Started channel index size after)
    (cookie : entry.cookie = channel.engine.lastCookie + 1)
    (bdindex : entry.bdindex = index) (length : entry.length = size.toNat) :
    Signalled (submitted ++ [entry]) after := by
  refine ⟨signalled.toKept.started entry start cookie bdindex length, ?_⟩
  intro other status item last current completed
  rw [Completed, start.engine] at completed
  rw [lastOf_append] at last
  by_cases same : entry.bdindex = other
  · rw [if_pos same] at last
    obtain rfl := Option.some.inj last
    have recent := (signalled.accounted.finished _ completed).1
    omega
  · have different : other ≠ index := by
      rw [← bdindex]
      exact Ne.symm same
    rw [if_neg same] at last
    rw [start.statusOther other different] at status
    rw [start.bdtable, Function.update_of_ne different] at current ⊢
    exact signalled.answered other status item last current completed

theorem rejected {index : Nat} (signalled : Signalled submitted channel)
    (reject : Rejected channel index after)
    (spoiled : after.bdtable index = channel.bdtable index ∨
      (after.bdtable index).cookie < 0) :
    Signalled submitted after := by
  refine ⟨signalled.toKept.rejected reject spoiled, ?_⟩
  intro other status entry last current completed
  rw [reject.status] at status
  rw [reject.engine] at completed
  by_cases same : other = index
  · subst other
    rcases spoiled with unchanged | negative
    · rw [unchanged] at current ⊢
      exact signalled.answered index status entry last current completed
    · have positive := signalled.positive entry (lastOf_mem last).1
      omega
  · rw [reject.bdtable other same] at current ⊢
    exact signalled.answered other status entry last current completed

theorem finishAll (scripts : Nat → WaitScript) {indices : List Nat}
    (bound : ∀ index ∈ indices, index < bufferCount)
    (signalled : Signalled submitted channel) :
    Signalled submitted (indices.foldl (finishBuffer scripts) channel) := by
  induction indices generalizing channel with
  | nil => exact signalled
  | cons head tail induction =>
      apply induction
      · intro index member
        exact bound index (by simp [member])
      · have inRange := bound head (by simp)
        unfold finishBuffer
        split
        · exact signalled.finished inRange ‹_›
            (ioctl_finishXfer_finished channel inRange .accepted
              (scripts head))
        · exact signalled

end Signalled

/-- The invariant of a session whose submissions may be refused. -/
structure Attended (session : Session) : Prop where
  count : session.device.bufferCount = bufferCount
  ring : session.device.currentBufferId < bufferCount
  signalled : Signalled session.submitted session.channel

/-- The application submits buffers of the mapping. -/
def SubmitsBuffer : SessionEvent → Prop
  | .submit data _ _ =>
      ∃ index, index < bufferCount ∧ data = bufferAddress index
  | _ => True

/-- Sessions with any history of calls, any answer of the engine and any
outcome of the waits. -/
def openSessions : TransitionSystem Session SessionEvent where
  step session event next :=
    SubmitsBuffer event ∧ next = session.step event

namespace Attended

theorem start (channel : DmaProxyChannel) :
    Attended (Session.start channel) := by
  obtain ⟨status, _, _, engine, count, ring⟩ := ioOpenStreamLocal_spec channel
  have none : ∀ index entry,
      lastOf (Session.start channel).submitted index ≠ some entry := by
    simp [lastOf, Session.start]
  refine ⟨count, ?_, ⟨?_, ?_, ?_, ?_, ?_, ?_⟩, ?_⟩
  · change (ioOpenStreamLocal channel).currentBufferId < bufferCount
    rw [ring]
    decide
  · change Accounted [] (ioOpenStreamLocal channel).channel.engine
    rw [engine]
    exact ⟨.nil, by simp, by simp, by simp, .nil, by simp⟩
  · change Separated (ioOpenStreamLocal channel).channel.engine
    rw [engine]
    exact ⟨by simp, by simp, by simp⟩
  · simp [Session.start]
  · intro index bound _
    exact status index bound
  · intro index entry last
    exact (none index entry last).elim
  · intro index entry last
    exact (none index entry last).elim
  · intro index _ entry last
    exact (none index entry last).elim

theorem getBuffer {session : Session} (attended : Attended session)
    (script : WaitScript) :
    Attended (session.step (.getBuffer script)) := by
  have advanced : (session.device.currentBufferId + 1) %
      session.device.bufferCount < bufferCount := by
    rw [attended.count]
    exact Nat.mod_lt _ (by decide)
  rcases ioStreamZcBufferLocal_cases session.device attended.ring script with
    ⟨_, result⟩ | ⟨waited, after, finish, ⟨_, result⟩ | ⟨_, result⟩⟩
  · simp only [Session.step, ioStreamGetBuffer, result]
    exact ⟨attended.count, advanced, attended.signalled⟩
  · simp only [Session.step, ioStreamGetBuffer, result]
    exact ⟨attended.count, attended.ring,
      attended.signalled.finished attended.ring waited finish⟩
  · simp only [Session.step, ioStreamGetBuffer, result]
    exact ⟨attended.count, advanced,
      attended.signalled.finished attended.ring waited finish⟩

theorem store {session : Session} (attended : Attended session)
    (data offset : Nat) (bytes : List UInt8) :
    Attended (session.step (.store data offset bytes)) := by
  have same := SameDriver.setBuffer session.channel
    (data / sizeofChannelBuffer)
    ((session.channel.bufferTable (data / sizeofChannelBuffer)).buffer.store
      offset bytes)
  have signalled := attended.signalled
  refine ⟨attended.count, attended.ring, ⟨signalled.accounted,
    signalled.separated, signalled.positive, ?_, signalled.cookie, ?_⟩, ?_⟩
  · intro index bound none
    exact (same.status index).trans (signalled.unused index bound none)
  · intro index entry last current status
    exact signalled.trusted index entry last current
      ((same.status index).symm.trans status)
  · intro index status
    apply signalled.answered index
    intro free
    exact status ((same.status index).trans free)

theorem submit {session : Session} (attended : Attended session)
    {index : Nat} (bound : index < bufferCount) (size : UInt32)
    (response : SubmitResponse) :
    Attended (session.step
      (.submit (bufferAddress index) size response)) := by
  by_cases accepted : response = .accepted
  · subst response
    have started := ioWriteStreamLocal_started session.device bound size
    simp only [Session.step, if_true, bufferAddress_div]
    exact ⟨attended.count, attended.ring, attended.signalled.started
      (session.submission index size) started rfl rfl rfl⟩
  · have rejected :=
      ioWriteStreamLocal_rejected session.device bound size accepted
    have spoiled :=
      ioWriteStreamLocal_spoiled session.device bound size accepted
    simp only [Session.step, if_neg accepted]
    exact ⟨attended.count, attended.ring,
      attended.signalled.rejected rejected spoiled⟩

/-- Every call and every step of the engine keeps the invariant. -/
theorem step {session : Session} (attended : Attended session)
    {event : SessionEvent} (inMapping : SubmitsBuffer event) :
    Attended (session.step event) := by
  cases event with
  | getBuffer script => exact attended.getBuffer script
  | store data offset bytes => exact attended.store data offset bytes
  | submit data size response =>
      obtain ⟨index, bound, rfl⟩ := inMapping
      exact attended.submit bound size response
  | sync scripts =>
      refine ⟨attended.count, attended.ring, ?_⟩
      apply Signalled.finishAll scripts _ attended.signalled
      intro index member
      rw [attended.count] at member
      exact List.mem_range.mp member
  | engine event =>
      exact ⟨attended.count, attended.ring,
        attended.signalled.engineStep event⟩

end Attended

theorem openSessions_attended {channel : DmaProxyChannel} {session : Session}
    (reached : openSessions.Reachable (Session.start channel) session) :
    Attended session := by
  apply reached.invariant Attended (Attended.start channel)
  rintro state event next attended ⟨inMapping, rfl⟩
  exact attended.step inMapping

theorem openSessions_step {start session : Session}
    (reached : openSessions.Reachable start session) (event : SessionEvent)
    (inMapping : SubmitsBuffer event) :
    openSessions.Reachable start (session.step event) :=
  have next : openSessions.step session event (session.step event) :=
    ⟨inMapping, rfl⟩
  reached.step next

end StreamIO.Local
