import StreamIO.Library.ScriptedRun
import StreamIO.Local.Signalled

/-!
# Submissions that fail without a trace

`START_XFER` returns zero and leaves the status word alone when the engine
refuses a transfer.  We follow a buffer from one call of
`io_write_stream_device` to its reuse and ask whether the application can
tell what became of the call.  It cannot when the status word was clear before
the call, or when a wait for an older transfer clears it afterwards.
-/

namespace StreamIO.Local

open StreamIO.Driver StreamIO.Library

/-- A call of `io_write_stream_device` on a buffer. -/
structure Attempt where
  before : Session
  index : Nat
  size : UInt32
  response : SubmitResponse

/-- The wait does not run out, and by its end the engine neither has the
cookie in flight nor counts it as failed. -/
def WaitSettles (script : WaitScript) (channel : DmaProxyChannel)
    (index : Nat) (cookie : Int) : Prop :=
  ¬script.Expires channel index ∧
    (channel.runEngine (script.blocked ++
      script.woken)).engine.dmaAsyncIsTxComplete cookie = .complete

instance (script : WaitScript) (channel : DmaProxyChannel) (index : Nat)
    (cookie : Int) : Decidable (WaitSettles script channel index cookie) :=
  inferInstanceAs (Decidable (_ ∧ _))

/-- No wait for the buffer settles in this event.  A synchronisation reaches
the buffer after its waits for the buffers before it. -/
def Unsettled (index : Nat) (cookie : Int) (session : Session) :
    SessionEvent → Prop
  | .getBuffer script =>
      index = session.device.currentBufferId →
        ¬WaitSettles script session.channel index cookie
  | .sync scripts =>
      ¬WaitSettles (scripts index) ((List.range index).foldl
        (finishBuffer scripts) session.channel) index cookie
  | _ => True

instance (index : Nat) (cookie : Int) (session : Session)
    (event : SessionEvent) :
    Decidable (Unsettled index cookie session event) :=
  match event with
  | .getBuffer _ => inferInstanceAs (Decidable (_ → ¬_))
  | .store _ _ _ => isTrue True.intro
  | .submit _ _ _ => isTrue True.intro
  | .sync _ => inferInstanceAs (Decidable (¬_))
  | .engine _ => isTrue True.intro

/-- The event submits no buffer, or another one of the mapping. -/
def Spares (index : Nat) : SessionEvent → Prop
  | .submit data _ _ =>
      ∃ other, other < bufferCount ∧ other ≠ index ∧
        data = bufferAddress other
  | _ => True

/-- The event uses the buffer: the ring reaches it, or the application stores
into it or submits it. -/
def Reuses (index : Nat) (session : Session) : SessionEvent → Prop
  | .getBuffer _ => index = session.device.currentBufferId
  | .store data _ _ => index = data / sizeofChannelBuffer
  | .submit data _ _ => index = data / sizeofChannelBuffer
  | _ => False

namespace Attempt

/-- The session when `io_write_stream_device` returns. -/
def after (attempt : Attempt) : Session :=
  attempt.before.step
    (.submit (bufferAddress attempt.index) attempt.size attempt.response)

/-- The result of `START_XFER`. -/
def returned (attempt : Attempt) : Int :=
  ioctlReturn (some attempt.before.channel)

/-- The cookie kept for the buffer when the engine refuses the transfer: that
of an older transfer, or an error code. -/
def keptCookie (attempt : Attempt) : Int :=
  match attempt.response with
  | .submitError errno => -(errno + 1)
  | _ => (attempt.before.channel.bdtable attempt.index).cookie

/-- The bytes of the call have been transferred. -/
def Transferred (attempt : Attempt) (engine : DmaEngine) : Prop :=
  attempt.response = .accepted ∧
    Completed engine (attempt.before.dma.lastCookie + 1)

/-- When the event uses the buffer again, its bytes have been transferred or
the application has seen a failed ioctl, a status word other than
`PROXY_NO_ERROR`, or no buffer at all. -/
def Reported (attempt : Attempt) (session : Session) : SessionEvent → Prop
  | .getBuffer script =>
      let result := ioStreamGetBuffer session.device script
      attempt.Transferred result.1.channel.engine ∨
        attempt.returned ≠ 0 ∨
        result.1.status attempt.index ≠ .noError ∨ result.2 = none
  | _ =>
      attempt.Transferred session.dma ∨ attempt.returned ≠ 0 ∨
        session.device.status attempt.index ≠ .noError

/-- The engine accepted the transfer; or the status word was set before the
call and no wait since has settled. -/
def Noticeable (attempt : Attempt) (events : List SessionEvent) : Prop :=
  attempt.response = .accepted ∨
    attempt.before.device.status attempt.index ≠ .noError ∧
      EveryStep Session.step (Unsettled attempt.index attempt.keptCookie)
        attempt.after events

end Attempt

theorem finishAll_cookie (scripts : Nat → WaitScript) {indices : List Nat}
    (bound : ∀ index ∈ indices, index < bufferCount)
    (channel : DmaProxyChannel) (index : Nat) :
    ((indices.foldl (finishBuffer scripts) channel).bdtable index).cookie =
      (channel.bdtable index).cookie := by
  induction indices generalizing channel with
  | nil => rfl
  | cons head tail induction =>
      rw [List.foldl_cons, induction]
      · unfold finishBuffer
        split
        · rw [(ioctl_finishXfer_finished channel (bound head (by simp))
            .accepted (scripts head)).bdtable]
          exact ((scripts head).awaited_sameDriver channel head).cookie index
        · rfl
      · intro other member
        exact bound other (by simp [member])

theorem getBuffer_cookie {session : Session} (attended : Attended session)
    (script : WaitScript) (index : Nat) :
    ((session.step (.getBuffer script)).channel.bdtable index).cookie =
      (session.channel.bdtable index).cookie := by
  have same := script.awaited_sameDriver session.device.channel
    session.device.currentBufferId
  rcases ioStreamZcBufferLocal_cases session.device attended.ring script with
    ⟨_, result⟩ | ⟨_, after, finish, ⟨_, result⟩ | ⟨_, result⟩⟩
  · simp only [Session.channel, Session.step, ioStreamGetBuffer, result]
  · simp only [Session.channel, Session.step, ioStreamGetBuffer, result]
    rw [finish.bdtable, same.cookie]
  · simp only [Session.channel, Session.step, ioStreamGetBuffer, result]
    rw [finish.bdtable, same.cookie]

theorem Spares.submitsBuffer {index : Nat} {event : SessionEvent}
    (spares : Spares index event) : SubmitsBuffer event := by
  cases event with
  | submit data size response =>
      obtain ⟨other, bound, _, address⟩ := spares
      exact ⟨other, bound, address⟩
  | getBuffer script => trivial
  | store data offset bytes => trivial
  | sync scripts => trivial
  | engine event => trivial

theorem step_cookie {session : Session} (attended : Attended session)
    {index : Nat} {event : SessionEvent} (spares : Spares index event) :
    ((session.step event).channel.bdtable index).cookie =
      (session.channel.bdtable index).cookie := by
  cases event with
  | getBuffer script => exact getBuffer_cookie attended script index
  | store data offset bytes => rfl
  | submit data size response =>
      obtain ⟨other, bound, different, rfl⟩ := spares
      by_cases accepted : response = .accepted
      · subst response
        have started :=
          ioWriteStreamLocal_started session.device bound size
        have descriptors : (session.step (.submit (bufferAddress other) size
            .accepted)).channel.bdtable = _ := started.bdtable
        rw [descriptors, Function.update_of_ne (Ne.symm different)]
      · have rejected :=
          ioWriteStreamLocal_rejected session.device bound size accepted
        exact congrArg ProxyBd.cookie
          (rejected.bdtable index (Ne.symm different))
  | sync scripts =>
      apply finishAll_cookie scripts
      intro other member
      rw [attended.count] at member
      exact List.mem_range.mp member
  | engine event =>
      exact (session.channel.engineStep_sameDriver event).cookie index

theorem step_lastSubmission {session : Session} {index : Nat}
    {event : SessionEvent} (spares : Spares index event) :
    (session.step event).lastSubmission index =
      session.lastSubmission index := by
  cases event with
  | submit data size response =>
      obtain ⟨other, _, different, rfl⟩ := spares
      simp only [Session.lastSubmission, Session.step, bufferAddress_div]
      split
      · rw [lastOf_append]
        exact if_neg different
      · rfl
  | getBuffer script => rfl
  | store data offset bytes => rfl
  | sync scripts => rfl
  | engine event => rfl

theorem Finished.marked_iff {channel after : DmaProxyChannel} {index : Nat}
    {script : WaitScript} (finish : Finished channel index script after)
    {cookie : Int} (kept : (channel.bdtable index).cookie = cookie) :
    (after.bufferTable index).status ≠ .noError ↔
      ¬WaitSettles script channel index cookie := by
  have same := script.awaited_sameDriver channel index
  rw [finish.statusSelf]
  simp only [WaitScript.verdict, same.cookie, kept,
    script.awaited_engine_eq, WaitSettles]
  by_cases expires : script.Expires channel index
  · simp [expires]
  · by_cases complete : (channel.runEngine (script.blocked ++
        script.woken)).engine.dmaAsyncIsTxComplete cookie = .complete
    · simp [expires, complete]
    · simp [expires, complete]

theorem finishAll_status (scripts : Nat → WaitScript) {indices : List Nat}
    (bound : ∀ index ∈ indices, index < bufferCount) {index : Nat}
    (other : index ∉ indices) (channel : DmaProxyChannel) :
    ((indices.foldl (finishBuffer scripts) channel).bufferTable
      index).status = (channel.bufferTable index).status := by
  induction indices generalizing channel with
  | nil => rfl
  | cons head tail induction =>
      rw [List.mem_cons, not_or] at other
      have later : ∀ index ∈ tail, index < bufferCount := by
        intro index member
        exact bound index (by simp [member])
      rw [List.foldl_cons, induction later other.2]
      unfold finishBuffer
      split
      · exact (ioctl_finishXfer_finished channel (bound head (by simp))
          .accepted (scripts head)).statusOther index other.1
      · rfl

theorem finishBuffer_marked_iff (scripts : Nat → WaitScript)
    {channel : DmaProxyChannel} {index : Nat} (bound : index < bufferCount)
    {cookie : Int} (kept : (channel.bdtable index).cookie = cookie) :
    ((finishBuffer scripts channel index).bufferTable index).status ≠
        .noError ↔
      (channel.bufferTable index).status ≠ .noError ∧
        ¬WaitSettles (scripts index) channel index cookie := by
  unfold finishBuffer
  split
  · rename_i waited
    have finish := ioctl_finishXfer_finished channel bound .accepted
      (scripts index)
    simp only [finish.marked_iff kept, waited, ne_eq, not_false_eq_true,
      true_and]
  · rename_i free
    simp only [free, false_and]

/-- A synchronisation clears the status word of a buffer exactly when its
wait for the buffer settles. -/
theorem finishAll_marked_iff (scripts : Nat → WaitScript)
    (channel : DmaProxyChannel) {index : Nat} (bound : index < bufferCount)
    {cookie : Int} (kept : (channel.bdtable index).cookie = cookie) :
    (((List.range bufferCount).foldl (finishBuffer scripts)
        channel).bufferTable index).status ≠ .noError ↔
      (channel.bufferTable index).status ≠ .noError ∧
        ¬WaitSettles (scripts index) ((List.range index).foldl
          (finishBuffer scripts) channel) index cookie := by
  obtain ⟨rest, count⟩ := Nat.exists_eq_add_of_lt bound
  have split : List.range bufferCount = List.range index ++
      index :: (List.range rest).map (index + 1 + ·) := by
    rw [count, show index + rest + 1 = index + 1 + rest by omega,
      List.range_add, List.range_succ, List.append_assoc,
      List.singleton_append]
  have earlier : ∀ other ∈ List.range index, other < bufferCount := by
    intro other member
    have smaller := List.mem_range.mp member
    omega
  have later : ∀ other ∈ (List.range rest).map (index + 1 + ·),
      other < bufferCount := by
    intro other member
    apply List.mem_range.mp
    rw [split]
    simp [member]
  have notEarlier : index ∉ List.range index := by simp
  have notLater : index ∉ (List.range rest).map (index + 1 + ·) := by
    simp only [List.mem_map, not_exists, not_and]
    omega
  rw [split, List.foldl_append, List.foldl_cons,
    finishAll_status scripts later notLater,
    finishBuffer_marked_iff scripts bound
      ((finishAll_cookie scripts earlier channel index).trans kept),
    finishAll_status scripts earlier notEarlier]

theorem getBuffer_marked_iff {session : Session}
    (attended : Attended session) (script : WaitScript) {index : Nat}
    {cookie : Int}
    (kept : (session.channel.bdtable index).cookie = cookie) :
    (session.step (.getBuffer script)).device.status index ≠ .noError ↔
      session.device.status index ≠ .noError ∧
        Unsettled index cookie session (.getBuffer script) := by
  have same := script.awaited_sameDriver session.device.channel
    session.device.currentBufferId
  have finished : ∀ {after : DmaProxyChannel},
      session.device.status session.device.currentBufferId ≠ .noError →
      Finished session.channel session.device.currentBufferId script after →
      ((after.bufferTable index).status ≠ .noError ↔
        session.device.status index ≠ .noError ∧
          Unsettled index cookie session (.getBuffer script)) := by
    intro after waited finish
    by_cases reached : index = session.device.currentBufferId
    · subst index
      rw [finish.marked_iff kept]
      simp [Unsettled, waited]
    · rw [finish.statusOther index reached]
      simp [Unsettled, reached, StreamDevice.status]
  rcases ioStreamZcBufferLocal_cases session.device attended.ring script with
    ⟨free, result⟩ | ⟨waited, after, finish, ⟨_, result⟩ | ⟨_, result⟩⟩
  · simp only [Session.step, ioStreamGetBuffer, result]
    by_cases reached : index = session.device.currentBufferId
    · subst index
      have clear : session.device.status session.device.currentBufferId =
          .noError := free
      simp only [StreamDevice.status] at clear ⊢
      simp [clear]
    · simp [Unsettled, reached, StreamDevice.status]
  · simp only [Session.step, ioStreamGetBuffer, result]
    exact finished waited finish
  · simp only [Session.step, ioStreamGetBuffer, result]
    exact finished waited finish

theorem getBuffer_withheld {session : Session} (attended : Attended session)
    {script : WaitScript}
    (withheld : (ioStreamGetBuffer session.device script).2 = none) :
    (session.step (.getBuffer script)).device.status
      session.device.currentBufferId ≠ .noError := by
  rcases ioStreamZcBufferLocal_cases session.device attended.ring script with
    ⟨_, result⟩ | ⟨_, after, finish, ⟨expires, result⟩ | ⟨_, result⟩⟩
  · rw [ioStreamGetBuffer, result] at withheld
    cases withheld
  · simp only [Session.step, ioStreamGetBuffer, result]
    intro clear
    have timeout := (script.verdict_eq_timeout_iff session.device.channel
      session.device.currentBufferId).mpr expires
    rw [← finish.statusSelf] at timeout
    exact ProxyStatus.noConfusion (clear.symm.trans timeout)
  · rw [ioStreamGetBuffer, result] at withheld
    cases withheld

theorem step_marked_iff {session : Session} (attended : Attended session)
    {index : Nat} (bound : index < bufferCount) {cookie : Int}
    (kept : (session.channel.bdtable index).cookie = cookie)
    {event : SessionEvent} (spares : Spares index event) :
    (session.step event).device.status index ≠ .noError ↔
      session.device.status index ≠ .noError ∧
        Unsettled index cookie session event := by
  cases event with
  | getBuffer script => exact getBuffer_marked_iff attended script kept
  | store data offset bytes =>
      have same := SameDriver.setBuffer session.channel
        (data / sizeofChannelBuffer)
        ((session.channel.bufferTable
          (data / sizeofChannelBuffer)).buffer.store offset bytes)
      have status : (session.step (.store data offset bytes)).device.status
          index = session.device.status index := same.status index
      rw [status]
      simp [Unsettled]
  | submit data size response =>
      obtain ⟨other, otherBound, different, rfl⟩ := spares
      have status : (session.step (.submit (bufferAddress other) size
          response)).device.status index = session.device.status index := by
        by_cases accepted : response = .accepted
        · subst response
          exact (ioWriteStreamLocal_started session.device otherBound
            size).statusOther index (Ne.symm different)
        · exact (ioWriteStreamLocal_rejected session.device otherBound size
            accepted).status index
      rw [status]
      simp [Unsettled]
  | sync scripts =>
      have swept : (session.step (.sync scripts)).device.status index =
          (((List.range bufferCount).foldl (finishBuffer scripts)
            session.channel).bufferTable index).status := by
        rw [← attended.count]
        rfl
      rw [swept]
      exact finishAll_marked_iff scripts session.channel bound kept
  | engine event =>
      have status : (session.step (.engine event)).device.status index =
          session.device.status index :=
        (session.channel.engineStep_sameDriver event).status index
      rw [status]
      simp [Unsettled]

/-- What events that spare a buffer keep. -/
structure Undisturbed (index : Nat) (before after : Session) : Prop where
  attended : Attended after
  cookie : (after.channel.bdtable index).cookie =
    (before.channel.bdtable index).cookie
  lastSubmission : after.lastSubmission index = before.lastSubmission index

theorem run_undisturbed {session : Session} (attended : Attended session)
    {index : Nat} {events : List SessionEvent}
    (spares : ∀ event ∈ events, Spares index event) :
    Undisturbed index session (runInputs Session.step session events) := by
  induction events generalizing session with
  | nil => exact ⟨attended, rfl, rfl⟩
  | cons event events induction =>
      have now : Spares index event := spares event (by simp)
      have later := induction (attended.step now.submitsBuffer)
        (fun other member => spares other (by simp [member]))
      exact ⟨later.attended,
        later.cookie.trans (step_cookie attended now),
        later.lastSubmission.trans (step_lastSubmission now)⟩

/-- The status word is set at the end of a run exactly when it was set at its
start and no wait in between has settled. -/
theorem run_marked_iff {session : Session} (attended : Attended session)
    {index : Nat} (bound : index < bufferCount) {cookie : Int}
    (kept : (session.channel.bdtable index).cookie = cookie)
    {events : List SessionEvent}
    (spares : ∀ event ∈ events, Spares index event) :
    (runInputs Session.step session events).device.status index ≠
        .noError ↔
      session.device.status index ≠ .noError ∧
        EveryStep Session.step (Unsettled index cookie) session events := by
  induction events generalizing session with
  | nil => simp [EveryStep]
  | cons event events induction =>
      have now : Spares index event := spares event (by simp)
      rw [runInputs_cons, induction (attended.step now.submitsBuffer)
        ((step_cookie attended now).trans kept)
        (fun other member => spares other (by simp [member])),
        step_marked_iff attended bound kept now, EveryStep, and_assoc]

namespace Attempt

variable {attempt : Attempt}

theorem returned_eq (attempt : Attempt) : attempt.returned = 0 := rfl

theorem after_attended (attended : Attended attempt.before)
    (bound : attempt.index < bufferCount) : Attended attempt.after :=
  attended.submit bound attempt.size attempt.response

theorem after_refused (bound : attempt.index < bufferCount)
    (refused : attempt.response ≠ .accepted) :
    (attempt.after.channel.bdtable attempt.index).cookie =
        attempt.keptCookie ∧
      attempt.after.device.status attempt.index =
        attempt.before.device.status attempt.index := by
  have rejected := ioWriteStreamLocal_rejected attempt.before.device bound
    attempt.size refused
  refine ⟨?_, rejected.status attempt.index⟩
  have reduced : attempt.index % 2 ^ 32 = attempt.index := by
    simp only [bufferCount] at bound
    omega
  simp only [after, Session.channel, Session.step, ioWriteStreamDevice,
    ioWriteStreamLocal, bufferAddress_div, ioctl, reduced, startTransfer,
    keptCookie]
  cases response : attempt.response with
  | accepted => exact (refused response).elim
  | prepError => rfl
  | submitError errno =>
      simp only [DmaProxyChannel.setBdindex, Function.update_self]

theorem after_accepted (bound : attempt.index < bufferCount)
    (accepted : attempt.response = .accepted) :
    (attempt.after.channel.bdtable attempt.index).cookie =
        attempt.before.dma.lastCookie + 1 ∧
      attempt.after.lastSubmission attempt.index =
        some (attempt.before.submission attempt.index attempt.size) := by
  have started := ioWriteStreamLocal_started attempt.before.device bound
    attempt.size
  simp only [after, accepted]
  have descriptors : (attempt.before.step (.submit
      (bufferAddress attempt.index) attempt.size
      .accepted)).channel.bdtable = _ := started.bdtable
  refine ⟨by rw [descriptors, Function.update_self], ?_⟩
  simp only [Session.lastSubmission, Session.step, if_true,
    bufferAddress_div]
  rw [lastOf_append]
  exact if_pos rfl

theorem transferred_of_clear {session : Session}
    (bound : attempt.index < bufferCount)
    (accepted : attempt.response = .accepted)
    (since : Undisturbed attempt.index attempt.after session)
    (clear : session.device.status attempt.index = .noError) :
    attempt.Transferred session.dma := by
  obtain ⟨cookie, last⟩ := after_accepted bound accepted
  exact ⟨accepted, since.attended.signalled.trusted attempt.index
    (attempt.before.submission attempt.index attempt.size)
    (since.lastSubmission.trans last) (since.cookie.trans cookie) clear⟩

theorem reported_of_accepted {session : Session}
    (bound : attempt.index < bufferCount)
    (accepted : attempt.response = .accepted)
    (since : Undisturbed attempt.index attempt.after session)
    (event : SessionEvent) : attempt.Reported session event := by
  have now : attempt.Transferred session.dma ∨ attempt.returned ≠ 0 ∨
      session.device.status attempt.index ≠ .noError := by
    by_cases clear : session.device.status attempt.index = .noError
    · exact Or.inl (transferred_of_clear bound accepted since clear)
    · exact Or.inr (Or.inr clear)
  cases event with
  | getBuffer script =>
      have later : Undisturbed attempt.index attempt.after
          (session.step (.getBuffer script)) :=
        ⟨since.attended.step trivial,
          (getBuffer_cookie since.attended script _).trans since.cookie,
          since.lastSubmission⟩
      by_cases clear : (session.step (.getBuffer script)).device.status
          attempt.index = .noError
      · exact Or.inl (transferred_of_clear bound accepted later clear)
      · exact Or.inr (Or.inr (Or.inl clear))
  | store data offset bytes => exact now
  | submit data size response => exact now
  | sync scripts => exact now
  | engine event => exact now

/-- A refused transfer shows in the status word or not at all. -/
theorem reported_iff_marked {session : Session} (attended : Attended session)
    (refused : attempt.response ≠ .accepted) {cookie : Int}
    (kept : (session.channel.bdtable attempt.index).cookie = cookie)
    {event : SessionEvent} (reuse : Reuses attempt.index session event) :
    attempt.Reported session event ↔
      session.device.status attempt.index ≠ .noError ∧
        Unsettled attempt.index cookie session event := by
  have untransferred : ∀ engine, ¬attempt.Transferred engine := by
    rintro engine ⟨accepted, _⟩
    exact refused accepted
  cases event with
  | getBuffer script =>
      rw [← getBuffer_marked_iff attended script kept]
      simp only [Reported, untransferred, returned_eq, ne_eq,
        not_true_eq_false, false_or]
      constructor
      · rintro (marked | withheld)
        · exact marked
        · have reached : attempt.index = session.device.currentBufferId :=
            reuse
          rw [reached]
          exact getBuffer_withheld attended withheld
      · exact Or.inl
  | store data offset bytes =>
      simp [Reported, untransferred, returned_eq, Unsettled]
  | submit data size response =>
      simp [Reported, untransferred, returned_eq, Unsettled]
  | sync scripts => exact reuse.elim
  | engine event => exact reuse.elim

/-- At every reuse of a buffer the application knows what became of the last
call on it, if and only if the engine accepted the transfer, or the status
word was set before the call and no wait since has settled. -/
theorem reported_iff_noticeable {channel : DmaProxyChannel}
    (reached : openSessions.Reachable (Session.start channel)
      attempt.before)
    (bound : attempt.index < bufferCount) {events : List SessionEvent}
    (spares : ∀ event ∈ events, Spares attempt.index event)
    {event : SessionEvent}
    (reuse : Reuses attempt.index
      (runInputs Session.step attempt.after events) event) :
    attempt.Reported (runInputs Session.step attempt.after events) event ↔
      attempt.Noticeable (events ++ [event]) := by
  have attended := after_attended (openSessions_attended reached) bound
  have since := run_undisturbed attended spares
  by_cases accepted : attempt.response = .accepted
  · have seen := reported_of_accepted bound accepted since event
    exact iff_of_true seen (Or.inl accepted)
  · obtain ⟨cookie, status⟩ := after_refused bound accepted
    rw [reported_iff_marked since.attended accepted
        (since.cookie.trans cookie) reuse,
      run_marked_iff attended bound cookie spares, status]
    simp only [Noticeable, accepted, false_or, everyStep_append, EveryStep,
      and_true, and_assoc]

/-- A turn of the ring past the other buffers. -/
def turn : List SessionEvent := List.replicate 31 (.getBuffer {})

theorem turn_spares (index : Nat) :
    ∀ event ∈ turn, Spares index event := by
  intro event member
  rw [List.eq_of_mem_replicate member]
  trivial

/-- The first buffer is submitted and the engine has no descriptor left. -/
def unprepared : Attempt :=
  { before := (Session.start (.probed .memToDev)).step (.getBuffer {})
    index := 0
    size := 4
    response := .prepError }

/-- A buffer whose transfer is still running is submitted again and the
engine refuses. -/
def resubmitted : Attempt :=
  { before := unprepared.before.step (.submit 0 4 .accepted)
    index := 0
    size := 4
    response := .submitError 11 }

theorem unprepared_reachable :
    openSessions.Reachable (Session.start (.probed .memToDev))
      unprepared.before :=
  openSessions_step (.refl openSessions _) (.getBuffer {}) trivial

/-- The status word of the running transfer withholds the buffer. -/
theorem resubmitted_reported :
    resubmitted.Reported (runInputs Session.step resubmitted.after turn)
      (.getBuffer {}) := by
  have reached := openSessions_step unprepared_reachable
    (.submit 0 4 .accepted) ⟨0, by decide, rfl⟩
  have reuse : Reuses resubmitted.index
      (runInputs Session.step resubmitted.after turn) (.getBuffer {}) := by
    change 0 = _
    decide +kernel
  refine (reported_iff_noticeable reached (by decide)
    (turn_spares resubmitted.index) reuse).mpr (Or.inr ?_)
  decide +kernel

/-- A refused buffer comes round again with a clear status word. -/
theorem refused_buffer_returns_silently :
    ¬∀ channel (attempt : Attempt) events event,
      openSessions.Reachable (Session.start channel) attempt.before →
        attempt.index < bufferCount →
        (∀ event ∈ events, Spares attempt.index event) →
        Reuses attempt.index
          (runInputs Session.step attempt.after events) event →
        attempt.Reported (runInputs Session.step attempt.after events)
          event := by
  intro always
  have reuse : Reuses unprepared.index
      (runInputs Session.step unprepared.after turn) (.getBuffer {}) := by
    change 0 = _
    decide +kernel
  have seen := always (.probed .memToDev) unprepared turn (.getBuffer {})
    unprepared_reachable (by decide) (turn_spares unprepared.index) reuse
  rcases seen with ⟨accepted, _⟩ | failed | marked | withheld
  · cases accepted
  · exact failed rfl
  · exact marked (by decide +kernel)
  · have returned : (ioStreamGetBuffer (runInputs Session.step
        unprepared.after turn).device {}).2 = some 0 := by
      decide +kernel
    rw [returned] at withheld
    cases withheld

end Attempt

end StreamIO.Local
