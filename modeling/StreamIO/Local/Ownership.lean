import Mathlib.Logic.Function.Iterate
import StreamIO.Local.StatusTrust

/-!
# Which buffers are handed out

`io_stream_zc_buffer_local` withholds a buffer only after a timeout.  A wait
that ends for another reason before the buffer's last transfer has left the
engine marks the buffer `PROXY_ERROR` and hands it out all the same: a signal
does this, and so does the completion of an older transfer on the same
buffer, which leaves its mark in the completion the newer transfer waits on.
-/

namespace StreamIO.Local

open StreamIO.Driver StreamIO.Library

/-- Taking a buffer with this wait returns one that the engine still uses. -/
def HandsOutOwned (session : Session) (script : WaitScript) : Prop :=
  ∃ data, (ioStreamGetBuffer session.device script).2 = some data ∧
    (session.step (.getBuffer script)).Owned (data / sizeofChannelBuffer)

/-- The buffer has to be waited for, the wait is ended by a completion or by a
signal, and what the engine does meanwhile does not get as far as the buffer's
last transfer. -/
def EndsEarly (session : Session) (script : WaitScript) : Prop :=
  let index := session.device.currentBufferId
  session.device.status index ≠ .noError ∧
    (0 < ((session.channel.runEngine script.blocked).bdtable index).done ∨
      script.interrupted = true) ∧
    ∃ entry, session.lastSubmission index = some entry ∧
      entry.cookie ∈ (session.channel.runEngine
        (script.blocked ++ script.woken)).engine.pending.map Transfer.cookie

/-- Sessions in which the engine may also refuse submissions, but none on a
buffer that it still uses. -/
def quietlyRefusingSessions : TransitionSystem Session SessionEvent where
  step session event next :=
    Permitted Idle session event ∧ next = session.step event

theorem quietlyRefusingSessions_tracked {channel : DmaProxyChannel}
    {session : Session}
    (reached : quietlyRefusingSessions.Reachable (Session.start channel)
      session) :
    Tracked Idle session := by
  apply reached.invariant (Tracked Idle) (Tracked.start channel)
  rintro state event next tracked ⟨permitted, rfl⟩
  exact tracked.step idle_notion permitted

theorem acceptingSessions_quiet {start session : Session}
    (reached : acceptingSessions.Reachable start session) :
    quietlyRefusingSessions.Reachable start session := by
  apply reached.invariant (quietlyRefusingSessions.Reachable start) (.refl _ _)
  rintro state event next earlier ⟨accepting, rfl⟩
  have next : quietlyRefusingSessions.step state event (state.step event) :=
    ⟨accepting.permitted, rfl⟩
  exact earlier.step next

theorem WaitScript.not_expires_iff (script : WaitScript)
    (channel : DmaProxyChannel) (index : Nat) :
    ¬script.Expires channel index ↔
      0 < ((channel.runEngine script.blocked).bdtable index).done ∨
        script.interrupted = true := by
  simp only [WaitScript.Expires, not_and_or, Bool.not_eq_false]
  rw [Nat.pos_iff_ne_zero]

/-- A buffer in flight is handed out exactly by the calls that end early. -/
theorem handsOutOwned_iff_endsEarly {channel : DmaProxyChannel}
    {session : Session}
    (reached : quietlyRefusingSessions.Reachable (Session.start channel)
      session)
    (script : WaitScript) :
    HandsOutOwned session script ↔ EndsEarly session script := by
  have tracked := quietlyRefusingSessions_tracked reached
  have sameLast : ∀ index,
      (session.step (.getBuffer script)).lastSubmission index =
        session.lastSubmission index := fun _ => rfl
  rcases ioStreamZcBufferLocal_cases session.device tracked.ring script with
    ⟨free, result⟩ | ⟨waited, after, finish,
      ⟨expires, result⟩ | ⟨awake, result⟩⟩
  · have sameEngine : (session.step (.getBuffer script)).dma =
        session.dma := by
      simp only [Session.dma, Session.step, ioStreamGetBuffer, result]
    constructor
    · rintro ⟨data, returned, entry, last, pending⟩
      simp only [ioStreamGetBuffer, result, Option.some.injEq] at returned
      subst data
      rw [bufferAddress_div, sameLast] at last
      rw [sameEngine] at pending
      exact (tracked.sound.status _ entry last free pending).elim
    · rintro ⟨waited, _⟩
      exact (waited free).elim
  · constructor
    · rintro ⟨data, returned, _⟩
      simp [ioStreamGetBuffer, result] at returned
    · rintro ⟨_, ended, _⟩
      exact ((WaitScript.not_expires_iff script _ _).mpr ended expires).elim
  · have ended := (WaitScript.not_expires_iff script _ _).mp awake
    have sameEngine : (session.step (.getBuffer script)).dma =
        (session.channel.runEngine
          (script.blocked ++ script.woken)).engine := by
      rw [← script.awaited_engine_eq session.channel
        session.device.currentBufferId]
      simp only [Session.dma, Session.step, ioStreamGetBuffer, result]
      exact finish.engine
    constructor
    · rintro ⟨data, returned, entry, last, pending⟩
      simp only [ioStreamGetBuffer, result, Option.some.injEq] at returned
      subst data
      rw [bufferAddress_div, sameLast] at last
      rw [sameEngine] at pending
      exact ⟨waited, ended, entry, last, pending⟩
    · rintro ⟨_, _, entry, last, pending⟩
      refine ⟨bufferAddress session.device.currentBufferId, ?_, entry, ?_, ?_⟩
      · simp [ioStreamGetBuffer, result]
      · rw [bufferAddress_div, sameLast]
        exact last
      · rw [sameEngine]
        exact pending

/-- One transfer on buffer zero and a turn of the ring without submissions. -/
def turnedRing : Session :=
  Nat.iterate (fun session => session.step (.getBuffer {})) 31
    (((Session.start (.probed .memToDev)).step (.getBuffer {})).step
      (.submit 0 4 .accepted))

theorem turnedRing_reachable :
    acceptingSessions.Reachable (Session.start (.probed .memToDev))
      turnedRing := by
  have taken := acceptingSessions_getBuffer
    (.refl acceptingSessions (Session.start (.probed .memToDev))) {}
  have submitted := acceptingSessions_submit taken 0 4 (by decide)
  apply Function.Iterate.rec (acceptingSessions.Reachable
    (Session.start (.probed .memToDev)))
  · exact submitted
  · intro session reached
    exact acceptingSessions_getBuffer reached {}

/-- A signal during the wait for buffer zero hands it out while its transfer
is running. -/
theorem signal_hands_out_running_buffer :
    ¬∀ channel session script,
      acceptingSessions.Reachable (Session.start channel) session →
        ¬HandsOutOwned session script := by
  intro never
  refine never (.probed .memToDev) turnedRing { interrupted := true }
    turnedRing_reachable ⟨0, by decide +kernel,
      { cookie := 1, bdindex := 0, length := 4, bytes := [0, 0, 0, 0] },
      by decide +kernel, by decide +kernel⟩

/-- With the completion arriving in time the same call returns an idle
buffer. -/
theorem timely_wait_hands_out_idle_buffer :
    ¬HandsOutOwned turnedRing { blocked := [.complete] } := by
  rw [handsOutOwned_iff_endsEarly
    (acceptingSessions_quiet turnedRing_reachable)]
  rintro ⟨_, _, entry, _, pending⟩
  have none : (turnedRing.channel.runEngine
      ([.complete] ++ [])).engine.pending = [] := by
    decide +kernel
  simp only [none, List.map_nil, List.not_mem_nil] at pending

end StreamIO.Local
