import StreamIO.Local.Signalled

/-!
# When the ring of buffers stops

A wait that finds a failed transfer consumes the completion and marks the
buffer `PROXY_ERROR`.  The next call that reaches the buffer waits again
because of that mark, and with an idle engine there is nothing left to wait
for.  The same happens to a marked buffer after a submission that the engine
answers with an error cookie, since `start_transfer` has reinitialised the
completion by then.
-/

namespace StreamIO.Local

open StreamIO.Driver StreamIO.Library

/-- No completion is left on the buffer, and either its last transfer failed
or its last submission got an error cookie while its status word was set. -/
def Spent (session : Session) (index : Nat) : Prop :=
  (session.channel.bdtable index).done = 0 ∧
    ((∃ entry, session.lastSubmission index = some entry ∧
        (session.channel.bdtable index).cookie = entry.cookie ∧
        entry.cookie ∈ session.dma.failed.map Transfer.cookie) ∨
      (session.channel.bdtable index).cookie < 0 ∧
        session.device.status index ≠ .noError)

/-- `io_stream_get_buffer` returns the current buffer and the ring moves on. -/
def Serves (session : Session) (script : WaitScript) : Prop :=
  (ioStreamGetBuffer session.device script).2 =
      some (bufferAddress session.device.currentBufferId) ∧
    (ioStreamGetBuffer session.device script).1.currentBufferId =
      (session.device.currentBufferId + 1) % bufferCount

/-- With an idle engine a wait runs out exactly when the buffer is marked and
nobody left a completion or sends a signal. -/
theorem serves_iff_of_idle {session : Session} (attended : Attended session)
    (idle : session.dma.pending = []) (script : WaitScript) :
    Serves session script ↔
      ¬(session.device.status session.device.currentBufferId ≠ .noError ∧
          (session.channel.bdtable session.device.currentBufferId).done =
            0) ∨
        script.interrupted = true := by
  have still : session.device.channel.runEngine script.blocked =
      session.device.channel :=
    DmaProxyChannel.runEngine_idle idle script.blocked
  have expires : script.Expires session.device.channel
      session.device.currentBufferId ↔
      (session.channel.bdtable session.device.currentBufferId).done = 0 ∧
        script.interrupted = false := by
    rw [WaitScript.Expires, still]
  rcases ioStreamZcBufferLocal_cases session.device attended.ring script with
    ⟨free, result⟩ | ⟨waited, after, _, ⟨expired, result⟩ | ⟨awake, result⟩⟩
  · simp only [Serves, ioStreamGetBuffer, result, attended.count, free]
    simp
  · obtain ⟨unmarked, quiet⟩ := expires.mp expired
    simp only [Serves, ioStreamGetBuffer, result, unmarked, quiet]
    simp [waited]
  · simp only [Serves, ioStreamGetBuffer, result, attended.count]
    rw [expires, not_and_or, Bool.not_eq_false] at awake
    simp only [waited, and_self, true_iff, ne_eq, not_false_eq_true,
      true_and]
    exact awake

/-- In an idle engine the marked buffers without a completion are the spent
ones. -/
theorem spent_iff_of_idle {session : Session} (attended : Attended session)
    (idle : session.dma.pending = []) {index : Nat}
    (bound : index < bufferCount) :
    Spent session index ↔
      session.device.status index ≠ .noError ∧
        (session.channel.bdtable index).done = 0 := by
  have signalled := attended.signalled
  constructor
  · rintro ⟨unmarked, ⟨entry, last, current, failed⟩ | ⟨_, marked⟩⟩
    · refine ⟨?_, unmarked⟩
      intro free
      exact signalled.separated.apart entry.cookie
        (signalled.trusted index entry last current free) failed
    · exact ⟨marked, unmarked⟩
  · rintro ⟨marked, unmarked⟩
    refine ⟨unmarked, ?_⟩
    cases last : session.lastSubmission index with
    | none => exact (marked (signalled.unused index bound last)).elim
    | some entry =>
        rcases signalled.cookie index entry last with current | negative
        · left
          refine ⟨entry, rfl, current, ?_⟩
          have place := signalled.accounted.tracked entry (lastOf_mem last).1
          rw [idle] at place
          rcases place with pending | completed | failed
          · simp at pending
          · have left := signalled.answered index marked entry last current
              completed
            omega
          · exact failed
        · exact Or.inr ⟨negative, marked⟩

/-- The ring serves the next call unless its current buffer is spent and no
signal ends the wait. -/
theorem serves_iff_not_spent {channel : DmaProxyChannel} {session : Session}
    (reached : openSessions.Reachable (Session.start channel) session)
    (idle : session.dma.pending = []) (script : WaitScript) :
    Serves session script ↔
      ¬Spent session session.device.currentBufferId ∨
        script.interrupted = true := by
  have attended := openSessions_attended reached
  rw [serves_iff_of_idle attended idle script,
    spent_iff_of_idle attended idle attended.ring]

/-- One transfer on buffer zero that ends as `outcome` says, a
synchronisation, and a turn of the ring. -/
def turnedAfter (outcome : EngineEvent) : Session :=
  Nat.iterate (fun session => session.step (.getBuffer {})) 31
    (((((Session.start (.probed .memToDev)).step (.getBuffer {})).step
      (.submit 0 4 .accepted)).step (.engine outcome)).step
      (.sync fun _ => {}))

theorem turnedAfter_reachable (outcome : EngineEvent) :
    openSessions.Reachable (Session.start (.probed .memToDev))
      (turnedAfter outcome) := by
  have taken : openSessions.Reachable (Session.start (.probed .memToDev))
      ((Session.start (.probed .memToDev)).step (.getBuffer {})) :=
    openSessions_step (.refl openSessions _) (.getBuffer {}) trivial
  have submitted := openSessions_step taken (.submit 0 4 .accepted)
    ⟨0, by decide, rfl⟩
  have ended := openSessions_step submitted (.engine outcome) trivial
  have synchronised := openSessions_step ended (.sync fun _ => {}) trivial
  apply Function.Iterate.rec (openSessions.Reachable
    (Session.start (.probed .memToDev)))
  · exact synchronised
  · intro session reached
    exact openSessions_step reached (.getBuffer {}) trivial

/-- After a synchronisation that collected a failed transfer the ring comes
back to its buffer and stops there. -/
theorem collected_failure_stops_ring :
    ¬∀ channel session script,
      openSessions.Reachable (Session.start channel) session →
        session.dma.pending = [] → Serves session script := by
  intro always
  have served := always (.probed .memToDev) (turnedAfter (.fail true)) {}
    (turnedAfter_reachable (.fail true)) (by decide +kernel)
  have withheld : (ioStreamGetBuffer (turnedAfter (.fail true)).device
      {}).2 = none := by
    decide +kernel
  have returned := served.1
  rw [withheld] at returned
  cases returned

/-- The same history with a transfer that completes. -/
theorem collected_success_serves_ring :
    (turnedAfter .complete).dma.pending = [] ∧
      Serves (turnedAfter .complete) {} := by
  have idle : (turnedAfter .complete).dma.pending = [] := by
    decide +kernel
  refine ⟨idle, (serves_iff_not_spent (turnedAfter_reachable .complete) idle
    {}).mpr (Or.inl ?_)⟩
  rintro ⟨_, ⟨_, _, _, failed⟩ | ⟨negative, _⟩⟩
  · have none : (turnedAfter .complete).dma.failed = [] := by
      decide +kernel
    rw [none] at failed
    simp at failed
  · have positive : ¬((turnedAfter .complete).channel.bdtable
        (turnedAfter .complete).device.currentBufferId).cookie < 0 := by
      decide +kernel
    exact positive negative

end StreamIO.Local
