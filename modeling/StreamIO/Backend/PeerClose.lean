import StreamIO.Library.ScriptedRun
import StreamIO.Net.ReadClient
import StreamIO.Backend.WriteStream

/-!
# A peer that closes

Once the peer has closed, every `recv` returns zero, while a `send` may still
succeed.  The reading client then returns only if it has all the payload that
was announced.  The writing server keeps the start byte and the size of the
last message, sees an empty message in every round and acknowledges it, so
that only a failing `send` ends its loop.
-/

namespace StreamIO.Backend

open StreamIO.Library StreamIO.Driver StreamIO.Net

/-- The server after the peer has closed, and how often it has sent an
acknowledgement since. -/
structure ClosedServer where
  state : WriteStream
  sent : Nat

namespace ClosedServer

/-- One blocking call: `recv` returns zero, and `sends n` tells whether the
`n`-th `send` succeeds. -/
def next (buffers : Nat → Option ByteMemory) (sends : Nat → Bool)
    (server : ClosedServer) : ClosedServer :=
  match server.state.pc with
  | .acknowledge =>
      { state := server.state.step buffers
          (if sends server.sent then .sent else .failed)
        sent := server.sent + 1 }
  | _ =>
      { server with state := server.state.step buffers (.received []) }

def run (buffers : Nat → Option ByteMemory) (sends : Nat → Bool) :
    ClosedServer → Nat → ClosedServer
  | server, 0 => server
  | server, calls + 1 => run buffers sends (server.next buffers sends) calls

end ClosedServer

namespace WriteStream

/-- Both loops are left after finitely many calls, and no buffer has been
submitted on the way. -/
def LeavesAfterClose (state : WriteStream)
    (buffers : Nat → Option ByteMemory) (sends : Nat → Bool) : Prop :=
  ∃ calls,
    let last := ClosedServer.run buffers sends
      { state := state, sent := 0 } calls
    last.state.pc = .stopped ∧ last.state.submitted = state.submitted

theorem receiveWord_nothing (word : UInt32) :
    receiveWord word (.received []) = word := by
  have same : overwrite (littleEndian32 word) [] = littleEndian32 word := rfl
  rw [receiveWord, SocketResult.bytes, same, ofLittleEndian32_littleEndian32]

theorem receiveStartCmd_nothing (state : WriteStream) :
    state.receiveStartCmd (.received []) =
      { state with
        pc := if state.startCmd = CmdCallType.callWriteStream.code then .size
          else .acknowledge } := rfl

theorem receiveSize_nothing (state : WriteStream) :
    state.receiveSize (.received []) =
      { state with pc := payloadOrAcknowledge state.recvSize } := by
  simp only [receiveSize, receiveWord_nothing]

theorem receivePayload_closed (buffers : Nat → Option ByteMemory)
    (state : WriteStream) :
    state.receivePayload buffers (.received []) =
      { state.request with pc := .acknowledge } :=
  receivePayload_nothing buffers (by decide)

/-- How far it is to the next acknowledgement. -/
def calls : WriteStreamPc → Nat
  | .startCmd => 3
  | .size => 2
  | .payload => 1
  | _ => 0

end WriteStream

namespace ClosedServer

variable {buffers : Nat → Option ByteMemory} {sends : Nat → Bool}

/-- A call that receives nothing only moves the program counter, nearer to
the acknowledgement, with a buffer and without. -/
theorem next_receives (buffers : Nat → Option ByteMemory)
    (sends : Nat → Bool) {server : ClosedServer}
    (receiving : server.state.pc ≠ .acknowledge)
    (notStopped : server.state.pc ≠ .stopped)
    (notFaulted : server.state.pc ≠ .faulted) :
    (server.next buffers sends).sent = server.sent ∧
      (server.next buffers sends).state.submitted =
        server.state.submitted ∧
      (server.next buffers sends).state.pc ≠ .stopped ∧
      (server.next buffers sends).state.pc ≠ .faulted ∧
      WriteStream.calls (server.next buffers sends).state.pc <
        WriteStream.calls server.state.pc := by
  cases pc : server.state.pc with
  | startCmd =>
      simp only [next, pc, WriteStream.step,
        WriteStream.receiveStartCmd_nothing, true_and]
      split
      · decide
      · decide
  | size =>
      simp only [next, pc, WriteStream.step,
        WriteStream.receiveSize_nothing, true_and,
        WriteStream.payloadOrAcknowledge]
      split
      · decide
      · decide
  | payload =>
      simp only [next, pc, WriteStream.step,
        WriteStream.receivePayload_closed]
      exact ⟨trivial, rfl, by decide⟩
  | acknowledge => exact absurd pc receiving
  | stopped => exact absurd pc notStopped
  | faulted => exact absurd pc notFaulted

theorem next_acknowledged (buffers : Nat → Option ByteMemory)
    (server : ClosedServer)
    (pc : server.state.pc = .acknowledge)
    (succeeds : sends server.sent = true) :
    server.next buffers sends =
      { state := { server.state with pc := .startCmd }
        sent := server.sent + 1 } := by
  simp only [next, pc, succeeds, WriteStream.step,
    WriteStream.sendAcknowledge]
  rfl

theorem next_refused (buffers : Nat → Option ByteMemory)
    (server : ClosedServer)
    (pc : server.state.pc = .acknowledge)
    (fails : sends server.sent = false) :
    server.next buffers sends =
      { state := { server.state with pc := .stopped }
        sent := server.sent + 1 } := by
  simp only [next, pc, fails, WriteStream.step,
    WriteStream.sendAcknowledge]
  rfl

theorem stops_at_failure (buffers : Nat → Option ByteMemory)
    (server : ClosedServer)
    (notStopped : server.state.pc ≠ .stopped)
    (notFaulted : server.state.pc ≠ .faulted) {turn : Nat}
    (ahead : server.sent ≤ turn) (fails : sends turn = false) :
    ∃ calls,
      (run buffers sends server calls).state.pc = .stopped ∧
      (run buffers sends server calls).state.submitted =
        server.state.submitted := by
  induction distance : 4 * (turn - server.sent) +
      WriteStream.calls server.state.pc using Nat.strongRecOn
      generalizing server with
  | ind bound induction =>
      by_cases pc : server.state.pc = .acknowledge
      · cases result : sends server.sent with
        | false =>
            refine ⟨1, ?_⟩
            simp only [run, next_refused buffers server pc result, and_self]
        | true =>
            have later : server.sent ≠ turn := by
              intro same
              rw [same, fails] at result
              cases result
            let acknowledged : ClosedServer :=
              { state := { server.state with pc := .startCmd }
                sent := server.sent + 1 }
            have nearer : 4 * (turn - acknowledged.sent) +
                WriteStream.calls acknowledged.state.pc < bound := by
              simp only [pc, WriteStream.calls] at distance
              simp only [acknowledged, WriteStream.calls]
              omega
            have stillAhead : acknowledged.sent ≤ turn := by
              simp only [acknowledged]
              omega
            obtain ⟨calls, stopped, submitted⟩ := induction _ nearer
              acknowledged (by simp [acknowledged])
              (by simp [acknowledged]) stillAhead rfl
            refine ⟨calls + 1, ?_⟩
            rw [run, next_acknowledged buffers server pc result]
            exact ⟨stopped, submitted⟩
      · obtain ⟨sent, same, runs, holds, nearer⟩ :=
          next_receives buffers sends pc notStopped notFaulted
        obtain ⟨calls, stopped, submitted⟩ := induction _ (by
            rw [← distance, sent]
            omega) _ runs holds (by rw [sent]; exact ahead) rfl
        refine ⟨calls + 1, ?_⟩
        rw [run, ← same]
        exact ⟨stopped, submitted⟩

theorem run_invariant {holds : ClosedServer → Prop}
    (kept : ∀ server, holds server → holds (server.next buffers sends))
    {server : ClosedServer} (start : holds server) (calls : Nat) :
    holds (run buffers sends server calls) := by
  induction calls generalizing server with
  | zero => exact start
  | succ calls induction => exact induction (kept server start)

theorem next_ne_stopped (succeed : ∀ turn, sends turn = true)
    (server : ClosedServer) (notStopped : server.state.pc ≠ .stopped) :
    (server.next buffers sends).state.pc ≠ .stopped := by
  cases pc : server.state.pc with
  | startCmd =>
      simp only [next, pc, WriteStream.step,
        WriteStream.receiveStartCmd_nothing]
      split
      · decide
      · decide
  | size =>
      simp only [next, pc, WriteStream.step, WriteStream.receiveSize_nothing,
        WriteStream.payloadOrAcknowledge]
      split
      · decide
      · decide
  | payload =>
      simp [next, pc, WriteStream.step, WriteStream.receivePayload_closed]
  | acknowledge =>
      simp [next_acknowledged buffers server pc (succeed server.sent)]
  | stopped => exact absurd pc notStopped
  | faulted => simp [next, pc, WriteStream.step]

theorem run_faulted (buffers : Nat → Option ByteMemory)
    (sends : Nat → Bool) {server : ClosedServer}
    (faulted : server.state.pc = .faulted) (calls : Nat) :
    (run buffers sends server calls).state.pc = .faulted := by
  have stays : ∀ server : ClosedServer, server.state.pc = .faulted →
      (server.next buffers sends).state.pc = .faulted := by
    intro server pc
    simp only [next, pc, WriteStream.step]
  exact run_invariant stays faulted calls

end ClosedServer

namespace WriteStream

variable {state : WriteStream} {buffers : Nat → Option ByteMemory}
  {sends : Nat → Bool}

theorem LeavesAfterClose.notFaulted
    (leaves : state.LeavesAfterClose buffers sends) :
    state.pc ≠ .faulted := by
  obtain ⟨calls, stopped, _⟩ := leaves
  intro faulted
  rw [ClosedServer.run_faulted buffers sends faulted calls] at stopped
  cases stopped

theorem LeavesAfterClose.some_fails
    (leaves : state.LeavesAfterClose buffers sends)
    (already : state.pc ≠ .stopped) : ∃ turn, sends turn = false := by
  obtain ⟨calls, stopped, _⟩ := leaves
  by_contra succeed
  simp only [not_exists, Bool.not_eq_false] at succeed
  exact ClosedServer.run_invariant
    (ClosedServer.next_ne_stopped succeed) already calls stopped

/-- Exactly when the server's loops end: an acknowledgement fails. -/
theorem leavesAfterClose_iff (state : WriteStream)
    (buffers : Nat → Option ByteMemory) (sends : Nat → Bool) :
    state.LeavesAfterClose buffers sends ↔
      state.pc = .stopped ∨
        state.pc ≠ .faulted ∧ ∃ turn, sends turn = false := by
  by_cases already : state.pc = .stopped
  · exact iff_of_true ⟨0, already, rfl⟩ (Or.inl already)
  · constructor
    · intro leaves
      exact Or.inr ⟨leaves.notFaulted, leaves.some_fails already⟩
    · rintro (stopped | ⟨notFaulted, turn, fails⟩)
      · exact absurd stopped already
      · exact ClosedServer.stops_at_failure buffers
          { state := state, sent := 0 } already notFaulted
          (Nat.zero_le turn) fails

end WriteStream

/-- When the peer closes after any bytes and at any point of the service, the
reading client returns and the writing server leaves its loops exactly if the
client has been sent all the payload that was announced to it, and the server
has stopped already, or has not used a missing buffer and fails to send an
acknowledgement. -/
theorem stream_loops_end_iff (memory : ByteMemory) (inbound : List UInt8)
    (cuts : Nat → Nat) (buffers : Nat → Option ByteMemory)
    (startCmd : UInt8) (results : List SocketResult) (sends : Nat → Bool) :
    let server := runInputs (WriteStream.step buffers)
      (WriteStream.enter buffers startCmd) results
    ((∃ calls, ((Receiving.enter memory inbound).run cuts
        calls).call.pc = .returned) ∧
      server.LeavesAfterClose buffers sends) ↔
    (Net.announced inbound cuts ≤ (behindLength inbound cuts).length ∧
      (server.pc = .stopped ∨
        server.pc ≠ .faulted ∧ ∃ turn, sends turn = false)) := by
  intro server
  rw [Receiving.returns_iff, WriteStream.leavesAfterClose_iff]

/-- A payload that is cut short, and a server whose acknowledgements are all
accepted. -/
theorem stream_loops_go_on :
    (¬∃ calls, ((Receiving.enter (fun _ => 0) [14, 5, 0, 0, 0, 1]).run
        (fun _ => 9) calls).call.pc = .returned) ∧
      ¬(WriteStream.enter (fun _ => some fun _ => 0) 0).LeavesAfterClose
        (fun _ => some fun _ => 0) (fun _ => true) := by
  constructor
  · rw [Receiving.returns_iff]
    decide
  · rintro ⟨calls, stopped, _⟩
    exact ClosedServer.run_invariant
      (ClosedServer.next_ne_stopped fun _ => rfl) (by decide) calls stopped

end StreamIO.Backend
