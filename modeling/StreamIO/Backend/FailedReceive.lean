import StreamIO.Net.ResumedRead
import StreamIO.Backend.Repacketise

/-!
# A receive that fails

The payload loops keep the result of `recv` in an unsigned variable, in which
a failure is the largest count.  It does not leave the loop: the remaining
size grows by one, the position falls by one, and at the start of a buffer
the position wraps and the buffer is submitted.
-/

namespace StreamIO.Backend

open StreamIO.Library StreamIO.Driver StreamIO.Net

/-- The payload loop was left with the counters as they were, and nothing was
submitted. -/
def WriteStream.LeftUntouched (before after : WriteStream) : Prop :=
  after.pc = .acknowledge ∧ after.bufferPtr = before.bufferPtr ∧
    after.recvSize = before.recvSize ∧ after.accuSize = before.accuSize ∧
    after.submitted = before.submitted

instance (before after : WriteStream) :
    Decidable (before.LeftUntouched after) :=
  inferInstanceAs (Decidable (_ ∧ _ ∧ _ ∧ _ ∧ _))

/-- The loop of `io_read_stream_net` was left with its counters as they
were. -/
def LeftUntouched (before after : ResumedRead) : Prop :=
  after.pc = .returned ∧ after.size = before.size ∧
    after.remainRecvSize = before.remainRecvSize ∧
    after.bufferPtr = before.bufferPtr

namespace WriteStream

variable {state : WriteStream} {buffer : ByteMemory}

theorem receivePayload_failed (buffers : Nat → Option ByteMemory)
    (holding : state.chBuffer = some buffer) :
    let after := state.receivePayload buffers .failed
    after.recvSize = state.recvSize + 1 ∧
      after.accuSize = state.accuSize + 4294967295 ∧
      after.received = state.received := by
  have count : SocketResult.failed.count.toUInt64 = 4294967295 := by decide
  have grown := SocketResult.sub_count_failed state.recvSize
  rw [receivePayload_eq buffers holding SocketResult.not_count_failed_le]
  dsimp only
  split
  · simp [startLocalStream, withPiece, request, grown, count,
      SocketResult.bytes]
  · simp [withPiece, request, grown, count, SocketResult.bytes]

/-- At the start of a buffer a failure submits the buffer. -/
theorem receivePayload_failed_submits (buffers : Nat → Option ByteMemory)
    (holding : state.chBuffer = some buffer) (start : state.bufferPtr = 0) :
    (state.receivePayload buffers .failed).submitted =
      state.submitted ++ [(buffer.store 0 []).load 0 streamSize] := by
  have wrapped : streamSize ≤ ((0 : UInt32) +
      SocketResult.failed.count).toNat := by decide
  rw [receivePayload_eq buffers holding SocketResult.not_count_failed_le,
    start, if_pos wrapped]
  rfl

theorem add_one_ne (word : UInt32) : word + 1 ≠ word := by
  intro same
  have values := congrArg UInt32.toNat same
  have bound : word.toNat < 4294967296 := word.toNat_lt
  rw [UInt32.toNat_add, UInt32.toNat_one] at values
  omega

end WriteStream

/-- In no state of the two payload loops does a failing `recv` leave the loop
with its counters as they were. -/
theorem failed_receive_never_harmless (buffers : Nat → Option ByteMemory)
    (server : WriteStream) (inServer : server.pc = .payload)
    (call : ResumedRead) (inCall : call.pc = .payload) :
    ¬server.LeftUntouched (server.step buffers .failed) ∧
      ¬LeftUntouched call (call.step .failed) := by
  constructor
  · rintro ⟨left, _, recvSize, _, _⟩
    rw [WriteStream.step, inServer] at left recvSize
    cases holding : server.chBuffer with
    | none =>
        simp only [WriteStream.receivePayload_missing buffers holding
          SocketResult.not_count_failed_le] at left
        cases left
    | some buffer =>
        obtain ⟨grown, _, _⟩ :=
          WriteStream.receivePayload_failed buffers holding
        rw [grown] at recvSize
        exact WriteStream.add_one_ne _ recvSize
  · rintro ⟨_, size, _, _⟩
    obtain ⟨grown, _, _⟩ := call.receivePayload_failed
    rw [ResumedRead.step, inCall] at size
    rw [grown] at size
    exact WriteStream.add_one_ne _ size

/-- A failure before the first byte of a message of ten, and in the middle of
a packet. -/
theorem failed_receive_before_first_byte :
    let server := runInputs (WriteStream.step (present fun _ _ => 0))
      (WriteStream.enter (present fun _ _ => 0) 0)
      [.received [6], .received [10, 0, 0, 0]]
    let call := runInputs ResumedRead.step
      (ResumedRead.enter .opened (fun _ => 0) 8)
      [.received [14], .received [10, 0, 0, 0], .received [1, 2, 3]]
    ¬server.LeftUntouched
        (server.step (present fun _ _ => 0) .failed) ∧
      ¬LeftUntouched call (call.step .failed) :=
  failed_receive_never_harmless _ _ (by decide) _ (by decide)

/-- A failure after four of ten bytes. -/
theorem failed_receive_in_message :
    ¬∀ (buffers : Nat → Option ByteMemory) (startCmd : UInt8)
      (results : List SocketResult),
      let server := runInputs (WriteStream.step buffers)
        (WriteStream.enter buffers startCmd) results
      server.pc = .payload →
        server.LeftUntouched (server.step buffers .failed) := by
  intro always
  have left := always (present fun _ _ => 0) 0
    [.received [6], .received [10, 0, 0, 0], .received [1, 2, 3, 4]]
    (by decide)
  exact absurd left (by decide)

end StreamIO.Backend
