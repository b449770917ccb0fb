import StreamIO.Library.ScriptedRun
import StreamIO.Backend.ReadStream
import StreamIO.Backend.WriteConnection
import StreamIO.Backend.Repacketise

/-!
# A buffer that is not given

`io_stream_get_buffer` returns `NULL` when the wait for a transfer has timed
out.  Neither loop of the server looks at it.  What the writing loop has
received stays accounted for, and no missing buffer is used, exactly if no
payload is received after such a call, beyond the end of a buffer or by a
failing `recv`; in the reading loop every such call is followed by a use.
-/

namespace StreamIO.Backend

open StreamIO.Library StreamIO.Driver StreamIO.Local StreamIO.Net

namespace WriteStream

/-- The payload in the current buffer. -/
def held (state : WriteStream) : List UInt8 :=
  match state.chBuffer with
  | none => []
  | some buffer => buffer.load 0 state.bufferPtr.toNat

/-- No missing buffer was given to a `recv` or used, and all payload that was
received has been submitted or is in the current buffer. -/
def Accounted (state : WriteStream) : Prop :=
  state.pc ≠ .faulted ∧ state.unbacked = false ∧
    state.submitted.flatten ++ state.held = state.received

/-- A `recv` returns no more than it was asked for. -/
def Answers (state : WriteStream) (result : SocketResult) : Prop :=
  result.bytes.length ≤ state.wanted

/-- A payload `recv` is given a buffer and does not fail, and what it stores
ends in the buffer. -/
def ReceivesInto (state : WriteStream) (result : SocketResult) : Prop :=
  state.pc = .payload →
    state.chBuffer ≠ none ∧ result ≠ .failed ∧
      (result.bytes ≠ [] →
        state.bufferPtr.toNat + result.bytes.length ≤ bufferSize)

instance (state : WriteStream) (result : SocketResult) :
    Decidable (state.Answers result) :=
  inferInstanceAs (Decidable (_ ≤ _))

instance (state : WriteStream) (result : SocketResult) :
    Decidable (state.ReceivesInto result) :=
  decidable_of_iff
    (state.pc = .payload →
      state.chBuffer.isSome = true ∧ result ≠ .failed ∧
        (result.bytes ≠ [] →
          state.bufferPtr.toNat + result.bytes.length ≤ bufferSize))
    (by simp only [ReceivesInto, Option.isSome_iff_ne_none])

variable {state : WriteStream} {buffer : ByteMemory}
  {buffers : Nat → Option ByteMemory}

theorem length_held (holding : state.chBuffer = some buffer) :
    state.held.length = state.bufferPtr.toNat := by
  simp only [held, holding, ByteMemory.length_load]

theorem held_startLocalStream (buffers : Nat → Option ByteMemory)
    (state : WriteStream) (buffer : ByteMemory) :
    (state.startLocalStream buffers buffer).held = [] := by
  simp only [held, startLocalStream]
  split
  · rfl
  · rfl

/-- Received payload that is neither submitted nor held shows in the
lengths. -/
theorem not_accounted_of_length
    (lengths : state.submitted.flatten.length + state.held.length ≠
      state.received.length) : ¬state.Accounted := by
  rintro ⟨_, _, account⟩
  apply lengths
  rw [← account, List.length_append]

theorem accounted_congr (after : WriteStream)
    (running : state.pc ≠ .faulted) (stillRunning : after.pc ≠ .faulted)
    (submitted : after.submitted = state.submitted)
    (chBuffer : after.chBuffer = state.chBuffer)
    (bufferPtr : after.bufferPtr = state.bufferPtr)
    (received : after.received = state.received)
    (unbacked : after.unbacked = state.unbacked) :
    after.Accounted ↔ state.Accounted := by
  simp only [Accounted, held, submitted, chBuffer, bufferPtr, received,
    unbacked, ne_eq, running, stillRunning, not_false_eq_true, true_and]

theorem payloadOrAcknowledge_ne_faulted (size : UInt32) :
    payloadOrAcknowledge size ≠ .faulted := by
  unfold payloadOrAcknowledge
  split
  · simp
  · simp

/-- Whatever a payload `recv` without a buffer returns, it was given none. -/
theorem receivePayload_unbacked (missing : state.chBuffer = none)
    (result : SocketResult) :
    (state.receivePayload buffers result).unbacked = true := by
  by_cases nothing : result.count ≤ 0
  · rw [receivePayload_nothing buffers nothing]
    simp [request, missing]
  · rw [receivePayload_missing buffers missing nothing]
    simp [request, missing]

theorem receivePayload_nothing_accounted
    (holding : state.chBuffer = some buffer) (account : state.Accounted)
    {result : SocketResult} (nothing : result.count ≤ 0)
    (silent : result.bytes = []) (notFailed : result ≠ .failed) :
    (state.receivePayload buffers result).Accounted ↔
      state.ReceivesInto result := by
  apply iff_of_true
  · rw [receivePayload_nothing buffers nothing]
    apply (accounted_congr _ account.1 _ _ _ _ _ _).mpr account
    · simp
    · rfl
    · rfl
    · rfl
    · rfl
    · simp [request, holding]
  · intro _
    exact ⟨by simp [holding], notFailed, fun some => absurd silent some⟩

theorem receivePayload_lengths (buffers : Nat → Option ByteMemory)
    (holding : state.chBuffer = some buffer) {result : SocketResult}
    (counts : ¬result.count ≤ 0) :
    let after := state.receivePayload buffers result
    let position := (state.bufferPtr + result.count).toNat
    after.submitted.flatten.length + after.held.length =
        state.submitted.flatten.length + min bufferSize position ∧
      after.received.length =
        state.received.length + result.bytes.length := by
  intro after position
  have same : after = state.receivePayload buffers result := rfl
  rw [receivePayload_eq buffers holding counts] at same
  rw [same]
  split
  · rename_i full
    rw [streamSize_eq] at full
    rw [held_startLocalStream, Nat.min_eq_left full]
    simp [startLocalStream, withPiece, request, streamSize_eq]
  · rename_i room
    rw [streamSize_eq] at room
    rw [Nat.min_eq_right (Nat.le_of_not_le room)]
    simp [held, withPiece, request]

theorem not_accounted_of_position (holding : state.chBuffer = some buffer)
    (account : state.Accounted) {result : SocketResult}
    (counts : ¬result.count ≤ 0)
    (elsewhere :
      min bufferSize (state.bufferPtr + result.count).toNat ≠
        state.bufferPtr.toNat + result.bytes.length) :
    ¬(state.receivePayload buffers result).Accounted := by
  have before := congrArg List.length account.2.2
  rw [List.length_append, length_held holding] at before
  obtain ⟨after, received⟩ := receivePayload_lengths buffers holding counts
  apply not_accounted_of_length
  rw [after, received]
  omega

theorem receivePayload_failed_not_accounted
    (holding : state.chBuffer = some buffer) (account : state.Accounted) :
    ¬(state.receivePayload buffers .failed).Accounted := by
  apply not_accounted_of_position holding account
    SocketResult.not_count_failed_le
  have bound : state.bufferPtr.toNat < 4294967296 := state.bufferPtr.toNat_lt
  rw [SocketResult.add_count_failed, UInt32.toNat_sub, UInt32.toNat_one]
  simp only [SocketResult.bytes, List.length_nil, bufferSize]
  omega

theorem receivePayload_over_not_accounted
    (holding : state.chBuffer = some buffer) (account : state.Accounted)
    {piece : List UInt8} (nonempty : piece ≠ [])
    (small : piece.length < 2 ^ 32)
    (beyond : bufferSize < state.bufferPtr.toNat + piece.length) :
    ¬(state.receivePayload buffers (.received piece)).Accounted := by
  apply not_accounted_of_position holding account
    (count_received_pos nonempty small)
  rw [UInt32.toNat_add, count_received_toNat small]
  simp only [SocketResult.bytes, bufferSize] at beyond ⊢
  omega

theorem receivePayload_fits_accounted
    (holding : state.chBuffer = some buffer) (account : state.Accounted)
    {piece : List UInt8} (nonempty : piece ≠ [])
    (small : piece.length < 2 ^ 32)
    (fits : state.bufferPtr.toNat + piece.length ≤ bufferSize) :
    (state.receivePayload buffers (.received piece)).Accounted := by
  have filled := buffer.load_store_append state.bufferPtr.toNat piece
  have next : (state.bufferPtr +
      (SocketResult.received piece).count).toNat =
        state.bufferPtr.toNat + piece.length :=
    toNat_add_received (Nat.lt_of_le_of_lt fits (by decide))
  obtain ⟨_, backed, account⟩ := account
  simp only [held, holding] at account
  have stillBacked : state.request.unbacked = false := by
    simp [request, holding, backed]
  have runs := payloadOrAcknowledge_ne_faulted
    (state.recvSize - (SocketResult.received piece).count)
  rw [receivePayload_eq buffers holding
    (count_received_pos nonempty small), next, streamSize_eq]
  by_cases full : bufferSize ≤ state.bufferPtr.toNat + piece.length
  · have exactly : state.bufferPtr.toNat + piece.length = bufferSize :=
      Nat.le_antisymm fits full
    rw [if_pos full]
    refine ⟨runs, stillBacked, ?_⟩
    rw [held_startLocalStream]
    simp only [startLocalStream, withPiece, request, streamSize_eq,
      SocketResult.bytes, ← exactly, filled, List.flatten_append,
      List.append_nil, List.flatten_cons, List.flatten_nil]
    rw [← List.append_assoc, account]
  · rw [if_neg full]
    refine ⟨runs, stillBacked, ?_⟩
    simp only [held, withPiece, request, SocketResult.bytes, next, filled]
    rw [← List.append_assoc, account]

theorem receivePayload_accounted_iff (account : state.Accounted)
    (pc : state.pc = .payload) {result : SocketResult}
    (answers : result.bytes.length < 2 ^ 32) :
    (state.receivePayload buffers result).Accounted ↔
      state.ReceivesInto result := by
  cases holding : state.chBuffer with
  | none =>
      constructor
      · intro accounted
        have given : (state.receivePayload buffers result).unbacked = true :=
          receivePayload_unbacked holding result
        rw [accounted.2.1] at given
        cases given
      · intro receives
        exact absurd holding (receives pc).1
  | some buffer =>
      cases result with
      | sent =>
          exact receivePayload_nothing_accounted holding account (by decide)
            rfl (by simp)
      | failed =>
          constructor
          · intro accounted
            exact absurd accounted
              (receivePayload_failed_not_accounted holding account)
          · intro receives
            exact absurd rfl (receives pc).2.1
      | received piece =>
          by_cases nothing : piece = []
          · subst nothing
            exact receivePayload_nothing_accounted holding account
              (by decide) rfl (by simp)
          · constructor
            · intro accounted _
              refine ⟨by simp [holding], by simp, ?_⟩
              intro _
              by_contra beyond
              exact receivePayload_over_not_accounted holding account nothing
                answers (Nat.lt_of_not_le beyond) accounted
            · intro receives
              exact receivePayload_fits_accounted holding account nothing
                answers ((receives pc).2.2 nothing)

theorem wanted_lt (state : WriteStream) : state.wanted < 2 ^ 32 := by
  unfold wanted
  split
  · decide
  · decide
  · exact state.recvSize.toNat_lt
  · decide
  · decide
  · decide

/-- A call keeps the accounts exactly if it receives into a buffer that is
there and long enough. -/
theorem step_accounted_iff (buffers : Nat → Option ByteMemory)
    (state : WriteStream) (result : SocketResult)
    (answers : state.Answers result) (account : state.Accounted) :
    (state.step buffers result).Accounted ↔ state.ReceivesInto result := by
  have vacuous : state.pc ≠ .payload → state.ReceivesInto result := by
    intro elsewhere payload
    exact absurd payload elsewhere
  cases pc : state.pc with
  | startCmd =>
      have kept : (state.receiveStartCmd result).Accounted := by
        refine (accounted_congr (state.receiveStartCmd result) account.1
          ?_ rfl rfl rfl rfl rfl).mpr account
        simp only [receiveStartCmd]
        split
        · simp
        · simp
      simp only [step, pc]
      exact iff_of_true kept (vacuous (by simp [pc]))
  | size =>
      have kept : (state.receiveSize result).Accounted :=
        (accounted_congr (state.receiveSize result) account.1
          (payloadOrAcknowledge_ne_faulted _) rfl rfl rfl rfl rfl).mpr
          account
      simp only [step, pc]
      exact iff_of_true kept (vacuous (by simp [pc]))
  | payload =>
      simp only [step, pc]
      exact receivePayload_accounted_iff account pc
        (Nat.lt_of_le_of_lt answers state.wanted_lt)
  | acknowledge =>
      have kept : (state.sendAcknowledge result).Accounted := by
        refine (accounted_congr (state.sendAcknowledge result) account.1
          ?_ rfl rfl rfl rfl rfl).mpr account
        simp only [sendAcknowledge]
        split
        · simp
        · simp
      simp only [step, pc]
      exact iff_of_true kept (vacuous (by simp [pc]))
  | stopped =>
      simp only [step, pc]
      exact iff_of_true account (vacuous (by simp [pc]))
  | faulted => exact absurd pc account.1

theorem accounted_enter (buffers : Nat → Option ByteMemory)
    (startCmd : UInt8) : (enter buffers startCmd).Accounted := by
  refine ⟨by simp [enter], rfl, ?_⟩
  simp only [enter, held, List.flatten_nil, List.nil_append]
  split
  · rfl
  · rfl

end WriteStream

namespace ReadStream

/-- No buffer that is missing was sent from, cleared or submitted. -/
def UsesBuffers (state : ReadStream) : Prop :=
  state.control ≠ .nullBuffer

/-- The `io_stream_get_buffer` of the iteration returns a buffer. -/
def GivenBuffer (state : ReadStream) (script : IterationScript) : Prop :=
  state.control = .looping →
    (ioStreamGetBuffer (state.asked script).device script.getWait).2 ≠ none

theorem iterate_usesBuffers_iff (state : ReadStream)
    (script : IterationScript) (uses : state.UsesBuffers) :
    (state.iterate script).UsesBuffers ↔ state.GivenBuffer script := by
  cases control : state.control with
  | left =>
      have stays : state.iterate script = state := by
        simp only [iterate, control]
      rw [stays]
      apply iff_of_true uses
      intro looping
      rw [control] at looping
      cases looping
  | nullBuffer => exact absurd control uses
  | looping =>
      cases given : (ioStreamGetBuffer (state.asked script).device
          script.getWait).2 with
      | none =>
          rw [iterate_expired control given]
          apply iff_of_false
          · intro used
            exact used rfl
          · intro gives
            exact gives control given
      | some data =>
          apply iff_of_true
          · simp only [UsesBuffers, iterate, control, given]
            split
            · simp
            · simp
          · intro _
            simp [given]

end ReadStream

/-- In a run of the writing loop no missing buffer is used and all payload
stays accounted for exactly if every payload `recv` has a buffer to store to,
does not fail and does not run over its end; in a run of the reading loop no
missing buffer is used exactly if every `io_stream_get_buffer` returns one. -/
theorem missing_buffer_unused_iff (buffers : Nat → Option ByteMemory)
    (startCmd : UInt8) (results : List SocketResult)
    (answers : EveryStep (WriteStream.step buffers) WriteStream.Answers
      (WriteStream.enter buffers startCmd) results)
    (channel : DmaProxyChannel) (scripts : List IterationScript) :
    (Throughout (WriteStream.step buffers) WriteStream.Accounted
        (WriteStream.enter buffers startCmd) results ↔
      EveryStep (WriteStream.step buffers) WriteStream.ReceivesInto
        (WriteStream.enter buffers startCmd) results) ∧
    (Throughout ReadStream.iterate ReadStream.UsesBuffers
        (ReadStream.start channel) scripts ↔
      EveryStep ReadStream.iterate ReadStream.GivenBuffer
        (ReadStream.start channel) scripts) := by
  constructor
  · exact throughout_iff_everyStep_of
      (WriteStream.step_accounted_iff buffers)
      (WriteStream.accounted_enter buffers startCmd) answers
  · apply throughout_iff_everyStep ReadStream.iterate_usesBuffers_iff
    simp [ReadStream.UsesBuffers, ReadStream.start]

/-- Two short messages, and a buffer that is there. -/
theorem missing_buffer_unused_two_messages :
    Throughout (WriteStream.step (present fun _ _ => 0))
      WriteStream.Accounted (WriteStream.enter (present fun _ _ => 0) 0)
      [.received [6], .received [2, 0, 0, 0], .received [1, 2], .sent,
        .received [6], .received [1, 0, 0, 0], .received [3], .sent] := by
  have exactly := missing_buffer_unused_iff (present fun _ _ => 0) 0
    [.received [6], .received [2, 0, 0, 0], .received [1, 2], .sent,
      .received [6], .received [1, 0, 0, 0], .received [3], .sent]
    (by decide) (.probed .memToDev) []
  apply exactly.1.mpr
  decide

/-- The wait for the first buffer times out, and a message comes. -/
theorem missing_buffer_received_into :
    ¬∀ (buffers : Nat → Option ByteMemory) (startCmd : UInt8)
      (results : List SocketResult),
      EveryStep (WriteStream.step buffers) WriteStream.Answers
          (WriteStream.enter buffers startCmd) results →
        Throughout (WriteStream.step buffers) WriteStream.Accounted
          (WriteStream.enter buffers startCmd) results := by
  intro always
  have accounted := always (fun _ => none) 0
    [.received [6], .received [4, 0, 0, 0], .received [1, 2, 3, 4]]
    (by decide)
  exact absurd accounted.last.1 (by decide)

end StreamIO.Backend
