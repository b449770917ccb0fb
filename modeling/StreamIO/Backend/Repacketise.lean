import StreamIO.Library.ScriptedRun
import StreamIO.Net.StreamClient
import StreamIO.Backend.WriteStream

/-!
# Repacketising a remote write stream

Messages, the pieces `recv` delivers and the buffers of the device are three
partitions of one byte stream.  The payload loop asks for the rest of the
message and not for the room left in the buffer, so a piece may run over the
end of a buffer, and what runs over is lost.
-/

namespace StreamIO.Backend

open StreamIO.Library StreamIO.Driver StreamIO.Net

/-- The results of the socket calls of one round of the outer loop: the
header fields whole, the payload in pieces, and the acknowledgement. -/
def delivery (pieces : List (List UInt8)) : List SocketResult :=
  [.received [CmdCallType.callWriteStream.code],
    .received (littleEndian32 (UInt32.ofNat pieces.flatten.length))] ++
  pieces.map SocketResult.received ++ [.sent]

def deliveries (messages : List (List (List UInt8))) : List SocketResult :=
  messages.flatMap delivery

/-- The pieces of a message are not empty, and its size is a `uint32_t`. -/
def WellFormed (pieces : List (List UInt8)) : Prop :=
  (∀ piece ∈ pieces, piece ≠ []) ∧ pieces.flatten.length < 2 ^ 32

theorem deliveries_bytes (messages : List (List (List UInt8))) :
    (deliveries messages).flatMap SocketResult.bytes =
      (messages.map List.flatten).flatMap writeStreamMessage := by
  have pieces : ∀ pieces : List (List UInt8),
      (pieces.map SocketResult.received).flatMap SocketResult.bytes =
        pieces.flatten := by
    intro pieces
    induction pieces with
    | nil => rfl
    | cons piece pieces induction =>
        rw [List.map_cons, List.flatMap_cons, induction]
        rfl
  induction messages with
  | nil => rfl
  | cons message messages induction =>
      rw [deliveries, List.flatMap_cons, List.flatMap_append,
        List.map_cons, List.flatMap_cons, ← induction]
      simp [deliveries, delivery, writeStreamMessage, SocketResult.bytes,
        pieces, List.flatMap_append]

/-- On a new connection that is one byte, which selects the service, and then
what the service receives. -/
theorem writeCalls_deliveries (messages : List (List (List UInt8))) :
    (writeCalls .opened (messages.map List.flatten)).flatMap
        SocketWrite.bytes =
      (if messages = [] then [] else [CmdCallType.callWriteStream.code]) ++
        (deliveries messages).flatMap SocketResult.bytes := by
  rw [deliveries_bytes]
  cases messages with
  | nil => rfl
  | cons message messages =>
      rw [List.map_cons, writeCalls_opened, List.flatMap_cons,
        List.flatMap_map, if_neg (List.cons_ne_nil _ _)]

namespace WriteStream

/-- Submitted buffers and the filled part of the current one are the payload
received. -/
def Conserved (state : WriteStream) : Prop :=
  ∃ buffer, state.chBuffer = some buffer ∧
    state.submitted.flatten ++ buffer.load 0 state.bufferPtr.toNat =
      state.received

/-- Every range a payload `recv` stored to lies in the buffer. -/
def StoresInside (state : WriteStream) : Prop :=
  ∀ range ∈ state.stored, range.1 + range.2 ≤ bufferSize

/-- Every range a payload `recv` was given lies in the buffer. -/
def RequestsInside (state : WriteStream) : Prop :=
  ∀ range ∈ state.requested, range.1 + range.2 ≤ bufferSize

end WriteStream

/-- From this position of the stream on, no piece runs over the end of a
buffer. -/
def PiecesFit (position : Nat) : List (List UInt8) → Prop
  | [] => True
  | piece :: pieces =>
      position % bufferSize + piece.length ≤ bufferSize ∧
        PiecesFit (position + piece.length) pieces

/-- From this position of the stream on, no message runs over the end of a
buffer. -/
def MessagesFit (position : Nat) : List (List (List UInt8)) → Prop
  | [] => True
  | message :: messages =>
      position % bufferSize + message.flatten.length ≤ bufferSize ∧
        MessagesFit (position + message.flatten.length) messages

/-- What holds as long as every piece fits: nothing is lost and the position
in the buffer is the position in the stream. -/
structure Steady (state : WriteStream) : Prop where
  conserved : state.Conserved
  position : state.bufferPtr.toNat = state.received.length % bufferSize

/-- Every `io_stream_get_buffer` returns a buffer. -/
def present (buffers : Nat → ByteMemory) (turn : Nat) : Option ByteMemory :=
  some (buffers turn)

theorem streamSize_eq : streamSize = bufferSize := rfl

section Payload

variable {buffers : Nat → ByteMemory} {state : WriteStream}
  {piece : List UInt8}

theorem receivePayload_accounts (buffers : Nat → ByteMemory)
    {buffer : ByteMemory} (holding : state.chBuffer = some buffer)
    (nonempty : piece ≠ [])
    (within : piece.length ≤ state.recvSize.toNat) :
    let after := state.receivePayload (present buffers) (.received piece)
    after.received = state.received ++ piece ∧
      after.recvSize.toNat = state.recvSize.toNat - piece.length ∧
      after.pc = WriteStream.payloadOrAcknowledge after.recvSize ∧
      after.stored = state.stored ++
        [(state.bufferPtr.toNat, piece.length)] ∧
      after.requested = state.requested ++
        [(state.bufferPtr.toNat, state.recvSize.toNat)] := by
  have small : piece.length < 2 ^ 32 :=
    Nat.lt_of_le_of_lt within state.recvSize.toNat_lt
  have remaining := toNat_sub_received within
  rw [WriteStream.receivePayload_eq (present buffers) holding
    (count_received_pos nonempty small)]
  dsimp only
  split
  · exact ⟨rfl, remaining, rfl, rfl, rfl⟩
  · exact ⟨rfl, remaining, rfl, rfl, rfl⟩

theorem Steady.receivePayload (steady : Steady state) (nonempty : piece ≠ [])
    (within : piece.length ≤ state.recvSize.toNat)
    (fits : state.bufferPtr.toNat + piece.length ≤ bufferSize) :
    Steady (state.receivePayload (present buffers) (.received piece)) := by
  obtain ⟨⟨buffer, holding, conserved⟩, position⟩ := steady
  have small : piece.length < 2 ^ 32 :=
    Nat.lt_of_le_of_lt within state.recvSize.toNat_lt
  have filled := buffer.load_store_append state.bufferPtr.toNat piece
  have next : (state.bufferPtr +
      (SocketResult.received piece).count).toNat =
        state.bufferPtr.toNat + piece.length :=
    toNat_add_received (Nat.lt_of_le_of_lt fits (by decide))
  rw [WriteStream.receivePayload_eq (present buffers) holding
    (count_received_pos nonempty small), next, streamSize_eq]
  by_cases full : bufferSize ≤ state.bufferPtr.toNat + piece.length
  · have exactly : state.bufferPtr.toNat + piece.length = bufferSize := by
      omega
    rw [exactly] at filled
    rw [if_pos full]
    refine ⟨⟨buffers state.taken, rfl, ?_⟩, ?_⟩
    · simp only [WriteStream.startLocalStream, WriteStream.withPiece,
        WriteStream.request, streamSize_eq, SocketResult.bytes, filled,
        List.flatten_append, UInt32.toNat_zero, ByteMemory.load_zero,
        List.append_nil, List.flatten_cons, List.flatten_nil]
      rw [← List.append_assoc, conserved]
    · simp only [WriteStream.startLocalStream, WriteStream.withPiece,
        WriteStream.request, SocketResult.bytes, UInt32.toNat_zero,
        List.length_append]
      simp only [bufferSize] at position exactly ⊢
      omega
  · rw [if_neg full]
    refine ⟨⟨_, rfl, ?_⟩, ?_⟩
    · simp only [WriteStream.withPiece, WriteStream.request,
        SocketResult.bytes, next, filled]
      rw [← List.append_assoc, conserved]
    · simp only [WriteStream.withPiece, WriteStream.request,
        SocketResult.bytes, next, List.length_append]
      simp only [bufferSize] at position full ⊢
      omega

end Payload

/-- One of the two accounts of ranges: the ranges kept so far, and how much a
`recv` of `piece` adds while `rest` of the message is still to come. -/
structure RangeLog where
  ranges : WriteStream → List (Nat × Nat)
  extent : List UInt8 → List (List UInt8) → Nat

def storedLog : RangeLog where
  ranges := WriteStream.stored
  extent piece _ := piece.length

def requestedLog : RangeLog where
  ranges := WriteStream.requested
  extent piece rest := (piece :: rest).flatten.length

namespace RangeLog

/-- The account is extended by every payload `recv` and by nothing else. -/
structure Lawful (log : RangeLog) : Prop where
  covers : ∀ piece rest, piece.length ≤ log.extent piece rest
  headers : ∀ (state : WriteStream) pc startCmd recvSize,
    log.ranges { state with
      pc := pc, startCmd := startCmd, recvSize := recvSize } =
      log.ranges state
  appends : ∀ {buffers : Nat → ByteMemory} {state : WriteStream}
    {buffer : ByteMemory} {piece : List UInt8} {rest : List (List UInt8)},
    state.chBuffer = some buffer → piece ≠ [] →
    state.recvSize.toNat = (piece :: rest).flatten.length →
    log.ranges (state.receivePayload (present buffers) (.received piece)) =
      log.ranges state ++ [(state.bufferPtr.toNat, log.extent piece rest)]

theorem storedLog_lawful : storedLog.Lawful where
  covers _ _ := Nat.le_refl _
  headers _ _ _ _ := rfl
  appends := by
    intro buffers state buffer piece rest holding nonempty size
    have within : piece.length ≤ state.recvSize.toNat := by
      simp [size]
    exact (receivePayload_accounts buffers holding nonempty within).2.2.2.1

theorem requestedLog_lawful : requestedLog.Lawful where
  covers piece rest := by simp [requestedLog]
  headers _ _ _ _ := rfl
  appends := by
    intro buffers state buffer piece rest holding nonempty size
    have within : piece.length ≤ state.recvSize.toNat := by
      simp [size]
    have appended :=
      (receivePayload_accounts buffers holding nonempty
        within).2.2.2.2
    rw [size] at appended
    exact appended

/-- Nothing is lost and every range of the account lies in the buffer. -/
def Kept (log : RangeLog) (state : WriteStream) : Prop :=
  state.Conserved ∧
    ∀ range ∈ log.ranges state, range.1 + range.2 ≤ bufferSize

/-- The ranges of one message, received from this position of the stream on,
lie in the buffer. -/
def Fit (log : RangeLog) (position : Nat) : List (List UInt8) → Prop
  | [] => True
  | piece :: rest =>
      position % bufferSize + log.extent piece rest ≤ bufferSize ∧
        log.Fit (position + piece.length) rest

/-- The ranges of a sequence of messages lie in the buffer. -/
def AllFit (log : RangeLog) (position : Nat) :
    List (List (List UInt8)) → Prop
  | [] => True
  | message :: messages =>
      log.Fit position message ∧
        log.AllFit (position + message.flatten.length) messages

end RangeLog

/-- The payload loop stands before the rest of a message. -/
structure Expecting (state : WriteStream) (pieces : List (List UInt8)) :
    Prop where
  steady : Steady state
  pc : state.pc = WriteStream.payloadOrAcknowledge state.recvSize
  size : state.recvSize.toNat = pieces.flatten.length

section Pieces

variable {buffers : Nat → ByteMemory} {state : WriteStream} {log : RangeLog}

theorem Expecting.at_payload {piece : List UInt8}
    {rest : List (List UInt8)}
    (expecting : Expecting state (piece :: rest)) (nonempty : piece ≠ []) :
    state.step (present buffers) (.received piece) =
      state.receivePayload (present buffers) (.received piece) := by
  have positive : 0 < state.recvSize := by
    rw [UInt32.lt_iff_toNat_lt, expecting.size, List.flatten_cons,
      List.length_append, UInt32.toNat_zero]
    have := List.length_pos_of_ne_nil nonempty
    omega
  have pc := expecting.pc
  rw [WriteStream.payloadOrAcknowledge, if_pos positive] at pc
  simp only [WriteStream.step, pc]

theorem Expecting.next (buffers : Nat → ByteMemory) {piece : List UInt8}
    {rest : List (List UInt8)}
    (expecting : Expecting state (piece :: rest)) (nonempty : piece ≠ [])
    (fits : state.bufferPtr.toNat + piece.length ≤ bufferSize) :
    let after := state.receivePayload (present buffers) (.received piece)
    Expecting after rest ∧
      after.received.length = state.received.length + piece.length := by
  obtain ⟨buffer, holding, _⟩ := expecting.steady.conserved
  have within : piece.length ≤ state.recvSize.toNat := by
    simp [expecting.size]
  obtain ⟨received, remaining, pc, _, _⟩ :=
    receivePayload_accounts buffers holding nonempty within
  refine ⟨⟨expecting.steady.receivePayload nonempty within fits, pc, ?_⟩, ?_⟩
  · rw [remaining, expecting.size, List.flatten_cons, List.length_append]
    omega
  · rw [received, List.length_append]

theorem Expecting.kept (lawful : log.Lawful)
    (buffers : Nat → ByteMemory) {pieces : List (List UInt8)}
    (expecting : Expecting state pieces)
    (nonempty : ∀ piece ∈ pieces, piece ≠ []) (kept : log.Kept state)
    (fit : log.Fit state.received.length pieces) :
    Throughout (WriteStream.step (present buffers)) log.Kept state
        (pieces.map SocketResult.received) ∧
      Expecting (runInputs (WriteStream.step (present buffers)) state
        (pieces.map SocketResult.received)) [] ∧
      (runInputs (WriteStream.step (present buffers)) state
          (pieces.map SocketResult.received)).received.length =
        state.received.length + pieces.flatten.length := by
  induction pieces generalizing state with
  | nil =>
      rw [List.map_nil, throughout_nil, runInputs_nil]
      exact ⟨kept, expecting, rfl⟩
  | cons piece rest induction =>
      have pieceNonempty := nonempty piece (by simp)
      obtain ⟨room, later⟩ := fit
      rw [← expecting.steady.position] at room
      have fits : state.bufferPtr.toNat + piece.length ≤ bufferSize :=
        Nat.le_trans (Nat.add_le_add_left (lawful.covers piece rest) _) room
      obtain ⟨buffer, holding, _⟩ := expecting.steady.conserved
      obtain ⟨next, length⟩ :=
        expecting.next buffers pieceNonempty fits
      have keptNext : log.Kept
          (state.receivePayload (present buffers) (.received piece)) := by
        refine ⟨next.steady.conserved, ?_⟩
        rw [lawful.appends holding pieceNonempty expecting.size]
        intro range member
        rcases List.mem_append.mp member with old | new
        · exact kept.2 range old
        · rw [List.mem_singleton.mp new]
          exact room
      rw [← length] at later
      obtain ⟨always, final, total⟩ := induction next
        (fun other member => nonempty other (by simp [member])) keptNext later
      rw [List.map_cons, throughout_cons, runInputs_cons,
        expecting.at_payload pieceNonempty]
      refine ⟨⟨kept, always⟩, final, ?_⟩
      rw [total, length, List.flatten_cons, List.length_append]
      omega

theorem Expecting.fit (lawful : log.Lawful)
    {pieces : List (List UInt8)} (expecting : Expecting state pieces)
    (nonempty : ∀ piece ∈ pieces, piece ≠ [])
    (always : Throughout (WriteStream.step (present buffers)) log.Kept state
      (pieces.map SocketResult.received)) :
    log.Fit state.received.length pieces := by
  induction pieces generalizing state with
  | nil => trivial
  | cons piece rest induction =>
      have pieceNonempty := nonempty piece (by simp)
      obtain ⟨buffer, holding, _⟩ := expecting.steady.conserved
      rw [List.map_cons, throughout_cons,
        expecting.at_payload pieceNonempty] at always
      obtain ⟨_, later⟩ := always
      have room : state.bufferPtr.toNat + log.extent piece rest ≤
          bufferSize := by
        apply later.now.2 (state.bufferPtr.toNat, log.extent piece rest)
        rw [lawful.appends holding pieceNonempty expecting.size]
        simp
      have fits : state.bufferPtr.toNat + piece.length ≤ bufferSize :=
        Nat.le_trans (Nat.add_le_add_left (lawful.covers piece rest) _) room
      obtain ⟨next, length⟩ :=
        expecting.next buffers pieceNonempty fits
      have rest := induction next
        (fun other member => nonempty other (by simp [member])) later
      rw [length] at rest
      rw [expecting.steady.position] at room
      exact ⟨room, rest⟩

end Pieces

/-- The outer loop waits for the next message and nothing has been lost. -/
structure Waiting (state : WriteStream) : Prop where
  steady : Steady state
  pc : state.pc = .startCmd

section Messages

variable {buffers : Nat → ByteMemory} {state : WriteStream} {log : RangeLog}

/-- The state between the header of a message and its payload. -/
def announced (state : WriteStream) (size : UInt32) : WriteStream :=
  { state with
    startCmd := CmdCallType.callWriteStream.code
    recvSize := size
    pc := WriteStream.payloadOrAcknowledge size }

theorem Kept.congr (lawful : log.Lawful) (kept : log.Kept state)
    (pc : WriteStreamPc) (startCmd : UInt8) (recvSize : UInt32) :
    log.Kept { state with
      pc := pc, startCmd := startCmd, recvSize := recvSize } := by
  refine ⟨kept.1, ?_⟩
  rw [lawful.headers]
  exact kept.2

theorem Waiting.header (waiting : Waiting state)
    (buffers : Nat → ByteMemory) {pieces : List (List UInt8)}
    (small : pieces.flatten.length < 2 ^ 32) :
    let size := UInt32.ofNat pieces.flatten.length
    let headers : List SocketResult :=
      [.received [CmdCallType.callWriteStream.code],
        .received (littleEndian32 size)]
    runInputs (WriteStream.step (present buffers)) state headers =
        announced state size ∧
      Expecting (announced state size) pieces ∧
      (∀ log : RangeLog, log.Lawful → log.Kept state →
        Throughout (WriteStream.step (present buffers)) log.Kept state
          headers) := by
  intro size headers
  have first : state.step (present buffers)
      (.received [CmdCallType.callWriteStream.code]) =
      { state with
        startCmd := CmdCallType.callWriteStream.code, pc := .size } := by
    simp [WriteStream.step, waiting.pc, WriteStream.receiveStartCmd,
      SocketResult.bytes]
  have second : ({ state with
      startCmd := CmdCallType.callWriteStream.code,
      pc := .size } : WriteStream).step (present buffers)
        (.received (littleEndian32 size)) = announced state size := by
    simp only [WriteStream.step, WriteStream.receiveSize, receiveWord_whole,
      announced]
  refine ⟨?_, ?_, ?_⟩
  · simp only [headers, runInputs_cons, runInputs_nil, first, second]
  · refine ⟨⟨waiting.steady.conserved, waiting.steady.position⟩, rfl, ?_⟩
    simp only [announced, size, UInt32.toNat_ofNat']
    exact Nat.mod_eq_of_lt small
  · intro log lawful kept
    simp only [headers, throughout_cons, throughout_nil, first, second]
    exact ⟨kept, Kept.congr lawful kept _ _ state.recvSize,
      Kept.congr lawful kept _ _ _⟩

theorem Expecting.acknowledge (expecting : Expecting state [])
    (buffers : Nat → ByteMemory) :
    state.step (present buffers) .sent = { state with pc := .startCmd } ∧
      Waiting { state with pc := .startCmd } := by
  have none : ¬0 < state.recvSize := by
    rw [UInt32.lt_iff_toNat_lt, expecting.size]
    simp
  have pc := expecting.pc
  rw [WriteStream.payloadOrAcknowledge, if_neg none] at pc
  refine ⟨?_, ⟨expecting.steady.conserved, expecting.steady.position⟩, rfl⟩
  simp [WriteStream.step, pc, WriteStream.sendAcknowledge]

theorem Waiting.message (lawful : log.Lawful) (waiting : Waiting state)
    (buffers : Nat → ByteMemory) {pieces : List (List UInt8)}
    (wellFormed : WellFormed pieces)
    (kept : log.Kept state) (fit : log.Fit state.received.length pieces) :
    Throughout (WriteStream.step (present buffers)) log.Kept state
        (delivery pieces) ∧
      Waiting (runInputs (WriteStream.step (present buffers)) state
        (delivery pieces)) ∧
      (runInputs (WriteStream.step (present buffers)) state
          (delivery pieces)).received.length =
        state.received.length + pieces.flatten.length := by
  obtain ⟨header, expecting, headerKept⟩ :=
    waiting.header buffers wellFormed.2
  have announcedKept := (headerKept log lawful kept).last
  rw [header] at announcedKept
  obtain ⟨payload, final, length⟩ :=
    expecting.kept lawful buffers wellFormed.1 announcedKept fit
  obtain ⟨acknowledged, next⟩ := final.acknowledge buffers
  have done := Kept.congr lawful payload.last .startCmd
    (runInputs (WriteStream.step (present buffers))
      (announced state (UInt32.ofNat pieces.flatten.length))
      (pieces.map SocketResult.received)).startCmd
    (runInputs (WriteStream.step (present buffers))
      (announced state (UInt32.ofNat pieces.flatten.length))
      (pieces.map SocketResult.received)).recvSize
  have acknowledgement : Throughout (WriteStream.step (present buffers))
      log.Kept (runInputs (WriteStream.step (present buffers))
        (announced state (UInt32.ofNat pieces.flatten.length))
        (pieces.map SocketResult.received)) [.sent] := by
    rw [throughout_cons, throughout_nil, acknowledged]
    exact ⟨payload.last, done⟩
  have ran : runInputs (WriteStream.step (present buffers)) state
      (delivery pieces) =
      { runInputs (WriteStream.step (present buffers))
          (announced state (UInt32.ofNat pieces.flatten.length))
          (pieces.map SocketResult.received) with pc := .startCmd } := by
    rw [delivery, runInputs_append, runInputs_append, header, runInputs_cons,
      runInputs_nil, acknowledged]
  rw [ran]
  refine ⟨?_, next, length⟩
  rw [delivery, throughout_append, throughout_append, runInputs_append,
    header]
  exact ⟨⟨headerKept log lawful kept, payload⟩, acknowledgement⟩

theorem Waiting.message_fit (lawful : log.Lawful) (waiting : Waiting state)
    {pieces : List (List UInt8)} (wellFormed : WellFormed pieces)
    (always : Throughout (WriteStream.step (present buffers)) log.Kept state
      (delivery pieces)) :
    log.Fit state.received.length pieces := by
  obtain ⟨header, expecting, _⟩ :=
    waiting.header buffers wellFormed.2
  simp only [delivery, throughout_append, header] at always
  exact expecting.fit lawful wellFormed.1 always.1.2

/-- Everything is kept exactly when every message fits. -/
theorem Waiting.messages (lawful : log.Lawful) (waiting : Waiting state)
    (kept : log.Kept state) {messages : List (List (List UInt8))}
    (wellFormed : ∀ pieces ∈ messages, WellFormed pieces) :
    Throughout (WriteStream.step (present buffers)) log.Kept state
        (deliveries messages) ↔
      log.AllFit state.received.length messages := by
  induction messages generalizing state with
  | nil =>
      rw [deliveries, List.flatMap_nil, throughout_nil]
      exact ⟨fun _ => trivial, fun _ => kept⟩
  | cons message messages induction =>
      have own := wellFormed message (by simp)
      have others : ∀ pieces ∈ messages, WellFormed pieces :=
        fun pieces member => wellFormed pieces (by simp [member])
      have unfolded : deliveries (message :: messages) =
        delivery message ++ deliveries messages := rfl
      rw [unfolded, throughout_append]
      constructor
      · rintro ⟨first, later⟩
        have fit := waiting.message_fit lawful own first
        obtain ⟨_, next, length⟩ :=
          waiting.message lawful buffers own kept fit
        have rest := (induction next later.now others).mp later
        rw [length] at rest
        exact ⟨fit, rest⟩
      · rintro ⟨fit, rest⟩
        obtain ⟨first, next, length⟩ :=
          waiting.message lawful buffers own kept fit
        rw [← length] at rest
        exact ⟨first, (induction next first.last others).mpr rest⟩

end Messages

/-- For a whole message the ranges given to `recv` lie in the buffer exactly
when the message does. -/
theorem requestedLog_fit {position : Nat} {pieces : List (List UInt8)}
    (nonempty : ∀ piece ∈ pieces, piece ≠ []) :
    requestedLog.Fit position pieces ↔
      position % bufferSize + pieces.flatten.length ≤ bufferSize := by
  induction pieces generalizing position with
  | nil =>
      have room := Nat.mod_lt position (show 0 < bufferSize by decide)
      constructor
      · intro _
        exact Nat.le_of_lt room
      · intro _
        trivial
  | cons piece rest induction =>
      have others : ∀ other ∈ rest, other ≠ [] :=
        fun other member => nonempty other (by simp [member])
      constructor
      · exact And.left
      · intro room
        refine ⟨room, (induction others).mpr ?_⟩
        cases rest with
        | nil =>
            have bound := Nat.mod_lt (position + piece.length)
              (show 0 < bufferSize by decide)
            simp only [List.flatten_nil, List.length_nil, Nat.add_zero]
            exact Nat.le_of_lt bound
        | cons other rest =>
            have positive := List.length_pos_of_ne_nil
              (others other (by simp))
            simp only [List.flatten_cons, List.length_append] at room ⊢
            simp only [bufferSize] at room ⊢
            omega

theorem requestedLog_allFit {position : Nat}
    {messages : List (List (List UInt8))}
    (wellFormed : ∀ pieces ∈ messages, WellFormed pieces) :
    requestedLog.AllFit position messages ↔
      MessagesFit position messages := by
  induction messages generalizing position with
  | nil => rfl
  | cons message messages induction =>
      rw [RangeLog.AllFit, MessagesFit,
        requestedLog_fit (wellFormed message (by simp)).1, induction]
      intro pieces member
      exact wellFormed pieces (by simp [member])

theorem storedLog_fit (position : Nat) (pieces rest : List (List UInt8)) :
    PiecesFit position (pieces ++ rest) ↔
      storedLog.Fit position pieces ∧
        PiecesFit (position + pieces.flatten.length) rest := by
  induction pieces generalizing position with
  | nil => simp [RangeLog.Fit]
  | cons piece pieces induction =>
      rw [List.cons_append, PiecesFit, induction, RangeLog.Fit,
        List.flatten_cons, List.length_append, ← Nat.add_assoc, and_assoc]
      rfl

theorem storedLog_allFit (position : Nat)
    (messages : List (List (List UInt8))) :
    storedLog.AllFit position messages ↔
      PiecesFit position messages.flatten := by
  induction messages generalizing position with
  | nil => rfl
  | cons message messages induction =>
      rw [RangeLog.AllFit, List.flatten_cons, storedLog_fit, induction]

theorem Waiting.enter (buffers : Nat → ByteMemory) (startCmd : UInt8) :
    Waiting (WriteStream.enter (present buffers) startCmd) :=
  ⟨⟨⟨buffers 0, rfl, rfl⟩, rfl⟩, rfl⟩

theorem RangeLog.Kept.enter (log : RangeLog) (buffers : Nat → ByteMemory)
    (startCmd : UInt8)
    (empty : log.ranges (WriteStream.enter (present buffers) startCmd) =
      []) :
    log.Kept (WriteStream.enter (present buffers) startCmd) := by
  refine ⟨(Waiting.enter buffers startCmd).steady.conserved, ?_⟩
  rw [empty]
  simp

/-- What the client's calls have written is what the server receives.  Bytes
are conserved and stores stay in the buffer, throughout the run, exactly when
no piece runs over the end of a buffer; if the ranges given to `recv` are to
stay in the buffer as well, exactly when no message does. -/
theorem repacketising_conserves_iff (buffers : Nat → ByteMemory)
    (startCmd : UInt8) {messages : List (List (List UInt8))}
    (wellFormed : ∀ pieces ∈ messages, WellFormed pieces) :
    (writeCalls .opened (messages.map List.flatten)).flatMap
        SocketWrite.bytes =
      (if messages = [] then [] else [CmdCallType.callWriteStream.code]) ++
        (deliveries messages).flatMap SocketResult.bytes ∧
    ((∀ front, front <+: deliveries messages →
        let state := runInputs (WriteStream.step (present buffers))
          (WriteStream.enter (present buffers) startCmd) front
        state.Conserved ∧ state.StoresInside) ↔
      PiecesFit 0 messages.flatten) ∧
    ((∀ front, front <+: deliveries messages →
        let state := runInputs (WriteStream.step (present buffers))
          (WriteStream.enter (present buffers) startCmd) front
        state.Conserved ∧ state.RequestsInside) ↔
      MessagesFit 0 messages) := by
  have waiting := Waiting.enter buffers startCmd
  refine ⟨writeCalls_deliveries messages, ?_, ?_⟩
  · rw [← storedLog_allFit]
    exact waiting.messages RangeLog.storedLog_lawful
      (.enter storedLog buffers startCmd rfl) wellFormed
  · rw [← requestedLog_allFit wellFormed]
    exact waiting.messages RangeLog.requestedLog_lawful
      (.enter requestedLog buffers startCmd rfl) wellFormed

/-- Two messages, the first in two pieces, end up in one buffer. -/
theorem short_messages_conserved :
    let messages : List (List (List UInt8)) := [[[1, 2], [3]], [[4]]]
    ∀ front, front <+: deliveries messages →
      let state := runInputs (WriteStream.step (present fun _ _ => 0))
        (WriteStream.enter (present fun _ _ => 0) 0) front
      state.Conserved ∧ state.StoresInside := by
  have wellFormed : ∀ pieces ∈ ([[[1, 2], [3]], [[4]]] :
      List (List (List UInt8))), WellFormed pieces := by
    simp [WellFormed]
  have fit : PiecesFit 0 ([[[1, 2], [3]], [[4]]] :
      List (List (List UInt8))).flatten := by
    simp [PiecesFit, bufferSize]
  exact (repacketising_conserves_iff (fun _ _ => 0) 0 wellFormed).2.1.mpr fit

/-- One call with one byte more than a buffer holds, received at once. -/
theorem oversized_message_not_conserved :
    ¬∀ (buffers : Nat → ByteMemory) (startCmd : UInt8)
      (messages : List (List (List UInt8))),
      (∀ pieces ∈ messages, WellFormed pieces) →
      ∀ front, front <+: deliveries messages →
        let state := runInputs (WriteStream.step (present buffers))
          (WriteStream.enter (present buffers) startCmd) front
        state.Conserved ∧ state.StoresInside := by
  intro conserved
  let message : List (List UInt8) := [List.replicate (bufferSize + 1) 0]
  have wellFormed : ∀ pieces ∈ [message], WellFormed pieces := by
    intro pieces member
    rw [List.mem_singleton.mp member]
    refine ⟨?_, ?_⟩
    · intro piece only
      rw [List.mem_singleton.mp only]
      apply List.ne_nil_of_length_pos
      rw [List.length_replicate]
      exact Nat.succ_pos _
    · simp only [message, List.flatten_cons, List.flatten_nil,
        List.append_nil, List.length_replicate]
      decide
  have always := conserved (fun _ _ => 0) 0 [message] wellFormed
  have fit := ((Waiting.enter (fun _ _ => 0) 0).messages
    RangeLog.storedLog_lawful (.enter storedLog (fun _ _ => 0) 0 rfl)
    wellFormed).mp always
  have room := fit.1.1
  simp only [storedLog, List.length_replicate] at room
  omega

end StreamIO.Backend
