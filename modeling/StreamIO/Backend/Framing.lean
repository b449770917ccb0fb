import StreamIO.Backend.Repacketise
import StreamIO.Backend.WriteConnection

/-!
# A remote write stream stays framed

Client and server of a write stream while the client keeps writing and
synchronising.  The fields of a header arrive whole, a payload arrives in any
non-empty pieces.  Beside the two ends we keep what each iteration of the
server's outer loop read.
-/

namespace StreamIO.Backend

open StreamIO.Library StreamIO.Driver StreamIO.Net

/-- What one outer iteration of `client_cmd_write_stream_inf` has read. -/
structure Iteration where
  startCmd : UInt8
  size : UInt32
  payload : List UInt8
  deriving DecidableEq, Repr

/-- The iteration that a call with these bytes should cause. -/
def iterationOf (data : List UInt8) : Iteration :=
  { startCmd := CmdCallType.callWriteStream.code
    size := UInt32.ofNat data.length
    payload := data }

/-- The iteration after the `recv` at the program counter. -/
def WriteStream.record (state : WriteStream) (bytes : List UInt8)
    (iteration : Iteration) : Iteration :=
  match state.pc with
  | .startCmd =>
      { startCmd := (state.receiveStartCmd (.received bytes)).startCmd
        size := 0
        payload := [] }
  | .size =>
      { iteration with
        size := (state.receiveSize (.received bytes)).recvSize }
  | .payload => { iteration with payload := iteration.payload ++ bytes }
  | .acknowledge => iteration
  | .stopped => iteration
  | .faulted => iteration

def StreamServer.record (server : StreamServer) (bytes : List UInt8)
    (iteration : Iteration) : Iteration :=
  match server with
  | .writing state => state.record bytes iteration
  | .dispatching => iteration
  | .elsewhere => iteration

/-- The server stands at a `recv` into the payload. -/
def StreamServer.AtPayload : StreamServer → Prop
  | .writing state => state.pc = .payload
  | .dispatching => False
  | .elsewhere => False

/-- Both ends of a write stream: the client, the payloads and the socket
writes of its calls so far, the bytes in flight, the server with its current
and its finished iterations, and the acknowledgements sent. -/
structure WriteExchange where
  client : NetDeviceState
  sent : List (List UInt8)
  writes : List SocketWrite
  inFlight : List UInt8
  server : StreamServer
  current : Iteration
  finished : List Iteration
  acknowledged : List UInt8

inductive WriteExchangeMove where
  | write (data : List UInt8)
  | sync
  | receive (count : Nat)
  | acknowledge

def WriteExchangeMove.OfServer : WriteExchangeMove → Prop
  | .receive _ => True
  | .acknowledge => True
  | .write _ => False
  | .sync => False

/-- A `recv` of a header field returns the whole field, a `recv` of payload at
least one byte. -/
inductive WriteExchangeStep (setting : ServerSetting) :
    WriteExchange → WriteExchangeMove → WriteExchange → Prop where
  | write {exchange : WriteExchange} (data : List UInt8) :
      data.length < 2 ^ 32 →
      WriteExchangeStep setting exchange (.write data)
        { exchange with
          client := (ioWriteStreamNet exchange.client data).1
          sent := exchange.sent ++ [data]
          writes := exchange.writes ++
            (ioWriteStreamNet exchange.client data).2
          inFlight := exchange.inFlight ++
            (ioWriteStreamNet exchange.client data).2.flatMap
              SocketWrite.bytes }
  | sync {exchange : WriteExchange} :
      WriteExchangeStep setting exchange .sync
        { exchange with client := ioSyncStreamDeviceNet exchange.client }
  | receive {exchange : WriteExchange} (count : Nat) :
      0 < count → count ≤ exchange.server.wanted →
      count ≤ exchange.inFlight.length →
      (¬exchange.server.AtPayload → count = exchange.server.wanted) →
      WriteExchangeStep setting exchange (.receive count)
        { exchange with
          server := exchange.server.receive setting
            (exchange.inFlight.take count)
          current := exchange.server.record (exchange.inFlight.take count)
            exchange.current
          inFlight := exchange.inFlight.drop count }
  | acknowledge {exchange : WriteExchange} :
      exchange.server.Acknowledging →
      WriteExchangeStep setting exchange .acknowledge
        { exchange with
          server := exchange.server.acknowledge setting
          finished := exchange.finished ++ [exchange.current]
          acknowledged := exchange.acknowledged ++ [1] }

def writeExchanges (setting : ServerSetting) :
    TransitionSystem WriteExchange WriteExchangeMove where
  step := WriteExchangeStep setting

/-- The server's moves alone, the client being at rest. -/
def servedExchanges (setting : ServerSetting) :
    TransitionSystem WriteExchange WriteExchangeMove where
  step exchange move next :=
    move.OfServer ∧ WriteExchangeStep setting exchange move next

/-- The `send` that selects the service. -/
def openingWrite : SocketWrite :=
  { vectored := false, bytes := [CmdCallType.callWriteStream.code] }

/-- The `writev` of one call. -/
def messageWrite (data : List UInt8) : SocketWrite :=
  { vectored := true, bytes := writeStreamMessage data }

/-- The sum of the sizes of these calls. -/
def totalSize (calls : List (List UInt8)) : Nat :=
  (calls.map List.length).sum

namespace WriteExchange

def opened : WriteExchange :=
  { client := .opened, sent := [], writes := [], inFlight := []
    server := .dispatching
    current := { startCmd := 0, size := 0, payload := [] }
    finished := [], acknowledged := [] }

/-- The two ends agree on the frames: the opening byte was sent once, the
finished iterations have read the first calls one each, as many bytes have
been acknowledged, and between iterations what is in flight starts with the
next header and `accu_size` is the sum of the sizes. -/
structure Framed (exchange : WriteExchange) : Prop where
  opening : exchange.writes.filter (fun write => !write.vectored) =
    if exchange.sent = [] then [] else [openingWrite]
  iterations : exchange.finished =
    (exchange.sent.take exchange.finished.length).map iterationOf
  acknowledged : exchange.acknowledged =
    List.replicate exchange.finished.length 1
  between : ∀ state, exchange.server = .writing state →
    state.pc = .startCmd →
    exchange.inFlight = (exchange.sent.drop
        exchange.finished.length).flatMap writeStreamMessage ∧
      state.accuSize.toNat =
        totalSize (exchange.sent.take exchange.finished.length) % 2 ^ 64

/-- Where the server stands in the first of the calls it has not finished. -/
inductive Aligned (waiting : List (List UInt8)) (moved : Nat)
    (state : WriteStream) (current : Iteration) (inFlight : List UInt8) :
    Prop where
  | startCmd
      (pc : state.pc = .startCmd)
      (bytes : inFlight = waiting.flatMap writeStreamMessage)
      (accumulated : state.accuSize.toNat = moved % 2 ^ 64)
  | size (data : List UInt8) (rest : List (List UInt8))
      (next : waiting = data :: rest)
      (pc : state.pc = .size)
      (start : current.startCmd = CmdCallType.callWriteStream.code)
      (empty : current.payload = [])
      (bytes : inFlight = littleEndian32 (UInt32.ofNat data.length) ++
        (data ++ rest.flatMap writeStreamMessage))
      (accumulated : state.accuSize.toNat = moved % 2 ^ 64)
  | payload (front back : List UInt8) (rest : List (List UInt8))
      (next : waiting = (front ++ back) :: rest)
      (pc : state.pc = .payload)
      (more : back ≠ [])
      (iteration : current =
        { iterationOf (front ++ back) with payload := front })
      (left : state.recvSize.toNat = back.length)
      (bytes : inFlight = back ++ rest.flatMap writeStreamMessage)
      (accumulated :
        state.accuSize.toNat = (moved + front.length) % 2 ^ 64)
  | acknowledge (data : List UInt8) (rest : List (List UInt8))
      (next : waiting = data :: rest)
      (pc : state.pc = .acknowledge)
      (iteration : current = iterationOf data)
      (bytes : inFlight = rest.flatMap writeStreamMessage)
      (accumulated : state.accuSize.toNat = (moved + data.length) % 2 ^ 64)

/-- The server's part of the invariant. -/
def ServerAligned (exchange : WriteExchange) : StreamServer → Prop
  | .dispatching =>
      exchange.finished = [] ∧
        exchange.inFlight = exchange.writes.flatMap SocketWrite.bytes
  | .writing state =>
      exchange.sent ≠ [] ∧ (∃ buffer, state.chBuffer = some buffer) ∧
        Aligned (exchange.sent.drop exchange.finished.length)
          (totalSize (exchange.sent.take exchange.finished.length)) state
          exchange.current exchange.inFlight
  | .elsewhere => False

structure InStep (exchange : WriteExchange) : Prop where
  small : ∀ data ∈ exchange.sent, data.length < 2 ^ 32
  unread : exchange.client.remainRecvSize = 0
  handshaked : exchange.client.handshaked = decide (exchange.sent ≠ [])
  writes : exchange.writes =
    (if exchange.sent = [] then [] else [openingWrite]) ++
      exchange.sent.map messageWrite
  iterations : exchange.finished =
    (exchange.sent.take exchange.finished.length).map iterationOf
  acknowledged : exchange.acknowledged =
    List.replicate exchange.finished.length 1
  server : exchange.ServerAligned exchange.server

end WriteExchange

theorem messageWrites_bytes (calls : List (List UInt8)) :
    (calls.map messageWrite).flatMap SocketWrite.bytes =
      calls.flatMap writeStreamMessage := by
  rw [List.flatMap_map]
  rfl

theorem totalSize_append (front back : List (List UInt8)) :
    totalSize (front ++ back) = totalSize front + totalSize back := by
  rw [totalSize, List.map_append, List.sum_append, totalSize, totalSize]

theorem flatMap_message_cons (data : List UInt8) (rest : List (List UInt8)) :
    (data :: rest).flatMap writeStreamMessage =
      CmdCallType.callWriteStream.code ::
        (littleEndian32 (UInt32.ofNat data.length) ++
          (data ++ rest.flatMap writeStreamMessage)) := by
  simp only [List.flatMap_cons, writeStreamMessage, List.append_assoc,
    List.cons_append, List.nil_append]

namespace WriteStream

theorem receivePayload_counts (buffers : Nat → ByteMemory)
    {state : WriteStream} {buffer : ByteMemory} {piece : List UInt8}
    (holding : state.chBuffer = some buffer) (nonempty : piece ≠ [])
    (small : piece.length < 2 ^ 32) :
    let after := state.receivePayload (present buffers) (.received piece)
    (∃ next, after.chBuffer = some next) ∧
      after.accuSize.toNat =
        (state.accuSize.toNat + piece.length) % 2 ^ 64 := by
  have counted : (state.accuSize +
      (SocketResult.received piece).count.toUInt64).toNat =
        (state.accuSize.toNat + piece.length) % 2 ^ 64 := by
    rw [UInt64.toNat_add, UInt32.toNat_toUInt64, count_received_toNat small]
  rw [receivePayload_eq (present buffers) holding
    (count_received_pos nonempty small)]
  dsimp only
  split
  · exact ⟨⟨_, rfl⟩, counted⟩
  · exact ⟨⟨_, rfl⟩, counted⟩

end WriteStream

namespace WriteExchange

namespace Aligned

variable {waiting : List (List UInt8)} {moved : Nat} {state : WriteStream}
  {current : Iteration} {inFlight : List UInt8}

theorem extend (aligned : Aligned waiting moved state current inFlight)
    (data : List UInt8) :
    Aligned (waiting ++ [data]) moved state current
      (inFlight ++ writeStreamMessage data) := by
  have behind : ∀ rest : List (List UInt8),
      (rest ++ [data]).flatMap writeStreamMessage =
        rest.flatMap writeStreamMessage ++ writeStreamMessage data := by
    intro rest
    simp only [List.flatMap_append, List.flatMap_cons, List.flatMap_nil,
      List.append_nil]
  cases aligned with
  | startCmd pc bytes accumulated =>
      exact .startCmd pc (by rw [bytes, behind]) accumulated
  | size first rest next pc start empty bytes accumulated =>
      refine .size first (rest ++ [data]) (by rw [next, List.cons_append])
        pc start empty ?_ accumulated
      rw [bytes, behind]
      simp only [List.append_assoc]
  | payload front back rest next pc more iteration left bytes accumulated =>
      refine .payload front back (rest ++ [data])
        (by rw [next, List.cons_append]) pc more iteration left ?_ accumulated
      rw [bytes, behind]
      simp only [List.append_assoc]
  | acknowledge first rest next pc iteration bytes accumulated =>
      exact .acknowledge first (rest ++ [data])
        (by rw [next, List.cons_append]) pc iteration
        (by rw [bytes, behind]) accumulated

theorem receiveStartCmd {buffers : Nat → Option ByteMemory}
    (pc : state.pc = .startCmd)
    (bytes : inFlight = waiting.flatMap writeStreamMessage)
    (accumulated : state.accuSize.toNat = moved % 2 ^ 64)
    (available : 1 ≤ inFlight.length) :
    Aligned waiting moved
      (state.step buffers (.received (inFlight.take 1)))
      (state.record (inFlight.take 1) current) (inFlight.drop 1) := by
  cases waiting with
  | nil =>
      rw [bytes] at available
      simp at available
  | cons data rest =>
      rw [flatMap_message_cons] at bytes
      rw [bytes]
      simp only [List.take_succ_cons, List.take_zero, List.drop_succ_cons,
        List.drop_zero, WriteStream.step, WriteStream.record, pc]
      apply Aligned.size data rest rfl
      · simp [WriteStream.receiveStartCmd, SocketResult.bytes]
      · rfl
      · rfl
      · rfl
      · exact accumulated

theorem receiveSize {buffers : Nat → Option ByteMemory} {data : List UInt8}
    {rest : List (List UInt8)} (small : data.length < 2 ^ 32)
    (pc : state.pc = .size)
    (start : current.startCmd = CmdCallType.callWriteStream.code)
    (empty : current.payload = [])
    (accumulated : state.accuSize.toNat = moved % 2 ^ 64) :
    Aligned (data :: rest) moved
      (state.step buffers
        (.received (littleEndian32 (UInt32.ofNat data.length))))
      (state.record (littleEndian32 (UInt32.ofNat data.length)) current)
      (data ++ rest.flatMap writeStreamMessage) := by
  have size : (UInt32.ofNat data.length).toNat = data.length := by
    rw [UInt32.toNat_ofNat']
    exact Nat.mod_eq_of_lt small
  simp only [WriteStream.step, WriteStream.record, pc,
    WriteStream.receiveSize, receiveWord_whole]
  by_cases nothing : data = []
  · subst data
    apply Aligned.acknowledge [] rest rfl
    · rfl
    · simp only [iterationOf, start, empty]
    · rfl
    · simpa using accumulated
  · have positive := List.length_pos_of_ne_nil nothing
    apply Aligned.payload [] data rest rfl
    · have some : (0 : UInt32) < UInt32.ofNat data.length := by
        rw [UInt32.lt_iff_toNat_lt, size]
        exact positive
      simp only [WriteStream.payloadOrAcknowledge, if_pos some]
    · exact nothing
    · simp only [iterationOf, start, empty, List.nil_append]
    · exact size
    · rfl
    · simpa using accumulated

theorem receivePayload {buffers : Nat → ByteMemory} {buffer : ByteMemory}
    {front back : List UInt8} {rest : List (List UInt8)} {count : Nat}
    (holding : state.chBuffer = some buffer)
    (pc : state.pc = .payload)
    (iteration : current =
      { iterationOf (front ++ back) with payload := front })
    (left : state.recvSize.toNat = back.length)
    (accumulated : state.accuSize.toNat = (moved + front.length) % 2 ^ 64)
    (positive : 0 < count) (within : count ≤ back.length) :
    (∃ next, (state.step (present buffers)
        (.received (back.take count))).chBuffer = some next) ∧
      Aligned ((front ++ back) :: rest) moved
        (state.step (present buffers) (.received (back.take count)))
        (state.record (back.take count) current)
        (back.drop count ++ rest.flatMap writeStreamMessage) := by
  have length : (back.take count).length = count :=
    List.length_take_of_le within
  have nonempty : back.take count ≠ [] := by
    apply List.ne_nil_of_length_pos
    rw [length]
    exact positive
  have fits : (back.take count).length ≤ state.recvSize.toNat := by
    rw [length, left]
    exact within
  have small : (back.take count).length < 2 ^ 32 :=
    Nat.lt_of_le_of_lt fits state.recvSize.toNat_lt
  obtain ⟨present, counted⟩ := WriteStream.receivePayload_counts buffers
    holding nonempty small
  obtain ⟨_, remaining, nextPc, _, _⟩ := receivePayload_accounts buffers
    holding nonempty fits
  simp only [WriteStream.step, WriteStream.record, pc]
  refine ⟨present, ?_⟩
  have whole : front ++ back = (front ++ back.take count) ++
      back.drop count := by
    rw [List.append_assoc, List.take_append_drop]
  rw [length, left] at remaining
  rw [accumulated, length] at counted
  by_cases last : back.drop count = []
  · have all : back.take count = back := by
      have joined := List.take_append_drop count back
      rwa [last, List.append_nil] at joined
    have exhausted : count = back.length := by
      rw [← length, all]
    apply Aligned.acknowledge (front ++ back) rest rfl
    · rw [nextPc]
      have none : ¬(0 : UInt32) < (state.receivePayload
          (Backend.present buffers)
          (.received (back.take count))).recvSize := by
        rw [UInt32.lt_iff_toNat_lt, remaining]
        simp only [UInt32.toNat_zero]
        omega
      simp only [WriteStream.payloadOrAcknowledge, if_neg none]
    · rw [iteration, all]
      rfl
    · rw [last, List.nil_append]
    · rw [counted, List.length_append]
      omega
  · have some := List.length_pos_of_ne_nil last
    rw [List.length_drop] at some
    apply Aligned.payload (front ++ back.take count) (back.drop count) rest
    · rw [whole]
    · rw [nextPc]
      have positive : (0 : UInt32) < (state.receivePayload
          (Backend.present buffers)
          (.received (back.take count))).recvSize := by
        rw [UInt32.lt_iff_toNat_lt, remaining]
        simp only [UInt32.toNat_zero]
        omega
      simp only [WriteStream.payloadOrAcknowledge, if_pos positive]
    · exact last
    · rw [iteration, ← whole]
    · rw [remaining, List.length_drop]
    · rfl
    · rw [counted, List.length_append, length]
      omega

/-- A `recv` of the writing server: it takes the field it stands at whole, or
a piece of the payload. -/
theorem receive {buffers : Nat → ByteMemory} {buffer : ByteMemory}
    {count : Nat} (aligned : Aligned waiting moved state current inFlight)
    (holding : state.chBuffer = some buffer)
    (small : ∀ data ∈ waiting, data.length < 2 ^ 32) (positive : 0 < count)
    (wanted : count ≤ state.wanted) (available : count ≤ inFlight.length)
    (whole : state.pc ≠ .payload → count = state.wanted) :
    (∃ next, (state.step (present buffers)
        (.received (inFlight.take count))).chBuffer = some next) ∧
      Aligned waiting moved
        (state.step (present buffers) (.received (inFlight.take count)))
        (state.record (inFlight.take count) current)
        (inFlight.drop count) := by
  simp only [WriteStream.wanted] at wanted whole
  cases aligned with
  | startCmd pc bytes accumulated =>
      simp only [pc] at whole
      obtain rfl : count = 1 := whole (by decide)
      refine ⟨⟨buffer, ?_⟩, .receiveStartCmd pc bytes accumulated available⟩
      simp only [WriteStream.step, pc, WriteStream.receiveStartCmd, holding]
  | size data rest next pc start empty bytes accumulated =>
      simp only [pc] at whole
      obtain rfl : count = 4 := whole (by decide)
      have field : inFlight.take 4 =
          littleEndian32 (UInt32.ofNat data.length) := by
        rw [bytes]
        exact List.take_left' rfl
      have behind : inFlight.drop 4 =
          data ++ rest.flatMap writeStreamMessage := by
        rw [bytes]
        exact List.drop_left' rfl
      have fits : data.length < 2 ^ 32 := small data (by simp [next])
      rw [field, behind, next]
      refine ⟨⟨buffer, ?_⟩, .receiveSize fits pc start empty accumulated⟩
      simp only [WriteStream.step, pc, WriteStream.receiveSize, holding]
  | payload front back rest next pc more iteration left bytes accumulated =>
      simp only [pc] at wanted
      have within : count ≤ back.length := by
        rw [← left]
        exact wanted
      have piece : inFlight.take count = back.take count := by
        rw [bytes]
        exact List.take_append_of_le_length within
      have behind : inFlight.drop count =
          back.drop count ++ rest.flatMap writeStreamMessage := by
        rw [bytes]
        exact List.drop_append_of_le_length within
      rw [piece, behind, next]
      exact Aligned.receivePayload holding pc iteration left accumulated
        positive within
  | acknowledge data rest next pc iteration bytes accumulated =>
      simp only [pc] at wanted
      omega

end Aligned

namespace InStep

variable {exchange : WriteExchange}

theorem finished_le (inStep : InStep exchange) :
    exchange.finished.length ≤ exchange.sent.length := by
  have lengths := congrArg List.length inStep.iterations
  rw [List.length_map, List.length_take] at lengths
  omega

theorem opened : InStep WriteExchange.opened :=
  ⟨by simp [WriteExchange.opened], rfl, rfl, rfl, rfl, rfl, rfl, rfl⟩

theorem framed (inStep : InStep exchange) : Framed exchange := by
  refine ⟨?_, inStep.iterations, inStep.acknowledged, ?_⟩
  · have messages : (exchange.sent.map messageWrite).filter
        (fun write => !write.vectored) = [] := by
      simp [List.filter_eq_nil_iff, messageWrite]
    rw [inStep.writes, List.filter_append, messages, List.append_nil]
    split
    · rfl
    · rfl
  · intro state writing between
    have server := inStep.server
    rw [writing] at server
    obtain ⟨_, _, aligned⟩ := server
    cases aligned with
    | startCmd pc bytes accumulated => exact ⟨bytes, accumulated⟩
    | size data rest next pc start empty bytes accumulated =>
        rw [between] at pc
        cases pc
    | payload front back rest next pc more iteration left bytes accumulated =>
        rw [between] at pc
        cases pc
    | acknowledge data rest next pc iteration bytes accumulated =>
        rw [between] at pc
        cases pc

theorem ioWriteStreamNet_eq (inStep : InStep exchange) (data : List UInt8) :
    (ioWriteStreamNet exchange.client data).2 =
      (if exchange.sent = [] then [openingWrite] else []) ++
        [messageWrite data] := by
  simp only [ioWriteStreamNet, inStep.handshaked]
  by_cases first : exchange.sent = []
  · simp [first, openingWrite, messageWrite]
  · simp [first, messageWrite]

theorem write (inStep : InStep exchange) {data : List UInt8}
    (small : data.length < 2 ^ 32) :
    InStep { exchange with
      client := (ioWriteStreamNet exchange.client data).1
      sent := exchange.sent ++ [data]
      writes := exchange.writes ++
        (ioWriteStreamNet exchange.client data).2
      inFlight := exchange.inFlight ++
        (ioWriteStreamNet exchange.client data).2.flatMap
          SocketWrite.bytes } := by
  have bound := inStep.finished_le
  have written := inStep.ioWriteStreamNet_eq data
  have front : (exchange.sent ++ [data]).take exchange.finished.length =
      exchange.sent.take exchange.finished.length :=
    List.take_append_of_le_length bound
  have back : (exchange.sent ++ [data]).drop exchange.finished.length =
      exchange.sent.drop exchange.finished.length ++ [data] :=
    List.drop_append_of_le_length bound
  have someSent : exchange.sent ++ [data] ≠ [] := by simp
  refine ⟨?_, inStep.unread, ?_, ?_, ?_, inStep.acknowledged, ?_⟩
  · intro item member
    rcases List.mem_append.mp member with old | new
    · exact inStep.small item old
    · rw [List.mem_singleton.mp new]
      exact small
  · simp [ioWriteStreamNet]
  · simp only [written, inStep.writes, if_neg someSent, List.map_append,
      List.map_cons, List.map_nil]
    by_cases first : exchange.sent = []
    · simp [first]
    · simp [first]
  · simp only [front]
    exact inStep.iterations
  · have server := inStep.server
    cases at_ : exchange.server with
    | dispatching =>
        rw [at_] at server
        obtain ⟨nothing, bytes⟩ := server
        refine ⟨nothing, ?_⟩
        simp only [bytes, List.flatMap_append]
    | writing state =>
        rw [at_] at server
        obtain ⟨nonempty, holding, aligned⟩ := server
        refine ⟨someSent, holding, ?_⟩
        have extended := aligned.extend data
        simp only [front, back, written, if_neg nonempty, List.nil_append,
          List.flatMap_cons, List.flatMap_nil, List.append_nil]
        exact extended
    | elsewhere =>
        rw [at_] at server
        exact server.elim

theorem sync (inStep : InStep exchange) :
    InStep { exchange with
      client := ioSyncStreamDeviceNet exchange.client } := by
  have unchanged : ioSyncStreamDeviceNet exchange.client =
      exchange.client := by
    simp [ioSyncStreamDeviceNet, inStep.unread]
  rw [unchanged]
  exact inStep

theorem receive {buffers : Nat → ByteMemory} {startCmd : UInt8} {count : Nat}
    (inStep : InStep exchange) (positive : 0 < count)
    (wanted : count ≤ exchange.server.wanted)
    (available : count ≤ exchange.inFlight.length)
    (whole : ¬exchange.server.AtPayload → count = exchange.server.wanted) :
    InStep { exchange with
      server := exchange.server.receive
        { buffers := present buffers, startCmd := startCmd }
        (exchange.inFlight.take count)
      current := exchange.server.record (exchange.inFlight.take count)
        exchange.current
      inFlight := exchange.inFlight.drop count } := by
  refine ⟨inStep.small, inStep.unread, inStep.handshaked, inStep.writes,
    inStep.iterations, inStep.acknowledged, ?_⟩
  have server := inStep.server
  cases at_ : exchange.server with
  | dispatching =>
      rw [at_] at server whole
      obtain ⟨nothing, bytes⟩ := server
      obtain rfl : count = 1 := whole id
      have nonempty : exchange.sent ≠ [] := by
        intro none
        rw [bytes, inStep.writes, none] at available
        simp at available
      have opening : exchange.inFlight =
          CmdCallType.callWriteStream.code ::
            exchange.sent.flatMap writeStreamMessage := by
        rw [bytes, inStep.writes, if_neg nonempty, List.flatMap_append,
          messageWrites_bytes]
        rfl
      simp only [opening, List.take_succ_cons, List.take_zero,
        List.drop_succ_cons, List.drop_zero, StreamServer.receive,
        List.head?_cons, if_true]
      refine ⟨nonempty, ⟨buffers 0, rfl⟩, ?_⟩
      simp only [nothing, List.length_nil, List.drop_zero, List.take_zero]
      exact .startCmd rfl rfl rfl
  | writing state =>
      rw [at_] at server whole wanted
      obtain ⟨nonempty, ⟨buffer, holding⟩, aligned⟩ := server
      have small : ∀ data ∈ exchange.sent.drop exchange.finished.length,
          data.length < 2 ^ 32 := by
        intro data member
        exact inStep.small data (List.mem_of_mem_drop member)
      exact ⟨nonempty, aligned.receive holding small positive wanted
        available whole⟩
  | elsewhere =>
      rw [at_] at server
      exact server.elim

theorem acknowledge {setting : ServerSetting} (inStep : InStep exchange)
    (ready : exchange.server.Acknowledging) :
    InStep { exchange with
      server := exchange.server.acknowledge setting
      finished := exchange.finished ++ [exchange.current]
      acknowledged := exchange.acknowledged ++ [1] } := by
  have server := inStep.server
  cases at_ : exchange.server with
  | dispatching =>
      rw [at_] at ready
      exact ready.elim
  | elsewhere =>
      rw [at_] at ready
      exact ready.elim
  | writing state =>
      rw [at_] at server ready
      have ready : state.pc = .acknowledge := ready
      obtain ⟨nonempty, ⟨buffer, holding⟩, aligned⟩ := server
      cases aligned with
      | startCmd pc bytes accumulated =>
          rw [ready] at pc
          cases pc
      | size data rest next pc start empty bytes accumulated =>
          rw [ready] at pc
          cases pc
      | payload front back rest next pc more iteration left bytes
          accumulated =>
          rw [ready] at pc
          cases pc
      | acknowledge data rest next pc iteration bytes accumulated =>
          have count : (exchange.finished ++ [exchange.current]).length =
              exchange.finished.length + 1 := by
            rw [List.length_append, List.length_singleton]
          have front : exchange.sent.take (exchange.finished.length + 1) =
              exchange.sent.take exchange.finished.length ++ [data] := by
            rw [List.take_add, next, List.take_succ_cons, List.take_zero]
          have back : exchange.sent.drop (exchange.finished.length + 1) =
              rest := by
            rw [← List.drop_drop, next, List.drop_succ_cons, List.drop_zero]
          refine ⟨inStep.small, inStep.unread, inStep.handshaked,
            inStep.writes, ?_, ?_, nonempty, ⟨buffer, ?_⟩, ?_⟩
          · simp only [count, front, List.map_append, List.map_cons,
              List.map_nil]
            rw [← inStep.iterations, iteration]
          · simp only [count, inStep.acknowledged, List.replicate_succ']
          · simp only [WriteStream.step, ready, WriteStream.sendAcknowledge,
              holding]
          · simp only [count, front, back, totalSize_append]
            apply Aligned.startCmd
            · simp [WriteStream.step, ready, WriteStream.sendAcknowledge]
            · exact bytes
            · simp only [WriteStream.step, ready,
                WriteStream.sendAcknowledge]
              rw [accumulated]
              simp [totalSize]

/-- Every move of either end keeps them in step. -/
theorem step {buffers : Nat → ByteMemory} {startCmd : UInt8}
    {next : WriteExchange} {move : WriteExchangeMove}
    (inStep : InStep exchange)
    (moved : WriteExchangeStep
      { buffers := present buffers, startCmd := startCmd } exchange move
      next) : InStep next := by
  cases moved with
  | write data small => exact inStep.write small
  | sync => exact inStep.sync
  | receive count positive wanted available whole =>
      exact inStep.receive positive wanted available whole
  | acknowledge ready => exact inStep.acknowledge ready

theorem of_reachable {buffers : Nat → ByteMemory} {startCmd : UInt8}
    {exchange : WriteExchange}
    (reached : (writeExchanges
      { buffers := present buffers, startCmd := startCmd }).Reachable
      .opened exchange) : InStep exchange := by
  apply reached.invariant InStep InStep.opened
  intro state move next inStep moved
  exact inStep.step moved

theorem stuck {setting : ServerSetting} (inStep : InStep exchange)
    (stuck : (servedExchanges setting).Stuck exchange) :
    exchange.finished = exchange.sent.map iterationOf ∧
      exchange.inFlight = [] := by
  have blocked : ∀ count, 0 < count → count ≤ exchange.server.wanted →
      (¬exchange.server.AtPayload → count = exchange.server.wanted) →
      exchange.inFlight.length < count := by
    intro count positive wanted whole
    by_contra available
    exact stuck (.receive count) _
      ⟨trivial, .receive count positive wanted (by omega) whole⟩
  have unready : ¬exchange.server.Acknowledging := fun ready =>
    stuck .acknowledge _ ⟨trivial, .acknowledge ready⟩
  have server := inStep.server
  have iterations := inStep.iterations
  cases at_ : exchange.server with
  | dispatching =>
      rw [at_] at server blocked
      obtain ⟨nothing, bytes⟩ := server
      have short := blocked 1 (by decide) (by decide) (fun _ => rfl)
      have empty : exchange.inFlight = [] :=
        List.eq_nil_of_length_eq_zero (by omega)
      refine ⟨?_, empty⟩
      by_cases none : exchange.sent = []
      · rw [nothing, none, List.map_nil]
      · rw [bytes, inStep.writes, if_neg none] at empty
        cases empty
  | elsewhere =>
      rw [at_] at server
      exact server.elim
  | writing state =>
      rw [at_] at server blocked unready
      simp only [StreamServer.wanted, WriteStream.wanted,
        StreamServer.AtPayload] at blocked
      obtain ⟨_, _, aligned⟩ := server
      cases aligned with
      | startCmd pc bytes accumulated =>
          simp only [pc] at blocked
          have short := blocked 1 (by decide) (by decide) (fun _ => rfl)
          have empty : exchange.inFlight = [] :=
            List.eq_nil_of_length_eq_zero (by omega)
          refine ⟨?_, empty⟩
          cases waiting : exchange.sent.drop exchange.finished.length with
          | nil =>
              have all := List.drop_eq_nil_iff.mp waiting
              rw [List.take_of_length_le all] at iterations
              exact iterations
          | cons data rest =>
              rw [waiting, flatMap_message_cons, empty] at bytes
              cases bytes
      | size data rest next pc start empty bytes accumulated =>
          simp only [pc] at blocked
          have short := blocked 4 (by decide) (by decide) (fun _ => rfl)
          rw [bytes, List.length_append, length_littleEndian32] at short
          omega
      | payload front back rest next pc more iteration left bytes
          accumulated =>
          simp only [pc] at blocked
          have positive := List.length_pos_of_ne_nil more
          have short := blocked 1 (by decide) (by omega)
            (fun elsewhere => (elsewhere trivial).elim)
          rw [bytes, List.length_append] at short
          omega
      | acknowledge data rest next pc iteration bytes accumulated =>
          exact (unready pc).elim

end InStep

/-- What is left for the server to do. -/
def pendingWork (exchange : WriteExchange) : Nat :=
  2 * exchange.inFlight.length +
    if exchange.server.Acknowledging then 1 else 0

theorem pendingWork_lowered {setting : ServerSetting}
    {exchange next : WriteExchange} {move : WriteExchangeMove}
    (moved : (servedExchanges setting).step exchange move next) :
    next.pendingWork < exchange.pendingWork := by
  obtain ⟨ofServer, step⟩ := moved
  cases step with
  | write data small => exact ofServer.elim
  | sync => exact ofServer.elim
  | receive count positive wanted available whole =>
      simp only [pendingWork, List.length_drop]
      split <;> split <;> omega
  | acknowledge ready =>
      have done :
          ¬(exchange.server.acknowledge setting).Acknowledging := by
        cases at_ : exchange.server with
        | dispatching =>
            rw [at_] at ready
            exact ready.elim
        | elsewhere =>
            rw [at_] at ready
            exact ready.elim
        | writing state =>
            rw [at_] at ready
            have pc : state.pc = .acknowledge := ready
            simp [StreamServer.acknowledge, StreamServer.Acknowledging,
              WriteStream.step, pc, WriteStream.sendAcknowledge]
      simp only [pendingWork, if_pos ready, if_neg done]
      omega

theorem servedExchanges_sent {setting : ServerSetting}
    {exchange later : WriteExchange}
    (reached : (servedExchanges setting).Reachable exchange later) :
    later.sent = exchange.sent := by
  apply reached.invariant (fun state => state.sent = exchange.sent) rfl
  rintro state move next same ⟨ofServer, step⟩
  cases step with
  | write data small => exact ofServer.elim
  | sync => exact ofServer.elim
  | receive count positive wanted available whole => exact same
  | acknowledge ready => exact same

/-- The stream is framed in every state, and the server by itself gets
through all calls made so far. -/
theorem writeStream_framed {buffers : Nat → ByteMemory} {startCmd : UInt8}
    {exchange : WriteExchange}
    (reached : (writeExchanges
      { buffers := present buffers, startCmd := startCmd }).Reachable
      .opened exchange) :
    Framed exchange ∧
      ∃ later, (servedExchanges
          { buffers := present buffers, startCmd := startCmd }).Reachable
          exchange later ∧ Framed later ∧
        later.finished = exchange.sent.map iterationOf ∧
        later.inFlight = [] := by
  have inStep := InStep.of_reachable reached
  refine ⟨inStep.framed, ?_⟩
  obtain ⟨later, served, stuck⟩ := (servedExchanges
    { buffers := present buffers, startCmd := startCmd }).exists_stuck
    pendingWork (fun _ _ _ moved => pendingWork_lowered moved) exchange
  have laterInStep : InStep later := by
    apply served.invariant InStep inStep
    rintro state move next stateInStep ⟨_, step⟩
    exact stateInStep.step step
  obtain ⟨finished, empty⟩ := laterInStep.stuck stuck
  rw [servedExchanges_sent served] at finished
  exact ⟨later, served, laterInStep.framed, finished, empty⟩

theorem writeExchanges_step {setting : ServerSetting}
    {first exchange next : WriteExchange} {move : WriteExchangeMove}
    (reached : (writeExchanges setting).Reachable first exchange)
    (moved : WriteExchangeStep setting exchange move next) :
    (writeExchanges setting).Reachable first next :=
  reached.step moved

/-- An empty call, a synchronisation and a call of three bytes, of all which
the server has read the opening byte. -/
def emptyThenThree : WriteExchange :=
  { client := { handshaked := true, remainRecvSize := 0 }
    sent := [[], [6, 0, 6]]
    writes := [openingWrite, messageWrite [], messageWrite [6, 0, 6]]
    inFlight := writeStreamMessage [] ++ writeStreamMessage [6, 0, 6]
    server := .writing (.enter (present fun _ _ => 0) 0)
    current := { startCmd := 0, size := 0, payload := [] }
    finished := [], acknowledged := [] }

theorem emptyThenThree_reachable :
    (writeExchanges
      { buffers := present fun _ _ => 0, startCmd := 0 }).Reachable
      .opened emptyThenThree := by
  have first := writeExchanges_step (.refl (writeExchanges
    { buffers := present fun _ _ => 0, startCmd := 0 }) .opened)
    (.write [] (by decide))
  have synchronised := writeExchanges_step first .sync
  have second := writeExchanges_step synchronised
    (.write [6, 0, 6] (by decide))
  exact writeExchanges_step second
    (.receive 1 (by decide) (by decide) (by decide) (fun _ => rfl))

/-- From there the server reads the empty and then the longer message. -/
theorem emptyThenThree_framed :
    Framed emptyThenThree ∧
      ∃ later, (servedExchanges
          { buffers := present fun _ _ => 0, startCmd := 0 }).Reachable
          emptyThenThree later ∧ Framed later ∧
        later.finished = [iterationOf [], iterationOf [6, 0, 6]] ∧
        later.inFlight = [] :=
  writeStream_framed emptyThenThree_reachable

end WriteExchange

end StreamIO.Backend
