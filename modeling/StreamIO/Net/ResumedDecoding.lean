import StreamIO.Net.ResumedRead

/-!
# Decoding a stream with the resumed reader

Sequences of calls of `io_read_stream_net` on the packets of a server.  A byte
on the wire is marked with whether it is payload, which the machine does not
see, so that the account of what a call has stored tells payload from the
start bytes and length fields.
-/

namespace StreamIO.Net

open StreamIO.Library

/-- A byte on the wire. -/
structure WireByte where
  byte : UInt8
  isPayload : Bool
  deriving DecidableEq, Repr

def marked (isPayload : Bool) (bytes : List UInt8) : List WireByte :=
  bytes.map fun byte => { byte := byte, isPayload := isPayload }

/-- A payload whose length fits its field and is not zero. -/
structure ServerPacket where
  payload : List UInt8
  positive : 0 < payload.length
  small : payload.length < 4294967296

namespace ServerPacket

def header (packet : ServerPacket) : List UInt8 :=
  [readStreamStart] ++ littleEndian32 (UInt32.ofNat packet.payload.length)

def wire (packet : ServerPacket) : List WireByte :=
  marked false packet.header ++ marked true packet.payload

end ServerPacket

/-- A call of `io_read_stream_net` for a positive size. -/
structure ResumedCall where
  memory : ByteMemory
  size : UInt32
  positive : 0 < size.toNat
  cuts : Nat → Nat

/-- The client with the bytes that are still to come. -/
structure ResumedClient where
  device : NetDeviceState
  inbound : List WireByte

/-- A call under way, with the bytes it has stored. -/
structure ResumedReceiving where
  call : ResumedRead
  inbound : List WireByte
  kept : List WireByte

namespace ResumedRead

/-- How many bytes a `recv` takes if they are there: start byte and length
whole, of the payload at most `cut` more than one. -/
def takes (call : ResumedRead) (cut : Nat) : Nat :=
  match call.pc with
  | .startCmd => 1
  | .size => 4
  | .payload => min call.size.toNat (cut + 1)
  | .returned => 0

end ResumedRead

namespace ResumedReceiving

/-- One `recv`. -/
def receive (state : ResumedReceiving) (cut : Nat) : ResumedReceiving :=
  let piece := state.inbound.take (state.call.takes cut)
  { call := state.call.step (.received (piece.map WireByte.byte))
    inbound := state.inbound.drop piece.length
    kept :=
      if state.call.pc = .payload then state.kept ++ piece else state.kept }

/-- The first `count` calls of `recv`. -/
def run (state : ResumedReceiving) (cuts : Nat → Nat) :
    (count : Nat) → ResumedReceiving
  | 0 => state
  | count + 1 =>
      run (state.receive (cuts 0)) (fun index => cuts (index + 1)) count

end ResumedReceiving

/-- `io_read_stream_net` at its end. -/
def ioReadStreamNet (client : ResumedClient) (call : ResumedCall) :
    ResumedReceiving :=
  ResumedReceiving.run
    { call := ResumedRead.enter client.device call.memory call.size
      inbound := client.inbound
      kept := [] }
    call.cuts (call.size.toNat + 2)

/-- The client after a call. -/
def ResumedClient.after (state : ResumedReceiving) : ResumedClient :=
  { device :=
      { handshaked := true, remainRecvSize := state.call.remainRecvSize }
    inbound := state.inbound }

/-- The ends of the calls, one after the other. -/
def resumedCalls : ResumedClient → List ResumedCall → List ResumedReceiving
  | _, [] => []
  | client, call :: calls =>
      let state := ioReadStreamNet client call
      state :: resumedCalls (ResumedClient.after state) calls

/-- What a call has left in the memory of its caller. -/
def ResumedReceiving.stored (state : ResumedReceiving) : List UInt8 :=
  state.call.memory.load 0 state.call.bufferPtr.toNat

/-- The client of a device that was just opened. -/
def ResumedClient.opened (packets : List ServerPacket) : ResumedClient :=
  { device := .opened, inbound := packets.flatMap ServerPacket.wire }

/-- What the calls have stored are these payloads as far as they go, and no
byte of what is in front of a payload. -/
def KeepsTo (states : List ResumedReceiving) (payloads : List UInt8) : Prop :=
  states.flatMap ResumedReceiving.stored <+: payloads ∧
    ∀ state ∈ states, ∀ item ∈ state.kept, item.isPayload = true

def StoresPayloads (packets : List ServerPacket)
    (calls : List ResumedCall) : Prop :=
  KeepsTo (resumedCalls (.opened packets) calls)
    (packets.flatMap ServerPacket.payload)

/-- With so many bytes of a packet left and these lengths to follow, a call
that begins a packet asks for no more than it has, unless it is the last. -/
def AsksWithin : Nat → List Nat → List Nat → Prop
  | _, _, [] => True
  | 0, [], _ :: _ => True
  | 0, length :: lengths, size :: sizes =>
      (size ≤ length ∨ lengths = []) ∧
        AsksWithin (length - size) lengths sizes
  | left + 1, lengths, size :: sizes =>
      AsksWithin (left + 1 - size) lengths sizes

namespace ResumedReceiving

variable {state : ResumedReceiving} {cuts : Nat → Nat}

theorem run_returned (returned : state.call.pc = .returned)
    (cuts : Nat → Nat) (count : Nat) : state.run cuts count = state := by
  induction count generalizing cuts with
  | zero => rfl
  | succ count induction =>
      have same : state.receive (cuts 0) = state := by
        simp [receive, ResumedRead.takes, ResumedRead.step, returned]
      rw [run, same, induction]

/-- The state of a call in its loop, or behind it. -/
structure Looping (state : ResumedReceiving) : Prop where
  pc : state.call.pc = ResumedRead.payloadOrReturn state.call.size
  remains : state.call.size.toNat ≤ state.call.remainRecvSize.toNat
  fits : state.call.bufferPtr.toNat + state.call.size.toNat < 4294967296

/-- What the loop has come to when `count` bytes were there for it. -/
structure Taken (before after : ResumedReceiving) (count : Nat) : Prop where
  returned : after.call.pc = .returned
  inbound : after.inbound = before.inbound.drop count
  kept : after.kept = before.kept ++ before.inbound.take count
  memory : after.call.memory =
    before.call.memory.store before.call.bufferPtr.toNat
      ((before.inbound.take count).map WireByte.byte)
  bufferPtr : after.call.bufferPtr.toNat =
    before.call.bufferPtr.toNat + count
  remainRecvSize : after.call.remainRecvSize.toNat =
    before.call.remainRecvSize.toNat - count

theorem Looping.payload (looping : Looping state)
    (positive : 0 < state.call.size.toNat) : state.call.pc = .payload := by
  rw [looping.pc, ResumedRead.payloadOrReturn, if_pos]
  rw [UInt32.lt_iff_toNat_lt]
  exact positive

theorem Looping.ended (looping : Looping state)
    (none : state.call.size.toNat = 0) : state.call.pc = .returned := by
  rw [looping.pc, ResumedRead.payloadOrReturn, if_neg]
  rw [UInt32.lt_iff_toNat_lt, none]
  exact Nat.lt_irrefl 0

theorem Taken.nothing (returned : state.call.pc = .returned) :
    Taken state state 0 := by
  constructor
  · exact returned
  · rfl
  · rw [List.take_zero, List.append_nil]
  · rw [List.take_zero, List.map_nil, ByteMemory.store_nil]
  · rfl
  · rfl

theorem Taken.after {middle after : ResumedReceiving} {first second : Nat}
    (front : first ≤ state.inbound.length)
    (inbound : middle.inbound = state.inbound.drop first)
    (kept : middle.kept = state.kept ++ state.inbound.take first)
    (memory : middle.call.memory =
      state.call.memory.store state.call.bufferPtr.toNat
        ((state.inbound.take first).map WireByte.byte))
    (bufferPtr : middle.call.bufferPtr.toNat =
      state.call.bufferPtr.toNat + first)
    (remainRecvSize : middle.call.remainRecvSize.toNat =
      state.call.remainRecvSize.toNat - first)
    (back : Taken middle after second) :
    Taken state after (first + second) := by
  have together : (state.inbound.take first) ++
      (state.inbound.drop first).take second =
        state.inbound.take (first + second) := List.take_add.symm
  have length : ((state.inbound.take first).map WireByte.byte).length =
      first := by
    rw [List.length_map, List.length_take, Nat.min_eq_left front]
  constructor
  · exact back.returned
  · rw [back.inbound, inbound, List.drop_drop]
  · rw [back.kept, kept, inbound, List.append_assoc, together]
  · rw [back.memory, memory, bufferPtr, inbound, ← together, List.map_append,
      ← ByteMemory.store_append, length]
  · rw [back.bufferPtr, bufferPtr, Nat.add_assoc]
  · rw [back.remainRecvSize, remainRecvSize, Nat.sub_sub]

theorem receive_payload (looping : Looping state)
    (positive : 0 < state.call.size.toNat)
    (present : 0 < state.inbound.length) (cut : Nat) :
    ∃ count, 0 < count ∧ count ≤ state.call.size.toNat ∧
      count ≤ state.inbound.length ∧
      (state.receive cut).inbound = state.inbound.drop count ∧
      (state.receive cut).kept = state.kept ++ state.inbound.take count ∧
      (state.receive cut).call = state.call.receivePayload
        (.received ((state.inbound.take count).map WireByte.byte)) := by
  have pc := looping.payload positive
  have takes : state.call.takes cut = min state.call.size.toNat (cut + 1) := by
    rw [ResumedRead.takes, pc]
  obtain ⟨count, length⟩ : ∃ count,
      (state.inbound.take (state.call.takes cut)).length = count := ⟨_, rfl⟩
  have value := length
  rw [List.length_take, takes] at value
  have same : state.inbound.take (state.call.takes cut) =
      state.inbound.take count := by
    rw [← length, List.length_take]
    exact List.take_eq_take_min
  refine ⟨count, by omega, by omega, by omega, ?_, ?_, ?_⟩
  · rw [receive, length]
  · rw [receive, if_pos pc, same]
  · rw [receive, same, ResumedRead.step, pc]

theorem receivePayload_piece (call : ResumedRead) {piece : List UInt8}
    (nonempty : piece ≠ []) (small : piece.length < 2 ^ 32) :
    call.receivePayload (.received piece) =
      { call with
        memory := call.memory.store call.bufferPtr.toNat piece
        size := call.size - (SocketResult.received piece).count
        remainRecvSize :=
          call.remainRecvSize - (SocketResult.received piece).count
        bufferPtr := call.bufferPtr + (SocketResult.received piece).count
        pc := ResumedRead.payloadOrReturn
          (call.size - (SocketResult.received piece).count) } := by
  rw [ResumedRead.receivePayload, if_neg (count_received_pos nonempty small)]
  rfl

theorem Looping.receive (looping : Looping state)
    (positive : 0 < state.call.size.toNat)
    (present : 0 < state.inbound.length) (cut : Nat) :
    ∃ count, 0 < count ∧ count ≤ state.call.size.toNat ∧
      count ≤ state.inbound.length ∧ Looping (state.receive cut) ∧
      (state.receive cut).call.size.toNat =
        state.call.size.toNat - count ∧
      (state.receive cut).inbound = state.inbound.drop count ∧
      ∀ {after : ResumedReceiving} {more : Nat},
        Taken (state.receive cut) after more →
        Taken state after (count + more) := by
  obtain ⟨count, some, within, inside, inbound, kept, call⟩ :=
    receive_payload looping positive present cut
  obtain ⟨piece, piece_eq⟩ : ∃ piece,
      (state.inbound.take count).map WireByte.byte = piece := ⟨_, rfl⟩
  have length : piece.length = count := by
    rw [← piece_eq, List.length_map, List.length_take, Nat.min_eq_left inside]
  have nonempty : piece ≠ [] := by
    apply List.ne_nil_of_length_pos
    rw [length]
    exact some
  have bound : state.call.size.toNat < 4294967296 := state.call.size.toNat_lt
  have remains := looping.remains
  have fits := looping.fits
  rw [piece_eq, receivePayload_piece state.call nonempty (by omega)] at call
  have size : (state.receive cut).call.size.toNat =
      state.call.size.toNat - count := by
    rw [call, ← length]
    exact toNat_sub_received (by omega)
  have remain : (state.receive cut).call.remainRecvSize.toNat =
      state.call.remainRecvSize.toNat - count := by
    rw [call, ← length]
    exact toNat_sub_received (by omega)
  have bufferPtr : (state.receive cut).call.bufferPtr.toNat =
      state.call.bufferPtr.toNat + count := by
    rw [call, ← length]
    exact toNat_add_received (by omega)
  refine ⟨count, some, within, inside, ?_, size, inbound, ?_⟩
  · constructor
    · rw [call]
    · rw [size, remain]
      omega
    · rw [size, bufferPtr]
      omega
  · intro after more back
    apply Taken.after inside inbound kept _ bufferPtr remain back
    rw [call, piece_eq]

theorem receive_closed (looping : Looping state)
    (positive : 0 < state.call.size.toNat)
    (closed : state.inbound = []) (cut : Nat) :
    Taken state (state.receive cut) 0 := by
  have pc := looping.payload positive
  have after : state.receive cut =
      { state with call := { state.call with pc := .returned } } := by
    have step : state.call.step (.received []) =
        { state.call with pc := .returned } := by
      rw [ResumedRead.step, pc]
      rfl
    rw [receive, closed, List.take_nil, List.map_nil, step, if_pos pc,
      List.append_nil]
    rfl
  rw [after]
  constructor
  · rfl
  · rfl
  · rw [List.take_zero, List.append_nil]
  · rw [List.take_zero, List.map_nil, ByteMemory.store_nil]
  · rfl
  · rfl

/-- The loop takes what it wants as far as it is there, however it is cut. -/
theorem run_taken (looping : Looping state) (cuts : Nat → Nat) {fuel : Nat}
    (enough : state.call.size.toNat ≤ fuel) :
    Taken state (state.run cuts fuel)
      (min state.call.size.toNat state.inbound.length) := by
  induction fuel generalizing state cuts with
  | zero =>
      have none : state.call.size.toNat = 0 := Nat.le_zero.mp enough
      rw [none, Nat.zero_min]
      exact Taken.nothing (looping.ended none)
  | succ fuel induction =>
      by_cases positive : 0 < state.call.size.toNat
      · by_cases present : 0 < state.inbound.length
        · obtain ⟨count, some, within, inside, next, size, inbound,
            together⟩ := looping.receive positive present (cuts 0)
          have back := induction next (fun index => cuts (index + 1))
            (by omega)
          have all : min state.call.size.toNat state.inbound.length =
              count + min (state.receive (cuts 0)).call.size.toNat
                (state.receive (cuts 0)).inbound.length := by
            rw [size, inbound, List.length_drop]
            omega
          rw [run, all]
          exact together back
        · have closed : state.inbound = [] :=
            List.length_eq_zero_iff.mp (by omega)
          have first := receive_closed looping positive closed (cuts 0)
          rw [run, run_returned first.returned, closed, List.length_nil,
            Nat.min_zero]
          exact first
      · have none : state.call.size.toNat = 0 := by omega
        rw [run_returned (looping.ended none), none, Nat.zero_min]
        exact Taken.nothing (looping.ended none)

/-- A call that has returned with the first `count` bytes of a stream. -/
structure Ends (after : ResumedReceiving) (stream : List WireByte)
    (remain count : Nat) : Prop where
  returned : after.call.pc = .returned
  inbound : after.inbound = stream.drop count
  kept : after.kept = stream.take count
  stored : after.stored = (stream.take count).map WireByte.byte
  remainRecvSize : after.call.remainRecvSize.toNat = remain - count

theorem Taken.ends {after : ResumedReceiving} {count : Nat}
    (taken : Taken state after count) (within : count ≤ state.inbound.length)
    (kept : state.kept = []) (bufferPtr : state.call.bufferPtr = 0) :
    Ends after state.inbound state.call.remainRecvSize.toNat count := by
  have start : state.call.bufferPtr.toNat = 0 := by
    rw [bufferPtr]
    rfl
  have length : ((state.inbound.take count).map WireByte.byte).length =
      count := by
    rw [List.length_map, List.length_take, Nat.min_eq_left within]
  constructor
  · exact taken.returned
  · exact taken.inbound
  · rw [taken.kept, kept, List.nil_append]
  · have stored := ByteMemory.load_store_self state.call.memory 0
      ((state.inbound.take count).map WireByte.byte)
    rw [length] at stored
    rw [ResumedReceiving.stored, taken.memory, taken.bufferPtr, start,
      Nat.zero_add]
    exact stored
  · exact taken.remainRecvSize

end ResumedReceiving

theorem map_byte_marked (isPayload : Bool) (bytes : List UInt8) :
    (marked isPayload bytes).map WireByte.byte = bytes := by
  rw [marked, List.map_map]
  exact List.map_id bytes

theorem length_marked (isPayload : Bool) (bytes : List UInt8) :
    (marked isPayload bytes).length = bytes.length :=
  List.length_map _

theorem take_marked (isPayload : Bool) (bytes : List UInt8) (count : Nat) :
    (marked isPayload bytes).take count =
      marked isPayload (bytes.take count) :=
  List.map_take.symm

theorem drop_marked (isPayload : Bool) (bytes : List UInt8) (count : Nat) :
    (marked isPayload bytes).drop count =
      marked isPayload (bytes.drop count) :=
  List.map_drop.symm

theorem map_byte_wire (packet : ServerPacket) :
    packet.wire.map WireByte.byte = readStreamPacket packet.payload := by
  rw [ServerPacket.wire, List.map_append, map_byte_marked, map_byte_marked]
  rfl

/-- What is left of the last packet when a call begins. -/
def ResumedClient.remain (client : ResumedClient) : UInt32 :=
  (readHandshake client.device).1.remainRecvSize

theorem remain_after (state : ResumedReceiving) :
    (ResumedClient.after state).remain = state.call.remainRecvSize := rfl

variable {client : ResumedClient} {call : ResumedCall}

theorem looping_startLoop {read : ResumedRead} (bufferPtr : read.bufferPtr = 0)
    (inbound kept : List WireByte) :
    ResumedReceiving.Looping
        { call := read.startLoop, inbound := inbound, kept := kept } ∧
      read.startLoop.size.toNat =
        min read.size.toNat read.remainRecvSize.toNat := by
  have bound : ∀ word : UInt32, (0 : UInt32).toNat + word.toNat < 4294967296 :=
    fun word => by
      rw [UInt32.toNat_zero, Nat.zero_add]
      exact word.toNat_lt
  by_cases less : read.remainRecvSize < read.size
  · have values := UInt32.lt_iff_toNat_lt.mp less
    have started : read.startLoop =
        { read with
          size := read.remainRecvSize
          pc := ResumedRead.payloadOrReturn read.remainRecvSize } := by
      simp only [ResumedRead.startLoop, if_pos less]
    rw [started]
    refine ⟨⟨rfl, Nat.le_refl _, ?_⟩, ?_⟩
    · simp only [bufferPtr]
      exact bound _
    · simp only
      omega
  · have values : ¬read.remainRecvSize.toNat < read.size.toNat := by
      rw [← UInt32.lt_iff_toNat_lt]
      exact less
    have started : read.startLoop =
        { read with
          size := read.size
          pc := ResumedRead.payloadOrReturn read.size } := by
      simp only [ResumedRead.startLoop, if_neg less]
    rw [started]
    refine ⟨⟨rfl, Nat.not_lt.mp values, ?_⟩, ?_⟩
    · simp only [bufferPtr]
      exact bound _
    · simp only
      omega

theorem startLoop_ends (read : ResumedRead) (bufferPtr : read.bufferPtr = 0)
    (inbound : List WireByte) (cuts : Nat → Nat) {fuel : Nat}
    (enough : read.size.toNat ≤ fuel) :
    (ResumedReceiving.run
        { call := read.startLoop, inbound := inbound, kept := [] } cuts
        fuel).Ends inbound read.remainRecvSize.toNat
      (min (min read.size.toNat read.remainRecvSize.toNat)
        inbound.length) := by
  obtain ⟨looping, size⟩ := looping_startLoop bufferPtr inbound []
  have wanted : read.startLoop.size.toNat ≤ fuel := by
    rw [size]
    exact Nat.le_trans (Nat.min_le_left _ _) enough
  have taken := ResumedReceiving.run_taken looping cuts wanted
  rw [size] at taken
  exact taken.ends (Nat.min_le_right _ _) rfl bufferPtr

/-- The variables of a call before its first `recv`. -/
def ResumedRead.begun (call : ResumedCall) (remain : UInt32) : ResumedRead :=
  { pc := .startCmd, startCmd := -1, recvSize := 0, size := call.size,
    remainRecvSize := remain, bufferPtr := 0, memory := call.memory }

theorem ioReadStreamNet_resumes (resumes : client.remain ≠ 0) :
    (ioReadStreamNet client call).Ends client.inbound client.remain.toNat
      (min (min call.size.toNat client.remain.toNat)
        client.inbound.length) := by
  have entered : ResumedRead.enter client.device call.memory call.size =
      (ResumedRead.begun call client.remain).startLoop :=
    if_neg resumes
  rw [ioReadStreamNet, entered]
  exact startLoop_ends (ResumedRead.begun call client.remain) rfl
    client.inbound call.cuts (Nat.le_add_right call.size.toNat 2)

theorem enter_begins (begins : client.remain = 0) :
    ResumedRead.enter client.device call.memory call.size =
      ResumedRead.begun call client.remain :=
  if_pos begins

theorem ioReadStreamNet_empty (begins : client.remain = 0)
    (empty : client.inbound = []) :
    (ioReadStreamNet client call).Ends [] 0 0 := by
  have first : ResumedReceiving.receive
      { call := ResumedRead.begun call client.remain
        inbound := []
        kept := [] } (call.cuts 0) =
      { call := (ResumedRead.begun call client.remain).startLoop
        inbound := []
        kept := [] } := rfl
  have ends := startLoop_ends (ResumedRead.begun call client.remain) rfl []
    (fun index => call.cuts (index + 1)) (Nat.le_succ call.size.toNat)
  rw [List.length_nil, Nat.min_zero] at ends
  rw [ioReadStreamNet, enter_begins begins, empty, ResumedReceiving.run,
    first]
  rw [begins] at ends ⊢
  exact ends

/-- The variables behind the length field of a packet. -/
def ResumedRead.sized (call : ResumedCall) (remain : UInt32)
    (packet : ServerPacket) : ResumedRead :=
  { ResumedRead.begun call remain with
    pc := .size
    startCmd := readStreamStart
    recvSize := UInt32.ofNat packet.payload.length
    remainRecvSize :=
      if call.size < UInt32.ofNat packet.payload.length then
        UInt32.ofNat packet.payload.length
      else call.size }

/-- What is taken for the rest of the packet is never less than the size. -/
theorem remainRecvSize_sized (call : ResumedCall) (remain : UInt32)
    (packet : ServerPacket) :
    (ResumedRead.sized call remain packet).remainRecvSize.toNat =
      max packet.payload.length call.size.toNat := by
  have length : (UInt32.ofNat packet.payload.length).toNat =
      packet.payload.length := UInt32.toNat_ofNat_of_lt' packet.small
  simp only [ResumedRead.sized]
  split
  · rename_i less
    have values := UInt32.lt_iff_toNat_lt.mp less
    rw [length] at values ⊢
    omega
  · rename_i less
    rw [UInt32.lt_iff_toNat_lt, length] at less
    omega

section Packet

variable {packet : ServerPacket} {rest : List WireByte}

theorem receive_start (call : ResumedCall) (remain : UInt32) (cut : Nat) :
    ResumedReceiving.receive
        { call := ResumedRead.begun call remain
          inbound := packet.wire ++ rest
          kept := [] } cut =
      { call :=
          { ResumedRead.begun call remain with
            pc := .size, startCmd := readStreamStart }
        inbound := marked false (littleEndian32
            (UInt32.ofNat packet.payload.length)) ++
          (marked true packet.payload ++ rest)
        kept := [] } := by
  have bytes : packet.wire ++ rest = marked false [readStreamStart] ++
      (marked false (littleEndian32 (UInt32.ofNat packet.payload.length)) ++
        (marked true packet.payload ++ rest)) := by
    rw [ServerPacket.wire, ServerPacket.header, marked, marked, marked,
      marked, List.map_append, List.append_assoc, List.append_assoc]
  rw [bytes]
  rfl

theorem receive_length (call : ResumedCall) (remain : UInt32) (cut : Nat) :
    ResumedReceiving.receive
        { call :=
            { ResumedRead.begun call remain with
              pc := .size, startCmd := readStreamStart }
          inbound := marked false (littleEndian32
              (UInt32.ofNat packet.payload.length)) ++
            (marked true packet.payload ++ rest)
          kept := [] } cut =
      { call := (ResumedRead.sized call remain packet).startLoop
        inbound := marked true packet.payload ++ rest
        kept := [] } := by
  have whole : ∀ behind : List WireByte,
      (marked false (littleEndian32
        (UInt32.ofNat packet.payload.length)) ++ behind).take 4 =
      marked false (littleEndian32
        (UInt32.ofNat packet.payload.length)) := by
    intro behind
    exact List.take_left' rfl
  simp only [ResumedReceiving.receive, ResumedRead.takes, whole,
    map_byte_marked, ResumedRead.step, ResumedRead.receiveSize,
    ResumedRead.begun, receiveWord_whole, List.drop_left]
  rfl

theorem ioReadStreamNet_packet (begins : client.remain = 0)
    (inbound : client.inbound = packet.wire ++ rest) :
    (ioReadStreamNet client call).Ends
      (marked true packet.payload ++ rest)
      (max packet.payload.length call.size.toNat)
      (min call.size.toNat (packet.payload.length + rest.length)) := by
  have ends := startLoop_ends (ResumedRead.sized call client.remain packet)
    rfl (marked true packet.payload ++ rest)
    (fun index => call.cuts (index + 2)) (Nat.le_refl call.size.toNat)
  have wanted : min call.size.toNat
      (max packet.payload.length call.size.toNat) = call.size.toNat :=
    Nat.min_eq_left (Nat.le_max_right _ _)
  have asked : (ResumedRead.sized call client.remain packet).size =
      call.size := rfl
  rw [remainRecvSize_sized, asked, wanted, List.length_append,
    length_marked] at ends
  rw [ioReadStreamNet, enter_begins begins, inbound, ResumedReceiving.run,
    receive_start, ResumedReceiving.run, receive_length]
  exact ends

end Packet

/-- What is left of a packet and the packets behind it; only behind the last
of all may the client expect more than there is. -/
structure Aligned (client : ResumedClient) (left : List UInt8)
    (later : List ServerPacket) : Prop where
  inbound : client.inbound =
    marked true left ++ later.flatMap ServerPacket.wire
  remain : client.remain.toNat = left.length ∨ left = [] ∧ later = []

/-- A call stores these bytes of payloads. -/
structure Delivers (client : ResumedClient) (call : ResumedCall)
    (chunk left : List UInt8) (later : List ServerPacket) : Prop where
  stored : (ioReadStreamNet client call).stored = chunk
  kept : (ioReadStreamNet client call).kept = marked true chunk
  aligned : Aligned (ResumedClient.after (ioReadStreamNet client call)) left
    later

theorem delivers_of_ends {payload : List UInt8} {later : List ServerPacket}
    {remain count : Nat} (within : count ≤ payload.length)
    (ends : (ioReadStreamNet client call).Ends
      (marked true payload ++ later.flatMap ServerPacket.wire) remain count)
    (exact : remain - count = payload.length - count ∨
      payload.drop count = [] ∧ later = []) :
    Delivers client call (payload.take count) (payload.drop count) later := by
  have inside : count ≤ (marked true payload).length := by
    rw [length_marked]
    exact within
  have taken : (marked true payload ++
      later.flatMap ServerPacket.wire).take count =
        marked true (payload.take count) := by
    rw [List.take_append_of_le_length inside, take_marked]
  constructor
  · rw [ends.stored, taken, map_byte_marked]
  · rw [ends.kept, taken]
  · constructor
    · rw [ResumedClient.after, ends.inbound,
        List.drop_append_of_le_length inside, drop_marked]
    · rw [remain_after, ends.remainRecvSize, List.length_drop]
      exact exact

theorem Aligned.resumes {left : List UInt8} {later : List ServerPacket}
    (aligned : Aligned client left later) (some : left ≠ []) :
    Delivers client call (left.take (min call.size.toNat left.length))
      (left.drop (min call.size.toNat left.length)) later := by
  have positive := List.length_pos_of_ne_nil some
  have remain : client.remain.toNat = left.length := by
    rcases aligned.remain with exactly | ⟨none, _⟩
    · exact exactly
    · exact absurd none some
  have resumes : client.remain ≠ 0 := by
    intro zero
    rw [zero, UInt32.toNat_zero] at remain
    omega
  have ends := @ioReadStreamNet_resumes client call resumes
  have there : min (min call.size.toNat client.remain.toNat)
      client.inbound.length = min call.size.toNat left.length := by
    rw [remain, aligned.inbound, List.length_append, length_marked]
    omega
  rw [there, remain, aligned.inbound] at ends
  exact delivers_of_ends (Nat.min_le_right _ _) ends (Or.inl rfl)

theorem Aligned.exhausted (aligned : Aligned client [] []) :
    Delivers client call [] [] [] := by
  have empty : client.inbound = [] := aligned.inbound
  have nothing : ∃ remain, (ioReadStreamNet client call).Ends
      (marked true [] ++ List.flatMap ServerPacket.wire []) remain 0 := by
    by_cases begins : client.remain = 0
    · exact ⟨0, ioReadStreamNet_empty begins empty⟩
    · have ends := @ioReadStreamNet_resumes client call begins
      rw [empty, List.length_nil, Nat.min_zero] at ends
      exact ⟨client.remain.toNat, ends⟩
  obtain ⟨remain, ends⟩ := nothing
  exact delivers_of_ends (Nat.le_refl 0) ends (Or.inr ⟨rfl, rfl⟩)

theorem Aligned.packet {packet : ServerPacket} {later : List ServerPacket}
    (aligned : Aligned client [] (packet :: later)) :
    (ioReadStreamNet client call).Ends
      (marked true packet.payload ++ later.flatMap ServerPacket.wire)
      (max packet.payload.length call.size.toNat)
      (min call.size.toNat (packet.payload.length +
        (later.flatMap ServerPacket.wire).length)) := by
  have begins : client.remain = 0 := by
    rcases aligned.remain with exactly | ⟨_, none⟩
    · exact UInt32.toNat_inj.mp exactly
    · cases none
  exact ioReadStreamNet_packet begins aligned.inbound

theorem Aligned.begins {packet : ServerPacket} {later : List ServerPacket}
    (aligned : Aligned client [] (packet :: later))
    (within : call.size.toNat ≤ packet.payload.length ∨ later = []) :
    Delivers client call
      (packet.payload.take (min call.size.toNat packet.payload.length))
      (packet.payload.drop (min call.size.toNat packet.payload.length))
      later := by
  have ends := @Aligned.packet client call packet later aligned
  have count : min call.size.toNat (packet.payload.length +
      (later.flatMap ServerPacket.wire).length) =
        min call.size.toNat packet.payload.length := by
    rcases within with small | rfl
    · omega
    · rw [List.flatMap_nil, List.length_nil, Nat.add_zero]
  rw [count] at ends
  apply delivers_of_ends (Nat.min_le_right _ _) ends
  by_cases small : call.size.toNat ≤ packet.payload.length
  · left
    omega
  · right
    refine ⟨?_, within.resolve_left small⟩
    apply List.drop_eq_nil_of_le
    omega

/-- A call that asks for more than the packet has goes on into the next. -/
theorem Aligned.runs_on {packet next : ServerPacket}
    {later : List ServerPacket}
    (aligned : Aligned client [] (packet :: next :: later))
    (beyond : packet.payload.length < call.size.toNat) :
    { byte := readStreamStart, isPayload := false } ∈
      (ioReadStreamNet client call).kept := by
  have ends := @Aligned.packet client call packet (next :: later) aligned
  have behind : (next :: later).flatMap ServerPacket.wire =
      { byte := readStreamStart, isPayload := false } ::
        ((next :: later).flatMap ServerPacket.wire).tail := rfl
  rw [ends.kept, behind]
  apply List.mem_of_getElem? (i := packet.payload.length)
  rw [List.getElem?_take_of_lt, List.getElem?_append_right, length_marked,
    Nat.sub_self]
  · rfl
  · rw [length_marked]
  · rw [List.length_cons]
    omega

/-- A call that delivers a part of the payloads leaves the others to the calls
behind it. -/
theorem Delivers.keepsTo_iff {chunk left payloads : List UInt8}
    {later : List ServerPacket}
    (delivers : Delivers client call chunk left later)
    (calls : List ResumedCall) :
    KeepsTo (resumedCalls client (call :: calls)) (chunk ++ payloads) ↔
      KeepsTo (resumedCalls
        (ResumedClient.after (ioReadStreamNet client call)) calls)
        payloads := by
  have all : ∀ item ∈ (ioReadStreamNet client call).kept,
      item.isPayload = true := by
    intro item member
    rw [delivers.kept, marked, List.mem_map] at member
    obtain ⟨byte, _, rfl⟩ := member
    rfl
  rw [KeepsTo, KeepsTo, resumedCalls, List.flatMap_cons, delivers.stored,
    List.prefix_append_right_inj]
  apply and_congr_right
  intro _
  constructor
  · intro every state member
    exact every state (List.mem_cons_of_mem _ member)
  · intro every state member
    rcases List.mem_cons.mp member with rfl | earlier
    · exact all
    · exact every state earlier

theorem asksWithin_cons_left {left size : Nat} (some : 0 < left)
    (lengths sizes : List Nat) :
    AsksWithin left lengths (size :: sizes) ↔
      AsksWithin (left - size) lengths sizes := by
  obtain ⟨less, rfl⟩ := Nat.exists_eq_add_one.mpr some
  rw [AsksWithin]

theorem asksWithin_empty (sizes : List Nat) : AsksWithin 0 [] sizes := by
  cases sizes with
  | nil => exact True.intro
  | cons size sizes => exact True.intro

/-- The calls from any point of the stream on. -/
theorem Aligned.keepsTo_iff {left : List UInt8} {later : List ServerPacket}
    (aligned : Aligned client left later) (calls : List ResumedCall) :
    KeepsTo (resumedCalls client calls)
        (left ++ later.flatMap ServerPacket.payload) ↔
      AsksWithin left.length (later.map fun packet => packet.payload.length)
        (calls.map fun call => call.size.toNat) := by
  induction calls generalizing client left later with
  | nil =>
      rw [List.map_nil, AsksWithin, iff_true]
      refine ⟨List.nil_prefix, ?_⟩
      intro state member
      cases member
  | cons call calls induction =>
      rw [List.map_cons]
      by_cases some : left = []
      · subst some
        cases later with
        | nil =>
            have delivers := @Aligned.exhausted client call aligned
            have rest := induction delivers.aligned
            simp only [List.length_nil, List.map_nil, List.flatMap_nil,
              List.append_nil, asksWithin_empty, iff_true] at rest ⊢
            exact (delivers.keepsTo_iff calls).mpr rest
        | cons packet later =>
            rw [List.length_nil, List.map_cons, List.nil_append,
              List.flatMap_cons, AsksWithin, List.map_eq_nil_iff]
            by_cases within : call.size.toNat ≤ packet.payload.length ∨
                later = []
            · have delivers := aligned.begins within
              have rest := induction delivers.aligned
              have parts := List.take_append_drop
                (min call.size.toNat packet.payload.length) packet.payload
              have behind : packet.payload.length -
                  min call.size.toNat packet.payload.length =
                    packet.payload.length - call.size.toNat := by
                omega
              rw [List.length_drop, behind] at rest
              rw [← rest, ← delivers.keepsTo_iff, ← List.append_assoc, parts]
              exact (and_iff_right within).symm
            · constructor
              · intro keeps
                exfalso
                rw [not_or] at within
                cases later with
                | nil => exact within.2 rfl
                | cons next later =>
                    have stored := aligned.runs_on (Nat.not_le.mp within.1)
                    have payload := keeps.2 _ List.mem_cons_self _ stored
                    cases payload
              · rintro ⟨first, _⟩
                exact absurd first within
      · have positive := List.length_pos_of_ne_nil some
        have delivers := @Aligned.resumes client call left later aligned some
        have rest := induction delivers.aligned
        have parts := List.take_append_drop
          (min call.size.toNat left.length) left
        have behind : left.length - min call.size.toNat left.length =
            left.length - call.size.toNat := by
          omega
        rw [List.length_drop, behind] at rest
        rw [asksWithin_cons_left positive, ← rest, ← delivers.keepsTo_iff,
          ← List.append_assoc, parts]

theorem aligned_opened (packets : List ServerPacket) :
    Aligned (.opened packets) [] packets :=
  ⟨rfl, Or.inl rfl⟩

/-- The calls store payload alone, in the order it was sent, exactly if none
that begins a packet asks for more than the packet has, the last excepted. -/
theorem resumed_reads_agree_iff (packets : List ServerPacket)
    (calls : List ResumedCall) :
    StoresPayloads packets calls ↔
      AsksWithin 0 (packets.map fun packet => packet.payload.length)
        (calls.map fun call => call.size.toNat) :=
  (aligned_opened packets).keepsTo_iff calls

theorem larger_read_stores_header :
    ¬∀ (packets : List ServerPacket) (calls : List ResumedCall),
      StoresPayloads packets calls := by
  intro always
  have stores := always
    [⟨[1, 2], by decide, by decide⟩, ⟨[3], by decide, by decide⟩]
    [⟨fun _ => 0, 3, by decide, fun _ => 9⟩]
  exact absurd stores.1 (by decide)

end StreamIO.Net
