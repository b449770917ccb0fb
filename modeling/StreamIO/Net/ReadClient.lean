import StreamIO.Library.ByteMemory
import StreamIO.Net.StreamClient

/-!
# Reading from a remote stream

`io_read_stream_net_basic` as a machine whose state is the program counter at
its `recv` calls and its local variables.  A step takes the result of the
`recv` the program counter stands at.  `Receiving` puts the machine at the
end of a connection whose bytes arrive in pieces; once they are used up every
`recv` returns zero.
-/

namespace StreamIO.Net

open StreamIO.Library

/-- The `recv` calls of `io_read_stream_net_basic`, and its end. -/
inductive ReadStreamPc where
  | startCmd
  | size
  | payload
  | returned
  deriving DecidableEq, Repr

/-- The variables of `io_read_stream_net_basic`.  `data` counts from the
pointer the caller has passed, `memory` is what stands there, and `stored`
accounts for the offset and length of each range a payload `recv` has stored
to. -/
structure ReadCall where
  pc : ReadStreamPc
  startCmd : UInt8
  recvSize : UInt32
  remainSize : Int32
  data : Nat
  memory : ByteMemory
  stored : List (Nat × Nat)

/-- The byte in front of every packet: `CALL_READ_STREAM << 1`. -/
def readStreamStart : UInt8 := CmdCallType.callReadStream.code <<< 1

/-- One packet of a read stream. -/
def readStreamPacket (payload : List UInt8) : List UInt8 :=
  [readStreamStart] ++ littleEndian32 (UInt32.ofNat payload.length) ++ payload

/-- The handshake of the two functions that read. -/
def readHandshake (state : NetDeviceState) :
    NetDeviceState × List SocketWrite :=
  if state.handshaked then (state, [])
  else
    ({ handshaked := true, remainRecvSize := 0 },
      [{ vectored := false, bytes := [CmdCallType.callReadStream.code] }])

namespace ReadCall

/-- The variables before the first `recv`. -/
def enter (memory : ByteMemory) : ReadCall :=
  { pc := .startCmd, startCmd := -1, recvSize := 0, remainSize := 0,
    data := 0, memory := memory, stored := [] }

/-- The loop condition `remain_size > 0`. -/
def payloadOrReturn (remainSize : Int32) : ReadStreamPc :=
  if 0 < remainSize then .payload else .returned

/-- `int remain_size = recv_size` and the entry of the loop. -/
def startLoop (call : ReadCall) : ReadCall :=
  { call with
    remainSize := call.recvSize.toInt32
    pc := payloadOrReturn call.recvSize.toInt32 }

/-- `recv(sockfd, &start_cmd, sizeof(start_cmd), 0)` and the branch on it. -/
def receiveStartCmd (call : ReadCall) (result : SocketResult) : ReadCall :=
  let startCmd := result.bytes.headD call.startCmd
  let call := { call with startCmd := startCmd }
  if startCmd = readStreamStart then { call with pc := .size }
  else call.startLoop

/-- `recv(sockfd, &recv_size, sizeof(recv_size), 0)`, possibly short. -/
def receiveSize (call : ReadCall) (result : SocketResult) : ReadCall :=
  { call with recvSize := receiveWord call.recvSize result }.startLoop

/-- The body of the loop.  `n` is unsigned, and the difference of the signed
and the unsigned count is taken unsigned. -/
def receivePayload (call : ReadCall) (result : SocketResult) : ReadCall :=
  let n := result.count
  let remainSize := (call.remainSize.toUInt32 - n).toInt32
  { call with
    memory := call.memory.store call.data result.bytes
    stored := call.stored ++ [(call.data, result.bytes.length)]
    remainSize := remainSize
    data := call.data + n.toNat
    pc := payloadOrReturn remainSize }

/-- One `recv` and the code up to the next one. -/
def step (call : ReadCall) (result : SocketResult) : ReadCall :=
  match call.pc with
  | .startCmd => call.receiveStartCmd result
  | .size => call.receiveSize result
  | .payload => call.receivePayload result
  | .returned => call

/-- How many bytes the next `recv` asks for. -/
def asked (call : ReadCall) : Nat :=
  match call.pc with
  | .startCmd => 1
  | .size => 4
  | .payload => call.remainSize.toNatClampNeg
  | .returned => 0

theorem stored_receiveStartCmd (call : ReadCall) (result : SocketResult) :
    (call.receiveStartCmd result).stored = call.stored := by
  simp only [receiveStartCmd]
  split
  · rfl
  · rfl

end ReadCall

/-- A call and the bytes of the peer that were not received. -/
structure Receiving where
  call : ReadCall
  inbound : List UInt8

namespace Receiving

/-- One `recv` that finds at least one byte and at most `cut` more, unless
the peer has closed. -/
def receive (state : Receiving) (cut : Nat) : Receiving :=
  let piece := state.inbound.take (min state.call.asked (cut + 1))
  { call := state.call.step (.received piece)
    inbound := state.inbound.drop piece.length }

/-- The first `count` calls of `recv`, cut as `cuts` tells. -/
def run (state : Receiving) (cuts : Nat → Nat) : (count : Nat) → Receiving
  | 0 => state
  | count + 1 =>
      run (state.receive (cuts 0)) (fun index => cuts (index + 1)) count

def enter (memory : ByteMemory) (inbound : List UInt8) : Receiving :=
  { call := ReadCall.enter memory, inbound := inbound }

end Receiving

/-- The length bytes that arrive with the second `recv`, which is made only
after a start byte. -/
def lengthArrived (inbound : List UInt8) (cuts : Nat → Nat) : List UInt8 :=
  if inbound.head? = some readStreamStart then
    inbound.tail.take (min 4 (cuts 1 + 1))
  else []

/-- The length they announce, the missing ones of the four being zero. -/
def announcedLength (inbound : List UInt8) (cuts : Nat → Nat) : UInt32 :=
  receiveWord 0 (.received (lengthArrived inbound cuts))

/-- The payload bytes that are asked for: none if the length is not a
positive `int`. -/
def announced (inbound : List UInt8) (cuts : Nat → Nat) : Nat :=
  (announcedLength inbound cuts).toInt32.toNatClampNeg

/-- The bytes behind the start byte and those of the length. -/
def behindLength (inbound : List UInt8) (cuts : Nat → Nat) : List UInt8 :=
  inbound.tail.drop (lengthArrived inbound cuts).length

theorem toInt_toInt32 (word : UInt32) :
    word.toInt32.toInt =
      if word.toNat < 2147483648 then (word.toNat : Int)
      else word.toNat - 4294967296 := by
  have bits := BitVec.toInt_eq_toNat_cond word.toBitVec
  have same : word.toInt32.toInt = word.toBitVec.toInt := rfl
  have value : word.toBitVec.toNat = word.toNat := rfl
  rw [same, bits, value]
  split
  · split
    · rfl
    · omega
  · split
    · omega
    · omega

theorem toNatClampNeg_toInt32 {word : UInt32}
    (small : word.toNat < 2147483648) :
    word.toInt32.toNatClampNeg = word.toNat := by
  rw [Int32.toNatClampNeg, toInt_toInt32, if_pos small, Int.toNat_natCast]

theorem toNatClampNeg_sub (remain : Int32) {count : Nat}
    (within : count ≤ remain.toNatClampNeg) :
    (remain.toUInt32 - UInt32.ofNat count).toInt32.toNatClampNeg =
      remain.toNatClampNeg - count := by
  have signed := toInt_toInt32 remain.toUInt32
  have bound : remain.toUInt32.toNat < 4294967296 := UInt32.toNat_lt _
  rw [Int32.toInt32_toUInt32] at signed
  simp only [Int32.toNatClampNeg, toInt_toInt32, UInt32.toNat_sub,
    UInt32.toNat_ofNat', signed] at *
  by_cases positive : remain.toUInt32.toNat < 2147483648
  · simp only [if_pos positive] at *
    split
    · omega
    · omega
  · simp only [if_neg positive] at *
    have none : count = 0 := by omega
    subst none
    split
    · omega
    · omega

theorem payloadOrReturn_eq (remain : Int32) :
    ReadCall.payloadOrReturn remain =
      if 0 < remain.toNatClampNeg then .payload else .returned := by
  have same : 0 < remain ↔ 0 < remain.toNatClampNeg := by
    rw [Int32.lt_iff_toInt_lt, Int32.toNatClampNeg, Int32.toInt_zero]
    omega
  simp only [ReadCall.payloadOrReturn, same]

namespace Receiving

/-- The loop was entered with this length and has received `count` of the
bytes that follow it. -/
structure Progress (before : ByteMemory) (length : UInt32)
    (payload : List UInt8) (count : Nat) (state : Receiving) : Prop where
  wanted : count ≤ length.toInt32.toNatClampNeg
  arrived : count ≤ payload.length
  recvSize : state.call.recvSize = length
  remain : state.call.remainSize.toNatClampNeg =
    length.toInt32.toNatClampNeg - count
  pc : state.call.pc = ReadCall.payloadOrReturn state.call.remainSize
  data : state.call.data = count
  memory : state.call.memory = before.store 0 (payload.take count)
  inbound : state.inbound = payload.drop count
  bounded : ∀ range ∈ state.call.stored, range.1 + range.2 ≤ count
  reached : 0 < count → ∃ range ∈ state.call.stored,
    range.1 + range.2 = count

namespace Progress

variable {before : ByteMemory} {length : UInt32} {payload : List UInt8}
  {count : Nat} {state : Receiving}

theorem start (call : ReadCall) (memory : call.memory = before)
    (recvSize : call.recvSize = length) (data : call.data = 0)
    (stored : call.stored = []) (payload : List UInt8) :
    Progress before length payload 0
      { call := call.startLoop, inbound := payload } := by
  refine ⟨Nat.zero_le _, Nat.zero_le _, recvSize, ?_, rfl, data, ?_, rfl,
    ?_, ?_⟩
  · simp only [ReadCall.startLoop, recvSize, Nat.sub_zero]
  · simp only [ReadCall.startLoop, memory, List.take_zero]
    funext index
    simp only [ByteMemory.store, List.length_nil]
    rw [if_neg (by omega)]
  · intro range member
    simp [ReadCall.startLoop, stored] at member
  · intro positive
    omega

theorem receive_done (progress : Progress before length payload count state)
    (done : count = length.toInt32.toNatClampNeg) (cut : Nat) :
    state.receive cut = state := by
  have returned : state.call.pc = .returned := by
    rw [progress.pc, payloadOrReturn_eq, progress.remain, done, Nat.sub_self,
      if_neg (Nat.lt_irrefl 0)]
  simp [receive, ReadCall.asked, ReadCall.step, returned]

theorem receivePayload (progress : Progress before length payload count state)
    {piece : List UInt8} {asked : Nat}
    (taken : (payload.drop count).take asked = piece)
    (within : asked ≤ length.toInt32.toNatClampNeg - count) :
    Progress before length payload (count + piece.length)
      { call := state.call.receivePayload (.received piece)
        inbound := state.inbound.drop piece.length } := by
  have pieceLength : piece.length = min asked (payload.length - count) := by
    rw [← taken, List.length_take, List.length_drop]
  have wanted := progress.wanted
  have arrived := progress.arrived
  have small : piece.length < 4294967296 := by
    have word : length.toNat < 4294967296 := length.toNat_lt
    have signed := toInt_toInt32 length
    rw [Int32.toNatClampNeg, signed] at within
    split at within
    · omega
    · omega
  have remain : ((state.call.remainSize.toUInt32 -
      UInt32.ofNat piece.length).toInt32).toNatClampNeg =
        length.toInt32.toNatClampNeg - (count + piece.length) := by
    rw [toNatClampNeg_sub _ (by rw [progress.remain]; omega),
      progress.remain, Nat.sub_sub]
  have contents : payload.take (count + piece.length) =
      payload.take count ++ piece := by
    rw [List.take_add, pieceLength, ← List.length_drop,
      ← List.take_eq_take_min, taken]
  have takenBefore : (payload.take count).length = count := by
    rw [List.length_take, Nat.min_eq_left arrived]
  refine ⟨by omega, by omega, progress.recvSize, remain, rfl, ?_, ?_, ?_, ?_,
    ?_⟩
  · simp only [ReadCall.receivePayload, SocketResult.count, progress.data,
      UInt32.toNat_ofNat_of_lt' small]
  · have appended := before.store_append 0 (payload.take count) piece
    rw [takenBefore, Nat.zero_add] at appended
    simp only [ReadCall.receivePayload, SocketResult.bytes, progress.data,
      progress.memory, contents, appended]
  · rw [progress.inbound, List.drop_drop]
  · intro range member
    simp only [ReadCall.receivePayload, SocketResult.bytes,
      List.mem_append, List.mem_singleton] at member
    rcases member with earlier | rfl
    · exact Nat.le_trans (progress.bounded range earlier) (by omega)
    · rw [progress.data]
  · intro _
    refine ⟨(state.call.data, piece.length), ?_, ?_⟩
    · simp only [ReadCall.receivePayload, SocketResult.bytes,
        List.mem_append, List.mem_singleton, or_true]
    · rw [progress.data]

theorem receive (progress : Progress before length payload count state)
    (cut : Nat) :
    ∃ later, Progress before length payload later (state.receive cut) ∧
      min (count + 1)
        (min length.toInt32.toNatClampNeg payload.length) ≤ later := by
  by_cases done : count = length.toInt32.toNatClampNeg
  · rw [progress.receive_done done]
    exact ⟨count, progress, by omega⟩
  · have wanted := progress.wanted
    have loops : state.call.pc = .payload := by
      rw [progress.pc, payloadOrReturn_eq, progress.remain,
        if_pos (by omega)]
    have asked : state.call.asked = length.toInt32.toNatClampNeg - count := by
      simp only [ReadCall.asked, loops, progress.remain]
    have next := progress.receivePayload rfl (Nat.min_le_left _ (cut + 1))
    rw [← progress.inbound] at next
    have received : (state.inbound.take (min
        (length.toInt32.toNatClampNeg - count) (cut + 1))).length =
          min (min (length.toInt32.toNatClampNeg - count) (cut + 1))
            (payload.length - count) := by
      rw [progress.inbound, List.length_take, List.length_drop]
    have step : state.receive cut =
        { call := state.call.receivePayload (.received (state.inbound.take
            (min (length.toInt32.toNatClampNeg - count) (cut + 1))))
          inbound := state.inbound.drop (state.inbound.take (min
            (length.toInt32.toNatClampNeg - count) (cut + 1))).length } := by
      simp only [Receiving.receive, asked, ReadCall.step, loops]
    rw [step]
    refine ⟨_, next, ?_⟩
    omega

/-- After enough calls of `recv` the loop has what it asked for or all that
arrived. -/
theorem run (progress : Progress before length payload count state)
    (cuts : Nat → Nat) (calls : Nat) :
    ∃ later, Progress before length payload later
        (state.run cuts calls) ∧
      min (count + calls)
        (min length.toInt32.toNatClampNeg payload.length) ≤ later := by
  induction calls generalizing cuts count state with
  | zero =>
      exact ⟨count, progress, Nat.min_le_left _ _⟩
  | succ calls induction =>
      obtain ⟨next, progressNext, gained⟩ := progress.receive (cuts 0)
      obtain ⟨later, progressLater, gainedLater⟩ :=
        induction progressNext (fun index => cuts (index + 1))
      refine ⟨later, progressLater, ?_⟩
      omega

theorem returned_iff (progress : Progress before length payload count state) :
    state.call.pc = .returned ↔
      count = length.toInt32.toNatClampNeg := by
  have wanted := progress.wanted
  rw [progress.pc, payloadOrReturn_eq, progress.remain]
  split
  · simp
    omega
  · simp
    omega

end Progress

theorem run_succ (state : Receiving) (cuts : Nat → Nat) (calls : Nat) :
    state.run cuts (calls + 1) =
      (state.receive (cuts 0)).run (fun index => cuts (index + 1)) calls :=
  rfl

theorem receive_enter_nil (memory : ByteMemory) (cut : Nat) :
    (enter memory []).receive cut =
      { call := (ReadCall.enter memory).startLoop, inbound := [] } := by
  have different : ¬(-1 : UInt8) = readStreamStart := by decide
  simp [receive, enter, ReadCall.enter, ReadCall.asked, ReadCall.step,
    ReadCall.receiveStartCmd, SocketResult.bytes, different]

theorem receive_enter_cons (memory : ByteMemory) (byte : UInt8)
    (later : List UInt8) (cut : Nat) :
    (enter memory (byte :: later)).receive cut =
      { call := (ReadCall.enter memory).receiveStartCmd (.received [byte])
        inbound := later } := by
  simp [receive, enter, ReadCall.enter, ReadCall.asked, ReadCall.step]

theorem enter_loop (memory : ByteMemory) (inbound : List UInt8)
    (cuts : Nat → Nat) :
    Progress memory (announcedLength inbound cuts)
      (behindLength inbound cuts) 0
      (((enter memory inbound).receive (cuts 0)).receive (cuts 1)) := by
  cases inbound with
  | nil =>
      have started : Progress memory 0 [] 0
          { call := (ReadCall.enter memory).startLoop, inbound := [] } :=
        Progress.start (ReadCall.enter memory) rfl rfl rfl rfl []
      rw [receive_enter_nil, started.receive_done rfl]
      exact started
  | cons byte later =>
      rw [receive_enter_cons]
      by_cases packet : byte = readStreamStart
      · subst packet
        have arrived : lengthArrived (readStreamStart :: later) cuts =
            later.take (min 4 (cuts 1 + 1)) := by
          simp [lengthArrived]
        rw [announcedLength, behindLength, arrived]
        let call : ReadCall :=
          { ReadCall.enter memory with
            startCmd := readStreamStart
            pc := .size
            recvSize := receiveWord 0
              (.received (later.take (min 4 (cuts 1 + 1)))) }
        exact Progress.start call rfl rfl rfl rfl _
      · have arrived : lengthArrived (byte :: later) cuts = [] := by
          simp [lengthArrived, packet]
        have other : (ReadCall.enter memory).receiveStartCmd
            (.received [byte]) =
              { ReadCall.enter memory with startCmd := byte }.startLoop := by
          simp [ReadCall.receiveStartCmd, SocketResult.bytes, packet]
        have started : Progress memory 0 later 0
            { call := { ReadCall.enter memory with
                startCmd := byte }.startLoop
              inbound := later } :=
          Progress.start { ReadCall.enter memory with startCmd := byte }
            rfl rfl rfl rfl later
        rw [other, started.receive_done rfl, announcedLength, behindLength,
          arrived]
        exact started

theorem run_enter (memory : ByteMemory) (inbound : List UInt8)
    (cuts : Nat → Nat) (calls : Nat) :
    ∃ count, Progress memory (announcedLength inbound cuts)
        (behindLength inbound cuts) count
        ((enter memory inbound).run cuts (calls + 2)) ∧
      min calls (min (announced inbound cuts)
        (behindLength inbound cuts).length) ≤ count := by
  have later := (enter_loop memory inbound cuts).run
    (fun index => cuts (index + 2)) calls
  rw [Nat.zero_add] at later
  exact later

theorem stored_early (memory : ByteMemory) (inbound : List UInt8)
    (cuts : Nat → Nat) {calls : Nat} (early : calls < 2) :
    ((enter memory inbound).run cuts calls).call.stored = [] := by
  have cases : calls = 0 ∨ calls = 1 := by omega
  rcases cases with rfl | rfl
  · rfl
  · exact ReadCall.stored_receiveStartCmd (ReadCall.enter memory) _

theorem run_returned {state : Receiving} (returned : state.call.pc = .returned)
    (cuts : Nat → Nat) (calls : Nat) : state.run cuts calls = state := by
  have stays : ∀ cut, state.receive cut = state := by
    intro cut
    simp [receive, ReadCall.asked, ReadCall.step, returned]
  induction calls generalizing cuts with
  | zero => rfl
  | succ calls induction =>
      rw [run_succ, stays]
      exact induction _

theorem run_add (state : Receiving) (cuts : Nat → Nat) (first second : Nat) :
    state.run cuts (first + second) =
      (state.run cuts first).run (fun index => cuts (index + first))
        second := by
  induction first generalizing state cuts with
  | zero =>
      rw [Nat.zero_add]
      rfl
  | succ first induction =>
      have order : first + 1 + second = first + second + 1 := by omega
      rw [order, run_succ, induction, run_succ]
      simp only [Nat.add_assoc]

/-- The call returns exactly if as many bytes arrive as it asks for. -/
theorem returns_iff (memory : ByteMemory) (inbound : List UInt8)
    (cuts : Nat → Nat) :
    (∃ calls, ((enter memory inbound).run cuts calls).call.pc = .returned) ↔
      announced inbound cuts ≤ (behindLength inbound cuts).length := by
  constructor
  · rintro ⟨calls, returned⟩
    have stays : ((enter memory inbound).run cuts (calls + 2)).call.pc =
        .returned := by
      rw [run_add, run_returned returned]
      exact returned
    obtain ⟨count, progress, _⟩ := run_enter memory inbound cuts calls
    have all := progress.returned_iff.mp stays
    have arrived := progress.arrived
    rw [announced]
    omega
  · intro complete
    obtain ⟨count, progress, gained⟩ :=
      run_enter memory inbound cuts (announced inbound cuts)
    refine ⟨announced inbound cuts + 2, progress.returned_iff.mpr ?_⟩
    have wanted := progress.wanted
    rw [Nat.min_eq_left complete, Nat.min_self, announced] at gained
    exact Nat.le_antisymm wanted gained

end Receiving

open Receiving in
/-- The bytes that a call stores all lie in the caller's buffer exactly if
the peer does not both announce and send more than the buffer has room
for. -/
theorem read_within_buffer_iff (memory : ByteMemory) (size : UInt32)
    (inbound : List UInt8) (cuts : Nat → Nat) :
    (∀ calls, ∀ range ∈ ((enter memory inbound).run cuts calls).call.stored,
        range.1 + range.2 ≤ size.toNat) ↔
      min (announced inbound cuts) (behindLength inbound cuts).length ≤
        size.toNat := by
  generalize asked : min (announced inbound cuts)
    (behindLength inbound cuts).length = received
  constructor
  · intro inside
    obtain ⟨count, progress, gained⟩ :=
      run_enter memory inbound cuts received
    rw [asked, Nat.min_self] at gained
    by_cases none : received = 0
    · rw [none]
      exact Nat.zero_le _
    · obtain ⟨range, member, ends⟩ := progress.reached (by omega)
      have bound := inside _ range member
      omega
  · intro fits calls range member
    by_cases early : calls < 2
    · rw [stored_early memory inbound cuts early] at member
      cases member
    · obtain ⟨loops, rfl⟩ := Nat.exists_eq_add_of_le' (Nat.le_of_not_lt early)
      obtain ⟨count, progress, _⟩ := run_enter memory inbound cuts loops
      have bound := progress.bounded range member
      have wanted := progress.wanted
      have arrived := progress.arrived
      rw [announced] at asked
      omega

open Receiving in
theorem read_beyond_buffer :
    ¬∀ (memory : ByteMemory) (size : UInt32) (inbound : List UInt8)
      (cuts : Nat → Nat) (calls : Nat),
      ∀ range ∈ ((enter memory inbound).run cuts calls).call.stored,
        range.1 + range.2 ≤ size.toNat := by
  intro always
  have stored := always (fun _ => 0) 4 [14, 5, 0, 0, 0, 1, 2, 3, 4, 5]
    (fun _ => 9) 3 (0, 5) (by decide)
  exact absurd stored (by decide)

end StreamIO.Net
