import StreamIO.Net.ReadDecoding
import StreamIO.Backend.ReadDelivery

/-!
# What a remote read stream brings to the client

The packets of the server and the calls of the client over one connection:
from the 33rd call on, a call stores the head of what one transfer of the
device has left in its buffer, transfer by transfer.
-/

namespace StreamIO.Backend

open StreamIO.Library StreamIO.Driver StreamIO.Local StreamIO.Net

/-- The head of a buffer, the payload of a packet. -/
def packetPayload (buffer : ByteMemory) : List UInt8 :=
  buffer.load 0 readSendSize

theorem length_packetPayload (buffer : ByteMemory) :
    (packetPayload buffer).length = readSendSize :=
  ByteMemory.length_load ..

theorem readPacket_eq (buffer : ByteMemory) :
    readPacket buffer = readStreamPacket (packetPayload buffer) := by
  rw [readStreamPacket, length_packetPayload]
  rfl

theorem length_readPacket (buffer : ByteMemory) :
    (readPacket buffer).length = 5 + readSendSize := by
  simp only [readPacket, List.length_append, List.length_singleton,
    length_littleEndian32, ByteMemory.length_load]

theorem packetPayload_of_eq {left right : ByteMemory}
    (same : readPacket left = readPacket right) :
    packetPayload left = packetPayload right :=
  List.append_cancel_left same

/-- Whole packets have been written, and nothing else. -/
def WholePackets (wire : List (List UInt8)) : Prop :=
  ∃ buffers : List ByteMemory, wire = buffers.map readPacket

namespace WholePackets

theorem iterate {state : ReadStream} {script : IterationScript}
    (packets : WholePackets state.wire) (delivering : Delivering state)
    (undisturbed : state.Undisturbed script) :
    WholePackets (state.iterate script).wire := by
  obtain ⟨buffers, earlier⟩ := packets
  obtain ⟨_, pointer⟩ :=
    ReadStream.synced_spec delivering.inTurn undisturbed
  have positive : ¬script.written ≤ 0 := by
    rw [undisturbed.written]
    simp only [readSendSize]
    omega
  have all : ∀ buffer, (readPacket buffer).take script.written.toNat =
      readPacket buffer := by
    intro buffer
    apply List.take_of_length_le
    rw [undisturbed.written, length_readPacket]
    omega
  rw [ReadStream.iterate_sent delivering.looping pointer positive, all,
    earlier]
  refine ⟨buffers ++ [((state.synced script).channel.bufferTable
    (state.session.handed.length % bufferCount)).buffer], ?_⟩
  rw [List.map_append]
  rfl

theorem run {channel : DmaProxyChannel}
    (direction : channel.engine.direction = .devToMem) {state : ReadStream}
    {scripts : List IterationScript}
    (reached : readStreams.Run (ReadStream.start channel) scripts state) :
    WholePackets state.wire := by
  have both : Delivering state ∧ WholePackets state.wire := by
    apply reached.invariant
      (fun state => Delivering state ∧ WholePackets state.wire)
    · exact ⟨.start direction, [], rfl⟩
    · rintro state script next ⟨delivering, packets⟩ ⟨undisturbed, rfl⟩
      exact ⟨delivering.iterate undisturbed,
        packets.iterate delivering undisturbed⟩
  exact both.2

end WholePackets

/-- The calls of a client read the packets that buffers were sent in. -/
theorem readCalls_buffers (calls : List ReadClientCall)
    (buffers : List ByteMemory)
    (paired : (calls.filterMap ReadClientCall.buffer).length =
      buffers.length)
    (whole : ∀ call ∈ calls, call.LengthWhole) (rest : List UInt8)
    {fuel : Nat} (enough : readSendSize + 2 ≤ fuel) :
    ∃ client returns,
      readCalls fuel
          { device := .opened
            inbound := (buffers.map readPacket).flatten ++ rest } calls =
        some (client, returns) ∧
      client.inbound = rest ∧
      returns.length = buffers.length ∧
      ∀ (index : Nat) (buffer memory : ByteMemory),
        buffers[index]? = some buffer →
        (calls.filterMap ReadClientCall.buffer)[index]? = some memory →
        ∃ returned, returns[index]? = some returned ∧
          returned.value = UInt32.ofNat readSendSize ∧
          returned.memory = memory.store 0 (packetPayload buffer) := by
  have sizes : ∀ payload ∈ buffers.map packetPayload,
      payload.length = readSendSize := by
    intro payload member
    obtain ⟨buffer, _, own⟩ := List.mem_map.mp member
    rw [← own]
    exact length_packetPayload buffer
  have inbound : (buffers.map packetPayload).flatMap readStreamPacket =
      (buffers.map readPacket).flatten := by
    rw [List.flatMap_map, List.flatMap_def]
    apply congrArg List.flatten
    exact List.map_congr_left fun buffer _ => (readPacket_eq buffer).symm
  have pairs : (calls.filterMap ReadClientCall.buffer).length =
      (buffers.map packetPayload).length := by
    rw [List.length_map]
    exact paired
  have small : ∀ payload ∈ buffers.map packetPayload,
      payload.length < 2147483648 := by
    intro payload member
    rw [sizes payload member]
    decide
  have fits : ∀ payload ∈ buffers.map packetPayload,
      payload.length + 2 ≤ fuel := by
    intro payload member
    rw [sizes payload member]
    exact enough
  obtain ⟨client, run, left⟩ := readCalls_packets
    (buffers.map packetPayload) pairs small whole fits .opened rfl rest
  rw [inbound] at run
  refine ⟨client, _, run, left, ?_, ?_⟩
  · rw [length_decodedReturns _ pairs, List.length_map]
  · intro index buffer memory found given
    have payload : (buffers.map packetPayload)[index]? =
        some (packetPayload buffer) := by
      rw [List.getElem?_map, found, Option.map_some]
    refine ⟨_, decodedReturns_get _ payload given, ?_, ?_⟩
    · rw [length_packetPayload]
    · dsimp only

/-- A client that makes at most as many reads as the undisturbed server has
made iterations gets one packet a call: 8192 bytes, which from the 33rd call
on are the head of what one transfer of the device has left in its buffer,
and the transfers follow each other without a gap. -/
theorem remote_receive {channel : DmaProxyChannel}
    (direction : channel.engine.direction = .devToMem) {state : ReadStream}
    {scripts : List IterationScript}
    (run : readStreams.Run (ReadStream.start channel) scripts state)
    (calls : List ReadClientCall)
    (sent : (calls.filterMap ReadClientCall.buffer).length ≤ scripts.length)
    (whole : ∀ call ∈ calls, call.LengthWhole) :
    ∃ enough, ∀ fuel, enough ≤ fuel → ∃ client returns,
      readCalls fuel { device := .opened, inbound := state.wire.flatten }
          calls = some (client, returns) ∧
      returns.length = (calls.filterMap ReadClientCall.buffer).length ∧
      client.inbound = (state.wire.drop returns.length).flatten ∧
      ∀ (position : Nat) (memory : ByteMemory),
        (calls.filterMap ReadClientCall.buffer)[position]? = some memory →
          ∃ payload returned,
            state.wire[position]? =
              some ([14] ++ littleEndian32 8192 ++ payload) ∧
            payload.length = 8192 ∧
            returns[position]? = some returned ∧
            returned.value = 8192 ∧
            returned.memory = memory.store 0 payload ∧
            ∀ turn, position = turn + 32 → ∃ transfer,
              state.session.dma.completed[turn]? = some transfer ∧
              payload = (leftBy transfer).load 0 8192 := by
  obtain ⟨buffers, wire⟩ := WholePackets.run direction run
  have delivering := Delivering.run direction run
  rw [← Delivering.wire_length direction run] at sent
  refine ⟨readSendSize + 2, ?_⟩
  intro fuel enough
  let reads := (calls.filterMap ReadClientCall.buffer).length
  have paired : reads = (buffers.take reads).length := by
    rw [wire, List.length_map] at sent
    rw [List.length_take, Nat.min_eq_left sent]
  have inbound : state.wire.flatten =
      ((buffers.take reads).map readPacket).flatten ++
        ((buffers.drop reads).map readPacket).flatten := by
    rw [← List.flatten_append, ← List.map_append, List.take_append_drop,
      ← wire]
  obtain ⟨client, returns, received, left, length, each⟩ :=
    readCalls_buffers calls (buffers.take reads) paired whole
      ((buffers.drop reads).map readPacket).flatten enough
  rw [← inbound] at received
  rw [← paired] at length
  refine ⟨client, returns, received, length, ?_, ?_⟩
  · rw [left, length, List.map_drop, ← wire]
  · intro position memory given
    have readable : position < reads :=
      (List.getElem?_eq_some_iff.mp given).1
    have present : position < buffers.length := by
      rw [wire, List.length_map] at sent
      exact Nat.lt_of_lt_of_le readable sent
    have found := List.getElem?_eq_getElem present
    have taken : (buffers.take reads)[position]? =
        some buffers[position] := by
      rw [List.getElem?_take, if_pos readable, found]
    have packet : state.wire[position]? =
        some (readPacket buffers[position]) := by
      rw [wire, List.getElem?_map, found, Option.map_some]
    obtain ⟨returned, isReturned, value, stored⟩ :=
      each position buffers[position] memory taken given
    refine ⟨packetPayload buffers[position], returned, packet,
      length_packetPayload _, isReturned, value, stored, ?_⟩
    rintro turn rfl
    obtain ⟨transfer, completed, _, same⟩ :=
      delivering.packet_at (Nat.lt_of_lt_of_le readable sent)
    rw [packet] at same
    exact ⟨transfer, completed,
      packetPayload_of_eq (Option.some.inj same)⟩

/-- As many reads as the server has made iterations. -/
def timelyReads : List ReadClientCall :=
  List.replicate 33 (.read (fun _ => 0) 8192 fun _ => 3)

theorem remote_receive_first :
    ∃ enough, ∀ fuel, enough ≤ fuel → ∃ client returns transfer returned,
      readCalls fuel
          { device := .opened
            inbound := (timelyStream 33).wire.flatten } timelyReads =
        some (client, returns) ∧
      transfer.moved = some [7] ∧ returns[32]? = some returned ∧
      returned.value = 8192 ∧
      returned.memory = ByteMemory.store (fun _ => 0) 0
        ((leftBy transfer).load 0 8192) := by
  have whole : ∀ call ∈ timelyReads, call.LengthWhole := by
    intro call member
    rw [List.eq_of_mem_replicate member]
    exact Nat.le_refl 3
  obtain ⟨enough, received⟩ := remote_receive rfl
    (timelyStream_run (Nat.le_refl 33)) timelyReads (by decide +kernel)
    whole
  refine ⟨enough, ?_⟩
  intro fuel bound
  obtain ⟨client, returns, run, _, _, each⟩ := received fuel bound
  obtain ⟨payload, returned, _, _, isReturned, value, stored, origin⟩ :=
    each 32 (fun _ => 0) rfl
  obtain ⟨transfer, completed, head⟩ := origin 0 rfl
  have first : (timelyStream 33).session.dma.completed[0]? =
      some { cookie := 1, bdindex := 0, length := 131072,
             moved := some [7] } := by
    decide +kernel
  rw [first] at completed
  refine ⟨client, returns, transfer, returned, run, ?_, isReturned, value,
    ?_⟩
  · rw [← Option.some.inj completed]
  · rw [stored, head]

end StreamIO.Backend
