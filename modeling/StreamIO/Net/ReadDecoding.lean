import StreamIO.Net.ReadClient

/-!
# Decoding a remote read stream

Sequences of calls on a network stream device that reads, with
`io_sync_stream_device` between them: each call takes one packet off the
connection, however its payload is cut.
-/

namespace StreamIO.Net

open StreamIO.Library

/-- The client's side of a connection that reads. -/
structure ReadClient where
  device : NetDeviceState
  inbound : List UInt8

/-- What a call of `io_read_stream_net_basic` has sent, returned, and left in
the caller's memory and on the connection. -/
structure ReadReturn where
  writes : List SocketWrite
  value : UInt32
  memory : ByteMemory
  inbound : List UInt8

/-- `io_read_stream_net_basic`, if it returns after at most `fuel` calls of
`recv`.  The size that the caller passes is not used. -/
def ioReadStreamNetBasic (fuel : Nat) (client : ReadClient)
    (memory : ByteMemory) (_size : UInt32) (cuts : Nat → Nat) :
    Option (ReadClient × ReadReturn) :=
  let (device, writes) := readHandshake client.device
  let state := (Receiving.enter memory client.inbound).run cuts fuel
  if state.call.pc = .returned then
    some
      ({ device := device, inbound := state.inbound },
        { writes := writes, value := state.call.recvSize,
          memory := state.call.memory, inbound := state.inbound })
  else none

/-- A call on the device: a read into the given memory, or
`io_sync_stream_device`. -/
inductive ReadClientCall where
  | read (memory : ByteMemory) (size : UInt32) (cuts : Nat → Nat)
  | sync

/-- A sequence of calls and what its reads return. -/
def readCalls (fuel : Nat) :
    ReadClient → List ReadClientCall → Option (ReadClient × List ReadReturn)
  | client, [] => some (client, [])
  | client, .sync :: calls =>
      readCalls fuel
        { client with device := ioSyncStreamDeviceNet client.device } calls
  | client, .read memory size cuts :: calls => do
      let (client, first) ← ioReadStreamNetBasic fuel client memory size cuts
      let (client, later) ← readCalls fuel client calls
      some (client, first :: later)

/-- The memory that a read is given. -/
def ReadClientCall.buffer : ReadClientCall → Option ByteMemory
  | .read memory _ _ => some memory
  | .sync => none

/-- The length field of the packet arrives whole. -/
def ReadClientCall.LengthWhole : ReadClientCall → Prop
  | .read _ _ cuts => 3 ≤ cuts 1
  | .sync => True

/-- The byte that asks for a read stream. -/
def readRequest : SocketWrite :=
  { vectored := false, bytes := [CmdCallType.callReadStream.code] }

variable {payload rest : List UInt8} {cuts : Nat → Nat}

theorem tail_packet : (readStreamPacket payload ++ rest).tail =
    littleEndian32 (UInt32.ofNat payload.length) ++ (payload ++ rest) := by
  simp [readStreamPacket]

theorem lengthArrived_packet (whole : 3 ≤ cuts 1) :
    lengthArrived (readStreamPacket payload ++ rest) cuts =
      littleEndian32 (UInt32.ofNat payload.length) := by
  have four : min 4 (cuts 1 + 1) = 4 := by omega
  have starts : (readStreamPacket payload ++ rest).head? =
      some readStreamStart := rfl
  rw [lengthArrived, if_pos starts, tail_packet, four]
  exact List.take_left' rfl

theorem announcedLength_packet (whole : 3 ≤ cuts 1) :
    announcedLength (readStreamPacket payload ++ rest) cuts =
      UInt32.ofNat payload.length := by
  rw [announcedLength, lengthArrived_packet whole, receiveWord_whole]

theorem behindLength_packet (whole : 3 ≤ cuts 1) :
    behindLength (readStreamPacket payload ++ rest) cuts =
      payload ++ rest := by
  rw [behindLength, lengthArrived_packet whole, tail_packet]
  exact List.drop_left' rfl

/-- One call takes one packet. -/
theorem ioReadStreamNetBasic_packet {fuel : Nat} (client : ReadClient)
    (inbound : client.inbound = readStreamPacket payload ++ rest)
    (small : payload.length < 2147483648) (whole : 3 ≤ cuts 1)
    (enough : payload.length + 2 ≤ fuel) (memory : ByteMemory)
    (size : UInt32) :
    ioReadStreamNetBasic fuel client memory size cuts =
      some
        ({ device := (readHandshake client.device).1, inbound := rest },
          { writes := (readHandshake client.device).2
            value := UInt32.ofNat payload.length
            memory := memory.store 0 payload
            inbound := rest }) := by
  obtain ⟨calls, rfl⟩ := Nat.exists_eq_add_of_le'
    (Nat.le_trans (Nat.le_add_left 2 _) enough)
  obtain ⟨count, progress, gained⟩ :=
    Receiving.run_enter memory client.inbound cuts calls
  rw [announced, inbound, announcedLength_packet whole,
    behindLength_packet whole] at gained
  rw [inbound, announcedLength_packet whole, behindLength_packet whole]
    at progress
  have value : (UInt32.ofNat payload.length).toInt32.toNatClampNeg =
      payload.length := by
    have word : (UInt32.ofNat payload.length).toNat = payload.length :=
      UInt32.toNat_ofNat_of_lt' (Nat.lt_trans small (by decide))
    rw [toNatClampNeg_toInt32 (by rw [word]; exact small), word]
  have all : count = payload.length := by
    have wanted := progress.wanted
    rw [value] at wanted gained
    rw [List.length_append] at gained
    omega
  have returned := progress.returned_iff.mpr (by rw [value, all])
  simp only [ioReadStreamNetBasic, inbound, returned, if_true,
    progress.inbound, progress.memory, progress.recvSize, all,
    List.drop_left, List.take_left]

theorem readHandshake_ready {device : NetDeviceState}
    (nothing : device.remainRecvSize = 0) :
    (readHandshake device).1 = { handshaked := true, remainRecvSize := 0 } ∧
      (readHandshake device).2 =
        if device.handshaked then [] else [readRequest] := by
  simp only [readHandshake]
  split
  · rename_i handshaked
    refine ⟨?_, rfl⟩
    cases device
    simp only at nothing handshaked
    rw [nothing, handshaked]
  · exact ⟨rfl, rfl⟩

theorem ioSyncStreamDeviceNet_ready {device : NetDeviceState}
    (nothing : device.remainRecvSize = 0) :
    ioSyncStreamDeviceNet device = device := by
  simp only [ioSyncStreamDeviceNet, nothing, ne_eq, not_true_eq_false,
    if_false]

/-- What the calls return for the packets, one after the other. -/
def decodedReturns (rest : List UInt8) :
    Bool → List (List UInt8) → List ByteMemory → List ReadReturn
  | handshaked, payload :: packets, memory :: memories =>
      { writes := if handshaked then [] else [readRequest]
        value := UInt32.ofNat payload.length
        memory := memory.store 0 payload
        inbound := packets.flatMap readStreamPacket ++ rest } ::
        decodedReturns rest true packets memories
  | _, _, _ => []

theorem length_decodedReturns (handshaked : Bool)
    {packets : List (List UInt8)} {memories : List ByteMemory}
    (paired : memories.length = packets.length) :
    (decodedReturns rest handshaked packets memories).length =
      packets.length := by
  induction packets generalizing handshaked memories with
  | nil => rfl
  | cons payload packets induction =>
      cases memories with
      | nil => cases paired
      | cons memory memories =>
          rw [decodedReturns, List.length_cons, List.length_cons]
          apply congrArg Nat.succ
          apply induction
          exact Nat.succ.inj paired

theorem decodedReturns_get (handshaked : Bool)
    {packets : List (List UInt8)} {memories : List ByteMemory}
    {memory : ByteMemory} {index : Nat}
    (present : packets[index]? = some payload)
    (given : memories[index]? = some memory) :
    (decodedReturns rest handshaked packets memories)[index]? = some
      { writes :=
          if index = 0 ∧ handshaked = false then [readRequest] else []
        value := UInt32.ofNat payload.length
        memory := memory.store 0 payload
        inbound :=
          (packets.drop (index + 1)).flatMap readStreamPacket ++ rest } := by
  induction index generalizing handshaked packets memories with
  | zero =>
      obtain ⟨packets, rfl⟩ := List.head?_eq_some_iff.mp
        (List.head?_eq_getElem?.trans present)
      obtain ⟨memories, rfl⟩ := List.head?_eq_some_iff.mp
        (List.head?_eq_getElem?.trans given)
      cases handshaked with
      | false => rfl
      | true => rfl
  | succ index induction =>
      cases packets with
      | nil => cases present
      | cons first packets =>
          cases memories with
          | nil => cases given
          | cons buffer memories =>
              rw [List.getElem?_cons_succ] at present given
              rw [decodedReturns, List.getElem?_cons_succ,
                induction true present given]
              simp

theorem readCalls_read (fuel : Nat) (client : ReadClient)
    (memory : ByteMemory) (size : UInt32) (cuts : Nat → Nat)
    (calls : List ReadClientCall) :
    readCalls fuel client (.read memory size cuts :: calls) =
      (ioReadStreamNetBasic fuel client memory size cuts).bind fun pair =>
        (readCalls fuel pair.1 calls).bind fun later =>
          some (later.1, pair.2 :: later.2) := rfl

/-- The run of a sequence of calls, from a device that may have sent its
request already. -/
theorem readCalls_packets {fuel : Nat} {calls : List ReadClientCall}
    (packets : List (List UInt8))
    (paired : (calls.filterMap ReadClientCall.buffer).length =
      packets.length)
    (small : ∀ payload ∈ packets, payload.length < 2147483648)
    (whole : ∀ call ∈ calls, call.LengthWhole)
    (enough : ∀ payload ∈ packets, payload.length + 2 ≤ fuel)
    (device : NetDeviceState) (nothing : device.remainRecvSize = 0)
    (rest : List UInt8) :
    ∃ client,
      readCalls fuel
          { device := device
            inbound := packets.flatMap readStreamPacket ++ rest } calls =
        some (client, decodedReturns rest device.handshaked packets
          (calls.filterMap ReadClientCall.buffer)) ∧
      client.inbound = rest := by
  induction calls generalizing packets device with
  | nil =>
      have empty : packets = [] := List.length_eq_zero_iff.mp paired.symm
      subst empty
      exact ⟨_, rfl, rfl⟩
  | cons call calls induction =>
      have wholeLater : ∀ call ∈ calls, call.LengthWhole := by
        intro later member
        exact whole later (by simp [member])
      cases call with
      | sync =>
          rw [readCalls]
          simp only [ioSyncStreamDeviceNet_ready nothing]
          exact induction packets paired small wholeLater enough device nothing
      | read memory size cuts =>
          cases packets with
          | nil => simp [ReadClientCall.buffer] at paired
          | cons payload packets =>
              obtain ⟨sent, writes⟩ := readHandshake_ready nothing
              obtain ⟨client, run, inbound⟩ := induction packets
                (by simpa [ReadClientCall.buffer] using paired)
                (fun later member => small later (by simp [member]))
                wholeLater
                (fun later member => enough later (by simp [member]))
                (readHandshake device).1 (by rw [sent])
              have wholeHere : 3 ≤ cuts 1 :=
                whole (.read memory size cuts) (by simp)
              have first := ioReadStreamNetBasic_packet
                { device := device
                  inbound := (payload :: packets).flatMap
                    readStreamPacket ++ rest }
                (by rw [List.flatMap_cons, List.append_assoc])
                (small payload (by simp)) wholeHere
                (enough payload (by simp)) memory size
              refine ⟨client, ?_, inbound⟩
              rw [readCalls_read, first, Option.bind_some, run,
                Option.bind_some, writes, sent]
              rfl

/-- Every sequence of packets is decoded by as many calls: the `k`-th call
stores exactly the `k`-th payload from `data[0]` on, returns its length and
leaves the connection at the next packet, and the first one alone sends the
request. -/
theorem read_stream_decodes (calls : List ReadClientCall)
    (packets : List (List UInt8)) (rest : List UInt8)
    (paired : (calls.filterMap ReadClientCall.buffer).length =
      packets.length)
    (small : ∀ payload ∈ packets, payload.length < 2147483648)
    (whole : ∀ call ∈ calls, call.LengthWhole) :
    ∃ enough, ∀ fuel, enough ≤ fuel → ∃ client returns,
      readCalls fuel
          { device := .opened
            inbound := packets.flatMap readStreamPacket ++ rest } calls =
        some (client, returns) ∧
      client.inbound = rest ∧
      returns.length = packets.length ∧
      ∀ (index : Nat) (payload : List UInt8) (memory : ByteMemory),
        packets[index]? = some payload →
        (calls.filterMap ReadClientCall.buffer)[index]? = some memory →
        returns[index]? = some
          { writes := if index = 0 then [readRequest] else []
            value := UInt32.ofNat payload.length
            memory := memory.store 0 payload
            inbound :=
              (packets.drop (index + 1)).flatMap readStreamPacket ++
                rest : ReadReturn } := by
  refine ⟨packets.flatten.length + 2, ?_⟩
  intro fuel enough
  have each : ∀ payload ∈ packets, payload.length + 2 ≤ fuel := by
    intro payload member
    have part := (List.sublist_flatten_of_mem member).length_le
    omega
  obtain ⟨client, run, inbound⟩ := readCalls_packets packets paired small
    whole each .opened rfl rest
  refine ⟨client, _, run, inbound, length_decodedReturns _ paired, ?_⟩
  intro index payload memory present given
  rw [decodedReturns_get _ present given]
  simp only [NetDeviceState.opened, and_true]

theorem read_stream_decodes_two :
    ∃ enough, ∀ fuel, enough ≤ fuel → ∃ client returns,
      readCalls fuel
          { device := .opened
            inbound := [[7, 8, 9], []].flatMap readStreamPacket ++ [14] }
          [.sync, .read (fun _ => 0) 8 (fun _ => 3), .sync,
            .read (fun _ => 1) 8 (fun _ => 5)] =
        some (client, returns) ∧
      client.inbound = [14] ∧ returns.length = 2 ∧
      returns[0]? = some
        { writes := [readRequest], value := 3
          memory := ByteMemory.store (fun _ => 0) 0 [7, 8, 9]
          inbound := [14, 0, 0, 0, 0, 14] } := by
  obtain ⟨enough, decoded⟩ := read_stream_decodes
    [.sync, .read (fun _ => 0) 8 (fun _ => 3), .sync,
      .read (fun _ => 1) 8 (fun _ => 5)] [[7, 8, 9], []] [14] rfl
    (by decide) (by simp [ReadClientCall.LengthWhole])
  refine ⟨enough, ?_⟩
  intro fuel bound
  obtain ⟨client, returns, run, inbound, length, each⟩ := decoded fuel bound
  exact ⟨client, returns, run, inbound, length,
    each 0 [7, 8, 9] (fun _ => 0) rfl rfl⟩

end StreamIO.Net
