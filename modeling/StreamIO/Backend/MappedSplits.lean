import Mathlib.Logic.Function.Iterate
import StreamIO.Backend.MappedConnection

/-!
# Short receives on a mapped channel

The server of a mapped channel fed with a finite byte stream.  A `read` or
`recv` may return fewer bytes than it was asked for, and nothing once the
stream is over.  `client_cmd_write` and `client_cmd_read` look at no count:
the bytes of a field that did not arrive are whatever the local variable held
before.
-/

namespace StreamIO.Backend

open StreamIO.Library StreamIO.Local StreamIO.Net

variable {Registers : Type u}

/-- The surroundings of a run: the `n`-th receive returns at most `cuts n + 1`
bytes, into a local variable that held `junk n`. -/
structure Reception where
  cuts : Nat → Nat
  junk : Nat → UInt32

namespace MappedServer

/-- The local variable that the next receive goes to has not been
initialised. -/
def uninitialised (server : MappedServer Registers) (junk : UInt32) :
    MappedServer Registers :=
  match server.pc with
  | .writeAddr => { server with addr := junk }
  | .writeValue => { server with value := junk }
  | .readAddr => { server with addr := junk }
  | .command => server
  | .reply => server
  | .closed => server

/-- The access that follows the receive at the program counter. -/
def accesses (server : MappedServer Registers) (result : SocketResult) :
    List MappedCall :=
  match server.pc with
  | .writeValue => [.write server.addr (receiveWord server.value result)]
  | .readAddr => [.read (receiveWord server.addr result)]
  | .command => []
  | .writeAddr => []
  | .reply => []
  | .closed => []

end MappedServer

/-- The server, the bytes still to come, the number of receives so far and
the accesses performed. -/
structure MappedRun (Registers : Type u) where
  server : MappedServer Registers
  remaining : List UInt8
  received : Nat
  accesses : List MappedCall

namespace MappedRun

/-- A receive of the field the server stands at. -/
def receive (bus : RegisterBus Registers) (reception : Reception)
    (run : MappedRun Registers) : MappedRun Registers :=
  let server := run.server.uninitialised (reception.junk run.received)
  let count := min server.wanted (reception.cuts run.received + 1)
  let result := SocketResult.received (run.remaining.take count)
  { server := server.step bus result
    remaining := run.remaining.drop count
    received := run.received + 1
    accesses := run.accesses ++ server.accesses result }

/-- One blocking call; the `send` of a value succeeds. -/
def step (bus : RegisterBus Registers) (reception : Reception)
    (run : MappedRun Registers) : MappedRun Registers :=
  match run.server.pc with
  | .closed => run
  | .reply => { run with server := run.server.step bus .sent }
  | .command => run.receive bus reception
  | .writeAddr => run.receive bus reception
  | .writeValue => run.receive bus reception
  | .readAddr => run.receive bus reception

/-- The channel has just been opened. -/
def opened (registers : Registers) (stream : List UInt8) :
    MappedRun Registers :=
  { server := { pc := .command, addr := 0, value := 0,
                device := ioAddMappedDevice registers }
    remaining := stream
    received := 0
    accesses := [] }

/-- The loop of `client_mapped_channel` around `client_mapped_cmd_handle`.
Three calls serve a command of at least one byte and one call finds the end of
the stream. -/
def serve (bus : RegisterBus Registers) (reception : Reception)
    (registers : Registers) (stream : List UInt8) : MappedRun Registers :=
  (step bus reception)^[3 * stream.length + 1] (opened registers stream)

end MappedRun

/-- The commands of a byte stream: unknown command bytes are skipped, and a
command whose fields are not complete is none. -/
def parseCommands : List UInt8 → List MappedCall
  | [] => []
  | cmd :: rest =>
      if cmd = CmdCallType.callWrite.code then
        match rest with
        | a₀ :: a₁ :: a₂ :: a₃ :: v₀ :: v₁ :: v₂ :: v₃ :: more =>
            .write (ofLittleEndian32 [a₀, a₁, a₂, a₃])
              (ofLittleEndian32 [v₀, v₁, v₂, v₃]) :: parseCommands more
        | _ => []
      else if cmd = CmdCallType.callRead.code then
        match rest with
        | a₀ :: a₁ :: a₂ :: a₃ :: more =>
            .read (ofLittleEndian32 [a₀, a₁, a₂, a₃]) :: parseCommands more
        | _ => []
      else parseCommands rest

/-- From the `n`-th receive on, every address and every value is there and is
received in one piece. -/
def FieldsWhole (cuts : Nat → Nat) (n : Nat) : List UInt8 → Prop
  | [] => True
  | cmd :: rest =>
      if cmd = CmdCallType.callWrite.code then
        match rest with
        | _ :: _ :: _ :: _ :: _ :: _ :: _ :: _ :: more =>
            3 ≤ cuts (n + 1) ∧ 3 ≤ cuts (n + 2) ∧
              FieldsWhole cuts (n + 3) more
        | _ => False
      else if cmd = CmdCallType.callRead.code then
        match rest with
        | _ :: _ :: _ :: _ :: more =>
            3 ≤ cuts (n + 1) ∧ FieldsWhole cuts (n + 2) more
        | _ => False
      else FieldsWhole cuts (n + 1) rest

/-- A receive of four bytes: the value the variable takes. -/
def Reception.field (reception : Reception) (n : Nat)
    (stream : List UInt8) : UInt32 :=
  receiveWord (reception.junk n)
    (.received (stream.take (min 4 (reception.cuts n + 1))))

/-- What a receive of four bytes leaves of the stream. -/
def Reception.behind (reception : Reception) (n : Nat)
    (stream : List UInt8) : List UInt8 :=
  stream.drop (min 4 (reception.cuts n + 1))

/-- The accesses of the server from its `n`-th receive on. -/
def servedCommands (reception : Reception) (n : Nat) :
    List UInt8 → List MappedCall
  | [] => []
  | cmd :: rest =>
      if cmd = CmdCallType.callWrite.code then
        let behind := reception.behind (n + 1) rest
        .write (reception.field (n + 1) rest)
            (reception.field (n + 2) behind) ::
          servedCommands reception (n + 3)
            (reception.behind (n + 2) behind)
      else if cmd = CmdCallType.callRead.code then
        .read (reception.field (n + 1) rest) ::
          servedCommands reception (n + 2) (reception.behind (n + 1) rest)
      else servedCommands reception (n + 1) rest
termination_by stream => stream.length
decreasing_by
  · simp only [Reception.behind, List.length_drop, List.length_cons]
    omega
  · simp only [Reception.behind, List.length_drop, List.length_cons]
    omega
  · simp

namespace MappedRun

variable {bus : RegisterBus Registers} {reception : Reception}

theorem step_closed {run : MappedRun Registers}
    (pc : run.server.pc = .closed) : step bus reception run = run := by
  simp only [step, pc]

theorem step_command (server : MappedServer Registers) (cmd : UInt8)
    (rest : List UInt8) (n : Nat) (accesses : List MappedCall)
    (pc : server.pc = .command) :
    step bus reception
        { server := server, remaining := cmd :: rest, received := n,
          accesses := accesses } =
      { server := { server with pc := MappedServer.commandPc cmd }
        remaining := rest
        received := n + 1
        accesses := accesses } := by
  have one : min 1 (reception.cuts n + 1) = 1 :=
    Nat.min_eq_left (Nat.le_add_left 1 _)
  simp only [step, pc, receive, MappedServer.uninitialised,
    MappedServer.wanted, one, List.take_succ_cons, List.take_zero,
    List.drop_succ_cons, List.drop_zero, MappedServer.step,
    MappedServer.receiveCommand, MappedServer.accesses, List.append_nil]

theorem step_write (server : MappedServer Registers) (rest : List UInt8)
    (n : Nat) (accesses : List MappedCall) :
    (step bus reception)^[2]
        { server := { server with pc := .writeAddr }, remaining := rest,
          received := n + 1, accesses := accesses } =
      { server :=
          { pc := .command
            addr := reception.field (n + 1) rest
            value := reception.field (n + 2)
              (reception.behind (n + 1) rest)
            device := ioWriteMappedDevice bus server.device
              (reception.field (n + 1) rest)
              (reception.field (n + 2) (reception.behind (n + 1) rest)) }
        remaining := reception.behind (n + 2)
          (reception.behind (n + 1) rest)
        received := n + 3
        accesses := accesses ++
          [.write (reception.field (n + 1) rest)
            (reception.field (n + 2) (reception.behind (n + 1) rest))] } := by
  simp only [Function.iterate_succ, Function.iterate_zero,
    Function.comp_apply, id, step, receive, MappedServer.uninitialised,
    MappedServer.wanted, MappedServer.step, MappedServer.accesses,
    List.append_nil, Reception.field, Reception.behind]

theorem step_read (server : MappedServer Registers) (rest : List UInt8)
    (n : Nat) (accesses : List MappedCall) :
    (step bus reception)^[2]
        { server := { server with pc := .readAddr }, remaining := rest,
          received := n + 1, accesses := accesses } =
      { server :=
          { pc := .command
            addr := reception.field (n + 1) rest
            value := (ioReadMappedDevice bus server.device
              (reception.field (n + 1) rest)).2
            device := (ioReadMappedDevice bus server.device
              (reception.field (n + 1) rest)).1 }
        remaining := reception.behind (n + 1) rest
        received := n + 2
        accesses := accesses ++
          [.read (reception.field (n + 1) rest)] } := by
  simp only [Function.iterate_succ, Function.iterate_zero,
    Function.comp_apply, id, step, receive, MappedServer.uninitialised,
    MappedServer.wanted, MappedServer.step, MappedServer.accesses,
    Reception.field, Reception.behind]

/-- What the server has done when it comes to the end of its stream. -/
structure Completes (bus : RegisterBus Registers)
    (run final : MappedRun Registers) (calls : List MappedCall) :
    Prop where
  closed : final.server.pc = .closed
  accesses : final.accesses = run.accesses ++ calls
  device : final.server.device = (directRun bus run.server.device calls).1

theorem Completes.cons {run middle final : MappedRun Registers}
    {call : MappedCall} {calls : List MappedCall}
    (later : Completes bus middle final calls)
    (accesses : middle.accesses = run.accesses ++ [call])
    (device : middle.server.device =
      (directCall bus run.server.device call).1) :
    Completes bus run final (call :: calls) := by
  refine ⟨later.closed, ?_, ?_⟩
  · rw [later.accesses, accesses, List.append_assoc,
      List.singleton_append]
  · rw [later.device, device, directRun_cons]

theorem iterate_ended {server : MappedServer Registers} {n : Nat}
    {accesses : List MappedCall} (pc : server.pc = .command) (fuel : Nat) :
    (step bus reception)^[fuel + 1]
        { server := server, remaining := [], received := n,
          accesses := accesses } =
      { server := { server with pc := .closed }, remaining := [],
        received := n + 1, accesses := accesses } := by
  have ended : step bus reception
      { server := server, remaining := [], received := n,
        accesses := accesses } =
      { server := { server with pc := .closed }, remaining := [],
        received := n + 1, accesses := accesses } := by
    simp only [step, pc, receive, MappedServer.uninitialised,
      List.take_nil, List.drop_nil, MappedServer.step,
      MappedServer.receiveCommand, MappedServer.accesses, List.append_nil]
  rw [Function.iterate_succ_apply, ended,
    Function.iterate_fixed (step_closed rfl)]

/-- With enough calls the server gets to the end of its stream. -/
theorem iterate_completes (run : MappedRun Registers)
    (pc : run.server.pc = .command)
    (type : run.server.device.type = .mappedDevice) {fuel : Nat}
    (enough : 3 * run.remaining.length + 1 ≤ fuel) :
    Completes bus run ((step bus reception)^[fuel] run)
      (servedCommands reception run.received run.remaining) := by
  induction size : run.remaining.length using Nat.strongRecOn
    generalizing run fuel with
  | ind bound induction =>
      obtain ⟨server, remaining, n, accesses⟩ := run
      simp only at pc type enough size
      cases remaining with
      | nil =>
          obtain ⟨fuel, rfl⟩ : ∃ less, fuel = less + 1 :=
            ⟨fuel - 1, by omega⟩
          rw [iterate_ended pc, servedCommands]
          exact ⟨rfl, (List.append_nil _).symm, rfl⟩
      | cons cmd rest =>
          simp only [List.length_cons] at enough size
          obtain ⟨fuel, rfl⟩ : ∃ less, fuel = less + 3 :=
            ⟨fuel - 3, by omega⟩
          have once : (reception.behind (n + 1) rest).length ≤
              rest.length := by
            simp only [Reception.behind, List.length_drop]
            omega
          have twice : (reception.behind (n + 2)
              (reception.behind (n + 1) rest)).length ≤ rest.length := by
            simp only [Reception.behind, List.length_drop]
            omega
          by_cases isWrite : cmd = CmdCallType.callWrite.code
          · have commandPc : MappedServer.commandPc cmd = .writeAddr := by
              simp only [MappedServer.commandPc, if_pos isWrite]
            rw [Function.iterate_add_apply, Function.iterate_succ_apply,
              step_command _ _ _ _ _ pc, commandPc, step_write,
              servedCommands, if_pos isWrite]
            apply Completes.cons (induction _ _ _ rfl _ _ rfl) rfl
            · simp only [ioWriteMappedDevice, if_pos type, directCall]
            · simp only
              omega
            · simp only [ioWriteMappedDevice, if_pos type]
              exact (directCall_type bus server.device
                (.write _ _)).trans type
            · simp only
              omega
          · by_cases isRead : cmd = CmdCallType.callRead.code
            · have commandPc : MappedServer.commandPc cmd = .readAddr := by
                simp only [MappedServer.commandPc, if_neg isWrite,
                  if_pos isRead]
              rw [Function.iterate_add_apply, Function.iterate_succ_apply,
                step_command _ _ _ _ _ pc, commandPc, step_read,
                servedCommands, if_neg isWrite, if_pos isRead]
              apply Completes.cons (induction _ _ _ rfl _ _ rfl) rfl
              · rfl
              · simp only
                omega
              · exact (directCall_type bus server.device (.read _)).trans
                  type
              · simp only
                omega
            · have commandPc : MappedServer.commandPc cmd = .command := by
                simp only [MappedServer.commandPc, if_neg isWrite,
                  if_neg isRead]
              rw [Function.iterate_succ_apply, step_command _ _ _ _ _ pc,
                commandPc, servedCommands, if_neg isWrite, if_neg isRead]
              have later := @induction rest.length (by omega)
                { server := { server with pc := .command }
                  remaining := rest
                  received := n + 1
                  accesses := accesses }
                rfl type (fuel + 2) (by simp only; omega) rfl
              exact ⟨later.closed, later.accesses, later.device⟩

theorem serve_completes (bus : RegisterBus Registers) (reception : Reception)
    (registers : Registers) (stream : List UInt8) :
    Completes bus (opened registers stream)
      (serve bus reception registers stream)
      (servedCommands reception 0 stream) :=
  iterate_completes (opened registers stream) rfl rfl (Nat.le_refl _)

end MappedRun

theorem receiveWord_short {bytes : List UInt8} (short : bytes.length < 4)
    (word : UInt32) :
    ∃ junk, receiveWord junk (.received bytes) ≠ word := by
  by_contra always
  push Not at always
  have different : receiveWord 0 (.received bytes) ≠
      receiveWord 16777216 (.received bytes) := by
    simp only [receiveWord, SocketResult.bytes, overwrite,
      length_littleEndian32, List.take_of_length_le (Nat.le_of_lt short)]
    intro equal
    have values := congrArg UInt32.toNat equal
    have zero : littleEndian32 0 = [0, 0, 0, 0] := by decide
    have one : littleEndian32 16777216 = [0, 0, 0, 1] := by decide
    simp only [ofLittleEndian32, UInt32.toNat_ofNat', zero, one] at values
    rcases bytes with _ | ⟨a, _ | ⟨b, _ | ⟨c, _ | ⟨d, bytes⟩⟩⟩⟩
    · simp [littleEndianValue] at values
    · have := a.toNat_lt
      simp [littleEndianValue] at values
      omega
    · have := a.toNat_lt
      have := b.toNat_lt
      simp [littleEndianValue] at values
      omega
    · have := a.toNat_lt
      have := b.toNat_lt
      have := c.toNat_lt
      simp [littleEndianValue] at values
      omega
    · simp only [List.length_cons] at short
      omega
  exact different ((always 0).trans (always 16777216).symm)

theorem receiveWord_complete (junk : UInt32) {bytes : List UInt8}
    (complete : bytes.length = 4) :
    receiveWord junk (.received bytes) = ofLittleEndian32 bytes := by
  have whole : overwrite (littleEndian32 junk) bytes = bytes :=
    overwrite_whole complete
  simp only [receiveWord, SocketResult.bytes, whole]

theorem parseCommands_write (rest : List UInt8) :
    parseCommands (CmdCallType.callWrite.code :: rest) =
      if 8 ≤ rest.length then
        .write (ofLittleEndian32 (rest.take 4))
            (ofLittleEndian32 ((rest.drop 4).take 4)) ::
          parseCommands (rest.drop 8)
      else [] := by
  rw [parseCommands.eq_def]
  dsimp only
  rw [if_pos rfl]
  split
  · simp
  · rename_i incomplete
    rw [if_neg]
    intro long
    match rest, long with
    | a₀ :: a₁ :: a₂ :: a₃ :: v₀ :: v₁ :: v₂ :: v₃ :: more, _ =>
        exact incomplete a₀ a₁ a₂ a₃ v₀ v₁ v₂ v₃ more rfl

theorem parseCommands_read (rest : List UInt8) :
    parseCommands (CmdCallType.callRead.code :: rest) =
      if 4 ≤ rest.length then
        .read (ofLittleEndian32 (rest.take 4)) :: parseCommands (rest.drop 4)
      else [] := by
  rw [parseCommands.eq_def]
  dsimp only
  rw [if_neg (by decide), if_pos rfl]
  split
  · simp
  · rename_i incomplete
    rw [if_neg]
    intro long
    match rest, long with
    | a₀ :: a₁ :: a₂ :: a₃ :: more, _ =>
        exact incomplete a₀ a₁ a₂ a₃ more rfl

theorem parseCommands_other {cmd : UInt8} (rest : List UInt8)
    (notWrite : cmd ≠ CmdCallType.callWrite.code)
    (notRead : cmd ≠ CmdCallType.callRead.code) :
    parseCommands (cmd :: rest) = parseCommands rest := by
  rw [parseCommands.eq_def]
  dsimp only
  rw [if_neg notWrite, if_neg notRead]

theorem fieldsWhole_other (cuts : Nat → Nat) (n : Nat) {cmd : UInt8}
    (rest : List UInt8) (notWrite : cmd ≠ CmdCallType.callWrite.code)
    (notRead : cmd ≠ CmdCallType.callRead.code) :
    FieldsWhole cuts n (cmd :: rest) ↔ FieldsWhole cuts (n + 1) rest := by
  rw [FieldsWhole.eq_def]
  dsimp only
  rw [if_neg notWrite, if_neg notRead]

theorem fieldsWhole_write (cuts : Nat → Nat) (n : Nat)
    (rest : List UInt8) :
    FieldsWhole cuts n (CmdCallType.callWrite.code :: rest) ↔
      8 ≤ rest.length ∧ 3 ≤ cuts (n + 1) ∧ 3 ≤ cuts (n + 2) ∧
        FieldsWhole cuts (n + 3) (rest.drop 8) := by
  rw [FieldsWhole.eq_def]
  dsimp only
  rw [if_pos rfl]
  split
  · simp
  · rename_i incomplete
    rw [false_iff]
    rintro ⟨long, _⟩
    match rest, long with
    | a₀ :: a₁ :: a₂ :: a₃ :: v₀ :: v₁ :: v₂ :: v₃ :: more, _ =>
        exact incomplete a₀ a₁ a₂ a₃ v₀ v₁ v₂ v₃ more rfl

theorem fieldsWhole_read (cuts : Nat → Nat) (n : Nat) (rest : List UInt8) :
    FieldsWhole cuts n (CmdCallType.callRead.code :: rest) ↔
      4 ≤ rest.length ∧ 3 ≤ cuts (n + 1) ∧
        FieldsWhole cuts (n + 2) (rest.drop 4) := by
  rw [FieldsWhole.eq_def]
  dsimp only
  rw [if_neg (by decide), if_pos rfl]
  split
  · simp
  · rename_i incomplete
    rw [false_iff]
    rintro ⟨long, _⟩
    match rest, long with
    | a₀ :: a₁ :: a₂ :: a₃ :: more, _ =>
        exact incomplete a₀ a₁ a₂ a₃ more rfl

theorem Reception.field_whole (reception : Reception) {n : Nat}
    {stream : List UInt8} (long : 4 ≤ stream.length)
    (whole : 3 ≤ reception.cuts n) :
    reception.field n stream = ofLittleEndian32 (stream.take 4) ∧
      reception.behind n stream = stream.drop 4 := by
  have four : min 4 (reception.cuts n + 1) = 4 := by omega
  simp only [Reception.field, Reception.behind, four]
  exact ⟨receiveWord_complete _ (List.length_take_of_le long), trivial⟩

/-- A field whose receive is cut short depends on what the variable held
before. -/
theorem Reception.field_short {cuts : Nat → Nat} {n : Nat}
    (stream : List UInt8) (short : cuts n < 3)
    (junk : Nat → UInt32) (word : UInt32) :
    ∃ value, Reception.field
      { cuts := cuts, junk := Function.update junk n value } n stream ≠
      word := by
  have missing : (stream.take (min 4 (cuts n + 1))).length < 4 := by
    rw [List.length_take]
    omega
  obtain ⟨value, differs⟩ := receiveWord_short missing word
  refine ⟨value, ?_⟩
  simpa only [Reception.field, Function.update_self] using differs

theorem write_whole_of_parsed {cuts : Nat → Nat} {n : Nat}
    {rest : List UInt8}
    (parsed : ∀ junk, servedCommands { cuts := cuts, junk := junk } n
      (CmdCallType.callWrite.code :: rest) =
        parseCommands (CmdCallType.callWrite.code :: rest)) :
    8 ≤ rest.length ∧ 3 ≤ cuts (n + 1) ∧ 3 ≤ cuts (n + 2) := by
  simp only [servedCommands, if_true, parseCommands_write] at parsed
  have long : 8 ≤ rest.length := by
    by_contra short
    have none := parsed fun _ => 0
    rw [if_neg short] at none
    cases none
  simp only [if_pos long, List.cons.injEq, MappedCall.write.injEq] at parsed
  have address : 3 ≤ cuts (n + 1) := by
    by_contra short
    obtain ⟨value, differs⟩ := Reception.field_short rest
      (Nat.lt_of_not_le short) (fun _ => 0)
      (ofLittleEndian32 (rest.take 4))
    exact differs (parsed _).1.1
  refine ⟨long, address, ?_⟩
  by_contra short
  obtain ⟨value, differs⟩ := Reception.field_short (rest.drop 4)
    (Nat.lt_of_not_le short) (fun _ => 0)
    (ofLittleEndian32 ((rest.drop 4).take 4))
  have same := (parsed (Function.update (fun _ => 0) (n + 2) value)).1.2
  rw [(Reception.field_whole _ (by omega) address).2] at same
  exact differs same

theorem read_whole_of_parsed {cuts : Nat → Nat} {n : Nat}
    {rest : List UInt8}
    (parsed : ∀ junk, servedCommands { cuts := cuts, junk := junk } n
      (CmdCallType.callRead.code :: rest) =
        parseCommands (CmdCallType.callRead.code :: rest)) :
    4 ≤ rest.length ∧ 3 ≤ cuts (n + 1) := by
  have notWrite : CmdCallType.callRead.code ≠ CmdCallType.callWrite.code := by
    decide
  simp only [servedCommands, if_neg notWrite, if_true,
    parseCommands_read] at parsed
  have long : 4 ≤ rest.length := by
    by_contra short
    have none := parsed fun _ => 0
    rw [if_neg short] at none
    cases none
  simp only [if_pos long, List.cons.injEq, MappedCall.read.injEq] at parsed
  refine ⟨long, ?_⟩
  by_contra short
  obtain ⟨value, differs⟩ := Reception.field_short rest
    (Nat.lt_of_not_le short) (fun _ => 0)
    (ofLittleEndian32 (rest.take 4))
  exact differs (parsed _).1

theorem servedCommands_write_whole (reception : Reception) {n : Nat}
    {rest : List UInt8} (long : 8 ≤ rest.length)
    (address : 3 ≤ reception.cuts (n + 1))
    (value : 3 ≤ reception.cuts (n + 2)) :
    servedCommands reception n (CmdCallType.callWrite.code :: rest) =
        parseCommands (CmdCallType.callWrite.code :: rest) ↔
      servedCommands reception (n + 3) (rest.drop 8) =
        parseCommands (rest.drop 8) := by
  obtain ⟨first, behind⟩ := reception.field_whole
    (show 4 ≤ rest.length by omega) address
  obtain ⟨second, last⟩ := reception.field_whole
    (show 4 ≤ (rest.drop 4).length by rw [List.length_drop]; omega) value
  rw [List.drop_drop] at last
  rw [servedCommands, if_pos rfl, parseCommands_write, if_pos long]
  simp only [first, behind, second, last, List.cons.injEq, true_and]

theorem servedCommands_read_whole (reception : Reception) {n : Nat}
    {rest : List UInt8} (long : 4 ≤ rest.length)
    (address : 3 ≤ reception.cuts (n + 1)) :
    servedCommands reception n (CmdCallType.callRead.code :: rest) =
        parseCommands (CmdCallType.callRead.code :: rest) ↔
      servedCommands reception (n + 2) (rest.drop 4) =
        parseCommands (rest.drop 4) := by
  obtain ⟨first, behind⟩ := reception.field_whole long address
  rw [servedCommands, if_neg (by decide), if_pos rfl, parseCommands_read,
    if_pos long]
  simp only [first, behind, List.cons.injEq, true_and]

/-- The server performs the parsed commands exactly when it receives every
field whole. -/
theorem servedCommands_eq_parseCommands_iff (cuts : Nat → Nat) (n : Nat)
    (stream : List UInt8) :
    (∀ junk, servedCommands { cuts := cuts, junk := junk } n stream =
        parseCommands stream) ↔
      FieldsWhole cuts n stream := by
  induction size : stream.length using Nat.strongRecOn
    generalizing n stream with
  | ind bound induction =>
      cases stream with
      | nil => simp [servedCommands, parseCommands, FieldsWhole]
      | cons cmd rest =>
          rw [List.length_cons] at size
          by_cases isWrite : cmd = CmdCallType.callWrite.code
          · subst cmd
            have later := induction (rest.drop 8).length
              (by rw [List.length_drop]; omega) (n + 3) (rest.drop 8) rfl
            rw [fieldsWhole_write, ← later]
            constructor
            · intro parsed
              obtain ⟨long, address, value⟩ := write_whole_of_parsed parsed
              exact ⟨long, address, value, fun junk =>
                (servedCommands_write_whole _ long address value).mp
                  (parsed junk)⟩
            · rintro ⟨long, address, value, parsed⟩ junk
              exact (servedCommands_write_whole _ long address value).mpr
                (parsed junk)
          · by_cases isRead : cmd = CmdCallType.callRead.code
            · subst cmd
              have later := induction (rest.drop 4).length
                (by rw [List.length_drop]; omega) (n + 2) (rest.drop 4) rfl
              rw [fieldsWhole_read, ← later]
              constructor
              · intro parsed
                obtain ⟨long, address⟩ := read_whole_of_parsed parsed
                exact ⟨long, address, fun junk =>
                  (servedCommands_read_whole _ long address).mp
                    (parsed junk)⟩
              · rintro ⟨long, address, parsed⟩ junk
                exact (servedCommands_read_whole _ long address).mpr
                  (parsed junk)
            · have later := induction rest.length (by omega) (n + 1) rest rfl
              rw [fieldsWhole_other cuts n rest isWrite isRead,
                parseCommands_other rest isWrite isRead]
              simp only [servedCommands, if_neg isWrite, if_neg isRead]
              exact later

/-- The server comes to the end of the stream having made the accesses that
the stream asks for, and no others. -/
def ExecutesParsed (bus : RegisterBus Registers) (reception : Reception)
    (registers : Registers) (stream : List UInt8) : Prop :=
  let final := MappedRun.serve bus reception registers stream
  final.server.pc = .closed ∧ final.accesses = parseCommands stream ∧
    final.server.device = (directRun bus (ioAddMappedDevice registers)
      (parseCommands stream)).1

theorem executesParsed_iff (bus : RegisterBus Registers)
    (reception : Reception) (registers : Registers) (stream : List UInt8) :
    ExecutesParsed bus reception registers stream ↔
      servedCommands reception 0 stream = parseCommands stream := by
  have completes := MappedRun.serve_completes bus reception registers stream
  have accesses : (MappedRun.serve bus reception registers stream).accesses =
      servedCommands reception 0 stream := completes.accesses
  constructor
  · rintro ⟨_, performed, _⟩
    exact accesses.symm.trans performed
  · intro same
    refine ⟨completes.closed, accesses.trans same, ?_⟩
    rw [completes.device, same]
    rfl

/-- Whatever its local variables held, the server executes exactly the
complete commands of its input if and only if every address and every value
is there and is received in one piece. -/
theorem executesParsed_iff_fieldsWhole (bus : RegisterBus Registers)
    (registers : Registers) (stream : List UInt8) (cuts : Nat → Nat) :
    (∀ junk, ExecutesParsed bus { cuts := cuts, junk := junk } registers
        stream) ↔
      FieldsWhole cuts 0 stream := by
  rw [← servedCommands_eq_parseCommands_iff]
  apply forall_congr'
  intro junk
  exact executesParsed_iff bus _ registers stream

/-- A register file. -/
def plainBus : RegisterBus (Nat → UInt32) where
  load registers addr := (registers, registers addr)
  store registers addr value := Function.update registers addr value

/-- A write command that arrives byte by byte. -/
theorem split_write_misplaced :
    ¬∀ (reception : Reception) (registers : Nat → UInt32)
      (stream : List UInt8),
      ExecutesParsed plainBus reception registers stream := by
  intro always
  obtain ⟨_, accesses, _⟩ := always
    { cuts := fun _ => 0, junk := fun _ => 0 } (fun _ => 0)
    [2, 1, 2, 0, 0, 5, 0, 0, 0]
  have performed : (MappedRun.serve plainBus
      { cuts := fun _ => 0, junk := fun _ => 0 } (fun _ => 0)
      [2, 1, 2, 0, 0, 5, 0, 0, 0]).accesses = [.write 1 2] := by
    decide +kernel
  have asked : parseCommands [2, 1, 2, 0, 0, 5, 0, 0, 0] =
      [.write 513 5] := by
    decide +kernel
  rw [performed, asked] at accesses
  cases accesses

end StreamIO.Backend
