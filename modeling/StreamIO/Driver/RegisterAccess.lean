import StreamIO.Library.ScriptedRun
import StreamIO.Driver.RegisterDevice

/-!
# What the register character device touches

The calls of `streamio-ctrl-drv.c` in machine arithmetic: the position is a
signed 64-bit number that is divided and cut to 32 bits, the bound of the
loops a 32-bit number.  Each call gives the registers and the elements of
`reg_read_buffer` it uses and the bytes it copies, and a caller may or may not
put back the position that a transfer has moved.
-/

namespace StreamIO.Driver

open StreamIO.Library

/-- The `addr` of a `transmit_ctx` and the `f_pos` of its file. -/
structure TransmitFile where
  addr : UInt32
  fPos : Int64
  deriving DecidableEq

/-- A byte offset given to `ioread32` or `iowrite32`, an element of a
`reg_read_buffer` of `size` bytes, and a copy between it and the user. -/
inductive RegisterAccess where
  | register (offset : Nat)
  | element (index size : Nat)
  | copied (bytes size : Nat)
  deriving DecidableEq, Repr

/-- The access stays in the registers, in the allocation and in what was
asked for. -/
def RegisterAccess.InBounds : RegisterAccess → Prop
  | .register offset => offset < regSize * regLength
  | .element index size => regSize * index + regSize ≤ size
  | .copied bytes size => bytes ≤ size

/-- The register that is accessed. -/
def RegisterAccess.offset : RegisterAccess → Option Nat
  | .register offset => some offset
  | .element _ _ => none
  | .copied _ _ => none

namespace TransmitFile

/-- `tc_cdev_open`. -/
def tcCdevOpen : TransmitFile := { addr := 0, fPos := 0 }

/-- `llseek`. -/
def llseek (file : TransmitFile) (offset : Int64) (whence : Whence) :
    TransmitFile × Int64 :=
  let newpos :=
    match whence with
    | .seekSet => offset
    | .seekEnd => 512
    | .seekCur => file.addr.toUInt64.toInt64 + offset
    | .other newpos => Int64.ofInt newpos
  if newpos < 0 then (file, -22) else ({ file with fPos := newpos }, newpos)

/-- `unsigned int addr = file->f_pos / REG_SIZE`. -/
def position (file : TransmitFile) : UInt32 :=
  (file.fPos / 4).toUInt64.toUInt32

/-- `min(size / REG_SIZE, (size_t)REG_LENGTH - tc->addr)` as an
`unsigned int`. -/
def limit (file : TransmitFile) (size : UInt64) : UInt32 :=
  (min (size / 4) (512 - file.addr.toUInt64)).toUInt32

theorem toNat_next {addr limit : UInt32} (below : addr < limit) :
    (addr + 1).toNat = addr.toNat + 1 := by
  have index := UInt32.lt_iff_toNat_lt.mp below
  have bound : limit.toNat < 4294967296 := limit.toNat_lt
  rw [UInt32.toNat_add, UInt32.toNat_one]
  omega

/-- The loop of both transfers. -/
def registerLoop (limit : UInt32) (size : UInt64) (addr : UInt32) :
    List RegisterAccess :=
  if below : addr < limit then
    [.register (addr * 4).toNat, .element addr.toNat size.toNat] ++
      registerLoop limit size (addr + 1)
  else []
termination_by limit.toNat - addr.toNat
decreasing_by
  have next := toNat_next below
  have index := UInt32.lt_iff_toNat_lt.mp below
  omega

def loopAccesses (file : TransmitFile) (size : UInt64) :
    List RegisterAccess :=
  registerLoop (file.limit size) size file.position

/-- `tc_cdev_read`: the file, the result and the accesses.  `reachable` is
whether `copy_to_user` succeeds. -/
def tcCdevRead (file : TransmitFile) (size : UInt64) (reachable : Bool) :
    TransmitFile × Int64 × List RegisterAccess :=
  let exactSize := (file.limit size * 4).toUInt64
  let accesses := file.loopAccesses size ++
    [.copied exactSize.toNat size.toNat]
  if reachable then
    ({ file with fPos := file.fPos + exactSize.toInt64 },
      exactSize.toInt64, accesses)
  else (file, -14, accesses)

/-- `tc_cdev_write`, with whether `copy_from_user` succeeds. -/
def tcCdevWrite (file : TransmitFile) (size : UInt64) (reachable : Bool) :
    TransmitFile × Int64 × List RegisterAccess :=
  if reachable then
    ({ file with
        fPos := file.fPos + (file.limit size * 4).toUInt64.toInt64 },
      size.toInt64,
      .copied size.toNat size.toNat :: file.loopAccesses size)
  else (file, -14, [.copied size.toNat size.toNat])

end TransmitFile

/-- A call on the device.  `storesBack` is whether the caller puts the
position back to what it was before the transfer. -/
inductive RegisterCall where
  | opens
  | llseek (offset : Int64) (whence : Whence)
  | read (size : UInt64) (reachable storesBack : Bool)
  | write (size : UInt64) (reachable storesBack : Bool)

/-- An open file, and all that was accessed through it. -/
structure RegisterSession where
  file : TransmitFile
  accesses : List RegisterAccess

namespace RegisterSession

def start : RegisterSession :=
  { file := TransmitFile.tcCdevOpen, accesses := [] }

/-- The session after a transfer. -/
def transferred (session : RegisterSession) (storesBack : Bool)
    (after : TransmitFile × Int64 × List RegisterAccess) :
    RegisterSession :=
  { file :=
      if storesBack then { after.1 with fPos := session.file.fPos }
      else after.1
    accesses := session.accesses ++ after.2.2 }

def step (session : RegisterSession) : RegisterCall → RegisterSession
  | .opens => { session with file := TransmitFile.tcCdevOpen }
  | .llseek offset whence =>
      { session with file := (session.file.llseek offset whence).1 }
  | .read size reachable storesBack =>
      session.transferred storesBack (session.file.tcCdevRead size reachable)
  | .write size reachable storesBack =>
      session.transferred storesBack
        (session.file.tcCdevWrite size reachable)

end RegisterSession

namespace TransmitFile

variable {file : TransmitFile} {limit : UInt32} {size : UInt64}

theorem toNat_min_words (size : UInt64) :
    (min (size / 4) 512).toNat = min (size.toNat / regSize) regLength := by
  have quotient : (size / 4).toNat = size.toNat / regSize :=
    UInt64.toNat_div _ _
  have registers : (512 : UInt64).toNat = regLength := rfl
  rw [← quotient, ← registers]
  by_cases below : size / 4 ≤ 512
  · rw [Nat.min_eq_left (UInt64.le_iff_toNat_le.mp below)]
    exact congrArg UInt64.toNat (if_pos below)
  · have above : 512 ≤ size / 4 :=
      (UInt64.le_total (size / 4) 512).resolve_left below
    rw [Nat.min_eq_right (UInt64.le_iff_toNat_le.mp above)]
    exact congrArg UInt64.toNat (if_neg below)

/-- The bound is at most the number of registers, and of the words of the
allocation. -/
theorem limit_toNat (addr : file.addr = 0) (size : UInt64) :
    (file.limit size).toNat = min (size.toNat / regSize) regLength := by
  have most : (512 : UInt64) - file.addr.toUInt64 = 512 := by
    rw [addr]
    rfl
  rw [TransmitFile.limit, most, UInt64.toNat_toUInt32, toNat_min_words]
  apply Nat.mod_eq_of_lt
  apply Nat.lt_of_le_of_lt (Nat.min_le_right _ _)
  decide

theorem toNat_mul_four (small : limit.toNat ≤ regLength) :
    (limit * 4).toNat = regSize * limit.toNat := by
  simp only [regLength] at small
  rw [UInt32.toNat_mul]
  simp only [regSize, UInt32.reduceToNat]
  omega

/-- Whatever the loop starts with, it stays below its bound. -/
theorem registerLoop_inBounds (registers : limit.toNat ≤ regLength)
    (allocated : regSize * limit.toNat ≤ size.toNat) (addr : UInt32) :
    ∀ access ∈ registerLoop limit size addr, access.InBounds := by
  fun_induction registerLoop limit size addr with
  | case1 addr below induction =>
      have index := UInt32.lt_iff_toNat_lt.mp below
      have offset := toNat_mul_four
        (Nat.le_trans (Nat.le_of_lt index) registers)
      intro access member
      simp only [List.cons_append, List.nil_append, List.mem_cons] at member
      rcases member with rfl | rfl | later
      · rw [RegisterAccess.InBounds, offset]
        simp only [regSize]
        omega
      · rw [RegisterAccess.InBounds]
        simp only [regSize] at allocated ⊢
        omega
      · exact induction access later
  | case2 addr ended =>
      intro access member
      cases member

theorem loopAccesses_inBounds (addr : file.addr = 0) (size : UInt64) :
    ∀ access ∈ file.loopAccesses size, access.InBounds := by
  have bound := limit_toNat addr size
  apply registerLoop_inBounds
  · omega
  · simp only [regSize] at bound ⊢
    omega

theorem tcCdevRead_inBounds (addr : file.addr = 0) (size : UInt64)
    (reachable : Bool) :
    ∀ access ∈ (file.tcCdevRead size reachable).2.2, access.InBounds := by
  have bound := limit_toNat addr size
  have bytes := @toNat_mul_four (file.limit size) (by omega)
  have accesses : (file.tcCdevRead size reachable).2.2 =
      file.loopAccesses size ++
        [.copied (file.limit size * 4).toUInt64.toNat size.toNat] := by
    cases reachable with
    | false => rfl
    | true => rfl
  rw [accesses]
  intro access member
  rcases List.mem_append.mp member with loop | copy
  · exact loopAccesses_inBounds addr size access loop
  · rw [List.mem_singleton.mp copy, RegisterAccess.InBounds,
      UInt32.toNat_toUInt64, bytes]
    simp only [regSize] at bound ⊢
    omega

theorem tcCdevWrite_inBounds (addr : file.addr = 0) (size : UInt64)
    (reachable : Bool) :
    ∀ access ∈ (file.tcCdevWrite size reachable).2.2, access.InBounds := by
  intro access member
  cases reachable with
  | false =>
      rw [List.mem_singleton.mp member]
      exact Nat.le_refl _
  | true =>
      rcases List.mem_cons.mp member with rfl | loop
      · exact Nat.le_refl _
      · exact loopAccesses_inBounds addr size access loop

theorem llseek_addr (file : TransmitFile) (offset : Int64)
    (whence : Whence) : (file.llseek offset whence).1.addr = file.addr := by
  simp only [llseek, apply_ite Prod.fst, apply_ite TransmitFile.addr, ite_self]

theorem tcCdevRead_addr (file : TransmitFile) (size : UInt64)
    (reachable : Bool) :
    (file.tcCdevRead size reachable).1.addr = file.addr := by
  cases reachable with
  | false => rfl
  | true => rfl

theorem tcCdevWrite_addr (file : TransmitFile) (size : UInt64)
    (reachable : Bool) :
    (file.tcCdevWrite size reachable).1.addr = file.addr := by
  cases reachable with
  | false => rfl
  | true => rfl

/-- The file of the model that has the registers. -/
structure SameFile (transmit : TransmitFile) (file : ControlFile) : Prop where
  addr : transmit.addr = 0
  sameAddr : file.addr = 0
  fPos : transmit.fPos.toInt = file.fPos
  positive : 0 ≤ file.fPos

namespace SameFile

variable {transmit : TransmitFile} {file : ControlFile}

theorem toNat_position (same : SameFile transmit file) :
    transmit.position.toNat = file.position := by
  have positive := same.positive
  have quotient : (transmit.fPos / 4).toInt = file.fPos / regSize := by
    rw [Int64.toInt_div_of_ne_right _ _ (by decide), same.fPos]
    exact Int.tdiv_eq_ediv_of_nonneg positive
  have nonneg : 0 ≤ transmit.fPos / 4 := by
    rw [Int64.le_iff_toInt_le, quotient]
    simp only [regSize, Int64.toInt_zero]
    omega
  rw [TransmitFile.position, UInt64.toNat_toUInt32,
    Int64.toNat_toUInt64_of_le nonneg, ControlFile.position, ← quotient]
  rfl

theorem toNat_limit (same : SameFile transmit file) (size : UInt64) :
    (transmit.limit size).toNat = file.limit size.toNat := by
  rw [limit_toNat same.addr, ControlFile.limit, same.sameAddr, Nat.sub_zero]

theorem llseek (same : SameFile transmit file) (offset : Int64)
    (whence : Whence)
    (fits : ∀ newpos, whence = .other newpos →
      (Int64.ofInt newpos).toInt = newpos) :
    SameFile (transmit.llseek offset whence).1
        (file.llseek offset.toInt whence).1 ∧
      (transmit.llseek offset whence).2.toInt =
        (file.llseek offset.toInt whence).2 := by
  have moved : ∀ {newpos : Int64} {target : Int}, newpos.toInt = target →
      SameFile
          (if newpos < 0 then (transmit, -22)
            else (({ transmit with fPos := newpos }, newpos) :
              TransmitFile × Int64)).1
          (if target < 0 then (file, -22)
            else (({ file with fPos := target }, target) :
              ControlFile × Int)).1 ∧
        (if newpos < 0 then (transmit, -22)
          else (({ transmit with fPos := newpos }, newpos) :
            TransmitFile × Int64)).2.toInt =
          (if target < 0 then (file, -22)
            else (({ file with fPos := target }, target) :
              ControlFile × Int)).2 := by
    rintro newpos target rfl
    have sign : newpos < 0 ↔ newpos.toInt < 0 := Int64.lt_iff_toInt_lt
    by_cases rejected : newpos < 0
    · rw [if_pos rejected, if_pos (sign.mp rejected)]
      exact ⟨same, rfl⟩
    · have accepted : ¬newpos.toInt < 0 := mt sign.mpr rejected
      rw [if_neg rejected, if_neg accepted]
      exact ⟨⟨same.addr, same.sameAddr, rfl, Int.not_lt.mp accepted⟩, rfl⟩
  cases whence with
  | seekSet => exact moved rfl
  | seekEnd => exact moved rfl
  | seekCur =>
      apply moved
      rw [same.addr, same.sameAddr]
      simp
  | other newpos => exact moved (fits newpos rfl)

end SameFile

theorem registerLoop_registers (small : limit.toNat ≤ regLength)
    (addr : UInt32) :
    (registerLoop limit size addr).filterMap RegisterAccess.offset =
      (List.range' addr.toNat (limit.toNat - addr.toNat)).map
        (regSize * ·) := by
  fun_induction registerLoop limit size addr with
  | case1 addr below induction =>
      have index := UInt32.lt_iff_toNat_lt.mp below
      have offset := toNat_mul_four
        (Nat.le_trans (Nat.le_of_lt index) small)
      have count : limit.toNat - addr.toNat =
          limit.toNat - (addr + 1).toNat + 1 := by
        rw [toNat_next below]
        omega
      rw [count, List.range'_succ, List.map_cons, ← toNat_next below,
        ← induction, ← offset]
      rfl
  | case2 addr ended =>
      have above : ¬addr.toNat < limit.toNat := by
        rw [← UInt32.lt_iff_toNat_lt]
        exact ended
      have none : limit.toNat - addr.toNat = 0 := by omega
      rw [none]
      rfl

theorem SameFile.stored {transmit : TransmitFile} {file : ControlFile}
    (same : SameFile transmit file) (words : List UInt32) {size : UInt64}
    (bytes : size.toNat = regSize * words.length) :
    (file.tcCdevWrite words true).1.stored.map (regSize * ·) =
      file.stored.map (regSize * ·) ++
        (transmit.tcCdevWrite size true).2.2.filterMap
          RegisterAccess.offset := by
  have bound := limit_toNat same.addr size
  have loop := @registerLoop_registers (transmit.limit size) size (by omega)
    transmit.position
  rw [same.toNat_position, same.toNat_limit, bytes] at loop
  have accesses : (transmit.tcCdevWrite size true).2.2.filterMap
      RegisterAccess.offset =
        (transmit.loopAccesses size).filterMap RegisterAccess.offset := rfl
  rw [accesses, TransmitFile.loopAccesses, loop, ← List.map_append,
    ← stored_writeRegisters]
  rfl

end TransmitFile

namespace RegisterSession

variable {session : RegisterSession}

/-- No seek has moved `addr`, and all accesses were in bounds. -/
structure Guarded (session : RegisterSession) : Prop where
  addr : session.file.addr = 0
  inBounds : ∀ access ∈ session.accesses, access.InBounds

theorem Guarded.transferred (guarded : Guarded session) (storesBack : Bool)
    {after : TransmitFile × Int64 × List RegisterAccess}
    (addr : after.1.addr = session.file.addr)
    (inBounds : ∀ access ∈ after.2.2, access.InBounds) :
    Guarded (session.transferred storesBack after) := by
  constructor
  · rw [← guarded.addr, ← addr, RegisterSession.transferred]
    cases storesBack with
    | false => rfl
    | true => rfl
  · intro access member
    rcases List.mem_append.mp member with earlier | now
    · exact guarded.inBounds access earlier
    · exact inBounds access now

theorem Guarded.step (guarded : Guarded session) (call : RegisterCall) :
    Guarded (session.step call) := by
  cases call with
  | opens => exact ⟨rfl, guarded.inBounds⟩
  | llseek offset whence =>
      refine ⟨?_, guarded.inBounds⟩
      rw [← guarded.addr]
      exact TransmitFile.llseek_addr session.file offset whence
  | read size reachable storesBack =>
      apply guarded.transferred storesBack
      · exact TransmitFile.tcCdevRead_addr session.file size reachable
      · exact TransmitFile.tcCdevRead_inBounds guarded.addr size reachable
  | write size reachable storesBack =>
      apply guarded.transferred storesBack
      · exact TransmitFile.tcCdevWrite_addr session.file size reachable
      · exact TransmitFile.tcCdevWrite_inBounds guarded.addr size reachable

/-- After any sequence of calls every register that was accessed is one of
the device, every element lies in its allocation, and no copy was larger than
what was asked for. -/
theorem transfers_in_bounds (calls : List RegisterCall) :
    ∀ access ∈ (runInputs step start calls).accesses, access.InBounds := by
  have kept : ∀ session call, Guarded session → Guarded (session.step call) :=
    fun _ call guarded => guarded.step call
  have opened : Guarded start := by
    refine ⟨rfl, ?_⟩
    intro access member
    cases member
  exact (runInputs_invariant kept opened calls).inBounds

theorem second_register_in_bounds : (RegisterAccess.register 4).InBounds := by
  have round : .register 4 ∈ TransmitFile.registerLoop 2 8 1 := by
    rw [TransmitFile.registerLoop, dif_pos (by decide)]
    exact List.mem_cons_self
  have all : (runInputs step start
      [.llseek 4 .seekSet, .read 8 true true]).accesses =
        TransmitFile.registerLoop 2 8 1 ++ [.copied 8 8] := rfl
  have accessed : .register 4 ∈ (runInputs step start
      [.llseek 4 .seekSet, .read 8 true true]).accesses := by
    rw [all]
    exact List.mem_append_left _ round
  exact transfers_in_bounds [.llseek 4 .seekSet, .read 8 true true]
    (.register 4) accessed

end RegisterSession

end StreamIO.Driver
