import Mathlib.Data.List.Induction
import StreamIO.Library.ScriptedRun
import StreamIO.Local.Mapped

/-!
# A mapped device as a register file

Calls of `io_write_mapped_device` and `io_read_mapped_device` on a device of
512 words whose registers are plain memory.  The check lets the address 512
pass, one word beyond the mapping, and no other address from there on.
-/

namespace StreamIO.Local

open StreamIO.Library

/-- Plain memory behind a mapping, with an account of the words that were
loaded or stored. -/
structure PlainMemory where
  words : Nat → UInt32
  touched : List Nat

/-- A load returns what is there, and a store replaces it. -/
def plainMemory : RegisterBus PlainMemory where
  load memory word :=
    ({ memory with touched := memory.touched ++ [word] }, memory.words word)
  store memory word value :=
    { words := Function.update memory.words word value
      touched := memory.touched ++ [word] }

/-- A device that `io_add_mapped_device` has opened on plain memory. -/
def openedFile (initial : Nat → UInt32) : MappedDevice PlainMemory :=
  ioAddMappedDevice { words := initial, touched := [] }

/-- One call of `bbio_core.c` and the values it returns. -/
def coreCall (device : MappedDevice PlainMemory) :
    MappedCall → MappedDevice PlainMemory × List UInt32
  | .write addr value =>
      (ioWriteMappedDevice plainMemory device addr value, [])
  | .read addr =>
      let (device, value) := ioReadMappedDevice plainMemory device addr
      (device, [value])

def coreStep (device : MappedDevice PlainMemory) (call : MappedCall) :
    MappedDevice PlainMemory :=
  (coreCall device call).1

/-- The address that a call names. -/
def MappedCall.addr : MappedCall → UInt32
  | .write addr _ => addr
  | .read addr => addr

/-- The last value written to a register, or else its initial value. -/
def lastWritten (initial : Nat → UInt32) (calls : List MappedCall)
    (register : UInt32) : UInt32 :=
  calls.foldl
    (fun value call =>
      match call with
      | .write addr written => if addr = register then written else value
      | .read _ => value)
    (initial register.toNat)

/-- What a register file of 512 words does with a call: `before` and `after`
are the device, `returned` what the call returns. -/
def FileCall (initial : Nat → UInt32) (earlier : List MappedCall)
    (call : MappedCall) (before after : MappedDevice PlainMemory)
    (returned : List UInt32) : Prop :=
  if call.addr.toNat < 512 then
    match call with
    | .write addr value =>
        after.registers.words =
          Function.update before.registers.words addr.toNat value
    | .read addr =>
        returned = [lastWritten initial earlier addr] ∧
          after.registers.words = before.registers.words
  else
    after = before ∧
      match call with
      | .write _ _ => True
      | .read _ => returned = [0xFFFFFFFF]

/-- Every call of the sequence is one of a register file. -/
def IsRegisterFile (initial : Nat → UInt32) (calls : List MappedCall) :
    Prop :=
  ∀ earlier call later, calls = earlier ++ call :: later →
    let before := runInputs coreStep (openedFile initial) earlier
    FileCall initial earlier call before (coreCall before call).1
      (coreCall before call).2

/-- The device as opened, with any contents. -/
structure Mapped512 (device : MappedDevice PlainMemory) : Prop where
  type : device.type = .mappedDevice
  words : device.words = 512

variable {device : MappedDevice PlainMemory}

theorem coreCall_write (mapped : Mapped512 device) (addr : UInt32)
    (passes : addr.toNat ≤ 512) (value : UInt32) :
    coreCall device (.write addr value) =
      ({ device with
          registers := plainMemory.store device.registers addr.toNat value },
        []) := by
  have inside : ¬device.words < addr.toNat := by
    rw [mapped.words]
    exact Nat.not_lt_of_le passes
  simp only [coreCall, ioWriteMappedDevice, mapped.type, if_true,
    ioWriteLocal, if_neg inside]

theorem coreCall_read (mapped : Mapped512 device) (addr : UInt32)
    (passes : addr.toNat ≤ 512) :
    coreCall device (.read addr) =
      ({ device with
          registers := { device.registers with
            touched := device.registers.touched ++ [addr.toNat] } },
        [device.registers.words addr.toNat]) := by
  have inside : ¬device.words < addr.toNat := by
    rw [mapped.words]
    exact Nat.not_lt_of_le passes
  simp only [coreCall, ioReadMappedDevice, ioReadLocal, if_neg inside]
  rfl

theorem coreCall_beyond (mapped : Mapped512 device) {call : MappedCall}
    (beyond : 512 < call.addr.toNat) :
    (coreCall device call).1 = device ∧
      ∀ addr, call = .read addr →
        (coreCall device call).2 = [0xFFFFFFFF] := by
  cases call with
  | write addr value =>
      have outside : device.words < addr.toNat := by
        rw [mapped.words]
        exact beyond
      refine ⟨?_, ?_⟩
      · simp only [coreCall, ioWriteMappedDevice, mapped.type, if_true,
          ioWriteLocal, if_pos outside]
      · intro addr other
        cases other
  | read addr =>
      have outside : device.words < addr.toNat := by
        rw [mapped.words]
        exact beyond
      simp only [coreCall, ioReadMappedDevice, ioReadLocal, if_pos outside,
        true_and]
      intro _ _
      rfl

theorem Mapped512.step (mapped : Mapped512 device) (call : MappedCall) :
    Mapped512 (coreStep device call) := by
  by_cases passes : call.addr.toNat ≤ 512
  · cases call with
    | write addr value =>
        rw [coreStep, coreCall_write mapped addr passes]
        exact ⟨mapped.type, mapped.words⟩
    | read addr =>
        rw [coreStep, coreCall_read mapped addr passes]
        exact ⟨mapped.type, mapped.words⟩
  · rw [coreStep, (coreCall_beyond mapped (Nat.lt_of_not_le passes)).1]
    exact mapped

theorem mapped512_run (initial : Nat → UInt32) (calls : List MappedCall) :
    Mapped512 (runInputs coreStep (openedFile initial) calls) :=
  runInputs_invariant (fun _ call mapped => mapped.step call) ⟨rfl, rfl⟩
    calls

theorem words_coreStep (mapped : Mapped512 device) (call : MappedCall)
    {register : UInt32} (inside : register.toNat < 512) :
    (coreStep device call).registers.words register.toNat =
      match call with
      | .write addr value =>
          if addr = register then value
          else device.registers.words register.toNat
      | .read _ => device.registers.words register.toNat := by
  by_cases passes : call.addr.toNat ≤ 512
  · cases call with
    | write addr value =>
        rw [coreStep, coreCall_write mapped addr passes]
        by_cases same : addr = register
        · subst same
          simp [plainMemory]
        · have apart : register.toNat ≠ addr.toNat := by
            intro equal
            exact same (UInt32.toNat.inj equal.symm)
          simp [plainMemory, same, Function.update_of_ne apart]
    | read addr =>
        rw [coreStep, coreCall_read mapped addr passes]
  · have beyond := Nat.lt_of_not_le passes
    rw [coreStep, (coreCall_beyond mapped beyond).1]
    cases call with
    | write addr value =>
        have different : addr ≠ register := by
          rintro rfl
          exact absurd inside (Nat.not_lt_of_lt beyond)
        simp [different]
    | read addr => rfl

/-- The registers hold what was written last. -/
theorem words_run (initial : Nat → UInt32) (calls : List MappedCall)
    (register : UInt32) (inside : register.toNat < 512) :
    (runInputs coreStep (openedFile initial) calls).registers.words
        register.toNat =
      lastWritten initial calls register := by
  induction calls using List.reverseRecOn with
  | nil => rfl
  | append_singleton calls call induction =>
      have stepped := words_coreStep (mapped512_run initial calls) call inside
      rw [runInputs_append, runInputs_cons, runInputs_nil, stepped,
        lastWritten, List.foldl_append, List.foldl_cons, List.foldl_nil,
        ← lastWritten, induction]

theorem fileCall_of_ne (initial : Nat → UInt32) (earlier : List MappedCall)
    (call : MappedCall) (elsewhere : call.addr.toNat ≠ 512) :
    let before := runInputs coreStep (openedFile initial) earlier
    FileCall initial earlier call before (coreCall before call).1
      (coreCall before call).2 := by
  intro before
  have mapped := mapped512_run initial earlier
  by_cases inside : call.addr.toNat < 512
  · cases call with
    | write addr value =>
        simp only [FileCall, if_pos inside]
        rw [coreCall_write mapped addr (Nat.le_of_lt inside)]
        rfl
    | read addr =>
        simp only [FileCall, if_pos inside]
        rw [coreCall_read mapped addr (Nat.le_of_lt inside),
          words_run initial earlier addr inside]
        exact ⟨rfl, rfl⟩
  · have beyond : 512 < call.addr.toNat := by omega
    obtain ⟨same, returned⟩ := coreCall_beyond mapped beyond
    simp only [FileCall, if_neg inside]
    refine ⟨same, ?_⟩
    cases call with
    | write addr value => exact True.intro
    | read addr => exact returned addr rfl

theorem not_fileCall_of_eq (initial : Nat → UInt32)
    (earlier : List MappedCall) (call : MappedCall)
    (limit : call.addr.toNat = 512) :
    let before := runInputs coreStep (openedFile initial) earlier
    ¬FileCall initial earlier call before (coreCall before call).1
      (coreCall before call).2 := by
  intro before
  have mapped := mapped512_run initial earlier
  have beyond : ¬call.addr.toNat < 512 := by
    rw [limit]
    exact Nat.lt_irrefl 512
  simp only [FileCall, if_neg beyond]
  rintro ⟨same, _⟩
  have touched := congrArg
    (fun device => device.registers.touched.length) same
  cases call with
  | write addr value =>
      simp [coreCall_write mapped addr (Nat.le_of_eq limit), before,
        plainMemory] at touched
  | read addr =>
      simp [coreCall_read mapped addr (Nat.le_of_eq limit), before]
        at touched

/-- A mapped device is a register file of 512 words for exactly those
sequences of calls that never name the word behind the last. -/
theorem register_file_iff (initial : Nat → UInt32)
    (calls : List MappedCall) :
    IsRegisterFile initial calls ↔ ∀ call ∈ calls, call.addr ≠ 512 := by
  constructor
  · intro file call member limit
    obtain ⟨earlier, later, split⟩ := List.append_of_mem member
    exact not_fileCall_of_eq initial earlier call (by rw [limit]; rfl)
      (file earlier call later split)
  · intro elsewhere earlier call later split
    have member : call ∈ calls := by simp [split]
    apply fileCall_of_ne
    intro limit
    apply elsewhere call member
    apply UInt32.toNat.inj
    rw [limit]
    rfl

/-- A write to the word behind the last. -/
theorem write_behind_last_register :
    ¬∀ (initial : Nat → UInt32) (calls : List MappedCall),
      IsRegisterFile initial calls := by
  intro always
  exact not_fileCall_of_eq (fun _ => 0) [] (.write 512 7) rfl
    (always (fun _ => 0) [.write 512 7] [] (.write 512 7) [] rfl)

end StreamIO.Local
