import Mathlib.Data.List.Basic

/-!
# The local mapped device

The mapped half of `bbio_backend_local.c` and the calls of `bbio_core.c` on
top of it.  Addresses count 32-bit words from the start of the mapping.  What
a load or a store does to the registers behind the mapping is up to the
device.
-/

namespace StreamIO.Local

/-- The registers behind a mapping. -/
structure RegisterBus (Registers : Type u) where
  load : Registers → Nat → Registers × UInt32
  store : Registers → Nat → UInt32 → Registers

/-- `enum` of the device kinds. -/
inductive DeviceType where
  | mappedDevice
  | streamDevice
  deriving DecidableEq, Repr

/-- `io_mapped_device`: `words` is `ch.end - ch.start`. -/
structure MappedDevice (Registers : Type u) where
  type : DeviceType
  words : Nat
  registers : Registers

variable {Registers : Type u}

/-- `io_add_mapped_device`, the mapping of 512 words having succeeded. -/
def ioAddMappedDevice (registers : Registers) : MappedDevice Registers :=
  { type := .mappedDevice, words := 512, registers := registers }

/-- `io_write_local`. -/
def ioWriteLocal (bus : RegisterBus Registers)
    (device : MappedDevice Registers) (addr value : UInt32) :
    MappedDevice Registers :=
  if device.words < addr.toNat then device
  else
    { device with registers := bus.store device.registers addr.toNat value }

/-- `io_read_local`: an address beyond the mapping reads as `-1`. -/
def ioReadLocal (bus : RegisterBus Registers)
    (device : MappedDevice Registers) (addr : UInt32) :
    MappedDevice Registers × UInt32 :=
  if device.words < addr.toNat then (device, -1)
  else
    let (registers, value) := bus.load device.registers addr.toNat
    ({ device with registers := registers }, value)

/-- `io_write_mapped_device`. -/
def ioWriteMappedDevice (bus : RegisterBus Registers)
    (device : MappedDevice Registers) (addr value : UInt32) :
    MappedDevice Registers :=
  if device.type = .mappedDevice then ioWriteLocal bus device addr value
  else device

/-- `io_read_mapped_device`. -/
def ioReadMappedDevice (bus : RegisterBus Registers)
    (device : MappedDevice Registers) (addr : UInt32) :
    MappedDevice Registers × UInt32 :=
  ioReadLocal bus device addr

/-- A call on a mapped device. -/
inductive MappedCall where
  | write (addr value : UInt32)
  | read (addr : UInt32)
  deriving DecidableEq, Repr

/-- One call made directly with `io_write_local` or `io_read_local`. -/
def directCall (bus : RegisterBus Registers)
    (device : MappedDevice Registers) :
    MappedCall → MappedDevice Registers × List UInt32
  | .write addr value => (ioWriteLocal bus device addr value, [])
  | .read addr =>
      let (device, value) := ioReadLocal bus device addr
      (device, [value])

/-- A sequence of direct calls and the values its reads return. -/
def directRun (bus : RegisterBus Registers) :
    MappedDevice Registers → List MappedCall →
      MappedDevice Registers × List UInt32
  | device, [] => (device, [])
  | device, call :: calls =>
      let (device, first) := directCall bus device call
      let (device, later) := directRun bus device calls
      (device, first ++ later)

theorem directRun_cons (bus : RegisterBus Registers)
    (device : MappedDevice Registers) (call : MappedCall)
    (calls : List MappedCall) :
    directRun bus device (call :: calls) =
      ((directRun bus (directCall bus device call).1 calls).1,
        (directCall bus device call).2 ++
          (directRun bus (directCall bus device call).1 calls).2) := rfl

theorem directRun_append (bus : RegisterBus Registers)
    (device : MappedDevice Registers) (first second : List MappedCall) :
    directRun bus device (first ++ second) =
      ((directRun bus (directRun bus device first).1 second).1,
        (directRun bus device first).2 ++
          (directRun bus (directRun bus device first).1 second).2) := by
  induction first generalizing device with
  | nil => rfl
  | cons call first induction =>
      rw [List.cons_append, directRun_cons, induction, directRun_cons]
      simp only [List.append_assoc]

theorem directCall_type (bus : RegisterBus Registers)
    (device : MappedDevice Registers) (call : MappedCall) :
    (directCall bus device call).1.type = device.type := by
  cases call with
  | write addr value =>
      simp only [directCall, ioWriteLocal]
      split
      · rfl
      · rfl
  | read addr =>
      simp only [directCall, ioReadLocal]
      split
      · rfl
      · rfl

end StreamIO.Local
