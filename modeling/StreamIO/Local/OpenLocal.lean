import StreamIO.Driver.Channel
import StreamIO.Library.Holdings
import StreamIO.Local.DeviceList

/-!
# Opening local devices

`io_open_mapped_local` and `io_open_stream_local` of `bbio_backend_local.c`
with `buffer.c`, and the functions of `bbio_core.c` that add a device to a
local context.  The system answers `open` and `mmap` as it likes; a process
has the descriptors and pages that were acquired and not released.  A use of
a device that is `NULL` or of a mapping that failed makes a function fail.
-/

namespace StreamIO.Local

open StreamIO.Library StreamIO.Driver

/-- What a process acquires from the system. -/
inductive Resource where
  | descriptor (fd : Int)
  | page (number : Nat)
  deriving DecidableEq, Repr

/-- The resources of a process that are live. -/
abbrev Process := Resource → Bool

def pageSize : Nat := 4096

def Resource.only (resource : Resource) : Resource → Bool :=
  fun other => other = resource

/-- The pages that a range of bytes touches.  There is no range behind
`MAP_FAILED`. -/
def Resource.pages : Option Nat → Nat → Resource → Bool
  | some start, length, .page number =>
      start < (number + 1) * pageSize ∧ number * pageSize < start + length
  | _, _, _ => false

theorem Resource.pages_iff (start length number : Nat) :
    Resource.pages (some start) length (.page number) = true ↔
      start < (number + 1) * pageSize ∧
        number * pageSize < start + length :=
  decide_eq_true_iff

@[simp] theorem Resource.only_page (fd : Int) (number : Nat) :
    Resource.only (.descriptor fd) (.page number) = false := rfl

namespace Process

/-- `open`, which returns `fd`. -/
def openFile (process : Process) (fd : Int) : Process :=
  if fd < 0 then process
  else acquire process (Resource.only (.descriptor fd))

/-- `close`. -/
def closeFile (process : Process) (fd : Int) : Process :=
  relinquish process (Resource.only (.descriptor fd))

/-- `mmap`, which returns `mapping`. -/
def mmap (process : Process) (mapping : Option Nat) (length : Nat) :
    Process :=
  acquire process (Resource.pages mapping length)

/-- `munmap`. -/
def munmap (process : Process) (mapping : Option Nat) (length : Nat) :
    Process :=
  relinquish process (Resource.pages mapping length)

end Process

/-- What the system calls of an opening function return; `none` is
`MAP_FAILED`. -/
structure OpenAnswers where
  fd : Int
  mapping : Option Nat
  deriving DecidableEq, Repr

/-- What the backend keeps in a device: `ch.start` of a mapped device with
the number of words up to `ch.end`, and `channel_buffer` of a stream
device. -/
inductive LocalDevice where
  | mapped (fd : Int) (start : Option Nat) (words : Nat)
  | stream (fd : Int) (channelBuffer : Nat)
  deriving DecidableEq, Repr

def LocalDevice.type : LocalDevice → DeviceType
  | .mapped _ _ _ => .mappedDevice
  | .stream _ _ => .streamDevice

namespace Process

/-- `io_open_mapped_local`. -/
def ioOpenMappedLocal (process : Process) (answers : OpenAnswers)
    (size : Nat) : Process × Option LocalDevice :=
  let process := process.openFile answers.fd
  if answers.fd < 1 then (process, none)
  else
    let process := process.mmap answers.mapping (size * 4)
    if answers.mapping = some 0 then (process.closeFile answers.fd, none)
    else (process, some (.mapped answers.fd answers.mapping size))

/-- `buffer_allocate`: the mapping is not checked. -/
def bufferAllocate (process : Process) (buffers : Nat)
    (mapping : Option Nat) : Process × Option (Option Nat) :=
  if buffers > bufferCount then (process, none)
  else (process.mmap mapping (sizeofChannelBuffer * buffers), some mapping)

/-- `io_local_buffer_init`: it writes the status of every buffer. -/
def ioLocalBufferInit (process : Process) (mapping : Option Nat) :
    Option (Process × Option Nat) :=
  match process.bufferAllocate bufferCount mapping with
  | (process, none) => some (process, none)
  | (process, some (some channelBuffer)) => some (process, channelBuffer)
  | (_, some none) => none

/-- `io_open_stream_local`. -/
def ioOpenStreamLocal (process : Process) (answers : OpenAnswers) :
    Option (Process × Option LocalDevice) :=
  let process := process.openFile answers.fd
  if answers.fd < 1 then some (process, none)
  else do
    let (process, channelBuffer) ← process.ioLocalBufferInit answers.mapping
    match channelBuffer with
    | none => some (process.closeFile answers.fd, none)
    | some channelBuffer =>
        some (process, some (.stream answers.fd channelBuffer))

/-- The opening function of the backend for a type. -/
def ioOpenLocal (process : Process) (answers : OpenAnswers) :
    DeviceType → Option (Process × Option LocalDevice)
  | .mappedDevice => some (process.ioOpenMappedLocal answers 512)
  | .streamDevice => process.ioOpenStreamLocal answers

end Process

/-- A context with the local backend: `opened` is what its devices hold for
the backend. -/
structure LocalContext where
  context : IoContext
  opened : Nat → LocalDevice

namespace LocalContext

def ioCreateContext (address : Nat) : LocalContext :=
  { context := IoContext.ioCreateContext address
    opened := fun _ => .stream 0 0 }

/-- `io_add_mapped_device` and `io_add_stream_device`: the device that the
backend has opened is filled in whether it is `NULL` or not, and a device
that is not appended is freed. -/
def add (state : LocalContext) (process : Process) (allocator : Allocator)
    (call : AddCall) (answers : OpenAnswers) :
    Option (Process × LocalContext × Nat) := do
  let (process, opened) ← process.ioOpenLocal answers call.type
  let device ← opened
  let (context, pointer) ← state.context.add allocator call
  if pointer = 0 then some (process, { state with context := context }, 0)
  else
    some (process,
      { context := context
        opened := Function.update state.opened pointer device },
      pointer)

/-- The contexts that exist: those that were created and to which devices
were added. -/
inductive Reached (allocator : Allocator) : LocalContext → Prop where
  | created (address : Nat) : Reached allocator (ioCreateContext address)
  | added {state after : LocalContext} {process processAfter : Process}
      {call : AddCall} {answers : OpenAnswers} {pointer : Nat}
      (before : Reached allocator state)
      (runs : state.add process allocator call answers =
        some (processAfter, after, pointer)) :
      Reached allocator after

/-- The devices that are listed are as they were. -/
def SameDevices (state after : LocalContext) : Prop :=
  ∀ pointer ∈ state.context.devices, pointer ≠ 0 →
    after.context.device pointer = state.context.device pointer ∧
      after.opened pointer = state.opened pointer

/-- A system call fails, or the context is full: the call returns `NULL` with
nothing changed.  Otherwise the device is appended. -/
def AllOrNothing (state : LocalContext) (process : Process)
    (allocator : Allocator) (call : AddCall) (answers : OpenAnswers) :
    Prop :=
  if answers.fd < 0 ∨ answers.mapping = none ∨
      state.context.ioCountDevices = some maxDevice then
    ∃ after, state.add process allocator call answers =
        some (process, after, 0) ∧
      after.context.devices = state.context.devices ∧
      state.SameDevices after
  else
    ∃ processAfter after pointer,
      state.add process allocator call answers =
        some (processAfter, after, pointer) ∧
      pointer ≠ 0 ∧
      after.context.devices =
        state.context.devices.dropLast ++ [pointer, 0] ∧
      (after.context.device pointer).type = some call.type ∧
      (after.context.device pointer).path = call.path ∧
      (after.opened pointer).type = call.type ∧
      state.SameDevices after

end LocalContext

/-- The bytes that are mapped for a device. -/
def DeviceType.mappedLength : DeviceType → Nat
  | .mappedDevice => 512 * 4
  | .streamDevice => sizeofChannelBuffer * bufferCount

/-- What the system promises: a descriptor that is not in use, and a mapping
that is not at `NULL` and does not replace another one. -/
structure OpenAnswers.Granted (answers : OpenAnswers) (process : Process)
    (length : Nat) : Prop where
  unused : 0 ≤ answers.fd → process (.descriptor answers.fd) = false
  notNull : answers.mapping ≠ some 0
  unmapped : ∀ resource,
    Resource.pages answers.mapping length resource = true →
      process resource = false

/-- What the opening function has acquired for a device. -/
def LocalDevice.held : LocalDevice → Resource → Bool
  | .mapped fd start words, resource =>
      Resource.only (.descriptor fd) resource ||
        Resource.pages start (words * 4) resource
  | .stream fd channelBuffer, resource =>
      Resource.only (.descriptor fd) resource ||
        Resource.pages channelBuffer (sizeofChannelBuffer * bufferCount)
          resource

/-- What two successful system calls acquire. -/
def OpenAnswers.acquired (answers : OpenAnswers) (length : Nat) :
    Resource → Bool :=
  fun resource =>
    Resource.only (.descriptor answers.fd) resource ||
      Resource.pages answers.mapping length resource

namespace Process

variable {process processAfter : Process} {answers : OpenAnswers}
  {device : LocalDevice}

theorem mmap_openFile (process : Process) (success : ¬answers.fd < 0)
    (length : Nat) :
    (process.openFile answers.fd).mmap answers.mapping length =
      acquire process (answers.acquired length) := by
  funext resource
  simp only [mmap, openFile, if_neg success, acquire, OpenAnswers.acquired,
    Bool.or_assoc]

theorem ioOpenLocal_refused (refused : answers.fd < 1) (process : Process)
    (type : DeviceType) :
    process.ioOpenLocal answers type =
      some (process.openFile answers.fd, none) := by
  cases type with
  | mappedDevice => simp only [ioOpenLocal, ioOpenMappedLocal, if_pos refused]
  | streamDevice => simp only [ioOpenLocal, ioOpenStreamLocal, if_pos refused]

/-- With a descriptor there is a device, or the buffers of a stream device
are used without a mapping. -/
theorem ioOpenLocal_opened (positive : ¬answers.fd < 1)
    (notNull : answers.mapping ≠ some 0) (process : Process)
    (type : DeviceType) :
    (answers.mapping = none ∧ process.ioOpenLocal answers type = none) ∨
      ∃ device, process.ioOpenLocal answers type =
          some (acquire process device.held, some device) ∧
        device.type = type ∧
        device.held = answers.acquired type.mappedLength := by
  have success : ¬answers.fd < 0 := by omega
  cases type with
  | mappedDevice =>
      right
      refine ⟨.mapped answers.fd answers.mapping 512, ?_, rfl, rfl⟩
      simp only [ioOpenLocal, ioOpenMappedLocal, if_neg positive,
        if_neg notNull, process.mmap_openFile success]
      rfl
  | streamDevice =>
      have allocated : bufferAllocate (process.openFile answers.fd)
          bufferCount answers.mapping =
            (acquire process
              (answers.acquired (sizeofChannelBuffer * bufferCount)),
              some answers.mapping) := by
        rw [bufferAllocate, if_neg (Nat.lt_irrefl bufferCount),
          process.mmap_openFile success]
      simp only [ioOpenLocal, ioOpenStreamLocal, if_neg positive,
        ioLocalBufferInit, allocated]
      cases mapping : answers.mapping with
      | none =>
          left
          exact ⟨rfl, rfl⟩
      | some channelBuffer =>
          have holds : (LocalDevice.stream answers.fd channelBuffer).held =
              answers.acquired (sizeofChannelBuffer * bufferCount) := by
            funext resource
            rw [OpenAnswers.acquired, mapping]
            rfl
          right
          refine ⟨.stream answers.fd channelBuffer, ?_, rfl, holds⟩
          rw [holds]
          rfl

theorem ioOpenLocal_type {type : DeviceType}
    (opens : process.ioOpenLocal answers type =
      some (processAfter, some device)) : device.type = type := by
  cases type with
  | mappedDevice =>
      simp only [ioOpenLocal, ioOpenMappedLocal] at opens
      split at opens
      · simp at opens
      · split at opens
        · simp at opens
        · simp only [Option.some.injEq, Prod.mk.injEq] at opens
          rw [← opens.2]
          rfl
  | streamDevice =>
      simp only [ioOpenLocal, ioOpenStreamLocal] at opens
      split at opens
      · simp at opens
      · obtain ⟨⟨_, channelBuffer⟩, _, rest⟩ :=
          Option.bind_eq_some_iff.mp opens
        cases channelBuffer with
        | none => simp at rest
        | some channelBuffer =>
            simp only [Option.some.injEq, Prod.mk.injEq] at rest
            rw [← rest.2]
            rfl

end Process

theorem OpenAnswers.Granted.opens {answers : OpenAnswers}
    {process : Process} {type : DeviceType}
    (granted : answers.Granted process type.mappedLength)
    (positive : 1 ≤ answers.fd) (mapped : answers.mapping ≠ none) :
    ∃ device, process.ioOpenLocal answers type =
        some (acquire process device.held, some device) ∧
      device.type = type ∧
      ∀ resource, device.held resource = true →
        process resource = false := by
  rcases Process.ioOpenLocal_opened (by omega) granted.notNull process type
    with ⟨unmapped, _⟩ | ⟨device, opens, sameType, holds⟩
  · exact absurd unmapped mapped
  · refine ⟨device, opens, sameType, ?_⟩
    intro resource isHeld
    rw [holds, acquired, Bool.or_eq_true] at isHeld
    rcases isHeld with descriptor | page
    · rw [of_decide_eq_true descriptor]
      exact granted.unused (by omega)
    · exact granted.unmapped resource page

namespace LocalContext

variable {state after : LocalContext} {process processAfter : Process}
  {allocator : Allocator} {call : AddCall} {answers : OpenAnswers}
  {listed : List (Nat × AddCall)} {device : LocalDevice} {pointer : Nat}

/-- The context lists these devices, and the backend has opened each with its
type. -/
structure Opened (state : LocalContext) (listed : List (Nat × AddCall)) :
    Prop where
  lists : IoContext.Lists state.context listed
  types : ∀ entry ∈ listed, (state.opened entry.1).type = entry.2.type

theorem add_none
    (opens : process.ioOpenLocal answers call.type =
      some (processAfter, none)) :
    state.add process allocator call answers = none := by
  simp only [add, opens, Option.bind_eq_bind, Option.bind_some,
    Option.bind_none]

theorem add_some
    (opens : process.ioOpenLocal answers call.type =
      some (processAfter, some device)) {context : IoContext}
    (adds : state.context.add allocator call = some (context, pointer)) :
    state.add process allocator call answers =
      if pointer = 0 then
        some (processAfter, { state with context := context }, 0)
      else
        some (processAfter,
          { context := context
            opened := Function.update state.opened pointer device },
          pointer) := by
  simp only [add, opens, adds, Option.bind_eq_bind, Option.bind_some]

theorem add_opens
    (runs : state.add process allocator call answers =
      some (processAfter, after, pointer)) :
    ∃ device, process.ioOpenLocal answers call.type =
      some (processAfter, some device) := by
  obtain ⟨⟨middle, opened⟩, opens, rest⟩ := Option.bind_eq_some_iff.mp runs
  cases opened with
  | none => simp at rest
  | some device =>
      simp only [Option.bind_eq_bind, Option.bind_some] at rest
      obtain ⟨⟨context, result⟩, _, ends⟩ := Option.bind_eq_some_iff.mp rest
      refine ⟨device, ?_⟩
      split at ends
      · simp only [Option.some.injEq, Prod.mk.injEq] at ends
        rw [opens, ends.1]
      · simp only [Option.some.injEq, Prod.mk.injEq] at ends
        rw [opens, ends.1]

namespace Opened

theorem created (address : Nat) : Opened (ioCreateContext address) [] :=
  ⟨IoContext.Lists.created address, by simp⟩

theorem mem_devices (opened : Opened state listed) (pointer : Nat) :
    (pointer ∈ state.context.devices ∧ pointer ≠ 0) ↔
      ∃ entry ∈ listed, entry.1 = pointer := by
  rw [opened.lists.devices, List.mem_append, List.mem_singleton,
    List.mem_map]
  constructor
  · rintro ⟨found | null, notNull⟩
    · exact found
    · exact absurd null notNull
  · rintro ⟨entry, member, rfl⟩
    exact ⟨Or.inl ⟨entry, member, rfl⟩, (opened.lists.present entry member).1⟩

theorem room (opened : Opened state listed)
    (notFull : state.context.ioCountDevices ≠ some maxDevice) :
    listed.length < maxDevice := by
  apply Nat.lt_of_le_of_ne opened.lists.few
  intro full
  apply notFull
  rw [opened.lists.count, full]

theorem add_room (opened : Opened state listed)
    (opens : process.ioOpenLocal answers call.type =
      some (processAfter, some device))
    (room : listed.length < maxDevice) (allocator : Allocator) :
    ∃ after pointer, state.add process allocator call answers =
        some (processAfter, after, pointer) ∧
      Opened after (listed ++ [(pointer, call)]) ∧
      after.opened pointer = device ∧ state.SameDevices after := by
  obtain ⟨context, pointer, adds, lists, address⟩ :=
    opened.lists.add_room room allocator call
  have notNull : pointer ≠ 0 := (lists.present (pointer, call) (by simp)).1
  have runs := add_some opens adds
  rw [if_neg notNull] at runs
  have distinct := lists.distinct
  rw [List.map_append, List.map_singleton, List.nodup_append] at distinct
  have others : ∀ entry ∈ listed, entry.1 ≠ pointer := by
    intro entry member
    exact distinct.2.2 entry.1 (List.mem_map_of_mem member) pointer
      (by simp)
  have kept : ∀ entry ∈ listed,
      Function.update state.opened pointer device entry.1 =
        state.opened entry.1 := by
    intro entry member
    exact Function.update_of_ne (others entry member) _ _
  refine ⟨_, pointer, runs, ⟨lists, ?_⟩, Function.update_self _ _ _, ?_⟩
  · intro entry member
    simp only
    rcases List.mem_append.mp member with old | new
    · rw [kept entry old]
      exact opened.types entry old
    · rw [List.mem_singleton.mp new, Function.update_self]
      exact Process.ioOpenLocal_type opens
  · intro other member otherNotNull
    obtain ⟨entry, entryMember, rfl⟩ :=
      (opened.mem_devices other).mp ⟨member, otherNotNull⟩
    refine ⟨?_, kept entry entryMember⟩
    rw [lists.filledIn entry (List.mem_append_left _ entryMember),
      opened.lists.filledIn entry entryMember, address]

theorem add_full (opened : Opened state listed)
    (opens : process.ioOpenLocal answers call.type =
      some (processAfter, some device))
    (full : listed.length = maxDevice) (allocator : Allocator) :
    ∃ after, state.add process allocator call answers =
        some (processAfter, after, 0) ∧ Opened after listed := by
  obtain ⟨context, adds, lists, _, _, _⟩ :=
    opened.lists.add_full full allocator call
  have runs := add_some opens adds
  rw [if_pos rfl] at runs
  exact ⟨_, runs, lists, opened.types⟩

end Opened

theorem Reached.opened (reached : Reached allocator state) :
    ∃ listed, Opened state listed := by
  induction reached with
  | created address => exact ⟨[], Opened.created address⟩
  | added before runs induction =>
      obtain ⟨listed, opened⟩ := induction
      obtain ⟨device, opens⟩ := add_opens runs
      by_cases room : listed.length < maxDevice
      · obtain ⟨next, pointer, adds, openedNext, _, _⟩ :=
          opened.add_room opens room allocator
        rw [runs] at adds
        simp only [Option.some.injEq, Prod.mk.injEq, true_and] at adds
        rw [adds.1]
        exact ⟨_, openedNext⟩
      · have full : listed.length = maxDevice :=
          Nat.le_antisymm opened.lists.few (Nat.le_of_not_lt room)
        obtain ⟨next, adds, openedNext⟩ :=
          opened.add_full opens full allocator
        rw [runs] at adds
        simp only [Option.some.injEq, Prod.mk.injEq, true_and] at adds
        rw [adds.1]
        exact ⟨_, openedNext⟩

/-- A call that acquires a descriptor keeps it, whatever it returns. -/
theorem add_keeps_descriptor (positive : ¬answers.fd < 1)
    (notNull : answers.mapping ≠ some 0)
    (runs : state.add process allocator call answers =
      some (processAfter, after, pointer)) :
    processAfter (.descriptor answers.fd) = true := by
  obtain ⟨device, opens⟩ := add_opens runs
  rcases Process.ioOpenLocal_opened positive notNull process call.type with
    ⟨_, crashes⟩ | ⟨other, acquires, _, holds⟩
  · rw [crashes] at opens
    cases opens
  · rw [acquires, holds] at opens
    simp only [Option.some.injEq, Prod.mk.injEq] at opens
    rw [← opens.1]
    simp [acquire, OpenAnswers.acquired, Resource.only]

/-- Without a descriptor the call uses a device that is not there. -/
theorem AllOrNothing.positive
    (atomic : state.AllOrNothing process allocator call answers) :
    ¬answers.fd < 1 := by
  intro refused
  have crashes : state.add process allocator call answers = none :=
    add_none (Process.ioOpenLocal_refused refused process call.type)
  rw [AllOrNothing, crashes] at atomic
  split at atomic
  · obtain ⟨_, runs, _⟩ := atomic
    cases runs
  · obtain ⟨_, _, _, runs, _⟩ := atomic
    cases runs

theorem AllOrNothing.succeeds
    (atomic : state.AllOrNothing process allocator call answers)
    (granted : answers.Granted process call.type.mappedLength) :
    ¬(answers.fd < 0 ∨ answers.mapping = none ∨
      state.context.ioCountDevices = some maxDevice) := by
  have positive := atomic.positive
  intro fails
  rw [AllOrNothing, if_pos fails] at atomic
  obtain ⟨after, runs, _⟩ := atomic
  have kept := add_keeps_descriptor positive granted.notNull runs
  rw [granted.unused (by omega)] at kept
  cases kept

theorem Opened.allOrNothing (opened : Opened state listed)
    (granted : answers.Granted process call.type.mappedLength)
    (positive : 1 ≤ answers.fd) (mapped : answers.mapping ≠ none)
    (notFull : state.context.ioCountDevices ≠ some maxDevice)
    (allocator : Allocator) :
    state.AllOrNothing process allocator call answers := by
  have succeeds : ¬(answers.fd < 0 ∨ answers.mapping = none ∨
      state.context.ioCountDevices = some maxDevice) := by
    rintro (negative | unmapped | full)
    · omega
    · exact mapped unmapped
    · exact notFull full
  obtain ⟨device, opens, type, _⟩ := granted.opens positive mapped
  obtain ⟨after, pointer, runs, openedAfter, holds, same⟩ :=
    opened.add_room opens (opened.room notFull) allocator
  have filledIn := openedAfter.lists.filledIn (pointer, call) (by simp)
  have present := openedAfter.lists.present (pointer, call) (by simp)
  rw [AllOrNothing, if_neg succeeds]
  refine ⟨_, after, pointer, runs, present.1, ?_, ?_, ?_, ?_, same⟩
  · rw [openedAfter.lists.devices, opened.lists.devices]
    simp
  · rw [filledIn]
  · rw [filledIn]
  · rw [holds, type]

/-- Adding a device is all or nothing exactly if nothing goes wrong: `open`
returns a positive descriptor, `mmap` succeeds and there is room. -/
theorem add_all_or_nothing_iff (reached : Reached allocator state)
    (call : AddCall)
    (granted : answers.Granted process call.type.mappedLength) :
    state.AllOrNothing process allocator call answers ↔
      1 ≤ answers.fd ∧ answers.mapping ≠ none ∧
        state.context.ioCountDevices ≠ some maxDevice := by
  obtain ⟨listed, opened⟩ := reached.opened
  constructor
  · intro atomic
    have positive := atomic.positive
    have succeeds := atomic.succeeds granted
    rw [not_or, not_or] at succeeds
    exact ⟨by omega, succeeds.2.1, succeeds.2.2⟩
  · rintro ⟨positive, mapped, notFull⟩
    exact opened.allOrNothing granted positive mapped notFull allocator

/-- A first device, the standard error output being open. -/
theorem add_first_device :
    (ioCreateContext 1).AllOrNothing (Resource.only (.descriptor 2)) default
      (.mapped "/dev/uio0" { type := none, ctx := 0, path := "" })
      { fd := 3, mapping := some 4096 } := by
  apply (add_all_or_nothing_iff (Reached.created 1) _ ⟨_, _, _⟩).mpr
  · exact ⟨by decide, by decide, by decide⟩
  · intro _
    rfl
  · decide
  · intro resource mapped
    cases resource with
    | descriptor fd => cases mapped
    | page number => rfl

/-- `open` fails, and the device that is not there is filled in. -/
theorem missing_device_filled_in :
    ¬(ioCreateContext 1).AllOrNothing (Resource.only (.descriptor 2)) default
      (.mapped "/dev/missing" { type := none, ctx := 0, path := "" })
      { fd := -1, mapping := none } := by
  rintro ⟨after, runs, _⟩
  cases runs

end LocalContext

end StreamIO.Local
