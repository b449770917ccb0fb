import Mathlib.Data.List.Nodup
import StreamIO.Library.TerminatedArray
import StreamIO.Local.Mapped

/-!
# The devices of a context

The array `ctx->devices` of `bbio_core.c` and `bbio_utils.c`.  It has no
stored length: its entries end with the first `NULL`, and every append moves
them to a new array.  Pointers are addresses, zero being `NULL`.  An access
outside an array, and a use of a device that is not allocated, makes a
function fail.
-/

namespace StreamIO.Local

open StreamIO.Library

/-- `MAX_DEVICE`. -/
def maxDevice : Nat := 4

/-- `struct _bbio_device_base`, without `id` and `mmap_mirror`.  `type` is
`none` for a value that is not in the enumeration. -/
structure IoDevice where
  type : Option DeviceType
  ctx : Nat
  path : String
  deriving DecidableEq, Repr

/-- `malloc`: what each call returns is neither `NULL` nor in use. -/
structure Allocator where
  malloc : Nat → List Nat → Nat
  notNull : ∀ count used, malloc count used ≠ 0
  unused : ∀ count used, malloc count used ∉ used

theorem le_foldr_max {used : List Nat} {address : Nat}
    (member : address ∈ used) : address ≤ used.foldr max 0 := by
  induction used with
  | nil => cases member
  | cons head used induction =>
      rw [List.foldr_cons]
      rcases List.mem_cons.mp member with rfl | later
      · exact Nat.le_max_left _ _
      · exact Nat.le_trans (induction later) (Nat.le_max_right _ _)

/-- An allocator that goes beyond every address in use. -/
instance : Inhabited Allocator where
  default :=
    { malloc := fun _ used => used.foldr max 0 + 1
      notNull := fun _ _ => Nat.succ_ne_zero _
      unused := by
        intro _ used member
        have bound := le_foldr_max member
        omega }

/-- A context at its address: the cells of `devices`, the devices that are
allocated with what they hold, and the number of devices ever allocated. -/
structure IoContext where
  address : Nat
  devices : List Nat
  allocated : List Nat
  device : Nat → IoDevice
  allocations : Nat

/-- The calls that add a device.  `stale` is what the memory of the new
device held before. -/
inductive AddCall where
  | mapped (path : String) (stale : IoDevice)
  | stream (path : String) (stale : IoDevice)

def AddCall.type : AddCall → DeviceType
  | .mapped _ _ => .mappedDevice
  | .stream _ _ => .streamDevice

def AddCall.path : AddCall → String
  | .mapped path _ => path
  | .stream path _ => path

/-- A call of `close_mapped` or `close_stream` of the backend. -/
structure CloseCall where
  function : DeviceType
  device : Nat
  deriving DecidableEq, Repr

namespace IoContext

/-- `io_create_context`: an array of one cell. -/
def ioCreateContext (address : Nat) : IoContext :=
  { address := address, devices := [0], allocated := []
    device := fun _ => { type := none, ctx := 0, path := "" }
    allocations := 0 }

/-- `io_count_devices`. -/
def ioCountDevices (context : IoContext) : Option Nat :=
  scanLength (fun cell => cell = 0) context.devices

/-- `io_append_device`. -/
def ioAppendDevice (context : IoContext) (device : Nat) :
    Option (IoContext × Int) := do
  let currentDevices ← context.ioCountDevices
  let newDevices := List.replicate (currentDevices + 2) 0
  if currentDevices < maxDevice then
    let newDevices ← copyCells context.devices currentDevices newDevices
    let newDevices ← writeCell newDevices currentDevices device
    let newDevices ← writeCell newDevices (currentDevices + 1) 0
    some
      ({ context with
          devices := newDevices
          device := Function.update context.device device
            { context.device device with ctx := context.address } },
        currentDevices + 1)
  else some (context, -1)

/-- A new device as the backend opens it and the caller fills it in. -/
def openDevice (context : IoContext) (allocator : Allocator)
    (type : DeviceType) (path : String) (stale : IoDevice) :
    IoContext × Nat :=
  let device := allocator.malloc context.allocations context.allocated
  ({ context with
      allocated := context.allocated ++ [device]
      device := Function.update context.device device
        { stale with type := some type, path := path }
      allocations := context.allocations + 1 },
    device)

/-- The two functions that add a device differ in its type. -/
def ioAddDevice (context : IoContext) (allocator : Allocator)
    (type : DeviceType) (path : String) (stale : IoDevice) :
    Option (IoContext × Nat) := do
  let (context, device) := context.openDevice allocator type path stale
  let (context, result) ← context.ioAppendDevice device
  if result ≤ 0 then
    some ({ context with allocated := context.allocated.erase device }, 0)
  else some (context, device)

/-- `io_add_mapped_device`, the backend opening the device. -/
def ioAddMappedDevice (context : IoContext) (allocator : Allocator)
    (path : String) (stale : IoDevice) : Option (IoContext × Nat) :=
  context.ioAddDevice allocator .mappedDevice path stale

/-- `io_add_stream_device`, the backend opening the device. -/
def ioAddStreamDevice (context : IoContext) (allocator : Allocator)
    (path : String) (stale : IoDevice) : Option (IoContext × Nat) :=
  context.ioAddDevice allocator .streamDevice path stale

def add (context : IoContext) (allocator : Allocator) :
    AddCall → Option (IoContext × Nat)
  | .mapped path stale => context.ioAddMappedDevice allocator path stale
  | .stream path stale => context.ioAddStreamDevice allocator path stale

/-- The loop of `io_close_context` from a cell on.  The functions of the
backend free the device they close. -/
def closeFrom (device : Nat → IoDevice) :
    List Nat → List Nat → Option (List CloseCall)
  | [], _ => none
  | cell :: cells, allocated =>
      if cell = 0 then some []
      else if cell ∉ allocated then none
      else
        match (device cell).type with
        | some type => do
            let later ← closeFrom device cells (allocated.erase cell)
            some ({ function := type, device := cell } :: later)
        | none => closeFrom device cells allocated

/-- `io_close_context`: the calls of the backend's close functions. -/
def ioCloseContext (context : IoContext) : Option (List CloseCall) := do
  let _ ← context.ioCountDevices
  closeFrom context.device context.devices context.allocated

/-- A sequence of calls and the pointers they return. -/
def addAll (allocator : Allocator) :
    IoContext → List AddCall → Option (IoContext × List Nat)
  | context, [] => some (context, [])
  | context, call :: calls => do
      let (context, device) ← context.add allocator call
      let (context, devices) ← addAll allocator context calls
      some (context, device :: devices)

/-- The context lists these devices, added with these calls. -/
structure Lists (context : IoContext) (listed : List (Nat × AddCall)) :
    Prop where
  devices : context.devices = listed.map Prod.fst ++ [0]
  few : listed.length ≤ maxDevice
  distinct : (listed.map Prod.fst).Nodup
  present : ∀ entry ∈ listed, entry.1 ≠ 0 ∧ entry.1 ∈ context.allocated
  filledIn : ∀ entry ∈ listed, context.device entry.1 =
    { type := some entry.2.type, ctx := context.address,
      path := entry.2.path }

namespace Lists

variable {context : IoContext} {listed : List (Nat × AddCall)}

theorem created (address : Nat) : Lists (ioCreateContext address) [] :=
  ⟨rfl, Nat.zero_le _, List.nodup_nil, by simp, by simp⟩

theorem count (lists : Lists context listed) :
    context.ioCountDevices = some listed.length := by
  have before : ∀ cell ∈ listed.map Prod.fst,
      (fun cell : Nat => decide (cell = 0)) cell = false := by
    intro cell member
    obtain ⟨entry, entryMember, rfl⟩ := List.mem_map.mp member
    simpa using (lists.present entry entryMember).1
  have ends : (fun cell : Nat => decide (cell = 0)) 0 = true := rfl
  have scanned := scanLength_terminated before ends []
  rw [List.length_map] at scanned
  rw [ioCountDevices, lists.devices]
  exact scanned

theorem ioAppendDevice_room (lists : Lists context listed)
    (room : listed.length < maxDevice) (device : Nat) :
    context.ioAppendDevice device =
      some
        ({ context with
            devices := listed.map Prod.fst ++ [device, 0]
            device := Function.update context.device device
              { context.device device with ctx := context.address } },
          (listed.length + 1 : Int)) := by
  have pointers : (listed.map Prod.fst).length = listed.length :=
    List.length_map _
  have copied : copyCells context.devices listed.length
      (List.replicate (listed.length + 2) 0) =
        some (listed.map Prod.fst ++ [0, 0]) := by
    rw [copyCells_eq (by simp [lists.devices]) (by simp), lists.devices,
      List.take_append_of_le_length (Nat.le_of_eq pointers.symm),
      List.drop_replicate, List.take_of_length_le (Nat.le_of_eq pointers),
      Nat.add_sub_cancel_left]
    rfl
  have stored : writeCell (listed.map Prod.fst ++ [0, 0]) listed.length
      device = some (listed.map Prod.fst ++ [device, 0]) := by
    rw [writeCell_of_lt (by simp), List.set_append_right _ _ (by simp),
      pointers, Nat.sub_self]
    rfl
  have ended : writeCell (listed.map Prod.fst ++ [device, 0])
      (listed.length + 1) 0 = some (listed.map Prod.fst ++ [device, 0]) := by
    have next : listed.length + 1 - listed.length = 1 := by omega
    rw [writeCell_of_lt (by simp), List.set_append_right _ _ (by simp),
      pointers, next]
    rfl
  simp only [ioAppendDevice, lists.count, Option.bind_eq_bind,
    Option.bind_some, if_pos room, copied, stored, ended]

theorem ioAppendDevice_full (lists : Lists context listed)
    (full : listed.length = maxDevice) (device : Nat) :
    context.ioAppendDevice device = some (context, -1) := by
  simp [ioAppendDevice, lists.count, full]

theorem openDevice (lists : Lists context listed) (allocator : Allocator)
    (type : DeviceType) (path : String) (stale : IoDevice) :
    let opened := context.openDevice allocator type path stale
    Lists opened.1 listed ∧ opened.2 ≠ 0 ∧
      (∀ entry ∈ listed, entry.1 ≠ opened.2) ∧
      (∀ entry ∈ listed,
        opened.1.device entry.1 = context.device entry.1) := by
  intro opened
  have unused := allocator.unused context.allocations context.allocated
  have apart : ∀ entry ∈ listed, entry.1 ≠ opened.2 := by
    intro entry member same
    apply unused
    have allocated := (lists.present entry member).2
    rw [same] at allocated
    exact allocated
  have kept : ∀ entry ∈ listed,
      opened.1.device entry.1 = context.device entry.1 := by
    intro entry member
    exact Function.update_of_ne (apart entry member) _ _
  refine ⟨⟨lists.devices, lists.few, lists.distinct, ?_, ?_⟩,
    allocator.notNull _ _, apart, kept⟩
  · intro entry member
    obtain ⟨notNull, allocated⟩ := lists.present entry member
    exact ⟨notNull, List.mem_append_left _ allocated⟩
  · intro entry member
    rw [kept entry member]
    exact lists.filledIn entry member

theorem add_room (lists : Lists context listed)
    (room : listed.length < maxDevice) (allocator : Allocator)
    (call : AddCall) :
    ∃ after device, context.add allocator call = some (after, device) ∧
      Lists after (listed ++ [(device, call)]) ∧
      after.address = context.address := by
  have adds : ∀ stale, ∃ after device,
      context.ioAddDevice allocator call.type call.path stale =
        some (after, device) ∧
      Lists after (listed ++ [(device, call)]) ∧
      after.address = context.address := by
    intro stale
    obtain ⟨opened, notNull, apart, _⟩ :=
      lists.openDevice allocator call.type call.path stale
    have appended := opened.ioAppendDevice_room room
      (context.openDevice allocator call.type call.path stale).2
    have positive : ¬(listed.length + 1 : Int) ≤ 0 := by omega
    simp only [ioAddDevice, appended, Option.bind_eq_bind,
      Option.bind_some, if_neg positive]
    refine ⟨_, _, rfl, ⟨?_, ?_, ?_, ?_, ?_⟩, rfl⟩
    · simp
    · rw [List.length_append]
      exact room
    · rw [List.map_append]
      apply List.Nodup.append lists.distinct (List.nodup_singleton _)
      intro pointer member new
      obtain ⟨entry, entryMember, rfl⟩ := List.mem_map.mp member
      exact apart entry entryMember (List.mem_singleton.mp new)
    · intro entry member
      rcases List.mem_append.mp member with old | new
      · exact opened.present entry old
      · rw [List.mem_singleton.mp new]
        exact ⟨notNull, List.mem_append_right _ (List.mem_singleton.mpr rfl)⟩
    · intro entry member
      rcases List.mem_append.mp member with old | new
      · simp only [Function.update_of_ne (apart entry old)]
        exact opened.filledIn entry old
      · rw [List.mem_singleton.mp new]
        simp [IoContext.openDevice]
  cases call with
  | mapped path stale => exact adds stale
  | stream path stale => exact adds stale

theorem add_full (lists : Lists context listed)
    (full : listed.length = maxDevice) (allocator : Allocator)
    (call : AddCall) :
    ∃ after, context.add allocator call = some (after, 0) ∧
      Lists after listed ∧ after.address = context.address ∧
      after.devices = context.devices ∧
      ∀ entry ∈ listed, after.device entry.1 = context.device entry.1 := by
  have adds : ∀ stale, ∃ after,
      context.ioAddDevice allocator call.type call.path stale =
        some (after, 0) ∧
      Lists after listed ∧ after.address = context.address ∧
      after.devices = context.devices ∧
      ∀ entry ∈ listed, after.device entry.1 = context.device entry.1 := by
    intro stale
    obtain ⟨opened, _, apart, kept⟩ :=
      lists.openDevice allocator call.type call.path stale
    have refused := opened.ioAppendDevice_full full
      (context.openDevice allocator call.type call.path stale).2
    have negative : (-1 : Int) ≤ 0 := by decide
    simp only [ioAddDevice, refused, Option.bind_eq_bind, Option.bind_some,
      if_pos negative]
    refine ⟨_, rfl, ⟨opened.devices, opened.few, opened.distinct, ?_,
      opened.filledIn⟩, rfl, rfl, kept⟩
    intro entry member
    obtain ⟨notNull, allocated⟩ := opened.present entry member
    exact ⟨notNull,
      (List.mem_erase_of_ne (apart entry member)).mpr allocated⟩
  cases call with
  | mapped path stale => exact adds stale
  | stream path stale => exact adds stale

/-- The state after a sequence of calls: those for which there was room have
added a device, the others have returned `NULL`. -/
theorem addAll (lists : Lists context listed) (allocator : Allocator)
    (calls : List AddCall) :
    ∃ after returned,
      IoContext.addAll allocator context calls = some (after, returned) ∧
      returned.length = calls.length ∧
      Lists after (listed ++
        (returned.zip calls).take (maxDevice - listed.length)) ∧
      (∀ device ∈ returned.drop (maxDevice - listed.length),
        device = 0) ∧
      after.address = context.address := by
  induction calls generalizing context listed with
  | nil =>
      refine ⟨context, [], rfl, rfl, ?_, by simp, rfl⟩
      simpa using lists
  | cons call calls induction =>
      by_cases room : listed.length < maxDevice
      · obtain ⟨middle, device, added, next, address⟩ :=
          lists.add_room room allocator call
        obtain ⟨after, returned, run, length, later, rest, address'⟩ :=
          induction next
        have one : maxDevice - listed.length =
            maxDevice - (listed ++ [(device, call)]).length + 1 := by
          rw [List.length_append, List.length_singleton]
          omega
        refine ⟨after, device :: returned, ?_, ?_, ?_, ?_,
          address'.trans address⟩
        · simp only [IoContext.addAll, added, run, Option.bind_eq_bind,
            Option.bind_some]
        · rw [List.length_cons, List.length_cons, length]
        · rw [one, List.zip_cons_cons, List.take_succ_cons,
            List.append_cons]
          exact later
        · rw [one, List.drop_succ_cons]
          exact rest
      · have full : listed.length = maxDevice :=
          Nat.le_antisymm lists.few (Nat.le_of_not_lt room)
        obtain ⟨middle, refused, next, address, _, _⟩ :=
          lists.add_full full allocator call
        obtain ⟨after, returned, run, length, later, rest, address'⟩ :=
          induction next
        rw [full, Nat.sub_self] at later rest ⊢
        refine ⟨after, 0 :: returned, ?_, ?_, later, ?_,
          address'.trans address⟩
        · simp only [IoContext.addAll, refused, run, Option.bind_eq_bind,
            Option.bind_some]
        · rw [List.length_cons, List.length_cons, length]
        · intro device member
          rw [List.drop_zero] at rest member
          rcases List.mem_cons.mp member with rfl | returnedLater
          · rfl
          · exact rest device returnedLater

theorem closeFrom_listed {device : Nat → IoDevice} (allocated : List Nat)
    (distinct : (listed.map Prod.fst).Nodup)
    (present : ∀ entry ∈ listed, entry.1 ≠ 0 ∧ entry.1 ∈ allocated)
    (types : ∀ entry ∈ listed,
      (device entry.1).type = some entry.2.type) :
    closeFrom device (listed.map Prod.fst ++ [0]) allocated =
      some (listed.map fun entry =>
        { function := entry.2.type, device := entry.1 }) := by
  induction listed generalizing allocated with
  | nil => rfl
  | cons entry listed induction =>
      obtain ⟨notNull, allocatedHere⟩ := present entry (by simp)
      rw [List.map_cons, List.nodup_cons] at distinct
      have remaining : ∀ other ∈ listed,
          other.1 ≠ 0 ∧ other.1 ∈ allocated.erase entry.1 := by
        intro other member
        obtain ⟨otherNotNull, otherAllocated⟩ :=
          present other (by simp [member])
        have different : other.1 ≠ entry.1 := by
          intro same
          apply distinct.1
          rw [← same]
          exact List.mem_map_of_mem member
        exact ⟨otherNotNull,
          (List.mem_erase_of_ne different).mpr otherAllocated⟩
      have rest := induction (allocated.erase entry.1) distinct.2 remaining
        (fun other member => types other (by simp [member]))
      simp only [List.map_cons, List.cons_append, closeFrom, if_neg notNull,
        allocatedHere, not_true_eq_false, if_false,
        types entry (by simp), rest, Option.bind_eq_bind, Option.bind_some]

theorem ioCloseContext (lists : Lists context listed) :
    context.ioCloseContext = some (listed.map fun entry =>
      { function := entry.2.type, device := entry.1 }) := by
  have closed := closeFrom_listed _ lists.distinct lists.present
    (fun entry member =>
      congrArg IoDevice.type (lists.filledIn entry member))
  simp only [IoContext.ioCloseContext, lists.count, lists.devices, closed,
    Option.bind_eq_bind, Option.bind_some]

end Lists

/-- After any sequence of calls on a new context no access has left its
array; the list holds the devices of the first `MAX_DEVICE` calls, in order,
each with its type, its path and the context; later calls return `NULL` and
leave what is listed alone; and closing the context closes each device of the
list once, in order, with the function of its type. -/
theorem context_owns_devices (allocator : Allocator) (address : Nat)
    (calls : List AddCall) :
    ∃ context returned,
      addAll allocator (ioCreateContext address) calls =
        some (context, returned) ∧
      returned.length = calls.length ∧
      context.devices = returned.take maxDevice ++ [0] ∧
      (returned.take maxDevice).Nodup ∧
      (∀ entry ∈ (returned.zip calls).take maxDevice, entry.1 ≠ 0 ∧
        context.device entry.1 =
          { type := some entry.2.type, ctx := address,
            path := entry.2.path }) ∧
      (∀ device ∈ returned.drop maxDevice, device = 0) ∧
      (maxDevice ≤ calls.length → ∀ call, ∃ after,
        context.add allocator call = some (after, 0) ∧
        after.devices = context.devices ∧
        ∀ device ∈ returned.take maxDevice,
          after.device device = context.device device) ∧
      context.ioCloseContext =
        some (((returned.zip calls).take maxDevice).map fun entry =>
          { function := entry.2.type, device := entry.1 }) := by
  obtain ⟨context, returned, run, length, lists, rest, sameAddress⟩ :=
    (Lists.created address).addAll allocator calls
  simp only [List.length_nil, Nat.sub_zero, List.nil_append] at lists rest
  have pointers : ((returned.zip calls).take maxDevice).map Prod.fst =
      returned.take maxDevice := by
    rw [List.map_take, List.map_fst_zip (Nat.le_of_eq length)]
  refine ⟨context, returned, run, length, ?_, ?_, ?_, rest, ?_,
    lists.ioCloseContext⟩
  · rw [← pointers]
    exact lists.devices
  · rw [← pointers]
    exact lists.distinct
  · intro entry member
    have filledIn := lists.filledIn entry member
    rw [sameAddress] at filledIn
    exact ⟨(lists.present entry member).1, filledIn⟩
  · intro enough call
    have full : ((returned.zip calls).take maxDevice).length =
        maxDevice := by
      rw [List.length_take, List.length_zip, length]
      omega
    obtain ⟨after, refused, _, _, devices, kept⟩ :=
      lists.add_full full allocator call
    refine ⟨after, refused, devices, ?_⟩
    intro device member
    rw [← pointers] at member
    obtain ⟨entry, entryMember, rfl⟩ := List.mem_map.mp member
    exact kept entry entryMember

end IoContext

end StreamIO.Local
