import StreamIO.Library.ScriptedRun
import StreamIO.Local.OpenLocal

/-!
# Opening and closing local contexts

`io_close_context` with the local backend, and the contexts of a process one
after the other and next to each other.  `buffer_release` unmaps one
`struct channel_buffer` of the `BUFFER_COUNT` that `buffer_allocate` has
mapped.
-/

namespace StreamIO.Local

open StreamIO.Library StreamIO.Driver

namespace Process

/-- `io_close_mapped_local`. -/
def ioCloseMappedLocal (process : Process) (fd : Int) (start : Option Nat)
    (words : Nat) : Process :=
  (process.munmap start (words * 4)).closeFile fd

/-- `buffer_release`. -/
def bufferRelease (process : Process) (channelBuffer : Nat) : Process :=
  process.munmap channelBuffer sizeofChannelBuffer

/-- `io_close_stream_local`. -/
def ioCloseStreamLocal (process : Process) (fd : Int)
    (channelBuffer : Nat) : Process :=
  (process.bufferRelease channelBuffer).closeFile fd

/-- The closing function of the backend for a type.  It takes the device for
one of its own kind. -/
def ioCloseLocal (process : Process) :
    DeviceType → LocalDevice → Option Process
  | .mappedDevice, .mapped fd start words =>
      some (process.ioCloseMappedLocal fd start words)
  | .streamDevice, .stream fd channelBuffer =>
      some (process.ioCloseStreamLocal fd channelBuffer)
  | _, _ => none

end Process

namespace LocalContext

/-- `io_close_context`. -/
def ioCloseContext (state : LocalContext) (process : Process) :
    Option Process := do
  let calls ← state.context.ioCloseContext
  calls.foldlM
    (fun process call =>
      process.ioCloseLocal call.function (state.opened call.device))
    process

/-- The devices of a context. -/
def owned (state : LocalContext) : List LocalDevice :=
  (state.context.devices.takeWhile fun pointer => pointer ≠ 0).map
    state.opened

end LocalContext

/-- A process with its open contexts, and the devices of the context that was
closed just now. -/
structure LocalSystem where
  process : Process
  contexts : List (Nat × LocalContext)
  justClosed : List LocalDevice
  crashed : Bool

inductive LocalEvent where
  | create (id : Nat)
  | add (id : Nat) (call : AddCall) (answers : OpenAnswers)
  | close (id : Nat)

namespace LocalSystem

def start (base : Process) : LocalSystem :=
  { process := base, contexts := [], justClosed := [], crashed := false }

/-- The contexts without one of them. -/
def without (system : LocalSystem) (id : Nat) : List (Nat × LocalContext) :=
  system.contexts.filter fun entry => entry.1 ≠ id

def step (allocator : Allocator) (system : LocalSystem) :
    LocalEvent → LocalSystem
  | .create id =>
      { system with
        contexts := (id, LocalContext.ioCreateContext id) :: system.contexts
        justClosed := [] }
  | .add id call answers =>
      match system.contexts.lookup id with
      | none => { system with crashed := true }
      | some context =>
          match context.add system.process allocator call answers with
          | none => { system with crashed := true }
          | some (process, after, _) =>
              { system with
                process := process
                contexts := (id, after) :: system.without id
                justClosed := [] }
  | .close id =>
      match system.contexts.lookup id with
      | none => { system with crashed := true }
      | some context =>
          match context.ioCloseContext system.process with
          | none => { system with crashed := true }
          | some process =>
              { system with
                process := process
                contexts := system.without id
                justClosed := context.owned }

/-- The devices of all open contexts. -/
def owned (system : LocalSystem) : List LocalDevice :=
  system.contexts.flatMap fun entry => entry.2.owned

/-- Contexts are created, used and closed in this order, and additions are
successful. -/
def Possible (system : LocalSystem) : LocalEvent → Prop
  | .create id => id ∉ system.contexts.map Prod.fst
  | .add id call answers =>
      ∃ context, system.contexts.lookup id = some context ∧
        1 ≤ answers.fd ∧ answers.mapping ≠ none ∧
        context.context.ioCountDevices ≠ some maxDevice ∧
        answers.Granted system.process call.type.mappedLength
  | .close id => ∃ context, system.contexts.lookup id = some context

/-- What is live, apart from what was there at the start, are the mappings
and descriptors of the contexts that are open; those of a context that was
closed are not. -/
def Balanced (base : Process) (system : LocalSystem) : Prop :=
  system.crashed = false ∧
    (∀ resource, system.process resource = true ↔ base resource = true ∨
      ∃ device ∈ system.owned, device.held resource = true) ∧
    ∀ device ∈ system.justClosed, ∀ resource,
      device.held resource = true → system.process resource = false

/-- No context with a stream device is closed. -/
def ClosesMapped (system : LocalSystem) : LocalEvent → Prop
  | .create _ => True
  | .add _ _ _ => True
  | .close id => ∀ context, system.contexts.lookup id = some context →
      ∀ device ∈ context.owned, device.type = .mappedDevice

end LocalSystem

/-- What closing a device releases. -/
def LocalDevice.released : LocalDevice → Resource → Bool
  | .mapped fd start words, resource =>
      Resource.pages start (words * 4) resource ||
        Resource.only (.descriptor fd) resource
  | .stream fd channelBuffer, resource =>
      Resource.pages channelBuffer sizeofChannelBuffer resource ||
        Resource.only (.descriptor fd) resource

theorem Process.ioCloseLocal_eq (process : Process) (device : LocalDevice) :
    process.ioCloseLocal device.type device =
      some (relinquish process device.released) := by
  cases device with
  | mapped fd start words =>
      exact congrArg some (relinquish_relinquish process _ _)
  | stream fd channelBuffer =>
      exact congrArg some (relinquish_relinquish process _ _)

theorem LocalDevice.released_mapped {device : LocalDevice}
    (mapped : device.type = .mappedDevice) :
    device.released = device.held := by
  cases device with
  | mapped fd start words =>
      funext resource
      exact Bool.or_comm _ _
  | stream fd channelBuffer => cases mapped

theorem LocalDevice.released_held (device : LocalDevice)
    (resource : Resource) (isReleased : device.released resource = true) :
    device.held resource = true := by
  cases device with
  | mapped fd start words =>
      rw [← released_mapped rfl]
      exact isReleased
  | stream fd channelBuffer =>
      cases resource with
      | descriptor other =>
          simpa [released, held, Resource.pages] using isReleased
      | page number =>
          simp only [released, held, Resource.only_page, Bool.or_false,
            Bool.false_or, Resource.pages_iff] at isReleased ⊢
          refine ⟨isReleased.1, Nat.lt_of_lt_of_le isReleased.2 ?_⟩
          exact Nat.add_le_add_left (by decide) channelBuffer

theorem LocalDevice.stream_keeps {device : LocalDevice}
    (stream : device.type ≠ .mappedDevice) :
    ∃ resource, device.held resource = true ∧
      device.released resource = false := by
  cases device with
  | mapped fd start words => exact absurd rfl stream
  | stream fd channelBuffer =>
      refine ⟨.page (channelBuffer / pageSize + 40), ?_, ?_⟩
      · simp only [held, Resource.only_page, Bool.false_or,
          Resource.pages_iff, pageSize, sizeofChannelBuffer, bufferCount]
        omega
      · simp only [released, Resource.only_page, Bool.or_false,
          Bool.eq_false_iff, ne_eq, Resource.pages_iff, pageSize,
          sizeofChannelBuffer]
        omega

namespace LocalContext

variable {state : LocalContext} {listed : List (Nat × AddCall)}

theorem Opened.owned_eq (opened : Opened state listed) :
    state.owned = listed.map fun entry => state.opened entry.1 := by
  have pointers : ∀ pointer ∈ listed.map Prod.fst,
      (fun pointer : Nat => decide (pointer ≠ 0)) pointer = true := by
    intro pointer member
    obtain ⟨entry, entryMember, rfl⟩ := List.mem_map.mp member
    simpa using (opened.lists.present entry entryMember).1
  rw [owned, opened.lists.devices, List.takeWhile_append_of_pos pointers]
  simp

theorem Opened.ioCloseContext_eq (opened : Opened state listed)
    (process : Process) :
    state.ioCloseContext process =
      some (relinquishAll LocalDevice.released process state.owned) := by
  have closes : ∀ part : List (Nat × AddCall),
      (∀ entry ∈ part, (state.opened entry.1).type = entry.2.type) →
      ∀ process : Process,
        (part.map fun entry =>
          ({ function := entry.2.type, device := entry.1 } :
            CloseCall)).foldlM
          (fun process call =>
            process.ioCloseLocal call.function (state.opened call.device))
          process =
        some (relinquishAll LocalDevice.released process
          (part.map fun entry => state.opened entry.1)) := by
    intro part types
    induction part with
    | nil =>
        intro process
        rfl
    | cons entry part induction =>
        intro process
        have first := process.ioCloseLocal_eq (state.opened entry.1)
        rw [types entry (by simp)] at first
        rw [List.map_cons, List.foldlM_cons, first]
        apply induction
        intro other member
        exact types other (by simp [member])
  rw [ioCloseContext, opened.lists.ioCloseContext, opened.owned_eq]
  exact closes listed opened.types process

end LocalContext

namespace LocalSystem

variable {allocator : Allocator} {base : Process} {system : LocalSystem}
  {id : Nat} {context : LocalContext}

/-- Every resource that is live is held once. -/
structure Settled (allocator : Allocator) (base : Process)
    (system : LocalSystem) : Prop where
  running : system.crashed = false
  distinct : (system.contexts.map Prod.fst).Nodup
  reached : ∀ entry ∈ system.contexts,
    LocalContext.Reached allocator entry.2
  account : Accounts LocalDevice.held system.process base system.owned
  closed : ∀ device ∈ system.justClosed, ∀ resource,
    device.held resource = true → system.process resource = false

theorem start_settled (allocator : Allocator) (base : Process) :
    Settled allocator base (start base) :=
  ⟨rfl, List.nodup_nil, by simp [start],
    Accounts.start LocalDevice.held base, by simp [start]⟩

namespace Settled

theorem balanced (settled : Settled allocator base system) :
    Balanced base system :=
  ⟨settled.running, settled.account.live_iff, settled.closed⟩

theorem reached_of_lookup (settled : Settled allocator base system)
    (looked : system.contexts.lookup id = some context) :
    LocalContext.Reached allocator context := by
  obtain ⟨earlier, later, split, _⟩ := List.lookup_eq_some_iff.mp looked
  exact settled.reached (id, context) (by simp [split])

theorem account_split (settled : Settled allocator base system)
    (looked : system.contexts.lookup id = some context) :
    Accounts LocalDevice.held system.process base
      (context.owned ++
        (system.without id).flatMap fun entry => entry.2.owned) := by
  obtain ⟨earlier, later, split, others⟩ :=
    lookup_split looked settled.distinct
  apply settled.account.perm
  rw [owned, split, without, others, List.flatMap_append,
    List.flatMap_cons, List.flatMap_append]
  exact List.perm_append_comm_assoc _ _ _

theorem without_distinct (settled : Settled allocator base system)
    (id : Nat) : ((system.without id).map Prod.fst).Nodup :=
  settled.distinct.sublist (List.filter_sublist.map Prod.fst)

theorem without_reached (settled : Settled allocator base system)
    (id : Nat) : ∀ entry ∈ system.without id,
      LocalContext.Reached allocator entry.2 := by
  intro entry member
  exact settled.reached entry (List.mem_of_mem_filter member)

theorem create (settled : Settled allocator base system)
    (new : id ∉ system.contexts.map Prod.fst) :
    Settled allocator base (system.step allocator (.create id)) := by
  refine ⟨settled.running, ?_, ?_, ?_, by simp [step]⟩
  · exact List.nodup_cons.mpr ⟨new, settled.distinct⟩
  · intro entry member
    rcases List.mem_cons.mp member with rfl | old
    · exact LocalContext.Reached.created id
    · exact settled.reached entry old
  · exact settled.account

theorem add (settled : Settled allocator base system) {call : AddCall}
    {answers : OpenAnswers}
    (looked : system.contexts.lookup id = some context)
    (positive : 1 ≤ answers.fd) (mapped : answers.mapping ≠ none)
    (notFull : context.context.ioCountDevices ≠ some maxDevice)
    (granted : answers.Granted system.process call.type.mappedLength) :
    Settled allocator base
      (system.step allocator (.add id call answers)) := by
  have reached := settled.reached_of_lookup looked
  obtain ⟨listed, opened⟩ := reached.opened
  obtain ⟨device, opens, _, fresh⟩ := granted.opens positive mapped
  obtain ⟨after, pointer, runs, openedAfter, holds, same⟩ :=
    opened.add_room opens (opened.room notFull) allocator
  have owned : after.owned = context.owned ++ [device] := by
    rw [openedAfter.owned_eq, opened.owned_eq, List.map_append,
      List.map_singleton, holds]
    congr 1
    apply List.map_congr_left
    intro entry member
    obtain ⟨devicesMember, notNull⟩ :=
      (opened.mem_devices entry.1).mpr ⟨entry, member, rfl⟩
    exact (same entry.1 devicesMember notNull).2
  have stepped : system.step allocator (.add id call answers) =
      { system with
        process := acquire system.process device.held
        contexts := (id, after) :: system.without id
        justClosed := [] } := by
    simp only [step, looked, runs]
  rw [stepped]
  refine ⟨settled.running, ?_, ?_, ?_, by simp⟩
  · apply List.nodup_cons.mpr
    refine ⟨?_, settled.without_distinct id⟩
    intro member
    obtain ⟨entry, entryMember, equal⟩ := List.mem_map.mp member
    simpa [equal] using (List.mem_filter.mp entryMember).2
  · intro entry member
    rcases List.mem_cons.mp member with rfl | old
    · exact reached.added runs
    · exact settled.without_reached id entry old
  · have account := (settled.account_split looked).acquire fresh
    apply account.perm
    rw [LocalSystem.owned, List.flatMap_cons, owned, List.append_assoc]
    exact List.perm_middle.symm

theorem close_eq (settled : Settled allocator base system)
    (looked : system.contexts.lookup id = some context) :
    system.step allocator (.close id) =
      { system with
        process :=
          relinquishAll LocalDevice.released system.process context.owned
        contexts := system.without id
        justClosed := context.owned } := by
  obtain ⟨listed, opened⟩ := (settled.reached_of_lookup looked).opened
  simp only [step, looked, opened.ioCloseContext_eq system.process]

theorem close (settled : Settled allocator base system)
    (looked : system.contexts.lookup id = some context)
    (allMapped : ∀ device ∈ context.owned, device.type = .mappedDevice) :
    Settled allocator base (system.step allocator (.close id)) := by
  have releases : relinquishAll LocalDevice.released system.process
      context.owned =
        relinquishAll LocalDevice.held system.process context.owned := by
    apply relinquishAll_congr
    intro device member
    exact LocalDevice.released_mapped (allMapped device member)
  rw [settled.close_eq looked, releases]
  refine ⟨settled.running, settled.without_distinct id,
    settled.without_reached id, (settled.account_split looked).relinquishAll,
    ?_⟩
  intro device member resource holds
  apply Bool.eq_false_iff.mpr
  intro isLive
  have notHeld := ((relinquishAll_apply _ _ _ _).mp isLive).2 device member
  rw [holds] at notHeld
  cases notHeld

/-- Closing a stream device leaves pages mapped that no context holds. -/
theorem close_spoils (settled : Settled allocator base system)
    (looked : system.contexts.lookup id = some context)
    {device : LocalDevice} (member : device ∈ context.owned)
    (stream : device.type ≠ .mappedDevice) :
    ¬Balanced base (system.step allocator (.close id)) := by
  rw [settled.close_eq looked]
  rintro ⟨_, live, _⟩
  obtain ⟨resource, holds, keeps⟩ := LocalDevice.stream_keeps stream
  obtain ⟨isLive, notBase, others⟩ :=
    (settled.account_split looked).kept_back
      LocalDevice.released_held member holds keeps
  rcases (live resource).mp isLive with inBase | ⟨other, owner, otherHolds⟩
  · rw [notBase] at inBase
    cases inBase
  · rw [others other owner] at otherHolds
    cases otherHolds

end Settled

/-- In every run the live mappings and descriptors are at all times those of
the open contexts, exactly if no context that is closed has a stream
device. -/
theorem balanced_throughout_iff (allocator : Allocator) (base : Process)
    (events : List LocalEvent)
    (possible : EveryStep (step allocator) Possible (start base) events) :
    Throughout (step allocator) (Balanced base) (start base) events ↔
      EveryStep (step allocator) ClosesMapped (start base) events := by
  have sound : ∀ system, Settled allocator base system →
      Balanced base system := fun _ => Settled.balanced
  apply throughout_iff_everyStep_via sound _ _
    (start_settled allocator base) possible
  · intro system event isPossible settled closesMapped
    cases event with
    | create id => exact settled.create isPossible
    | add id call answers =>
        obtain ⟨context, looked, positive, mapped, notFull, granted⟩ :=
          isPossible
        exact settled.add looked positive mapped notFull granted
    | close id =>
        obtain ⟨context, looked⟩ := isPossible
        exact settled.close looked (closesMapped context looked)
  · intro system event isPossible settled spoils
    cases event with
    | create id => exact absurd True.intro spoils
    | add id call answers => exact absurd True.intro spoils
    | close id =>
        simp only [ClosesMapped, not_forall] at spoils
        obtain ⟨context, looked, device, member, stream⟩ := spoils
        exact settled.close_spoils looked member stream

/-- A context with a mapped device is closed next to one with a stream
device. -/
theorem balanced_two_contexts :
    Throughout (step default) (Balanced (Resource.only (.descriptor 2)))
      (start (Resource.only (.descriptor 2)))
      [.create 1,
        .add 1 (.mapped "/dev/uio0" { type := none, ctx := 0, path := "" })
          { fd := 3, mapping := some 4096 },
        .create 2,
        .add 2 (.stream "/dev/dma" { type := none, ctx := 0, path := "" })
          { fd := 4, mapping := some 8192 },
        .close 1] := by
  apply (balanced_throughout_iff default _ _ _).mpr
  · refine ⟨True.intro, True.intro, True.intro, True.intro, ?_, True.intro⟩
    intro context looked device member
    cases looked
    rw [List.mem_singleton.mp member]
    rfl
  · refine ⟨List.not_mem_nil,
      ⟨_, rfl, by decide, by decide, by decide, ?_⟩, ?_,
      ⟨_, rfl, by decide, by decide, by decide, ?_⟩, ⟨_, rfl⟩, True.intro⟩
    · refine ⟨fun _ => rfl, by decide, ?_⟩
      intro resource mapped
      cases resource with
      | descriptor fd => cases mapped
      | page number => rfl
    · change (2 : Nat) ∉ [1]
      decide
    · refine ⟨fun _ => rfl, by decide, ?_⟩
      intro resource mapped
      cases resource with
      | descriptor fd => cases mapped
      | page number =>
          apply Bool.eq_false_iff.mpr
          intro earlier
          have before : Resource.pages (some 4096) (512 * 4)
              (.page number) = true := earlier
          rw [Resource.pages_iff] at mapped before
          simp only [pageSize] at mapped before
          omega

/-- The buffers of a stream device outlive its context. -/
theorem stream_buffers_stay_mapped :
    ¬Throughout (step default) (Balanced (Resource.only (.descriptor 2)))
      (start (Resource.only (.descriptor 2)))
      [.create 1,
        .add 1 (.stream "/dev/dma" { type := none, ctx := 0, path := "" })
          { fd := 3, mapping := some 4096 },
        .close 1] := by
  intro always
  obtain ⟨_, live, _⟩ := always.last
  have mapped := (live (.page 41)).mp (by decide +kernel)
  rcases mapped with inBase | ⟨device, member, _⟩
  · cases inBase
  · cases member

end LocalSystem

end StreamIO.Local
