import Mathlib.Algebra.Order.Ring.Int
import StreamIO.Library.Holdings
import StreamIO.Library.ScriptedRun

/-!
# The class of the channel devices

`cdevice_init` and `cdevice_exit` as `dma_proxy_probe` and `dma_proxy_remove`
call them when everything succeeds.  The class is kept in a static variable
of `cdevice_init` and destroyed by `cdevice_exit` when `total_count` says
that the last channel goes; the variable then still points to it.
-/

namespace StreamIO.Driver

open StreamIO.Library

/-- What is done to classes, in order.  A class is known by the number of its
creation. -/
inductive ClassEvent where
  | classCreate (id : Nat)
  | deviceCreate (id : Nat)
  | deviceDestroy (id : Nat)
  | classDestroy (id : Nat)
  deriving DecidableEq, Repr

/-- The class that exists, and how many devices are registered in it. -/
structure ClassLife where
  live : Option Nat
  registered : Nat
  deriving DecidableEq, Repr

/-- The life a class should have: one at a time, devices only in the class
that exists, and its end when no device is left. -/
def ClassLife.next (life : ClassLife) : ClassEvent → Option ClassLife
  | .classCreate id =>
      if life.live = none then some { life with live := some id } else none
  | .deviceCreate id =>
      if life.live = some id then
        some { life with registered := life.registered + 1 }
      else none
  | .deviceDestroy id =>
      if life.live = some id ∧ 0 < life.registered then
        some { life with registered := life.registered - 1 }
      else none
  | .classDestroy id =>
      if life.live = some id ∧ life.registered = 0 then
        some { life with live := none }
      else none

/-- The events up to now, as long as they are those of such a life. -/
def replay (log : List ClassEvent) : Option ClassLife :=
  log.foldlM ClassLife.next { live := none, registered := 0 }

/-- The driver module: the static `local_class_p`, `total_count`, for each
platform device that is bound the `class_p` of its channels, the number of
classes created so far, and what was done to them. -/
structure ProxyModule where
  localClassP : Option Nat
  totalCount : Int
  devices : List (Nat × List Nat)
  classes : Nat
  log : List ClassEvent

namespace ProxyModule

/-- The module after it was loaded. -/
def loaded : ProxyModule :=
  { localClassP := none, totalCount := 0, devices := [], classes := 0,
    log := [] }

/-- The class in `cdevice_init`, created if there is no pointer to one. -/
def localClass (state : ProxyModule) : ProxyModule × Nat :=
  match state.localClassP with
  | none =>
      ({ state with
          localClassP := some state.classes
          classes := state.classes + 1
          log := state.log ++ [.classCreate state.classes] },
        state.classes)
  | some classP => (state, classP)

/-- `cdevice_init`: the `class_p` of the channel and a device in it. -/
def cdeviceInit (state : ProxyModule) : ProxyModule × Nat :=
  let (state, classP) := state.localClass
  ({ state with log := state.log ++ [.deviceCreate classP] }, classP)

/-- `cdevice_exit` of a channel that was created. -/
def cdeviceExit (state : ProxyModule) (classP : Nat) : ProxyModule :=
  let state := { state with log := state.log ++ [.deviceDestroy classP] }
  if state.totalCount = 1 then
    { state with log := state.log ++ [.classDestroy classP] }
  else state

/-- The loop of `dma_proxy_probe` over the channels. -/
def createChannels : Nat → ProxyModule → ProxyModule × List Nat
  | 0, state => (state, [])
  | count + 1, state =>
      let (state, classP) := state.cdeviceInit
      let (state, later) := createChannels count
        { state with totalCount := state.totalCount + 1 }
      (state, classP :: later)

/-- `dma_proxy_probe`, successful, of a device with `count` channels. -/
def dmaProxyProbe (state : ProxyModule) (device count : Nat) : ProxyModule :=
  let (state, channels) := createChannels count state
  { state with devices := (device, channels) :: state.devices }

/-- The loop of `dma_proxy_remove` over the channels. -/
def removeChannels : List Nat → ProxyModule → ProxyModule
  | [], state => state
  | classP :: channels, state =>
      let state := state.cdeviceExit classP
      removeChannels channels { state with totalCount := state.totalCount - 1 }

/-- The channels of a device that is bound. -/
def channels (state : ProxyModule) (device : Nat) : List Nat :=
  (state.devices.lookup device).getD []

/-- `dma_proxy_remove`. -/
def dmaProxyRemove (state : ProxyModule) (device : Nat) : ProxyModule :=
  let removed := removeChannels (state.channels device) state
  { removed with
    devices := state.devices.filter fun entry => entry.1 ≠ device }

/-- How many channels are registered. -/
def registered (state : ProxyModule) : Nat :=
  (state.devices.map fun entry => entry.2.length).sum

end ProxyModule

/-- A device is bound to the driver or unbound from it. -/
inductive ProxyEvent where
  | probe (device count : Nat)
  | remove (device : Nat)
  deriving DecidableEq, Repr

namespace ProxyModule

def step (state : ProxyModule) : ProxyEvent → ProxyModule
  | .probe device count => state.dmaProxyProbe device count
  | .remove device => state.dmaProxyRemove device

/-- Devices are probed with some channel while they are not bound, and
removed while they are. -/
def Possible (state : ProxyModule) : ProxyEvent → Prop
  | .probe device count => device ∉ state.devices.map Prod.fst ∧ 0 < count
  | .remove device => device ∈ state.devices.map Prod.fst

instance (state : ProxyModule) :
    (event : ProxyEvent) → Decidable (state.Possible event)
  | .probe _ _ => inferInstanceAs (Decidable (_ ∧ _))
  | .remove _ => inferInstanceAs (Decidable (_ ∈ _))

/-- The counter is right, and the class has had the life it should have and
exists exactly while a channel is registered. -/
def Orderly (state : ProxyModule) : Prop :=
  state.totalCount = state.registered ∧
    ∃ live, replay state.log =
        some { live := live, registered := state.registered } ∧
      (live ≠ none ↔ 0 < state.registered)

/-- No probe comes after all channels have gone. -/
def KeepsClass (state : ProxyModule) : ProxyEvent → Prop
  | .probe _ _ => state.classes = 0 ∨ 0 < state.registered
  | .remove _ => True

instance (state : ProxyModule) :
    (event : ProxyEvent) → Decidable (state.KeepsClass event)
  | .probe _ _ => inferInstanceAs (Decidable (_ ∨ _))
  | .remove _ => isTrue True.intro

end ProxyModule

theorem replay_append {log : List ClassEvent} {life : ClassLife}
    (replayed : replay log = some life) (event : ClassEvent) :
    replay (log ++ [event]) = life.next event := by
  rw [replay, List.foldlM_append, ← replay, replayed]
  simp

theorem replay_append_none {log : List ClassEvent}
    (spoiled : replay log = none) (events : List ClassEvent) :
    replay (log ++ events) = none := by
  rw [replay, List.foldlM_append, ← replay, spoiled]
  rfl

namespace ProxyModule

variable {state : ProxyModule} {id count : Nat}

theorem createChannels_live (pointer : state.localClassP = some id)
    {registered : Nat}
    (replayed : replay state.log =
      some { live := some id, registered := registered }) (count : Nat) :
    let created := createChannels count state
    created.2 = List.replicate count id ∧
      created.1.localClassP = some id ∧
      created.1.classes = state.classes ∧
      created.1.devices = state.devices ∧
      created.1.totalCount = state.totalCount + count ∧
      replay created.1.log =
        some { live := some id, registered := registered + count } := by
  induction count generalizing state registered with
  | zero =>
      simp only [createChannels, List.replicate_zero, Nat.cast_zero,
        Int.add_zero, Nat.add_zero, true_and]
      exact ⟨pointer, replayed⟩
  | succ count induction =>
      have first : state.cdeviceInit =
          ({ state with log := state.log ++ [.deviceCreate id] }, id) := by
        simp only [cdeviceInit, localClass, pointer]
      have next := replay_append replayed (.deviceCreate id)
      simp only [ClassLife.next, if_true] at next
      obtain ⟨channels, pointerLater, classes, devices, total, log⟩ :=
        @induction
          { state with
            log := state.log ++ [.deviceCreate id]
            totalCount := state.totalCount + 1 }
          pointer (registered + 1) next
      simp only [createChannels, first]
      refine ⟨?_, pointerLater, classes, devices, ?_, ?_⟩
      · rw [channels, List.replicate_succ]
      · rw [total]
        push_cast
        omega
      · rw [log]
        congr 2
        omega

/-- The class is looked for by the first channel only. -/
theorem createChannels_localClass (state : ProxyModule)
    (positive : 0 < count) :
    createChannels count state =
      createChannels count state.localClass.1 := by
  have again : state.localClass.1.cdeviceInit = state.cdeviceInit := by
    cases pointer : state.localClassP with
    | none => simp only [cdeviceInit, localClass, pointer]
    | some classP => simp only [cdeviceInit, localClass, pointer]
  cases count with
  | zero => exact absurd positive (Nat.lt_irrefl 0)
  | succ count => simp only [createChannels, again]

theorem cdeviceInit_log (state : ProxyModule) :
    ∃ events, state.cdeviceInit.1.log = state.log ++ events := by
  cases pointer : state.localClassP with
  | none =>
      refine ⟨[.classCreate state.classes, .deviceCreate state.classes], ?_⟩
      simp only [cdeviceInit, localClass, pointer, List.append_assoc]
      rfl
  | some classP =>
      refine ⟨[.deviceCreate classP], ?_⟩
      simp only [cdeviceInit, localClass, pointer]

theorem createChannels_spoiled (spoiled : replay state.log = none)
    (count : Nat) : replay (createChannels count state).1.log = none := by
  induction count generalizing state with
  | zero => exact spoiled
  | succ count induction =>
      obtain ⟨events, log⟩ := state.cdeviceInit_log
      have next : replay state.cdeviceInit.1.log = none := by
        rw [log]
        exact replay_append_none spoiled events
      exact @induction
        { state.cdeviceInit.1 with
          totalCount := state.cdeviceInit.1.totalCount + 1 } next

theorem cdeviceExit_live {registered : Nat}
    (replayed : replay state.log =
      some { live := some id, registered := registered })
    (counted : state.totalCount = registered) (positive : 0 < registered) :
    (state.cdeviceExit id).localClassP = state.localClassP ∧
      (state.cdeviceExit id).classes = state.classes ∧
      (state.cdeviceExit id).totalCount = state.totalCount ∧
      replay (state.cdeviceExit id).log =
        some
          { live := if registered = 1 then none else some id
            registered := registered - 1 } := by
  have next := replay_append replayed (.deviceDestroy id)
  simp only [ClassLife.next, positive, and_self, if_true] at next
  by_cases last : registered = 1
  · have one : state.totalCount = 1 := by
      rw [counted, last]
      rfl
    simp only [cdeviceExit, if_pos one, if_pos last, true_and]
    rw [replay_append next, last]
    simp [ClassLife.next]
  · have more : state.totalCount ≠ 1 := by
      rw [counted]
      exact_mod_cast last
    simp only [cdeviceExit, if_neg more, if_neg last, true_and]
    exact next

theorem removeChannels_live {registered : Nat}
    (replayed : replay state.log =
      some { live := some id, registered := registered })
    (counted : state.totalCount = registered) (positive : 0 < registered)
    (within : count ≤ registered) :
    let removed := removeChannels (List.replicate count id) state
    removed.localClassP = state.localClassP ∧
      removed.classes = state.classes ∧
      removed.totalCount = (registered - count : Nat) ∧
      replay removed.log =
        some
          { live := if count = registered then none else some id
            registered := registered - count } := by
  induction count generalizing state registered with
  | zero =>
      have different : ¬0 = registered := Nat.ne_of_lt positive
      simp only [List.replicate_zero, removeChannels, if_neg different,
        Nat.sub_zero, true_and]
      exact ⟨counted, replayed⟩
  | succ count induction =>
      obtain ⟨pointer, classes, total, log⟩ :=
        cdeviceExit_live replayed counted positive
      have lowered : (state.cdeviceExit id).totalCount - 1 =
          (registered - 1 : Nat) := by
        rw [total, counted]
        omega
      rw [List.replicate_succ, removeChannels, lowered]
      by_cases last : registered = 1
      · have nothing : count = 0 := by omega
        subst last nothing
        exact ⟨pointer, classes, rfl, log⟩
      · rw [if_neg last] at log
        have later := @induction
          { state.cdeviceExit id with totalCount := (registered - 1 : Nat) }
          (registered - 1) log rfl (by omega) (by omega)
        have same : count = registered - 1 ↔ count + 1 = registered := by
          omega
        simp only [same, Nat.sub_sub, Nat.add_comm 1 count] at later
        exact ⟨later.1.trans pointer, later.2.1.trans classes, later.2.2⟩

/-- No channel is registered, and the class, if there was one, is gone. -/
structure Vacant (state : ProxyModule) : Prop where
  devices : state.devices = []
  counted : state.totalCount = 0
  replayed : replay state.log = some { live := none, registered := 0 }
  pointer : state.localClassP = none ↔ state.classes = 0

/-- The class `id` exists, and all registered channels are in it. -/
structure Ready (state : ProxyModule) (id : Nat) : Prop where
  pointer : state.localClassP = some id
  created : state.classes ≠ 0
  counted : state.totalCount = state.registered
  replayed : replay state.log =
    some { live := some id, registered := state.registered }
  distinct : (state.devices.map Prod.fst).Nodup
  channels : ∀ entry ∈ state.devices,
    ∃ count, 0 < count ∧ entry.2 = List.replicate count id

/-- The state between calls. -/
def Settled (state : ProxyModule) : Prop :=
  state.Vacant ∨ ∃ id, state.Ready id ∧ 0 < state.registered

theorem Vacant.registered_eq (vacant : state.Vacant) :
    state.registered = 0 := by
  rw [registered, vacant.devices]
  rfl

theorem Settled.orderly (settled : state.Settled) : state.Orderly := by
  rcases settled with vacant | ⟨id, ready, positive⟩
  · have empty := vacant.registered_eq
    refine ⟨?_, none, ?_, ?_⟩
    · rw [vacant.counted, empty]
      rfl
    · rw [empty]
      exact vacant.replayed
    · simp [empty]
  · exact ⟨ready.counted, some id, ready.replayed, by simp [positive]⟩

theorem Ready.probe (ready : state.Ready id) {device : Nat}
    (unbound : device ∉ state.devices.map Prod.fst) (positive : 0 < count) :
    (state.dmaProxyProbe device count).Ready id ∧
      0 < (state.dmaProxyProbe device count).registered := by
  obtain ⟨channels, pointer, classes, devices, total, log⟩ :=
    createChannels_live ready.pointer ready.replayed count
  have registered : (state.dmaProxyProbe device count).registered =
      state.registered + count := by
    simp only [dmaProxyProbe, ProxyModule.registered, channels, devices,
      List.map_cons, List.sum_cons, List.length_replicate]
    exact Nat.add_comm _ _
  refine ⟨⟨pointer, ?_, ?_, ?_, ?_, ?_⟩, ?_⟩
  · simp only [dmaProxyProbe, classes]
    exact ready.created
  · rw [registered]
    simp only [dmaProxyProbe, total, ready.counted]
    rfl
  · rw [registered]
    exact log
  · simp only [dmaProxyProbe, devices, List.map_cons, List.nodup_cons]
    exact ⟨unbound, ready.distinct⟩
  · intro entry member
    simp only [dmaProxyProbe, devices, channels, List.mem_cons] at member
    rcases member with rfl | earlier
    · exact ⟨count, positive, rfl⟩
    · exact ready.channels entry earlier
  · rw [registered]
    exact Nat.add_pos_right _ positive

theorem Vacant.ready (vacant : state.Vacant) (never : state.classes = 0) :
    state.localClass.1.Ready state.classes := by
  have pointer := vacant.pointer.mpr never
  have created : state.localClass.1 =
      { state with
        localClassP := some state.classes
        classes := state.classes + 1
        log := state.log ++ [.classCreate state.classes] } := by
    simp only [localClass, pointer]
  have replayed := replay_append vacant.replayed
    (.classCreate state.classes)
  rw [created]
  refine ⟨rfl, Nat.succ_ne_zero _, ?_, ?_, ?_, ?_⟩
  · simp only [registered, vacant.devices, vacant.counted]
    rfl
  · simp only [registered, vacant.devices, replayed]
    rfl
  · simp only [vacant.devices]
    exact List.nodup_nil
  · intro entry member
    simp only [vacant.devices, List.not_mem_nil] at member

/-- A probe after the class is gone uses what is left of it. -/
theorem Vacant.probe_spoils (vacant : state.Vacant)
    (before : state.classes ≠ 0) (device : Nat) (positive : 0 < count) :
    ¬(state.dmaProxyProbe device count).Orderly := by
  cases pointer : state.localClassP with
  | none => exact absurd (vacant.pointer.mp pointer) before
  | some classP =>
      have spoiled : replay (state.log ++ [.deviceCreate classP]) = none := by
        rw [replay_append vacant.replayed]
        rfl
      have first : state.cdeviceInit =
          ({ state with log := state.log ++ [.deviceCreate classP] },
            classP) := by
        simp only [cdeviceInit, localClass, pointer]
      rintro ⟨_, live, replayed, _⟩
      cases count with
      | zero => exact absurd positive (Nat.lt_irrefl 0)
      | succ count =>
          simp only [dmaProxyProbe, createChannels, first] at replayed
          rw [createChannels_spoiled] at replayed
          · cases replayed
          · exact spoiled

theorem registered_remove {device : Nat}
    (bound : device ∈ state.devices.map Prod.fst)
    (distinct : (state.devices.map Prod.fst).Nodup) :
    (device, state.channels device) ∈ state.devices ∧
      (state.dmaProxyRemove device).registered +
        (state.channels device).length = state.registered := by
  have found : (state.devices.lookup device).isSome = true := by
    obtain ⟨entry, member, rfl⟩ := List.mem_map.mp bound
    exact List.lookup_isSome_iff.mpr ⟨entry, member, by simp⟩
  obtain ⟨channels, looked⟩ := Option.isSome_iff_exists.mp found
  obtain ⟨earlier, later, split, others⟩ := lookup_split looked distinct
  rw [ProxyModule.channels, looked, Option.getD_some]
  refine ⟨by simp [split], ?_⟩
  rw [registered, registered, split]
  simp only [dmaProxyRemove, others, List.map_append, List.sum_append,
    List.map_cons, List.sum_cons]
  omega

theorem Ready.devices_nil (ready : state.Ready id)
    {devices : List (Nat × List Nat)}
    (kept : ∀ entry ∈ devices, entry ∈ state.devices)
    (empty : (devices.map fun entry => entry.2.length).sum = 0) :
    devices = [] := by
  apply List.eq_nil_iff_forall_not_mem.mpr
  intro entry member
  obtain ⟨channels, positive, same⟩ :=
    ready.channels entry (kept entry member)
  have lengths := List.sum_eq_zero_iff_forall_eq_nat.mp empty entry.2.length
    (List.mem_map_of_mem member)
  rw [same, List.length_replicate] at lengths
  omega

theorem Ready.remove (ready : state.Ready id)
    (positive : 0 < state.registered) {device : Nat}
    (bound : device ∈ state.devices.map Prod.fst) :
    (state.dmaProxyRemove device).Settled := by
  obtain ⟨member, parts⟩ := registered_remove bound ready.distinct
  obtain ⟨count, _, channels⟩ := ready.channels _ member
  have kept : ∀ entry ∈ (state.dmaProxyRemove device).devices,
      entry ∈ state.devices := by
    intro entry
    exact List.mem_of_mem_filter
  simp only at channels
  rw [channels, List.length_replicate] at parts
  obtain ⟨pointer, classes, total, log⟩ := removeChannels_live
    ready.replayed ready.counted positive (by omega : count ≤ _)
  have amount : state.registered - count =
      (state.dmaProxyRemove device).registered := by omega
  rw [← channels] at pointer classes total log
  rw [amount] at total log
  by_cases last : count = state.registered
  · have empty : (state.dmaProxyRemove device).registered = 0 := by omega
    rw [if_pos last, empty] at log
    rw [empty] at total
    left
    refine ⟨ready.devices_nil kept empty, total, log, ?_⟩
    exact iff_of_false
      (by simp [dmaProxyRemove, pointer, ready.pointer])
      (by simpa [dmaProxyRemove, classes] using ready.created)
  · rw [if_neg last] at log
    right
    refine ⟨id, ⟨?_, ?_, total, log, ?_, ?_⟩, by omega⟩
    · simp only [dmaProxyRemove, pointer, ready.pointer]
    · simp only [dmaProxyRemove, classes]
      exact ready.created
    · exact ready.distinct.sublist (List.filter_sublist.map Prod.fst)
    · intro entry entryMember
      exact ready.channels entry (kept entry entryMember)

theorem Settled.step (settled : state.Settled) {event : ProxyEvent}
    (possible : state.Possible event) (keeps : state.KeepsClass event) :
    (state.step event).Settled := by
  cases event with
  | probe device count =>
      obtain ⟨unbound, positive⟩ := possible
      rcases settled with vacant | ⟨id, ready, _⟩
      · have never : state.classes = 0 := by
          rcases keeps with never | registered
          · exact never
          · rw [vacant.registered_eq] at registered
            exact absurd registered (Nat.lt_irrefl 0)
        have probed : state.dmaProxyProbe device count =
            state.localClass.1.dmaProxyProbe device count := by
          simp only [dmaProxyProbe,
            ← createChannels_localClass state positive]
        have nothing : state.localClass.1.devices = [] := by
          simp only [localClass, vacant.pointer.mpr never, vacant.devices]
        rw [ProxyModule.step, probed]
        exact Or.inr ⟨state.classes,
          (vacant.ready never).probe (by simp [nothing]) positive⟩
      · exact Or.inr ⟨id, ready.probe unbound positive⟩
  | remove device =>
      rcases settled with vacant | ⟨id, ready, positive⟩
      · simp [Possible, vacant.devices] at possible
      · exact ready.remove positive possible

theorem Settled.step_spoils (settled : state.Settled) {event : ProxyEvent}
    (possible : state.Possible event) (drops : ¬state.KeepsClass event) :
    ¬(state.step event).Orderly := by
  cases event with
  | probe device count =>
      simp only [KeepsClass, not_or] at drops
      rcases settled with vacant | ⟨id, ready, positive⟩
      · exact vacant.probe_spoils drops.1 device possible.2
      · exact absurd positive drops.2
  | remove device => exact absurd True.intro drops

/-- After any sequence of probes and removals the counter is right and the
class has lived exactly as long as its channels, exactly if no probe comes
after all channels have gone. -/
theorem class_outlives_channels_iff (events : List ProxyEvent)
    (possible : EveryStep step Possible loaded events) :
    Throughout step Orderly loaded events ↔
      EveryStep step KeepsClass loaded events := by
  apply throughout_iff_everyStep_via (fun _ => Settled.orderly) _ _ _ possible
  · intro state event isPossible settled keeps
    exact settled.step isPossible keeps
  · intro state event isPossible settled drops
    exact settled.step_spoils isPossible drops
  · exact Or.inl ⟨rfl, rfl, rfl, by simp [loaded]⟩

/-- Two devices that come and go. -/
theorem class_outlives_two_devices :
    Throughout step Orderly loaded
      [.probe 0 2, .probe 1 1, .remove 0, .probe 2 3, .remove 1,
        .remove 2] :=
  (class_outlives_channels_iff
    [.probe 0 2, .probe 1 1, .remove 0, .probe 2 3, .remove 1, .remove 2]
    (by decide)).mpr (by decide)

/-- An overlay is loaded again. -/
theorem class_reused_after_last_channel :
    ¬∀ events, EveryStep step Possible loaded events →
      Throughout step Orderly loaded events := by
  intro always
  have orderly := (always [.probe 0 1, .remove 0, .probe 0 1]
    (by decide)).last
  obtain ⟨_, live, replayed, _⟩ := orderly
  cases replayed

end ProxyModule

end StreamIO.Driver
