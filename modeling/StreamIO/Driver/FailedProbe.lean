import StreamIO.Driver.DeviceClass

/-!
# Probes that fail

`dma_proxy_probe` with the steps of `create_channel` and `cdevice_init` that
can fail.  A failure is passed on by the `return` of each function, and
`cdevice_init` alone has labels to undo what it has done.
-/

namespace StreamIO.Driver

/-- The steps of `create_channel` that can fail. -/
inductive CreationStep where
  | channelRequest
  | deviceNumber
  | cdevAdd
  | classCreation
  | deviceCreation
  | bufferAllocation
  deriving DecidableEq, Repr

/-- What a channel holds: the channel of the DMA engine, the device number,
the character device and its device in the class.  The buffers belong to the
platform device, which frees them itself. -/
inductive ChannelResource where
  | dmaChannel
  | region
  | cdev
  | device
  deriving DecidableEq, Repr

/-- What a probe does to the resources of its channels and to the class, with
the number of devices that the class had when it was destroyed. -/
inductive ResourceEvent where
  | acquires (channel : Nat) (resource : ChannelResource)
  | gives (channel : Nat) (resource : ChannelResource)
  | classCreate
  | classDestroy (users : Nat)
  deriving DecidableEq, Repr

/-- A pointer to a class: `NULL`, an error, a class, or one that is gone. -/
inductive ClassPointer where
  | null
  | error
  | live
  | destroyed
  deriving DecidableEq, Repr

/-- The steps that fail in a probe and the error that they give.  `stale` is
what `device_create` comes to in a class that is gone. -/
structure Failures where
  strikes : Nat → CreationStep → Bool
  error : Int
  negative : error < 0
  stale : Nat → Bool

/-- One step fails, of one channel. -/
def Failures.once (channel : Nat) (failing : CreationStep) (error : Int)
    (negative : error < 0) (stale : Nat → Bool) : Failures :=
  { strikes := fun other step => other = channel ∧ step = failing
    error := error
    negative := negative
    stale := stale }

/-- A platform device: the `class` of its `struct device`, which is no error
pointer. -/
structure PlatformDevice where
  deviceClass : ClassPointer
  intact : deviceClass ≠ .error

/-- A probe under way: `local_class_p`, how many devices the class has,
`total_count`, and what the probe has done so far. -/
structure RunningProbe where
  localClassP : ClassPointer
  registered : Nat
  totalCount : Int
  log : List ResourceEvent

namespace RunningProbe

/-- The probe begins. -/
def begin (localClassP : ClassPointer) (registered : Nat)
    (totalCount : Int) : RunningProbe :=
  { localClassP := localClassP, registered := registered
    totalCount := totalCount, log := [] }

def noted (state : RunningProbe) (event : ResourceEvent) : RunningProbe :=
  { state with log := state.log ++ [event] }

/-- `total_count++`. -/
def counted (state : RunningProbe) : RunningProbe :=
  { state with totalCount := state.totalCount + 1 }

variable (failures : Failures) (pdev : PlatformDevice)

/-- The class in `cdevice_init`. -/
def localClass (state : RunningProbe) (channel : Nat) : RunningProbe :=
  if state.localClassP = .null then
    if failures.strikes channel .classCreation then
      { state with localClassP := .error }
    else { state with localClassP := .live }.noted .classCreate
  else state

/-- Whether `device_create` succeeds. -/
def deviceCreate (state : RunningProbe) (channel : Nat) : Bool :=
  !failures.strikes channel .deviceCreation &&
    match state.localClassP with
    | .null => false
    | .error => false
    | .live => true
    | .destroyed => failures.stale channel

/-- `class_destroy`, which ignores `NULL` and errors. -/
def classDestroy (state : RunningProbe) : RunningProbe :=
  match state.localClassP with
  | .null => state
  | .error => state
  | .live =>
      { state with localClassP := .destroyed }.noted
        (.classDestroy state.registered)
  | .destroyed => state.noted (.classDestroy state.registered)

/-- The labels `init_error2` and `init_error1`. -/
def initError (state : RunningProbe) (channel : Nat) : RunningProbe :=
  (state.noted (.gives channel .cdev)).noted (.gives channel .region)

/-- `cdevice_init`.  The check of the class is made on the class of the
platform device, and `rc` is still zero when `device_create` fails. -/
def cdeviceInit (state : RunningProbe) (channel : Nat) :
    RunningProbe × Int :=
  if failures.strikes channel .deviceNumber then (state, failures.error)
  else
    let state := state.noted (.acquires channel .region)
    if failures.strikes channel .cdevAdd then
      (state.noted (.gives channel .region), failures.error)
    else
      let fresh := state.localClassP = .null
      let state :=
        (state.noted (.acquires channel .cdev)).localClass failures channel
      if fresh ∧ pdev.deviceClass = .error then
        (state.initError channel, -1)
      else if state.deviceCreate failures channel then
        ({ state with registered := state.registered + 1 }.noted
          (.acquires channel .device), 0)
      else (state.classDestroy.initError channel, 0)

/-- `create_channel`. -/
def createChannel (state : RunningProbe) (channel : Nat) :
    RunningProbe × Int :=
  if failures.strikes channel .channelRequest then (state, failures.error)
  else
    let (state, error) :=
      (state.noted (.acquires channel .dmaChannel)).cdeviceInit failures pdev
        channel
    if error ≠ 0 then (state, error)
    else if failures.strikes channel .bufferAllocation then (state, -1)
    else (state, 0)

/-- The loop of `dma_proxy_probe`, from a channel on. -/
def createChannels : (count channel : Nat) → RunningProbe →
    RunningProbe × Int
  | 0, _, state => (state, 0)
  | count + 1, channel, state =>
      let (state, rc) := state.createChannel failures pdev channel
      if rc ≠ 0 then (state, rc)
      else createChannels count (channel + 1) state.counted

/-- `dma_proxy_probe` of a device with `count` channels. -/
def dmaProxyProbe (state : RunningProbe) (count : Nat) :
    RunningProbe × Int :=
  state.createChannels failures pdev count 0

/-- The probe reports an error and has given back all that it took for the
channels up to the last, the class was not destroyed under another channel,
and the counter is what it was. -/
structure LeavesNothing (before : RunningProbe)
    (after : RunningProbe × Int) (last : Nat) : Prop where
  error : after.2 ≠ 0
  givenBack : ∀ channel, channel ≤ last → ∀ resource,
    after.1.log.count (.gives channel resource) =
      after.1.log.count (.acquires channel resource)
  classKept : ∀ users, .classDestroy users ∈ after.1.log → users = 0
  totalCount : after.1.totalCount = before.totalCount

/-- The same class pointer and the same counter as in the model of probes
that succeed. -/
structure Matches (state : RunningProbe) (driver : ProxyModule) : Prop where
  pointer : state.localClassP = .null ∧ driver.localClassP = none ∨
    state.localClassP = .live ∧ driver.localClassP ≠ none
  totalCount : state.totalCount = driver.totalCount

theorem cdeviceInit_matches
    (never : ∀ channel step, failures.strikes channel step = false)
    {state : RunningProbe} {driver : ProxyModule}
    (same : Matches state driver) (channel : Nat) :
    (state.cdeviceInit failures pdev channel).2 = 0 ∧
      Matches (state.cdeviceInit failures pdev channel).1
        driver.cdeviceInit.1 := by
  have total := same.totalCount
  rcases same.pointer with ⟨null, none⟩ | ⟨live, some⟩
  · simp [cdeviceInit, never, noted, localClass, null, pdev.intact,
      deviceCreate, ProxyModule.cdeviceInit, ProxyModule.localClass, none]
    constructor
    · right
      simp
    · exact total
  · obtain ⟨id, pointer⟩ := Option.ne_none_iff_exists'.mp some
    simp [cdeviceInit, never, noted, localClass, live, deviceCreate,
      ProxyModule.cdeviceInit, ProxyModule.localClass, pointer]
    constructor
    · right
      simp
    · exact total

/-- A probe in which nothing fails is the one of `ProxyModule`. -/
theorem createChannels_matches
    (never : ∀ channel step, failures.strikes channel step = false)
    (count : Nat) {state : RunningProbe} {driver : ProxyModule}
    (same : Matches state driver) (channel : Nat) :
    (state.createChannels failures pdev count channel).2 = 0 ∧
      Matches (state.createChannels failures pdev count channel).1
        (ProxyModule.createChannels count driver).1 := by
  induction count generalizing state driver channel with
  | zero => exact ⟨rfl, same⟩
  | succ count induction =>
      have requested : Matches (state.noted (.acquires channel .dmaChannel))
          driver := ⟨same.pointer, same.totalCount⟩
      obtain ⟨succeeded, classed⟩ :=
        cdeviceInit_matches failures pdev never requested channel
      have created : state.createChannel failures pdev channel =
          (((state.noted (.acquires channel .dmaChannel)).cdeviceInit
            failures pdev channel).1, 0) := by
        simp [createChannel, never, succeeded]
      have counts : Matches
          ((state.noted (.acquires channel .dmaChannel)).cdeviceInit failures
            pdev channel).1.counted
          { driver.cdeviceInit.1 with
            totalCount := driver.cdeviceInit.1.totalCount + 1 } := by
        constructor
        · exact classed.pointer
        · rw [counted, classed.totalCount]
      obtain ⟨result, later⟩ := induction counts (channel + 1)
      simp only [createChannels, created, ProxyModule.createChannels]
      exact ⟨result, later⟩

/-- A log has grown, but by no release of a DMA channel. -/
structure Follows (before after : List ResourceEvent) : Prop where
  grown : ∀ event ∈ before, event ∈ after
  kept : ∀ channel, .gives channel .dmaChannel ∈ after →
    .gives channel .dmaChannel ∈ before

theorem Follows.refl (log : List ResourceEvent) : Follows log log :=
  ⟨fun _ member => member, fun _ member => member⟩

theorem Follows.trans {first second third : List ResourceEvent}
    (front : Follows first second) (back : Follows second third) :
    Follows first third := by
  constructor
  · intro event member
    exact back.grown event (front.grown event member)
  · intro channel member
    exact front.kept channel (back.kept channel member)

theorem Follows.noted {before log : List ResourceEvent}
    (front : Follows before log) {event : ResourceEvent}
    (other : ∀ channel, event ≠ .gives channel .dmaChannel) :
    Follows before (log ++ [event]) := by
  apply front.trans
  constructor
  · intro earlier member
    exact List.mem_append_left _ member
  · intro channel member
    rcases List.mem_append.mp member with earlier | now
    · exact earlier
    · exact absurd (List.mem_singleton.mp now).symm (other channel)

theorem follows_localClass (state : RunningProbe) (channel : Nat) :
    Follows state.log (state.localClass failures channel).log := by
  rw [localClass]
  split
  · split
    · exact Follows.refl state.log
    · exact (Follows.refl state.log).noted (by simp)
  · exact Follows.refl state.log

theorem follows_classDestroy (state : RunningProbe) :
    Follows state.log state.classDestroy.log := by
  rw [classDestroy]
  split
  · exact Follows.refl state.log
  · exact Follows.refl state.log
  · exact (Follows.refl state.log).noted (by simp)
  · exact (Follows.refl state.log).noted (by simp)

theorem follows_initError (state : RunningProbe) (channel : Nat) :
    Follows state.log (state.initError channel).log :=
  ((Follows.refl state.log).noted (by simp)).noted (by simp)

theorem follows_cdeviceInit (state : RunningProbe) (channel : Nat) :
    Follows state.log (state.cdeviceInit failures pdev channel).1.log := by
  have region : Follows state.log
      (state.noted (.acquires channel .region)).log :=
    (Follows.refl state.log).noted (by simp)
  have added : Follows state.log
      ((state.noted (.acquires channel .region)).noted
        (.acquires channel .cdev)).log :=
    region.noted (by simp)
  have classed := added.trans (follows_localClass failures _ channel)
  rw [cdeviceInit]
  split
  · exact Follows.refl state.log
  · split
    · exact region.noted (by simp)
    · simp only
      split
      · exact classed.trans (follows_initError _ channel)
      · split
        · exact classed.noted (by simp)
        · exact (classed.trans (follows_classDestroy _)).trans
            (follows_initError _ channel)

theorem createChannel_log (state : RunningProbe) {channel : Nat}
    (granted : failures.strikes channel .channelRequest = false) :
    (state.createChannel failures pdev channel).1.log =
      ((state.noted (.acquires channel .dmaChannel)).cdeviceInit failures pdev
        channel).1.log := by
  rw [createChannel, granted]
  simp only [Bool.false_eq_true, if_false]
  split
  · rfl
  · split
    · rfl
    · rfl

theorem createChannel_refused (state : RunningProbe) {channel : Nat}
    (refused : failures.strikes channel .channelRequest = true) :
    state.createChannel failures pdev channel = (state, failures.error) := by
  rw [createChannel, if_pos refused]

theorem follows_createChannel (state : RunningProbe) (channel : Nat) :
    Follows state.log (state.createChannel failures pdev channel).1.log := by
  cases request : failures.strikes channel .channelRequest with
  | true =>
      rw [createChannel_refused failures pdev state request]
      exact Follows.refl state.log
  | false =>
      rw [createChannel_log failures pdev state request]
      have requested : Follows state.log
          (state.noted (.acquires channel .dmaChannel)).log :=
        (Follows.refl state.log).noted (by simp)
      exact requested.trans (follows_cdeviceInit failures pdev _ channel)

theorem createChannel_requests (state : RunningProbe) {channel : Nat}
    (granted : failures.strikes channel .channelRequest = false) :
    .acquires channel .dmaChannel ∈
      (state.createChannel failures pdev channel).1.log := by
  have requested : .acquires channel .dmaChannel ∈
      (state.noted (.acquires channel .dmaChannel)).log :=
    List.mem_append_right _ (List.mem_singleton.mpr rfl)
  rw [createChannel_log failures pdev state granted]
  exact (follows_cdeviceInit failures pdev _ channel).grown _ requested

theorem follows_createChannels (count : Nat) (state : RunningProbe)
    (channel : Nat) :
    Follows state.log
      (state.createChannels failures pdev count channel).1.log := by
  induction count generalizing state channel with
  | zero => exact Follows.refl state.log
  | succ count induction =>
      have first := follows_createChannel failures pdev state channel
      rw [createChannels]
      simp only
      split
      · exact first
      · exact first.trans
          (induction (state.createChannel failures pdev channel).1.counted
            (channel + 1))

theorem dmaChannel_not_given (localClassP : ClassPointer) (registered : Nat)
    (totalCount : Int) (count channel : Nat) :
    .gives channel .dmaChannel ∉
      ((begin localClassP registered totalCount).dmaProxyProbe failures pdev
        count).1.log := by
  intro member
  have earlier := (follows_createChannels failures pdev count
    (begin localClassP registered totalCount) 0).kept channel member
  cases earlier

/-- A probe whose first request is granted does not clean up. -/
theorem granted_leaves (localClassP : ClassPointer) (registered : Nat)
    (totalCount : Int) {count last : Nat} (positive : 0 < count)
    (granted : failures.strikes 0 .channelRequest = false) :
    let before := begin localClassP registered totalCount
    ¬before.LeavesNothing (before.dmaProxyProbe failures pdev count) last := by
  intro before leaves
  have never := dmaChannel_not_given failures pdev localClassP registered
    totalCount count 0
  have balanced := leaves.givenBack 0 (Nat.zero_le last) .dmaChannel
  rw [List.count_eq_zero.mpr never] at balanced
  apply List.count_eq_zero.mp balanced.symm
  obtain ⟨more, rfl⟩ := Nat.exists_eq_add_one.mpr positive
  have requests := createChannel_requests failures pdev before granted
  rw [dmaProxyProbe, createChannels]
  simp only
  split
  · exact requests
  · exact (follows_createChannels failures pdev more
      (before.createChannel failures pdev 0).1.counted 1).grown _ requests

theorem refused_leaves_nothing (localClassP : ClassPointer)
    (registered : Nat) (totalCount : Int) {count last : Nat}
    (positive : 0 < count)
    (refused : failures.strikes 0 .channelRequest = true) :
    let before := begin localClassP registered totalCount
    before.LeavesNothing (before.dmaProxyProbe failures pdev count) last := by
  intro before
  have error : failures.error ≠ 0 := Int.ne_of_lt failures.negative
  have stopped : before.dmaProxyProbe failures pdev count =
      (before, failures.error) := by
    obtain ⟨more, rfl⟩ := Nat.exists_eq_add_one.mpr positive
    rw [dmaProxyProbe, createChannels,
      createChannel_refused failures pdev before refused]
    simp only [if_pos error]
  rw [stopped]
  constructor
  · exact error
  · intro channel _ resource
    rfl
  · intro users member
    cases member
  · rfl

/-- A probe in which one step fails leaves nothing behind exactly if that is
the request of its first DMA channel. -/
theorem failed_probe_leaves_nothing_iff (localClassP : ClassPointer)
    (registered : Nat) (totalCount : Int) (stale : Nat → Bool)
    (count channel : Nat) (within : channel < count) (failing : CreationStep)
    (error : Int) (negative : error < 0) :
    let failures := Failures.once channel failing error negative stale
    let before := begin localClassP registered totalCount
    before.LeavesNothing (before.dmaProxyProbe failures pdev count) channel ↔
      channel = 0 ∧ failing = .channelRequest := by
  intro failures before
  have positive : 0 < count := Nat.lt_of_le_of_lt (Nat.zero_le channel) within
  have first : failures.strikes 0 .channelRequest =
      decide (0 = channel ∧ CreationStep.channelRequest = failing) := rfl
  constructor
  · intro leaves
    by_contra other
    apply granted_leaves failures pdev localClassP registered totalCount
      positive _ leaves
    rw [first]
    apply decide_eq_false
    rintro ⟨rfl, rfl⟩
    exact other ⟨rfl, rfl⟩
  · rintro ⟨rfl, rfl⟩
    apply refused_leaves_nothing failures pdev localClassP registered
      totalCount positive
    rw [first]
    exact decide_eq_true ⟨rfl, rfl⟩

theorem first_request_fails :
    let failures := Failures.once 0 .channelRequest (-517) (by decide)
      fun _ => false
    let before := begin .null 0 0
    before.LeavesNothing
        (before.dmaProxyProbe failures ⟨.null, by decide⟩ 2) 0 ↔
      0 = 0 ∧ CreationStep.channelRequest = .channelRequest :=
  failed_probe_leaves_nothing_iff ⟨.null, by decide⟩ .null 0 0
    (fun _ => false) 2 0 (by decide) .channelRequest (-517) (by decide)

/-- `device_create` of the second channel fails: the probe returns zero. -/
theorem failed_device_unreported :
    ¬∀ (pdev : PlatformDevice) (localClassP : ClassPointer)
      (registered : Nat) (totalCount : Int) (stale : Nat → Bool)
      (count channel : Nat), channel < count →
      ∀ (failing : CreationStep) (error : Int) (negative : error < 0),
      let failures := Failures.once channel failing error negative stale
      let before := begin localClassP registered totalCount
      before.LeavesNothing (before.dmaProxyProbe failures pdev count)
        channel := by
  intro always
  have leaves := always ⟨.null, by decide⟩ .null 0 0 (fun _ => false) 2 1
    (by decide) .deviceCreation (-12) (by decide)
  exact leaves.error (by decide)

end RunningProbe

end StreamIO.Driver
