import StreamIO.Driver.Channel

/-!
# Starting and finishing transfers

The file operations of `streamio-drv.c` on one channel.  A blocking wait is
given a script: what the engine does while the caller sleeps, whether a
signal arrives, and what the engine does between the wake-up and the query of
the descriptor's status.
-/

namespace StreamIO.Driver

/-- How the engine answers `device_prep_slave_sg` and `dmaengine_submit`. -/
inductive SubmitResponse where
  | accepted
  | prepError
  | submitError (errno : Nat)
  deriving DecidableEq, Repr

/-- The surroundings of one blocking wait. -/
structure WaitScript where
  blocked : List EngineEvent := []
  interrupted : Bool := false
  remaining : Nat := 0
  woken : List EngineEvent := []
  deriving DecidableEq, Repr, Inhabited

/-- `ERESTARTSYS`. -/
def eRestartSys : Int := 512

/-- The largest number of jiffies a wait can be asked for. -/
def maxJiffyOffset : Nat := 2 ^ 62 - 2

/-- Conversion of a `long` to `unsigned long`. -/
def toUnsignedLong (value : Int) : Nat := (value % 2 ^ 64).toNat

/-- Conversion to a 32-bit `int`. -/
def wrapInt (value : Int) : Int := (value + 2 ^ 31) % 2 ^ 32 - 2 ^ 31

/-- `init_completion`, `dmaengine_submit` and the status word of
`start_transfer`; the descriptor takes its length from the shared buffer. -/
def startTransfer (channel : DmaProxyChannel) (response : SubmitResponse) :
    DmaProxyChannel :=
  let bdindex := channel.bdindex
  let length := (channel.bufferTable bdindex).length
  match response with
  | .prepError => channel
  | .submitError errno =>
      { channel with
        bdtable := Function.update channel.bdtable bdindex
          { done := 0, cookie := -(errno + 1) } }
  | .accepted =>
      let cookie := channel.engine.lastCookie + 1
      DmaProxyChannel.setStatus
        { channel with
          bdtable := Function.update channel.bdtable bdindex
            { done := 0, cookie := cookie }
          engine := { channel.engine with
            lastCookie := cookie
            pending := channel.engine.pending ++
              [{ cookie := cookie, bdindex := bdindex,
                 length := length.toNat, moved := none }] } }
        bdindex .queued

/-- `wait_for_completion_interruptible_timeout`: zero after a timeout,
`-ERESTARTSYS` after a signal, else a positive number of jiffies with one
completion consumed. -/
def waitForCompletionInterruptibleTimeout (channel : DmaProxyChannel)
    (index : Nat) (script : WaitScript) : DmaProxyChannel × Int :=
  let channel := channel.runEngine script.blocked
  if 0 < (channel.bdtable index).done then
    (channel.takeCompletion index,
      max 1 (min script.remaining maxJiffyOffset : Nat))
  else if script.interrupted then (channel, -eRestartSys)
  else (channel, 0)

/-- `atomic_dec_if_positive`. -/
def atomicDecIfPositive (value : Int) : Int :=
  if 0 < value then value - 1 else value

/-- `wait_for_transfer`. -/
def waitForTransfer (channel : DmaProxyChannel) (script : WaitScript) :
    DmaProxyChannel :=
  let bdindex := channel.bdindex
  let channel := channel.setStatus bdindex .busy
  let (channel, waited) :=
    waitForCompletionInterruptibleTimeout channel bdindex script
  let timeout := toUnsignedLong waited
  let channel := channel.runEngine script.woken
  let status := channel.engine.dmaAsyncIsTxComplete
    (channel.bdtable bdindex).cookie
  if timeout = 0 then channel.setStatus bdindex .timeout
  else if status ≠ .complete then channel.setStatus bdindex .error
  else
    let channel := channel.setStatus bdindex .noError
    { channel with
      waitTransferCount := atomicDecIfPositive channel.waitTransferCount }

/-- The `cmd` values `ioctl` tells apart. -/
inductive IoctlCommand where
  | finishXfer
  | startXfer
  | xfer
  | other
  deriving DecidableEq, Repr

/-- `ioctl`: the argument is kept as the bit pattern of the `int` it is
stored in. -/
def ioctl (channel : DmaProxyChannel) (cmd : IoctlCommand) (arg : Nat)
    (response : SubmitResponse) (script : WaitScript) : DmaProxyChannel :=
  let channel := channel.setBdindex (arg % 2 ^ 32)
  match cmd with
  | .startXfer => startTransfer channel response
  | .finishXfer => waitForTransfer channel script
  | .xfer => waitForTransfer (startTransfer channel response) script
  | .other => channel

/-- `EINVAL`. -/
def eInval : Int := 22

/-- The value `ioctl` returns: `-EINVAL` for a file without a channel, and
zero otherwise, whatever the command did. -/
def ioctlReturn (privateData : Option DmaProxyChannel) : Int :=
  match privateData with
  | none => -eInval
  | some _ => 0

/-- `device_terminate_all`: every unfinished descriptor is dropped. -/
def deviceTerminateAll (channel : DmaProxyChannel) : DmaProxyChannel :=
  { channel with
    engine := { channel.engine with
      pending := [], completed := [], failed := [] } }

/-- `local_open`. -/
def localOpen (channel : DmaProxyChannel) : DmaProxyChannel :=
  (List.range bufferCount).foldl
    (fun channel index => channel.setStatus index .noError)
    (deviceTerminateAll channel)

/-- `release`: only the status words are reset. -/
def release (channel : DmaProxyChannel) : DmaProxyChannel :=
  (List.range bufferCount).foldl
    (fun channel index => channel.setStatus index .noError) channel

namespace DmaProxyChannel

@[simp] theorem setStatus_engine (channel : DmaProxyChannel) (index : Nat)
    (status : ProxyStatus) :
    (channel.setStatus index status).engine = channel.engine := rfl

@[simp] theorem setStatus_bdtable (channel : DmaProxyChannel) (index : Nat)
    (status : ProxyStatus) :
    (channel.setStatus index status).bdtable = channel.bdtable := rfl

theorem setStatus_setStatus (channel : DmaProxyChannel) (index : Nat)
    (first second : ProxyStatus) :
    (channel.setStatus index first).setStatus index second =
      channel.setStatus index second := by
  simp [setStatus]

theorem takeCompletion_setStatus (channel : DmaProxyChannel)
    (index other : Nat) (status : ProxyStatus) :
    (channel.setStatus index status).takeCompletion other =
      (channel.takeCompletion other).setStatus index status := rfl

theorem engineStep_setBdindex (channel : DmaProxyChannel)
    (event : EngineEvent) (bdindex : Nat) :
    (channel.setBdindex bdindex).engineStep event =
      (channel.engineStep event).setBdindex bdindex := by
  obtain ⟨table, descriptors, index, count,
    ⟨direction, lastCookie, pending, completed, failed⟩⟩ := channel
  cases event with
  | fetch position => cases direction <;> rfl
  | deliver bytes => cases direction <;> cases pending <;> rfl
  | complete => cases direction <;> cases pending <;> rfl
  | fail callback => cases callback <;> cases pending <;> rfl

theorem runEngine_setBdindex (channel : DmaProxyChannel)
    (events : List EngineEvent) (bdindex : Nat) :
    (channel.setBdindex bdindex).runEngine events =
      (channel.runEngine events).setBdindex bdindex := by
  induction events generalizing channel with
  | nil => rfl
  | cons event events induction =>
      simp only [runEngine_cons, engineStep_setBdindex, induction]

theorem storeReceived_setStatus (channel : DmaProxyChannel)
    (transfer : Transfer) (bytes : List UInt8) (index : Nat)
    (status : ProxyStatus) :
    (channel.setStatus index status).storeReceived transfer bytes =
      (channel.storeReceived transfer bytes).setStatus index status := by
  by_cases same : transfer.bdindex = index
  · subst index
    simp [storeReceived, setStatus, setBuffer]
  · have other : index ≠ transfer.bdindex := Ne.symm same
    simp only [storeReceived, setStatus, setBuffer,
      Function.update_of_ne same, Function.update_of_ne other]
    rw [Function.update_comm same]

theorem readPayload_setStatus (channel : DmaProxyChannel) (index : Nat)
    (status : ProxyStatus) :
    (channel.setStatus index status).readPayload = channel.readPayload := by
  funext transfer
  by_cases same : transfer.bdindex = index
  · simp [readPayload, setStatus, same]
  · simp [readPayload, setStatus, Function.update_of_ne same]

theorem engineStep_setStatus (channel : DmaProxyChannel)
    (event : EngineEvent) (index : Nat) (status : ProxyStatus) :
    (channel.setStatus index status).engineStep event =
      (channel.engineStep event).setStatus index status := by
  cases event with
  | fetch position =>
      simp only [engineStep, readPayload_setStatus]
      cases direction : channel.engine.direction <;>
        simp [setStatus, direction]
  | deliver bytes =>
      simp only [engineStep, storeReceived_setStatus]
      cases direction : channel.engine.direction <;>
        cases pending : channel.engine.pending <;>
        simp [setStatus, direction, pending, storeReceived, setBuffer]
  | complete =>
      cases pending : channel.engine.pending with
      | nil => simp [engineStep, setStatus, pending]
      | cons transfer rest =>
          have settled : (channel.setStatus index status).settle transfer =
              channel.settle transfer := by
            simp only [settle, readPayload_setStatus]
            rfl
          simp only [engineStep, setStatus_engine, pending, settled]
          rfl
  | fail callback =>
      cases pending : channel.engine.pending with
      | nil => simp [engineStep, setStatus, pending]
      | cons transfer rest =>
          simp only [engineStep, setStatus_engine, pending]
          cases callback <;> rfl

theorem runEngine_setStatus (channel : DmaProxyChannel)
    (events : List EngineEvent) (index : Nat) (status : ProxyStatus) :
    (channel.setStatus index status).runEngine events =
      (channel.runEngine events).setStatus index status := by
  induction events generalizing channel with
  | nil => rfl
  | cons event events induction =>
      simp only [runEngine_cons, engineStep_setStatus, induction]

end DmaProxyChannel

namespace WaitScript

/-- The wait runs out: nothing completed it and no signal arrived. -/
def Expires (script : WaitScript) (channel : DmaProxyChannel)
    (index : Nat) : Prop :=
  ((channel.runEngine script.blocked).bdtable index).done = 0 ∧
    script.interrupted = false

instance (script : WaitScript) (channel : DmaProxyChannel) (index : Nat) :
    Decidable (script.Expires channel index) :=
  inferInstanceAs (Decidable (_ ∧ _))

/-- The channel when the status of the descriptor is queried, the status word
of the buffer apart. -/
def awaited (script : WaitScript) (channel : DmaProxyChannel)
    (index : Nat) : DmaProxyChannel :=
  let channel := channel.runEngine script.blocked
  (if 0 < (channel.bdtable index).done then channel.takeCompletion index
    else channel).runEngine script.woken

/-- The status word the wait leaves behind. -/
def verdict (script : WaitScript) (channel : DmaProxyChannel)
    (index : Nat) : ProxyStatus :=
  let after := script.awaited channel index
  if script.Expires channel index then .timeout
  else if after.engine.dmaAsyncIsTxComplete (after.bdtable index).cookie =
      .complete then .noError
  else .error

theorem awaited_setBdindex (script : WaitScript) (channel : DmaProxyChannel)
    (index bdindex : Nat) :
    script.awaited (channel.setBdindex bdindex) index =
      (script.awaited channel index).setBdindex bdindex := by
  simp only [awaited, DmaProxyChannel.runEngine_setBdindex]
  change DmaProxyChannel.runEngine (if 0 < ((channel.runEngine
    script.blocked).bdtable index).done then _ else _) _ = _
  by_cases done :
      0 < ((channel.runEngine script.blocked).bdtable index).done
  · simp only [if_pos done]
    exact DmaProxyChannel.runEngine_setBdindex
      ((channel.runEngine script.blocked).takeCompletion index) _ _
  · simp only [if_neg done, DmaProxyChannel.runEngine_setBdindex]

theorem verdict_setBdindex (script : WaitScript) (channel : DmaProxyChannel)
    (index bdindex : Nat) :
    script.verdict (channel.setBdindex bdindex) index =
      script.verdict channel index := by
  have expires : script.Expires (channel.setBdindex bdindex) index ↔
      script.Expires channel index := by
    simp only [Expires, DmaProxyChannel.runEngine_setBdindex]
    rfl
  simp only [verdict, expires, awaited_setBdindex]
  rfl

theorem verdict_eq_timeout_iff (script : WaitScript)
    (channel : DmaProxyChannel) (index : Nat) :
    script.verdict channel index = .timeout ↔
      script.Expires channel index := by
  by_cases expires : script.Expires channel index
  · simp [verdict, expires]
  · simp only [verdict, if_neg expires]
    split <;> simp [expires]

theorem verdict_settled (script : WaitScript) (channel : DmaProxyChannel)
    (index : Nat) :
    script.verdict channel index ≠ .queued ∧
      script.verdict channel index ≠ .busy := by
  simp only [verdict]
  split
  · simp
  · split <;> simp

end WaitScript

private theorem toUnsignedLong_jiffies (remaining : Nat) :
    toUnsignedLong (max 1 (min remaining maxJiffyOffset : Nat)) ≠ 0 := by
  simp only [toUnsignedLong, maxJiffyOffset]
  omega

private theorem toUnsignedLong_signal : toUnsignedLong (-eRestartSys) ≠ 0 := by
  decide

/-- The blocking wait on a busy buffer: how far the engine got, and that the
unsigned result is zero exactly when the wait ran out. -/
theorem waitForCompletion_spec (channel : DmaProxyChannel) (index : Nat)
    (script : WaitScript) (status : ProxyStatus) :
    (waitForCompletionInterruptibleTimeout (channel.setStatus index status)
        index script).1.runEngine script.woken =
      (script.awaited channel index).setStatus index status ∧
    (toUnsignedLong (waitForCompletionInterruptibleTimeout
        (channel.setStatus index status) index script).2 = 0 ↔
      script.Expires channel index) := by
  simp only [waitForCompletionInterruptibleTimeout,
    DmaProxyChannel.runEngine_setStatus, DmaProxyChannel.setStatus_bdtable,
    WaitScript.awaited, WaitScript.Expires]
  by_cases done :
      0 < ((channel.runEngine script.blocked).bdtable index).done
  · simp only [if_pos done]
    refine ⟨?_, ?_⟩
    · rw [DmaProxyChannel.takeCompletion_setStatus,
        DmaProxyChannel.runEngine_setStatus]
    · have nonzero := toUnsignedLong_jiffies script.remaining
      constructor
      · intro zero
        exact (nonzero zero).elim
      · rintro ⟨none, _⟩
        omega
  · have none :
        ((channel.runEngine script.blocked).bdtable index).done = 0 := by
      omega
    simp only [none, true_and]
    cases script.interrupted with
    | true =>
        refine ⟨DmaProxyChannel.runEngine_setStatus _ _ _ _, ?_⟩
        simpa using toUnsignedLong_signal
    | false =>
        refine ⟨DmaProxyChannel.runEngine_setStatus _ _ _ _, ?_⟩
        simp [toUnsignedLong]

/-- Specification of the wait: the engine's progress, and one status word
set to the verdict of the wait. -/
theorem waitForTransfer_eq (channel : DmaProxyChannel)
    (script : WaitScript) :
    waitForTransfer channel script =
      { (script.awaited channel channel.bdindex).setStatus channel.bdindex
          (script.verdict channel channel.bdindex) with
        waitTransferCount :=
          if script.verdict channel channel.bdindex = .noError then
            atomicDecIfPositive
              (script.awaited channel channel.bdindex).waitTransferCount
          else
            (script.awaited channel channel.bdindex).waitTransferCount } := by
  obtain ⟨progress, zero⟩ :=
    waitForCompletion_spec channel channel.bdindex script .busy
  simp only [waitForTransfer, progress, zero, WaitScript.verdict,
    DmaProxyChannel.setStatus_setStatus, DmaProxyChannel.setStatus_engine,
    DmaProxyChannel.setStatus_bdtable]
  by_cases expires : script.Expires channel channel.bdindex
  · simp only [if_pos expires]
    rfl
  · simp only [if_neg expires]
    by_cases complete :
        (script.awaited channel channel.bdindex).engine.dmaAsyncIsTxComplete
          ((script.awaited channel channel.bdindex).bdtable
            channel.bdindex).cookie = .complete
    · simp only [complete]
      rfl
    · simp only [ne_eq, complete, not_false_eq_true, if_true]
      rfl

/-- `FINISH_XFER` on a buffer: its status word becomes the verdict, the engine
has advanced, and the other status words are as they were. -/
theorem ioctl_finishXfer (channel : DmaProxyChannel) {index : Nat}
    (small : index < 2 ^ 32) (response : SubmitResponse)
    (script : WaitScript) :
    ∃ count, ioctl channel .finishXfer index response script =
      { ((script.awaited channel index).setBdindex index).setStatus index
          (script.verdict channel index) with
        waitTransferCount := count } := by
  have reduced : index % 2 ^ 32 = index := Nat.mod_eq_of_lt small
  have current : (channel.setBdindex index).bdindex = index := rfl
  simp only [ioctl, reduced]
  rw [waitForTransfer_eq, current, WaitScript.awaited_setBdindex,
    WaitScript.verdict_setBdindex]
  exact ⟨_, rfl⟩

end StreamIO.Driver
