import StreamIO.Library.ScriptedRun
import StreamIO.Driver.EngineEffect

/-!
# The counter behind `poll`

`wait_transfer_count` of a receive channel is raised by the interrupt that
announces a packet and lowered by a successful `FINISH_XFER`.  We run the
driver step by step, with any number of callers of `FINISH_XFER` asleep at
the same time, and keep beside it what the counter is meant to count: the
announced packets that no finished transfer has moved, and the transfers
finished since the channel was last opened that nobody has collected.
-/

namespace StreamIO.Driver

open StreamIO.Library

/-- `irq_handler`. -/
def irqHandler (channel : DmaProxyChannel) : DmaProxyChannel :=
  { channel with
    waitTransferCount := wrapInt (channel.waitTransferCount + 1) }

/-- `wait_for_transfer` up to the point where the caller sleeps. -/
def waitBegin (channel : DmaProxyChannel) (arg : Nat) : DmaProxyChannel :=
  (channel.setBdindex (arg % 2 ^ 32)).setStatus (arg % 2 ^ 32) .busy

/-- The caller wakes up: it takes a completion if there is one, and has timed
out if there is none and no signal either. -/
def waitWake (channel : DmaProxyChannel) (index : Nat)
    (interrupted : Bool) : DmaProxyChannel × Bool :=
  if 0 < (channel.bdtable index).done then
    (channel.takeCompletion index, false)
  else (channel, !interrupted)

/-- The rest of `wait_for_transfer`. -/
def waitEnd (channel : DmaProxyChannel) (index : Nat) (timedOut : Bool) :
    DmaProxyChannel :=
  let status := channel.engine.dmaAsyncIsTxComplete
    (channel.bdtable index).cookie
  if timedOut then channel.setStatus index .timeout
  else if status ≠ .complete then channel.setStatus index .error
  else
    let channel := channel.setStatus index .noError
    { channel with
      waitTransferCount := atomicDecIfPositive channel.waitTransferCount }

/-- The three parts are `FINISH_XFER`. -/
theorem ioctl_finishXfer_steps (channel : DmaProxyChannel) (arg : Nat)
    (response : SubmitResponse) (script : WaitScript) :
    let asleep := (waitBegin channel arg).runEngine script.blocked
    let woken := waitWake asleep (arg % 2 ^ 32) script.interrupted
    ioctl channel .finishXfer arg response script =
      waitEnd (woken.1.runEngine script.woken) (arg % 2 ^ 32) woken.2 := by
  have jiffies : ∀ remaining : Nat,
      toUnsignedLong (max 1 (min remaining maxJiffyOffset : Nat)) ≠ 0 := by
    intro remaining
    simp only [toUnsignedLong, maxJiffyOffset]
    omega
  have signal : toUnsignedLong (-eRestartSys) ≠ 0 := by decide
  have index : (channel.setBdindex (arg % 2 ^ 32)).bdindex =
      arg % 2 ^ 32 := rfl
  have begun : (channel.setBdindex (arg % 2 ^ 32)).setStatus (arg % 2 ^ 32)
      .busy = waitBegin channel arg := rfl
  simp only [ioctl, waitForTransfer, waitForCompletionInterruptibleTimeout,
    index, begun, waitWake, waitEnd]
  by_cases marked : 0 < (((waitBegin channel arg).runEngine
      script.blocked).bdtable (arg % 2 ^ 32)).done
  · simp only [if_pos marked, if_neg (jiffies _), Bool.false_eq_true,
      if_false]
  · simp only [if_neg marked]
    cases script.interrupted with
    | true =>
        simp only [if_true, Bool.not_true, Bool.false_eq_true, if_false,
          if_neg signal]
    | false =>
        have zero : toUnsignedLong 0 = 0 := by decide
        simp only [Bool.false_eq_true, if_false, Bool.not_false, if_true,
          zero]

/-- How far `dma_proxy_probe` has come with the channel. -/
inductive ProbePhase where
  | unregistered
  | registered
  | ready
  deriving DecidableEq, Repr

/-- A caller of `FINISH_XFER`. -/
inductive WaitPhase where
  | outside
  | asleep (index : Nat)
  | woken (index : Nat) (timedOut : Bool)
  deriving DecidableEq, Repr

/-- The channel with its callers, the number of announced packets that no
finished transfer has moved, and the cookies of the transfers finished since
the last open that were not collected. -/
structure PollState where
  phase : ProbePhase
  channel : DmaProxyChannel
  waits : Nat → WaitPhase
  unmoved : Nat
  uncollected : List Int

/-- What can happen to a channel.  `moved` says whether a failing transfer had
taken a packet. -/
inductive PollEvent where
  | requestIrq
  | initialise
  | irq
  | engine (event : EngineEvent) (moved : Bool)
  | localOpen
  | release
  | startXfer (arg : Nat) (response : SubmitResponse)
  | finishBegin (thread arg : Nat)
  | finishWake (thread : Nat) (interrupted : Bool)
  | finishEnd (thread : Nat)

namespace PollState

/-- The number that the counter is meant to show. -/
def receivable (state : PollState) : Nat :=
  state.unmoved + state.uncollected.length

/-- A step of the engine.  A transfer completes by moving an announced packet
and a failing one may have taken one; without a packet neither happens. -/
def engineStep (state : PollState) (event : EngineEvent) (moved : Bool) :
    PollState :=
  match event, state.channel.engine.pending with
  | .complete, transfer :: _ =>
      if state.unmoved = 0 then state
      else
        { state with
          channel := state.channel.engineStep .complete
          unmoved := state.unmoved - 1
          uncollected := state.uncollected ++ [transfer.cookie] }
  | .fail callback, transfer :: _ =>
      if moved ∧ state.unmoved = 0 then state
      else
        { state with
          channel := state.channel.engineStep (.fail callback)
          unmoved := if moved then state.unmoved - 1 else state.unmoved
          uncollected := state.uncollected ++ [transfer.cookie] }
  | event, _ => { state with channel := state.channel.engineStep event }

/-- The end of a `FINISH_XFER`.  Unless it timed out it has collected the
transfer whose cookie it looked at. -/
def finishEnd (state : PollState) (thread : Nat) : PollState :=
  match state.waits thread with
  | .outside => state
  | .asleep _ => state
  | .woken index timedOut =>
      { state with
        channel := waitEnd state.channel index timedOut
        waits := Function.update state.waits thread .outside
        uncollected :=
          if timedOut then state.uncollected
          else state.uncollected.erase
            (state.channel.bdtable index).cookie }

def step (state : PollState) : PollEvent → PollState
  | .requestIrq =>
      if state.phase = .unregistered then { state with phase := .registered }
      else state
  | .initialise =>
      if state.phase = .registered then
        { state with
          phase := .ready
          channel := { state.channel with waitTransferCount := 0 } }
      else state
  | .irq =>
      if state.phase = .unregistered then state
      else
        { state with
          channel := irqHandler state.channel
          unmoved := state.unmoved + 1 }
  | .engine event moved => state.engineStep event moved
  | .localOpen =>
      { state with
        channel := Driver.localOpen state.channel, uncollected := [] }
  | .release => { state with channel := Driver.release state.channel }
  | .startXfer arg response =>
      { state with
        channel := ioctl state.channel .startXfer arg response {} }
  | .finishBegin thread arg =>
      if state.waits thread = .outside then
        { state with
          channel := waitBegin state.channel arg
          waits := Function.update state.waits thread
            (.asleep (arg % 2 ^ 32)) }
      else state
  | .finishWake thread interrupted =>
      match state.waits thread with
      | .asleep index =>
          let woken := waitWake state.channel index interrupted
          { state with
            channel := woken.1
            waits := Function.update state.waits thread
              (.woken index woken.2) }
      | .outside => state
      | .woken _ _ => state
  | .finishEnd thread => state.finishEnd thread

/-- A channel that has been allocated; the counter is not initialised. -/
def allocated (direction : Direction) (junk : Int) : PollState :=
  { phase := .unregistered
    channel := { DmaProxyChannel.probed direction with
      waitTransferCount := junk }
    waits := fun _ => .outside
    unmoved := 0
    uncollected := [] }

/-- What an event must not do once the channel is ready: overrun the counter,
fail a transfer that has taken no packet, open the channel over finished
transfers that were not collected, collect a failed transfer, or report
success for a transfer that was already collected while others wait. -/
def Harmless (state : PollState) : PollEvent → Prop
  | .irq => state.receivable + 1 < 2 ^ 31
  | .engine (.fail _) moved =>
      state.channel.engine.pending = [] ∨ moved = true
  | .localOpen => state.uncollected = []
  | .finishEnd thread =>
      match state.waits thread with
      | .woken index false =>
          let cookie := (state.channel.bdtable index).cookie
          if state.channel.engine.dmaAsyncIsTxComplete cookie = .complete then
            cookie ∈ state.uncollected ∨ state.receivable = 0
          else cookie ∉ state.uncollected
      | _ => True
  | _ => True

end PollState

namespace PollState

variable {state : PollState}

end PollState

end StreamIO.Driver
