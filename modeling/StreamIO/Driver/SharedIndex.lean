import Mathlib.Data.List.Induction
import StreamIO.Library.ScriptedRun
import StreamIO.Driver.EngineEffect

/-!
# Calls that share a channel

`ioctl` passes its argument on through the `bdindex` of the channel, which all
callers of the channel share.  Here the calls are taken apart into the steps
that record the index, start the transfer and wait for it, and the steps of
any number of calls are interleaved.
-/

namespace StreamIO.Driver

open StreamIO.Library

/-- The steps of an `ioctl`. -/
inductive IoctlStep where
  | record
  | start
  | wait
  deriving DecidableEq, Repr

def IoctlCommand.steps : IoctlCommand → List IoctlStep
  | .startXfer => [.record, .start]
  | .finishXfer => [.record, .wait]
  | .xfer => [.record, .start, .wait]
  | .other => [.record]

/-- A call of `ioctl` with what the engine and the caller's wait come to. -/
structure SharedCall where
  cmd : IoctlCommand
  arg : Nat
  response : SubmitResponse
  script : WaitScript

/-- The buffer index: the argument as the `int` it is stored in. -/
def SharedCall.index (call : SharedCall) : Nat := call.arg % 2 ^ 32

namespace DmaProxyChannel

/-- One step of a call. -/
def makes (channel : DmaProxyChannel) (call : SharedCall) :
    IoctlStep → DmaProxyChannel
  | .record => channel.setBdindex call.index
  | .start => startTransfer channel call.response
  | .wait => waitForTransfer channel call.script

end DmaProxyChannel

/-- A transfer that was started, or a status word that was set. -/
inductive IoctlEffect where
  | transfer (index : Nat)
  | status (index : Nat)
  deriving DecidableEq, Repr

def IoctlEffect.index : IoctlEffect → Nat
  | .transfer index => index
  | .status index => index

/-- What one step of a call starts and sets: nothing, if the engine refuses
the descriptor. -/
def DmaProxyChannel.effects (channel : DmaProxyChannel) (call : SharedCall) :
    IoctlStep → List IoctlEffect
  | .record => []
  | .start =>
      if call.response = .accepted then
        [.transfer channel.bdindex, .status channel.bdindex]
      else []
  | .wait => [.status channel.bdindex]

/-- A channel and how many steps each call has made on it. -/
structure SharedChannel where
  channel : DmaProxyChannel
  made : Nat → Nat

namespace SharedChannel

/-- The channel before any of the calls. -/
def idle (channel : DmaProxyChannel) : SharedChannel :=
  { channel := channel, made := fun _ => 0 }

variable (calls : Nat → SharedCall)

/-- The step that a call makes next, if there is one. -/
def next (state : SharedChannel) (caller : Nat) : Option IoctlStep :=
  (calls caller).cmd.steps[state.made caller]?

/-- A call makes its next step. -/
def step (state : SharedChannel) (caller : Nat) : SharedChannel :=
  { channel :=
      match state.next calls caller with
      | none => state.channel
      | some nextStep => state.channel.makes (calls caller) nextStep
    made := Function.update state.made caller (state.made caller + 1) }

/-- What the next step of a call starts and sets belongs to its buffer. -/
def ActsOnOwn (state : SharedChannel) (caller : Nat) : Prop :=
  ∀ nextStep ∈ state.next calls caller,
    ∀ effect ∈ state.channel.effects (calls caller) nextStep,
      effect.index = (calls caller).index

end SharedChannel

/-- The step starts a transfer or sets a status. -/
def SharedCall.Effective (call : SharedCall) : IoctlStep → Prop
  | .record => False
  | .start => call.response = .accepted
  | .wait => True

/-- The call that has recorded its index last, of those that have made a step;
the last step stands first. -/
def lastRecorder : List Nat → Option Nat
  | [] => none
  | caller :: earlier =>
      if caller ∈ earlier then lastRecorder earlier else some caller

/-- Whenever a call starts a transfer or sets a status, the last call that has
recorded its index is one for the same buffer. -/
def Undisturbed (calls : Nat → SharedCall) (schedule : List Nat) : Prop :=
  ∀ front caller, front ++ [caller] <+: schedule →
    ∀ nextStep ∈ (calls caller).cmd.steps[front.count caller]?,
      (calls caller).Effective nextStep →
        ∀ other ∈ lastRecorder front.reverse,
          (calls other).index = (calls caller).index

/-- A call has recorded its index and has still to start a transfer or to set
a status. -/
def InProgress (calls : Nat → SharedCall) (front : List Nat)
    (caller : Nat) : Prop :=
  caller ∈ front ∧ ∃ count, front.count caller ≤ count ∧
    ∃ nextStep ∈ (calls caller).cmd.steps[count]?,
      (calls caller).Effective nextStep

/-- A call begins only while those in progress are for the same buffer. -/
def Serialised (calls : Nat → SharedCall) (schedule : List Nat) : Prop :=
  ∀ front caller, front ++ [caller] <+: schedule → caller ∉ front →
    ∀ other, InProgress calls front other →
      (calls other).index = (calls caller).index

namespace DmaProxyChannel

theorem makes_all (channel : DmaProxyChannel) (call : SharedCall) :
    call.cmd.steps.foldl (fun channel nextStep => channel.makes call nextStep)
        channel =
      ioctl channel call.cmd call.arg call.response call.script := by
  obtain ⟨cmd, arg, response, script⟩ := call
  cases cmd with
  | startXfer => rfl
  | finishXfer => rfl
  | xfer => rfl
  | other => rfl

theorem bdindex_makes (channel : DmaProxyChannel) (call : SharedCall)
    (nextStep : IoctlStep) :
    (channel.makes call nextStep).bdindex =
      if nextStep = .record then call.index else channel.bdindex := by
  cases nextStep with
  | record => rfl
  | start =>
      rw [makes]
      cases call.response with
      | accepted => rfl
      | prepError => rfl
      | submitError errno => rfl
  | wait =>
      rw [makes, waitForTransfer_eq]
      exact (call.script.awaited_sameDriver channel channel.bdindex).bdindex

theorem status_makes (channel : DmaProxyChannel) (call : SharedCall)
    (nextStep : IoctlStep) {index : Nat}
    (unaccounted : .status index ∉ channel.effects call nextStep) :
    ((channel.makes call nextStep).bufferTable index).status =
      (channel.bufferTable index).status := by
  cases nextStep with
  | record => rfl
  | start =>
      rw [makes]
      cases response : call.response with
      | accepted =>
          rw [effects, if_pos response] at unaccounted
          have other : index ≠ channel.bdindex := by
            rintro rfl
            simp at unaccounted
          simp [startTransfer, setStatus, Function.update_of_ne other]
      | prepError => rfl
      | submitError errno => rfl
  | wait =>
      have other : index ≠ channel.bdindex := by
        rintro rfl
        simp [effects] at unaccounted
      rw [makes, waitForTransfer_eq]
      simp only [setStatus, Function.update_of_ne other]
      exact (call.script.awaited_sameDriver channel channel.bdindex).status
        index

theorem pending_start (channel : DmaProxyChannel) (call : SharedCall) :
    (channel.makes call .start).engine.pending.map Transfer.bdindex =
      channel.engine.pending.map Transfer.bdindex ++
        (channel.effects call .start).filterMap fun effect =>
          match effect with
          | .transfer index => some index
          | .status _ => none := by
  rw [makes, effects]
  cases call.response with
  | accepted => simp [startTransfer]
  | prepError => simp [startTransfer]
  | submitError errno => simp [startTransfer]

end DmaProxyChannel

/-- A call records its index first, and only then. -/
theorem IoctlCommand.steps_eq (cmd : IoctlCommand) :
    ∃ behind, cmd.steps = .record :: behind ∧ .record ∉ behind := by
  cases cmd with
  | startXfer => exact ⟨[.start], rfl, by decide⟩
  | finishXfer => exact ⟨[.wait], rfl, by decide⟩
  | xfer => exact ⟨[.start, .wait], rfl, by decide⟩
  | other => exact ⟨[], rfl, by decide⟩

theorem IoctlCommand.steps_record_iff (cmd : IoctlCommand) (count : Nat) :
    cmd.steps[count]? = some .record ↔ count = 0 := by
  obtain ⟨behind, steps, once⟩ := cmd.steps_eq
  rw [steps]
  cases count with
  | zero => simp
  | succ count =>
      rw [List.getElem?_cons_succ]
      constructor
      · intro again
        exact absurd (List.mem_of_getElem? again) once
      · intro zero
        cases zero

theorem SharedCall.Effective.later {call : SharedCall} {nextStep : IoctlStep}
    (effective : call.Effective nextStep) {count : Nat}
    (present : call.cmd.steps[count]? = some nextStep) : 0 < count := by
  apply Nat.pos_of_ne_zero
  intro first
  rw [(call.cmd.steps_record_iff count).mpr first] at present
  cases present
  exact effective

namespace SharedChannel

variable {calls : Nat → SharedCall}

theorem made_step (state : SharedChannel) (caller : Nat) :
    (state.step calls caller).made =
      Function.update state.made caller (state.made caller + 1) := rfl

theorem made_run (state : SharedChannel) (front : List Nat) (caller : Nat) :
    (runInputs (step calls) state front).made caller =
      state.made caller + front.count caller := by
  induction front generalizing state with
  | nil => rfl
  | cons first front induction =>
      rw [runInputs_cons, induction, List.count_cons, made_step]
      by_cases same : first = caller
      · subst same
        rw [Function.update_self, beq_self_eq_true, if_pos rfl]
        omega
      · have other : (first == caller) = false := beq_eq_false_iff_ne.mpr same
        rw [Function.update_of_ne (Ne.symm same), other]
        rfl

theorem next_run (channel : DmaProxyChannel) (front : List Nat)
    (caller : Nat) :
    (runInputs (step calls) (idle channel) front).next calls caller =
      (calls caller).cmd.steps[front.count caller]? := by
  rw [next, made_run]
  simp only [idle, Nat.zero_add]

theorem bdindex_step (state : SharedChannel) (caller : Nat) :
    (state.step calls caller).channel.bdindex =
      if state.made caller = 0 then (calls caller).index
      else state.channel.bdindex := by
  have first := (calls caller).cmd.steps_record_iff (state.made caller)
  cases present : state.next calls caller with
  | none =>
      have other : state.made caller ≠ 0 := by
        intro zero
        rw [next, first.mpr zero] at present
        cases present
      rw [step, present, if_neg other]
  | some nextStep =>
      rw [next] at present
      have same : nextStep = .record ↔ state.made caller = 0 := by
        rw [← first, present, Option.some_inj]
      rw [step, next, present]
      simp only [DmaProxyChannel.bdindex_makes, same]

/-- The index on the channel is that of the call that has recorded last. -/
theorem bdindex_run (channel : DmaProxyChannel) (front : List Nat) :
    (runInputs (step calls) (idle channel) front).channel.bdindex =
      ((lastRecorder front.reverse).map fun caller =>
        (calls caller).index).getD channel.bdindex := by
  induction front using List.reverseRecOn with
  | nil => rfl
  | append_singleton front caller induction =>
      have made := @made_run calls (idle channel) front caller
      have count : (idle channel).made caller + front.count caller = 0 ↔
          caller ∉ front.reverse := by
        rw [List.mem_reverse, ← List.count_eq_zero]
        simp only [idle, Nat.zero_add]
      rw [runInputs_append, runInputs_cons, runInputs_nil, bdindex_step, made,
        List.reverse_append, List.reverse_singleton, List.singleton_append,
        lastRecorder]
      simp only [count]
      by_cases again : caller ∈ front.reverse
      · rw [if_neg (not_not_intro again), if_pos again]
        exact induction
      · rw [if_pos again, if_neg again]
        rfl

theorem lastRecorder_isSome {history : List Nat} {caller : Nat}
    (member : caller ∈ history) :
    ∃ recorder, lastRecorder history = some recorder := by
  induction history with
  | nil => cases member
  | cons first history induction =>
      rw [lastRecorder]
      by_cases again : first ∈ history
      · rw [if_pos again]
        rcases List.mem_cons.mp member with rfl | earlier
        · exact induction again
        · exact induction earlier
      · rw [if_neg again]
        exact ⟨first, rfl⟩

theorem effects_own_iff (channel : DmaProxyChannel) (call : SharedCall)
    (nextStep : IoctlStep) :
    (∀ effect ∈ channel.effects call nextStep, effect.index = call.index) ↔
      (call.Effective nextStep → channel.bdindex = call.index) := by
  cases nextStep with
  | record => simp [DmaProxyChannel.effects, SharedCall.Effective]
  | start =>
      by_cases accepted : call.response = .accepted
      · simp [DmaProxyChannel.effects, SharedCall.Effective, accepted,
          IoctlEffect.index]
      · simp [DmaProxyChannel.effects, SharedCall.Effective, accepted]
  | wait =>
      simp [DmaProxyChannel.effects, SharedCall.Effective, IoctlEffect.index]

/-- In an interleaving of calls every transfer that is started and every
status that is set is of the buffer of its call, exactly if no other call
gets in between with another index. -/
theorem acts_on_own_iff (calls : Nat → SharedCall)
    (channel : DmaProxyChannel) (schedule : List Nat) :
    (∀ front caller, front ++ [caller] <+: schedule →
      (runInputs (step calls) (idle channel) front).ActsOnOwn calls caller) ↔
      Undisturbed calls schedule := by
  apply forall₂_congr
  intro front caller
  apply imp_congr_right
  intro _
  rw [ActsOnOwn, next_run]
  apply forall₂_congr
  intro nextStep present
  rw [effects_own_iff]
  apply imp_congr_right
  intro effective
  have started : caller ∈ front.reverse := by
    rw [List.mem_reverse, ← List.count_pos_iff]
    exact effective.later present
  obtain ⟨recorder, last⟩ := lastRecorder_isSome started
  rw [bdindex_run, last]
  simp

theorem lastRecorder_split {history : List Nat} {recorder : Nat}
    (last : lastRecorder history = some recorder) :
    ∃ later earlier, history = later ++ recorder :: earlier ∧
      recorder ∉ earlier ∧
      ∀ caller ∈ later, caller ∈ recorder :: earlier := by
  induction history with
  | nil => cases last
  | cons first history induction =>
      rw [lastRecorder] at last
      by_cases again : first ∈ history
      · rw [if_pos again] at last
        obtain ⟨later, earlier, rfl, once, behind⟩ := induction last
        refine ⟨first :: later, earlier, rfl, once, ?_⟩
        intro caller member
        rcases List.mem_cons.mp member with rfl | inside
        · rcases List.mem_append.mp again with inside | inside
          · exact behind caller inside
          · exact inside
        · exact behind caller inside
      · rw [if_neg again] at last
        cases last
        refine ⟨[], history, rfl, again, ?_⟩
        intro caller member
        cases member

/-- Callers that wait for each other are not disturbed. -/
theorem undisturbed_of_serialised {schedule : List Nat}
    (serialised : Serialised calls schedule) :
    Undisturbed calls schedule := by
  intro front caller isPrefix nextStep present effective recorder last
  by_cases same : recorder = caller
  · rw [same]
  · obtain ⟨later, earlier, split, once, behind⟩ := lastRecorder_split last
    have front_eq : front = earlier.reverse ++ [recorder] ++ later.reverse := by
      rw [← List.reverse_reverse front, split]
      simp
    have recorded : earlier.reverse ++ [recorder] <+: schedule := by
      apply List.IsPrefix.trans _ isPrefix
      rw [front_eq, List.append_assoc]
      exact List.prefix_append _ _
    have started : caller ∈ front.reverse := by
      rw [List.mem_reverse, ← List.count_pos_iff]
      exact effective.later present
    have before : caller ∈ earlier.reverse := by
      rw [List.mem_reverse]
      have other : caller ∈ recorder :: earlier := by
        rw [split] at started
        rcases List.mem_append.mp started with inside | inside
        · exact behind caller inside
        · exact inside
      exact (List.mem_cons.mp other).resolve_left (Ne.symm same)
    have fewer : earlier.reverse.count caller ≤ front.count caller := by
      rw [front_eq, List.count_append, List.count_append, Nat.add_assoc]
      exact Nat.le_add_right _ _
    have first : recorder ∉ earlier.reverse := by
      rw [List.mem_reverse]
      exact once
    exact (serialised earlier.reverse recorder recorded first caller
      ⟨before, front.count caller, fewer, nextStep, present, effective⟩).symm

theorem other_index_started :
    ¬∀ (calls : Nat → SharedCall) (channel : DmaProxyChannel)
      (schedule front : List Nat) (caller : Nat),
      front ++ [caller] <+: schedule →
      (runInputs (step calls) (idle channel) front).ActsOnOwn calls
        caller := by
  intro always
  have acts := always
    (fun caller =>
      { cmd := .startXfer, arg := caller, response := .accepted
        script := default })
    (DmaProxyChannel.probed .memToDev) [0, 1, 0] [0, 1] 0
    (List.prefix_refl _) .start rfl (.transfer 1) List.mem_cons_self
  cases acts

end SharedChannel

end StreamIO.Driver
