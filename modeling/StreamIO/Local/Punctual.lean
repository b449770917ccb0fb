import StreamIO.Local.StatusTrust

/-!
# Waits that succeed

Without timeouts, signals and engine errors a wait is ended by the transfer
it waits for.  This needs each buffer to carry at most one pending transfer,
which holds as long as a buffer is submitted only while it is free.
-/

namespace StreamIO.Local

open StreamIO.Driver StreamIO.Library

/-- The engine makes progress, it does not fail. -/
def Faultless : EngineEvent → Prop
  | .fail _ => False
  | _ => True

instance : DecidablePred Faultless
  | .fail _ => isFalse id
  | .fetch _ => isTrue trivial
  | .deliver _ => isTrue trivial
  | .complete => isTrue trivial

/-- If the buffer has to be waited for, the wait neither times out nor is
interrupted, and the engine does not fail meanwhile. -/
def Prompt (channel : DmaProxyChannel) (index : Nat)
    (script : WaitScript) : Prop :=
  (channel.bufferTable index).status ≠ .noError →
    ¬script.Expires channel index ∧ script.interrupted = false ∧
      (∀ event ∈ script.blocked, Faultless event) ∧
      ∀ event ∈ script.woken, Faultless event

instance (channel : DmaProxyChannel) (index : Nat) (script : WaitScript) :
    Decidable (Prompt channel index script) :=
  inferInstanceAs (Decidable (_ → _))

/-- Every wait of a pass over the buffers is prompt. -/
def PromptPass (scripts : Nat → WaitScript) :
    List Nat → DmaProxyChannel → Prop
  | [], _ => True
  | index :: rest, channel =>
      Prompt channel index (scripts index) ∧
        PromptPass scripts rest (finishBuffer scripts channel index)

instance instDecidablePromptPass (scripts : Nat → WaitScript) :
    ∀ (indices : List Nat) (channel : DmaProxyChannel),
      Decidable (PromptPass scripts indices channel)
  | [], _ => isTrue trivial
  | index :: rest, channel =>
      have := instDecidablePromptPass scripts rest
        (finishBuffer scripts channel index)
      inferInstanceAs (Decidable (_ ∧ _))

/-- No transfer failed, and the descriptor of each buffer belongs to the last
transfer submitted on it: its cookie, whatever is pending on it, and any
completion that was counted. -/
structure Punctual (submitted : List Submission)
    (channel : DmaProxyChannel) : Prop where
  failed : channel.engine.failed = []
  cookie : ∀ index entry, lastOf submitted index = some entry →
    (channel.bdtable index).cookie = entry.cookie
  latest : ∀ key ∈ channel.engine.pending.map Transfer.key,
    ∃ entry, lastOf submitted key.2.1 = some entry ∧ entry.cookie = key.1
  signalled : ∀ index entry, lastOf submitted index = some entry →
    0 < (channel.bdtable index).done →
      Completed channel.engine entry.cookie

/-- No transfer on the buffer is queued or running. -/
def Unused (channel : DmaProxyChannel) (index : Nat) : Prop :=
  ∀ transfer ∈ channel.engine.pending, transfer.bdindex ≠ index

namespace Punctual

variable {submitted : List Submission} {channel after : DmaProxyChannel}

theorem congr (punctual : Punctual submitted channel)
    (engine : after.engine = channel.engine)
    (bdtable : after.bdtable = channel.bdtable) :
    Punctual submitted after := by
  refine ⟨?_, ?_, ?_, ?_⟩
  · rw [engine]
    exact punctual.failed
  · rw [bdtable]
    exact punctual.cookie
  · rw [engine]
    exact punctual.latest
  · rw [engine, bdtable]
    exact punctual.signalled

theorem takeCompletion (punctual : Punctual submitted channel)
    (index : Nat) :
    Punctual submitted (channel.takeCompletion index) := by
  have same := SameDriver.setDone channel index
    (if (channel.bdtable index).done = completionMax then
      (channel.bdtable index).done
    else (channel.bdtable index).done - 1)
  refine ⟨punctual.failed, ?_, punctual.latest, ?_⟩
  · intro other entry last
    exact (same.cookie other).trans (punctual.cookie other entry last)
  · intro other entry last counted
    apply punctual.signalled other entry last
    by_cases taken : other = index
    · subst other
      simp only [DmaProxyChannel.takeCompletion, DmaProxyChannel.setDone,
        Function.update_self] at counted
      split at counted <;> omega
    · simpa [DmaProxyChannel.takeCompletion, DmaProxyChannel.setDone,
        Function.update_of_ne taken] using counted

private theorem quiet (punctual : Punctual submitted channel)
    (pending : after.engine.pending.map Transfer.key =
      channel.engine.pending.map Transfer.key)
    (completed : after.engine.completed = channel.engine.completed)
    (failed : after.engine.failed = channel.engine.failed)
    (bdtable : after.bdtable = channel.bdtable) :
    Punctual submitted after := by
  refine ⟨failed.trans punctual.failed, ?_, ?_, ?_⟩
  · rw [bdtable]
    exact punctual.cookie
  · rw [pending]
    exact punctual.latest
  · rw [bdtable]
    intro index entry last counted
    rw [Completed, completed]
    exact punctual.signalled index entry last counted

private theorem complete (punctual : Punctual submitted channel) :
    Punctual submitted (channel.engineStep .complete) := by
  cases pending : channel.engine.pending with
  | nil =>
      simp only [DmaProxyChannel.engineStep, pending]
      exact punctual
  | cons transfer rest =>
      have called := channel.syncCallback_sameDriver transfer.bdindex
      have finished : (channel.engineStep .complete).engine.completed =
          channel.engine.completed ++ [channel.settle transfer] := by
        simp only [DmaProxyChannel.engineStep, pending]
      have sameCookie : (channel.settle transfer).cookie =
          transfer.cookie :=
        congrArg Prod.fst (channel.settle_key transfer)
      have current := punctual.latest transfer.key (by simp [pending])
      refine ⟨?_, ?_, ?_, ?_⟩
      · simp only [DmaProxyChannel.engineStep, pending]
        exact punctual.failed
      · intro index entry last
        simp only [DmaProxyChannel.engineStep, pending]
        exact (called.cookie index).trans (punctual.cookie index entry last)
      · intro key member
        apply punctual.latest key
        simp only [DmaProxyChannel.engineStep, pending] at member ⊢
        exact List.mem_cons_of_mem _ member
      · intro index entry last counted
        rw [Completed, finished, List.map_append, List.mem_append]
        by_cases own : index = transfer.bdindex
        · right
          obtain ⟨owner, ownerLast, ownerCookie⟩ := current
          have same : owner = entry := by
            apply Option.some.inj
            rw [← ownerLast, ← last, own]
            rfl
          simp only [List.map_cons, List.map_nil, List.mem_singleton,
            sameCookie]
          rw [← same]
          exact ownerCookie
        · left
          apply punctual.signalled index entry last
          simpa [DmaProxyChannel.engineStep, pending,
            DmaProxyChannel.syncCallback, DmaProxyChannel.setDone,
            Function.update_of_ne own] using counted

theorem engineStep (punctual : Punctual submitted channel)
    {event : EngineEvent} (faultless : Faultless event) :
    Punctual submitted (channel.engineStep event) := by
  have moved := channel.engineStep_effect event
  cases event with
  | fetch position =>
      cases direction : channel.engine.direction with
      | devToMem =>
          simp only [DmaProxyChannel.engineStep, direction]
          exact punctual
      | memToDev =>
          apply punctual.quiet _ _ _ _
          · cases moved with
            | quiet pending completed failed => exact pending
            | completes transfer settled rest head pending same completed =>
                simp [DmaProxyChannel.engineStep, direction] at completed
            | fails transfer rest head pending completed failed =>
                simp [DmaProxyChannel.engineStep, direction] at failed
          · simp only [DmaProxyChannel.engineStep, direction]
          · simp only [DmaProxyChannel.engineStep, direction]
          · simp only [DmaProxyChannel.engineStep, direction]
  | deliver bytes =>
      cases direction : channel.engine.direction with
      | memToDev =>
          simp only [DmaProxyChannel.engineStep, direction]
          exact punctual
      | devToMem =>
          cases pending : channel.engine.pending with
          | nil =>
              simp only [DmaProxyChannel.engineStep, direction, pending]
              exact punctual
          | cons transfer rest =>
              simp only [DmaProxyChannel.engineStep, direction, pending]
              exact punctual.quiet (by simp [pending, Transfer.key]) rfl rfl
                rfl
  | complete => exact punctual.complete
  | fail callback => exact faultless.elim

theorem runEngine (punctual : Punctual submitted channel)
    {events : List EngineEvent}
    (faultless : ∀ event ∈ events, Faultless event) :
    Punctual submitted (channel.runEngine events) :=
  DmaProxyChannel.runEngine_preserves
    (fun _ _ allowed holds => holds.engineStep allowed) faultless punctual

theorem awaited (punctual : Punctual submitted channel) (index : Nat)
    {script : WaitScript}
    (blocked : ∀ event ∈ script.blocked, Faultless event)
    (woken : ∀ event ∈ script.woken, Faultless event) :
    Punctual submitted (script.awaited channel index) := by
  have before := punctual.runEngine blocked
  simp only [WaitScript.awaited]
  split
  · exact (before.takeCompletion index).runEngine woken
  · exact before.runEngine woken

theorem finished (punctual : Punctual submitted channel) {index : Nat}
    {script : WaitScript}
    (blocked : ∀ event ∈ script.blocked, Faultless event)
    (woken : ∀ event ∈ script.woken, Faultless event)
    (finish : Finished channel index script after) :
    Punctual submitted after :=
  (punctual.awaited index blocked woken).congr finish.engine finish.bdtable

theorem started (punctual : Punctual submitted channel) {index : Nat}
    {size : UInt32} {entry : Submission} (unused : Unused channel index)
    (start : Started channel index size after)
    (cookie : entry.cookie = channel.engine.lastCookie + 1)
    (bdindex : entry.bdindex = index) :
    Punctual (submitted ++ [entry]) after := by
  refine ⟨?_, ?_, ?_, ?_⟩
  · rw [start.engine]
    exact punctual.failed
  · intro other item last
    rw [lastOf_append, bdindex] at last
    rw [start.bdtable]
    by_cases same : other = index
    · rw [if_pos same.symm] at last
      obtain rfl := Option.some.inj last
      simp [same, cookie]
    · rw [if_neg (Ne.symm same)] at last
      rw [Function.update_of_ne same]
      exact punctual.cookie other item last
  · intro key member
    simp only [start.engine, List.map_append, List.map_cons, List.map_nil,
      List.mem_append, List.mem_singleton] at member
    rw [lastOf_append, bdindex]
    rcases member with old | new
    · obtain ⟨transfer, pending, rfl⟩ := List.mem_map.mp old
      have different : index ≠ transfer.key.2.1 :=
        Ne.symm (unused transfer pending)
      rw [if_neg different]
      exact punctual.latest transfer.key old
    · rw [new]
      exact ⟨entry, by simp [Transfer.key], cookie⟩
  · intro other item last counted
    rw [lastOf_append, bdindex] at last
    rw [start.bdtable] at counted
    by_cases same : other = index
    · subst other
      simp at counted
    · rw [if_neg (Ne.symm same)] at last
      rw [Function.update_of_ne same] at counted
      rw [Completed, start.engine]
      exact punctual.signalled other item last counted

theorem unused (punctual : Punctual submitted channel)
    (accounted : Accounted submitted channel.engine) {index : Nat}
    (settled : ∀ entry, lastOf submitted index = some entry →
      Completed channel.engine entry.cookie) :
    Unused channel index := by
  intro transfer pending own
  obtain ⟨entry, last, cookie⟩ := punctual.latest transfer.key
    (List.mem_map_of_mem pending)
  have completed := settled entry (by rw [← own]; exact last)
  have earlier := (accounted.finished entry.cookie completed).2
    transfer.cookie (List.mem_map_of_mem pending)
  have same : entry.cookie = transfer.cookie := cookie
  omega

/-- A prompt wait for a buffer in use ends with its transfer completed. -/
theorem verdict (punctual : Punctual submitted channel)
    (accounted : Accounted submitted channel.engine) {index : Nat}
    {entry : Submission} {script : WaitScript}
    (last : lastOf submitted index = some entry)
    (awake : ¬script.Expires channel index)
    (uninterrupted : script.interrupted = false)
    (blocked : ∀ event ∈ script.blocked, Faultless event)
    (woken : ∀ event ∈ script.woken, Faultless event) :
    script.verdict channel index = .noError := by
  have after := punctual.awaited index blocked woken
  have accountedAfter : Accounted submitted
      (script.awaited channel index).engine :=
    script.awaited_engine_preserves
      (fun _ _ moved holds same => holds.effect moved same) index accounted
  have counted :
      0 < ((channel.runEngine script.blocked).bdtable index).done := by
    apply Nat.pos_of_ne_zero
    intro none
    exact awake ⟨none, uninterrupted⟩
  have completed : Completed (script.awaited channel index).engine
      entry.cookie := by
    have early := (punctual.runEngine blocked).signalled index entry last
      counted
    simp only [WaitScript.awaited, if_pos counted]
    exact DmaProxyChannel.runEngine_engine_preserves
      (fun _ _ moved holds _ => completed_notion.effect moved holds) _ early
  have notPending : entry.cookie ∉
      (script.awaited channel index).engine.pending.map Transfer.cookie := by
    intro pending
    have earlier := (accountedAfter.finished entry.cookie completed).2
      entry.cookie pending
    omega
  simp only [WaitScript.verdict, if_neg awake,
    after.cookie index entry last, DmaEngine.dmaAsyncIsTxComplete,
    if_neg notPending, after.failed, List.map_nil, List.not_mem_nil,
    if_false, if_true]

end Punctual

end StreamIO.Local
