import StreamIO.Driver.Transfer

/-!
# What the engine can change

Every engine event is one of three moves on the accounts of the engine: the
same descriptors stay pending, the first pending one completes, or it fails.
Nothing the driver keeps for itself changes, except the counter inside a
completion and the payload of a buffer that receives data.
-/

namespace StreamIO.Driver

/-- The three moves of the engine, up to the bytes descriptors have moved. -/
inductive EngineEffect (before after : DmaEngine) : Prop where
  | quiet
      (pending : after.pending.map Transfer.key =
        before.pending.map Transfer.key)
      (completed : after.completed = before.completed)
      (failed : after.failed = before.failed)
  | completes (transfer settled : Transfer) (rest : List Transfer)
      (head : before.pending = transfer :: rest)
      (pending : after.pending = rest)
      (same : settled.key = transfer.key)
      (completed : after.completed = before.completed ++ [settled])
      (failed : after.failed = before.failed)
  | fails (transfer : Transfer) (rest : List Transfer)
      (head : before.pending = transfer :: rest)
      (pending : after.pending = rest)
      (completed : after.completed = before.completed)
      (failed : after.failed = before.failed ++ [transfer])

/-- The driver's own view of the channel is the same. -/
structure SameDriver (before after : DmaProxyChannel) : Prop where
  status : ∀ index,
    (after.bufferTable index).status = (before.bufferTable index).status
  length : ∀ index,
    (after.bufferTable index).length = (before.bufferTable index).length
  cookie : ∀ index,
    (after.bdtable index).cookie = (before.bdtable index).cookie
  bdindex : after.bdindex = before.bdindex
  lastCookie : after.engine.lastCookie = before.engine.lastCookie
  direction : after.engine.direction = before.engine.direction

namespace SameDriver

theorem refl (channel : DmaProxyChannel) : SameDriver channel channel :=
  ⟨fun _ => rfl, fun _ => rfl, fun _ => rfl, rfl, rfl, rfl⟩

theorem trans {first second third : DmaProxyChannel}
    (left : SameDriver first second) (right : SameDriver second third) :
    SameDriver first third where
  status index := (right.status index).trans (left.status index)
  length index := (right.length index).trans (left.length index)
  cookie index := (right.cookie index).trans (left.cookie index)
  bdindex := right.bdindex.trans left.bdindex
  lastCookie := right.lastCookie.trans left.lastCookie
  direction := right.direction.trans left.direction

theorem setDone (channel : DmaProxyChannel) (index done : Nat) :
    SameDriver channel (channel.setDone index done) := by
  refine ⟨fun _ => rfl, fun _ => rfl, ?_, rfl, rfl, rfl⟩
  intro other
  by_cases same : other = index
  · simp [DmaProxyChannel.setDone, same]
  · simp [DmaProxyChannel.setDone, Function.update_of_ne same]

theorem setBuffer (channel : DmaProxyChannel) (index : Nat)
    (buffer : Library.ByteMemory) :
    SameDriver channel (channel.setBuffer index buffer) := by
  refine ⟨?_, ?_, fun _ => rfl, rfl, rfl, rfl⟩
  · intro other
    by_cases same : other = index
    · simp [DmaProxyChannel.setBuffer, same]
    · simp [DmaProxyChannel.setBuffer, Function.update_of_ne same]
  · intro other
    by_cases same : other = index
    · simp [DmaProxyChannel.setBuffer, same]
    · simp [DmaProxyChannel.setBuffer, Function.update_of_ne same]

end SameDriver

namespace DmaProxyChannel

theorem syncCallback_sameDriver (channel : DmaProxyChannel) (index : Nat) :
    SameDriver channel (channel.syncCallback index) :=
  SameDriver.setDone channel index _

theorem storeReceived_sameDriver (channel : DmaProxyChannel)
    (transfer : Transfer) (bytes : List UInt8) :
    SameDriver channel (channel.storeReceived transfer bytes) :=
  SameDriver.setBuffer channel _ _

theorem engineStep_sameDriver (channel : DmaProxyChannel)
    (event : EngineEvent) :
    SameDriver channel (channel.engineStep event) := by
  cases event with
  | fetch position =>
      cases direction : channel.engine.direction with
      | memToDev =>
          simp only [engineStep, direction]
          exact ⟨fun _ => rfl, fun _ => rfl, fun _ => rfl, rfl, rfl,
            direction.symm⟩
      | devToMem =>
          simp only [engineStep, direction]
          exact .refl channel
  | deliver bytes =>
      cases direction : channel.engine.direction with
      | memToDev =>
          simp only [engineStep, direction]
          exact .refl channel
      | devToMem =>
          cases pending : channel.engine.pending with
          | nil =>
              simp only [engineStep, direction, pending]
              exact .refl channel
          | cons transfer rest =>
              have stored := channel.storeReceived_sameDriver transfer bytes
              simp only [engineStep, direction, pending]
              exact ⟨stored.status, stored.length, stored.cookie,
                stored.bdindex, rfl, direction.symm⟩
  | complete =>
      cases pending : channel.engine.pending with
      | nil =>
          simp only [engineStep, pending]
          exact .refl channel
      | cons transfer rest =>
          have called := channel.syncCallback_sameDriver transfer.bdindex
          simp only [engineStep, pending]
          exact ⟨called.status, called.length, called.cookie,
            called.bdindex, rfl, rfl⟩
  | fail callback =>
      cases pending : channel.engine.pending with
      | nil =>
          simp only [engineStep, pending]
          exact .refl channel
      | cons transfer rest =>
          have called := channel.syncCallback_sameDriver transfer.bdindex
          simp only [engineStep, pending]
          cases callback with
          | true =>
              exact ⟨called.status, called.length, called.cookie,
                called.bdindex, rfl, rfl⟩
          | false =>
              exact ⟨fun _ => rfl, fun _ => rfl, fun _ => rfl, rfl, rfl, rfl⟩

theorem readPayload_key (channel : DmaProxyChannel) (transfer : Transfer) :
    (channel.readPayload transfer).key = transfer.key := rfl

theorem settle_key (channel : DmaProxyChannel) (transfer : Transfer) :
    (channel.settle transfer).key = transfer.key := by
  cases direction : channel.engine.direction <;>
    simp [settle, direction, readPayload_key]

theorem map_key_modify (pending : List Transfer) (position : Nat)
    (change : Transfer → Transfer)
    (same : ∀ transfer, (change transfer).key = transfer.key) :
    (pending.modify position change).map Transfer.key =
      pending.map Transfer.key := by
  apply List.ext_getElem
  · simp
  · intro index left right
    simp only [List.getElem_map, List.getElem_modify]
    split
    · exact same _
    · rfl

theorem engineStep_effect (channel : DmaProxyChannel)
    (event : EngineEvent) :
    EngineEffect channel.engine (channel.engineStep event).engine := by
  cases event with
  | fetch position =>
      cases direction : channel.engine.direction with
      | memToDev =>
          simp only [engineStep, direction]
          exact .quiet (map_key_modify _ _ _ channel.readPayload_key) rfl rfl
      | devToMem =>
          simp only [engineStep, direction]
          exact .quiet rfl rfl rfl
  | deliver bytes =>
      cases direction : channel.engine.direction with
      | memToDev =>
          simp only [engineStep, direction]
          exact .quiet rfl rfl rfl
      | devToMem =>
          cases pending : channel.engine.pending with
          | nil =>
              simp only [engineStep, direction, pending]
              exact .quiet rfl rfl rfl
          | cons transfer rest =>
              simp only [engineStep, direction, pending]
              exact .quiet (by simp [pending, Transfer.key]) rfl rfl
  | complete =>
      cases pending : channel.engine.pending with
      | nil =>
          simp only [engineStep, pending]
          exact .quiet rfl rfl rfl
      | cons transfer rest =>
          simp only [engineStep, pending]
          exact .completes transfer _ rest pending rfl
            (channel.settle_key transfer) rfl rfl
  | fail callback =>
      cases pending : channel.engine.pending with
      | nil =>
          simp only [engineStep, pending]
          exact .quiet rfl rfl rfl
      | cons transfer rest =>
          simp only [engineStep, pending]
          exact .fails transfer rest pending rfl rfl rfl

theorem syncCallback_done_pos (channel : DmaProxyChannel) (index : Nat) :
    0 < ((channel.syncCallback index).bdtable index).done := by
  have saturated : 0 < completionMax := by decide
  simp only [syncCallback, setDone, Function.update_self]
  split
  · omega
  · omega

theorem syncCallback_done_le (channel : DmaProxyChannel)
    (index other : Nat) :
    (channel.bdtable other).done ≤
      ((channel.syncCallback index).bdtable other).done := by
  by_cases same : other = index
  · subst other
    simp only [syncCallback, setDone, Function.update_self]
    split
    · exact Nat.le_refl _
    · exact Nat.le_succ _
  · simp [syncCallback, setDone, Function.update_of_ne same]

theorem engineStep_done_le (channel : DmaProxyChannel)
    (event : EngineEvent) (index : Nat) :
    (channel.bdtable index).done ≤
      ((channel.engineStep event).bdtable index).done := by
  cases event with
  | fetch position =>
      cases direction : channel.engine.direction <;>
        simp [engineStep, direction]
  | deliver bytes =>
      cases direction : channel.engine.direction <;>
        cases pending : channel.engine.pending <;>
        simp [engineStep, direction, pending, storeReceived, setBuffer]
  | complete =>
      cases pending : channel.engine.pending with
      | nil => simp [engineStep, pending]
      | cons transfer rest =>
          simp only [engineStep, pending]
          exact channel.syncCallback_done_le transfer.bdindex index
  | fail callback =>
      cases pending : channel.engine.pending with
      | nil => simp [engineStep, pending]
      | cons transfer rest =>
          simp only [engineStep, pending]
          cases callback with
          | true => exact channel.syncCallback_done_le transfer.bdindex index
          | false => exact Nat.le_refl _

/-- A transfer that an event completes leaves a mark in the completion of its
buffer. -/
theorem engineStep_completed_marks (channel : DmaProxyChannel)
    (event : EngineEvent) {cookie : Int}
    (completed : cookie ∈
      (channel.engineStep event).engine.completed.map Transfer.cookie) :
    cookie ∈ channel.engine.completed.map Transfer.cookie ∨
      ∃ transfer ∈ channel.engine.pending, transfer.cookie = cookie ∧
        0 < ((channel.engineStep event).bdtable transfer.bdindex).done := by
  cases event with
  | fetch position =>
      left
      cases direction : channel.engine.direction <;>
        simpa only [engineStep, direction] using completed
  | deliver bytes =>
      left
      cases direction : channel.engine.direction <;>
        cases pending : channel.engine.pending <;>
        simpa only [engineStep, direction, pending] using completed
  | complete =>
      cases pending : channel.engine.pending with
      | nil =>
          left
          simpa only [engineStep, pending] using completed
      | cons transfer rest =>
          simp only [engineStep, pending, List.map_append, List.map_cons,
            List.map_nil, List.mem_append, List.mem_singleton] at completed
          rcases completed with old | new
          · exact Or.inl old
          · right
            have sameCookie : (channel.settle transfer).cookie =
                transfer.cookie :=
              congrArg Prod.fst (channel.settle_key transfer)
            refine ⟨transfer, by simp, (new.trans sameCookie).symm, ?_⟩
            simp only [engineStep, pending]
            exact channel.syncCallback_done_pos transfer.bdindex
  | fail callback =>
      left
      cases pending : channel.engine.pending <;>
        simpa only [engineStep, pending] using completed

theorem engineStep_idle {channel : DmaProxyChannel}
    (idle : channel.engine.pending = []) (event : EngineEvent) :
    channel.engineStep event = channel := by
  obtain ⟨table, descriptors, index, count,
    ⟨direction, lastCookie, pending, completed, failed⟩⟩ := channel
  simp only at idle
  subst pending
  cases event with
  | fetch position => cases direction <;> cases position <;> rfl
  | deliver bytes => cases direction <;> rfl
  | complete => rfl
  | fail callback => rfl

theorem runEngine_idle {channel : DmaProxyChannel}
    (idle : channel.engine.pending = []) (events : List EngineEvent) :
    channel.runEngine events = channel := by
  induction events with
  | nil => rfl
  | cons event events induction =>
      rw [runEngine_cons, engineStep_idle idle, induction]

theorem runEngine_sameDriver (channel : DmaProxyChannel)
    (events : List EngineEvent) :
    SameDriver channel (channel.runEngine events) := by
  induction events generalizing channel with
  | nil => exact .refl channel
  | cons event events induction =>
      exact (channel.engineStep_sameDriver event).trans (induction _)

/-- What every move of the engine keeps is kept by a sequence of events. -/
theorem runEngine_engine_preserves {holds : DmaEngine → Prop}
    (preserved : ∀ before after, EngineEffect before after → holds before →
      after.lastCookie = before.lastCookie → holds after)
    {channel : DmaProxyChannel} (events : List EngineEvent)
    (start : holds channel.engine) :
    holds (channel.runEngine events).engine := by
  induction events generalizing channel with
  | nil => exact start
  | cons event events induction =>
      exact induction (preserved _ _ (channel.engineStep_effect event) start
        (channel.engineStep_sameDriver event).lastCookie)

theorem engineStep_bdtable (channel : DmaProxyChannel)
    (bdtable : Nat → ProxyBd) (event : EngineEvent) :
    ∃ after, engineStep { channel with bdtable := bdtable } event =
      { channel.engineStep event with bdtable := after } := by
  cases event with
  | fetch position =>
      simp only [engineStep]
      split
      · exact ⟨bdtable, rfl⟩
      · exact ⟨bdtable, rfl⟩
  | deliver bytes =>
      simp only [engineStep]
      split
      · exact ⟨bdtable, rfl⟩
      · exact ⟨bdtable, rfl⟩
  | complete =>
      simp only [engineStep]
      split
      · exact ⟨bdtable, rfl⟩
      · exact ⟨_, rfl⟩
  | fail callback =>
      simp only [engineStep]
      split
      · exact ⟨bdtable, rfl⟩
      · cases callback with
        | true => exact ⟨_, rfl⟩
        | false => exact ⟨bdtable, rfl⟩

theorem runEngine_bdtable (channel : DmaProxyChannel)
    (bdtable : Nat → ProxyBd) (events : List EngineEvent) :
    ∃ after, runEngine { channel with bdtable := bdtable } events =
      { channel.runEngine events with bdtable := after } := by
  induction events generalizing channel bdtable with
  | nil => exact ⟨bdtable, rfl⟩
  | cons event events induction =>
      obtain ⟨after, same⟩ := channel.engineStep_bdtable bdtable event
      obtain ⟨last, rest⟩ := induction (channel.engineStep event) after
      refine ⟨last, ?_⟩
      rw [runEngine_cons, same, rest]
      rfl

end DmaProxyChannel

namespace WaitScript

theorem awaited_sameDriver (script : WaitScript) (channel : DmaProxyChannel)
    (index : Nat) : SameDriver channel (script.awaited channel index) := by
  have blocked := channel.runEngine_sameDriver script.blocked
  simp only [awaited]
  split
  · exact (blocked.trans (SameDriver.setDone _ index _)).trans
      (DmaProxyChannel.runEngine_sameDriver _ _)
  · exact blocked.trans (DmaProxyChannel.runEngine_sameDriver _ _)

theorem awaited_engine_preserves {holds : DmaEngine → Prop}
    (preserved : ∀ before after, EngineEffect before after → holds before →
      after.lastCookie = before.lastCookie → holds after)
    (script : WaitScript) {channel : DmaProxyChannel} (index : Nat)
    (start : holds channel.engine) :
    holds (script.awaited channel index).engine := by
  have blocked : holds (channel.runEngine script.blocked).engine :=
    DmaProxyChannel.runEngine_engine_preserves preserved _ start
  simp only [awaited]
  apply DmaProxyChannel.runEngine_engine_preserves preserved
  split
  · exact blocked
  · exact blocked

/-- What the wait itself does is nothing to the engine. -/
theorem awaited_engine_eq (script : WaitScript) (channel : DmaProxyChannel)
    (index : Nat) :
    (script.awaited channel index).engine =
      (channel.runEngine (script.blocked ++ script.woken)).engine := by
  have both : channel.runEngine (script.blocked ++ script.woken) =
      (channel.runEngine script.blocked).runEngine script.woken :=
    List.foldl_append
  simp only [awaited, both]
  by_cases done :
      0 < ((channel.runEngine script.blocked).bdtable index).done
  · rw [if_pos done]
    obtain ⟨after, same⟩ := DmaProxyChannel.runEngine_bdtable
      (channel.runEngine script.blocked)
      ((channel.runEngine script.blocked).takeCompletion index).bdtable
      script.woken
    exact (congrArg DmaProxyChannel.engine same).trans rfl
  · rw [if_neg done]

end WaitScript

end StreamIO.Driver
