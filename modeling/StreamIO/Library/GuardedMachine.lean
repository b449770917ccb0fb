import StreamIO.Library.TransitionSystem

/-!
# Machines with guarded events

A machine says which events are possible in a state and where they lead; an
event that leads nowhere is a fault.  A list of events can be replayed, which
reaches a state of the machine's transition system.
-/

namespace StreamIO.Library

structure GuardedMachine (State : Type u) (Event : Type v) where
  enabled : State → Event → Prop
  move : State → Event → Option State

namespace GuardedMachine

variable {State : Type u} {Event : Type v}

/-- The possible events, as far as they are no faults. -/
def system (machine : GuardedMachine State Event) :
    TransitionSystem State Event where
  step state event next :=
    machine.enabled state event ∧ machine.move state event = some next

variable (machine : GuardedMachine State Event)
  [∀ state, DecidablePred (machine.enabled state)]

/-- The state after some events, if each of them is possible. -/
def replay (state : State) : List Event → Option State
  | [] => some state
  | event :: events =>
      if machine.enabled state event then
        (machine.move state event).bind fun next => replay next events
      else none

/-- The state after some events; if one of them is not possible, the state
before all of them. -/
def after (start : State) (events : List Event) : State :=
  (machine.replay start events).getD start

theorem replay_run {state finish : State} {events : List Event}
    (replayed : machine.replay state events = some finish) :
    machine.system.Run state events finish := by
  induction events generalizing state with
  | nil =>
      rw [← Option.some.inj replayed]
      exact .refl state
  | cons event events induction =>
      rw [replay] at replayed
      split at replayed
      · rename_i enabled
        obtain ⟨next, moved, later⟩ := Option.bind_eq_some_iff.mp replayed
        have first : machine.system.Run state [event] next :=
          .single ⟨enabled, moved⟩
        exact first.append (induction later)
      · cases replayed

theorem run_after {start : State} {events : List Event}
    (possible : (machine.replay start events).isSome) :
    machine.system.Run start events (machine.after start events) := by
  obtain ⟨finish, replayed⟩ := Option.isSome_iff_exists.mp possible
  rw [after, replayed]
  exact machine.replay_run replayed

theorem reachable_after (start : State) (events : List Event) :
    machine.system.Reachable start (machine.after start events) := by
  unfold after
  cases replayed : machine.replay start events with
  | none => exact .refl _ start
  | some finish => exact ⟨events, machine.replay_run replayed⟩

end GuardedMachine

end StreamIO.Library
