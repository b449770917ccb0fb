import StreamIO.Library.GuardedMachine

/-!
# Simulations of what a system shows

An observer of a system sees some of its steps.  A simulation relates the
states of the system to those of another one that makes the observations its
steps, so that whatever a run shows is a run of the other system.
-/

namespace StreamIO.Library

variable {State : Type u} {Label : Type v} {Seen : Type w}
  {Abstract : Type x}

namespace TransitionSystem

/-- What the observer has seen when a run ends. -/
inductive Shown (system : TransitionSystem State Label)
    (shows : State → Label → Option Seen) :
    State → List Seen → State → Prop where
  | refl (state : State) : Shown system shows state [] state
  | snoc {start middle finish : State} {seen : List Seen}
      {label : Label} :
      Shown system shows start seen middle →
      system.step middle label finish →
      Shown system shows start (seen ++ (shows middle label).toList) finish

theorem Shown.append {system : TransitionSystem State Label}
    {shows : State → Label → Option Seen} {start middle finish : State}
    {first second : List Seen}
    (earlier : system.Shown shows start first middle)
    (later : system.Shown shows middle second finish) :
    system.Shown shows start (first ++ second) finish := by
  induction later with
  | refl =>
      rw [List.append_nil]
      exact earlier
  | snoc _ next induction =>
      rw [← List.append_assoc]
      exact .snoc induction next

end TransitionSystem

/-- Related states stay related: what a step shows is a step of the abstract
system, and a step that shows nothing is none. -/
structure Simulation (system : TransitionSystem State Label)
    (shows : State → Label → Option Seen)
    (abstract : TransitionSystem Abstract Seen) where
  related : State → Abstract → Prop
  matched : ∀ {state : State} {label : Label} {next : State}
    {before : Abstract}, related state before →
      system.step state label next →
      ∃ after, abstract.Run before (shows state label).toList after ∧
        related next after

/-- What a run shows is a run of the abstract system. -/
theorem Simulation.run {system : TransitionSystem State Label}
    {shows : State → Label → Option Seen}
    {abstract : TransitionSystem Abstract Seen}
    (simulation : Simulation system shows abstract)
    {start finish : State} {before : Abstract} {seen : List Seen}
    (shown : system.Shown shows start seen finish)
    (related : simulation.related start before) :
    ∃ after, abstract.Run before seen after ∧
      simulation.related finish after := by
  induction shown with
  | refl => exact ⟨before, .refl before, related⟩
  | snoc _ step induction =>
      obtain ⟨middle, earlier, stillRelated⟩ := induction
      obtain ⟨after, last, nowRelated⟩ :=
        simulation.matched stillRelated step
      exact ⟨after, earlier.append last, nowRelated⟩

namespace GuardedMachine

variable (machine : GuardedMachine State Label)
  (shows : State → Label → Option Seen)

/-- What some events show. -/
def showing (state : State) : List Label → List Seen
  | [] => []
  | event :: events =>
      match machine.move state event with
      | none => []
      | some next => (shows state event).toList ++ showing next events

variable [∀ state, DecidablePred (machine.enabled state)]

theorem replay_shown {state finish : State} {events : List Label}
    (replayed : machine.replay state events = some finish) :
    machine.system.Shown shows state (machine.showing shows state events)
      finish := by
  induction events generalizing state with
  | nil =>
      rw [← Option.some.inj replayed]
      exact .refl state
  | cons event events induction =>
      rw [replay] at replayed
      split at replayed
      · rename_i enabled
        obtain ⟨next, moved, later⟩ := Option.bind_eq_some_iff.mp replayed
        have first : machine.system.Shown shows state
            ([] ++ (shows state event).toList) next :=
          .snoc (.refl state) ⟨enabled, moved⟩
        rw [showing, moved]
        exact first.append (induction later)
      · cases replayed

theorem shown_after {start : State} {events : List Label}
    (possible : (machine.replay start events).isSome) :
    machine.system.Shown shows start (machine.showing shows start events)
      (machine.after start events) := by
  obtain ⟨finish, replayed⟩ := Option.isSome_iff_exists.mp possible
  rw [after, replayed]
  exact machine.replay_shown shows replayed

end GuardedMachine

end StreamIO.Library
