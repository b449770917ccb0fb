import Mathlib.Data.List.Basic

/-!
# Labelled transition systems

A system is a labelled step relation.  `Run` is the finite run along a list
of labels; the rules below are the induction principles the development uses:
a property preserved by every step holds at the end of every run, and a
measure lowered by every step bounds the length of every run.
-/

namespace StreamIO.Library

/-- A labelled step relation. -/
structure TransitionSystem (State : Type u) (Label : Type v) where
  step : State → Label → State → Prop

namespace TransitionSystem

/-- Finite runs, extended at their end. -/
inductive Run (system : TransitionSystem State Label) :
    State → List Label → State → Prop where
  | refl (state : State) : Run system state [] state
  | snoc {start middle finish : State} {labels : List Label}
      {label : Label} :
      Run system start labels middle →
      system.step middle label finish →
      Run system start (labels ++ [label]) finish

/-- A state some run from `start` ends in. -/
def Reachable (system : TransitionSystem State Label)
    (start finish : State) : Prop :=
  ∃ labels, system.Run start labels finish

/-- No step leaves the state. -/
def Stuck (system : TransitionSystem State Label) (state : State) : Prop :=
  ∀ label next, ¬system.step state label next

theorem Reachable.refl (system : TransitionSystem State Label)
    (state : State) : system.Reachable state state :=
  ⟨[], .refl state⟩

theorem Reachable.step {system : TransitionSystem State Label}
    {start middle finish : State} {label : Label}
    (reached : system.Reachable start middle)
    (next : system.step middle label finish) :
    system.Reachable start finish := by
  obtain ⟨labels, run⟩ := reached
  exact ⟨labels ++ [label], .snoc run next⟩

theorem Reachable.trans {system : TransitionSystem State Label}
    {start middle finish : State}
    (first : system.Reachable start middle)
    (second : system.Reachable middle finish) :
    system.Reachable start finish := by
  obtain ⟨labels, run⟩ := second
  induction run with
  | refl => exact first
  | snoc _ next induction => exact induction.step next

theorem Run.append {system : TransitionSystem State Label}
    {start middle finish : State} {first second : List Label}
    (earlier : system.Run start first middle)
    (later : system.Run middle second finish) :
    system.Run start (first ++ second) finish := by
  induction later with
  | refl =>
      rw [List.append_nil]
      exact earlier
  | snoc _ next induction =>
      rw [← List.append_assoc]
      exact .snoc induction next

theorem Run.single {system : TransitionSystem State Label}
    {start finish : State} {label : Label}
    (step : system.step start label finish) :
    system.Run start [label] finish :=
  .snoc (.refl start) step

/-- Invariant rule: what holds at the start and is kept by every step holds
at the end of every run. -/
theorem Run.invariant {system : TransitionSystem State Label}
    {start finish : State} {labels : List Label}
    (run : system.Run start labels finish)
    (holds : State → Prop) (initially : holds start)
    (preserved : ∀ state label next, holds state →
      system.step state label next → holds next) :
    holds finish := by
  induction run with
  | refl => exact initially
  | snoc _ step induction => exact preserved _ _ _ induction step

theorem Reachable.invariant {system : TransitionSystem State Label}
    {start finish : State}
    (reached : system.Reachable start finish)
    (holds : State → Prop) (initially : holds start)
    (preserved : ∀ state label next, holds state →
      system.step state label next → holds next) :
    holds finish := by
  obtain ⟨labels, run⟩ := reached
  exact run.invariant holds initially preserved

/-- Termination rule: a measure that every step from a good state lowers
bounds the length of every run. -/
theorem Run.length_le_measure {system : TransitionSystem State Label}
    {start finish : State} {labels : List Label}
    (run : system.Run start labels finish)
    (holds : State → Prop) (initially : holds start)
    (preserved : ∀ state label next, holds state →
      system.step state label next → holds next)
    (measure : State → Nat)
    (lowered : ∀ state label next, holds state →
      system.step state label next → measure next < measure state) :
    labels.length + measure finish ≤ measure start := by
  induction run with
  | refl => simp
  | snoc earlier step induction =>
      have middleHolds := earlier.invariant holds initially preserved
      have decrease := lowered _ _ _ middleHolds step
      simp only [List.length_append, List.length_cons, List.length_nil]
      omega

/-- A system whose every step lowers a measure comes to rest. -/
theorem exists_stuck (system : TransitionSystem State Label)
    (measure : State → Nat)
    (lowered : ∀ state label next, system.step state label next →
      measure next < measure state) (start : State) :
    ∃ finish, system.Reachable start finish ∧ system.Stuck finish := by
  induction size : measure start using Nat.strongRecOn
    generalizing start with
  | ind bound induction =>
      by_cases stuck : system.Stuck start
      · exact ⟨start, .refl system start, stuck⟩
      · simp only [Stuck, not_forall, not_not] at stuck
        obtain ⟨label, next, step⟩ := stuck
        have smaller := lowered start label next step
        obtain ⟨finish, reached, rest⟩ :=
          induction (measure next) (size ▸ smaller) next rfl
        exact ⟨finish, ((Reachable.refl system start).step step).trans
          reached, rest⟩

end TransitionSystem

end StreamIO.Library
