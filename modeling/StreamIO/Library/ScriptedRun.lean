import Mathlib.Data.List.Basic
import StreamIO.Library.TransitionSystem

/-!
# Runs of a deterministic machine

A machine that is driven by a list of inputs, and properties that hold in
every state it passes through.
-/

namespace StreamIO.Library

variable {State : Type u} {Input : Type v}

/-- The state after a list of inputs. -/
def runInputs (step : State → Input → State) (state : State)
    (inputs : List Input) : State :=
  inputs.foldl step state

/-- The property holds after every initial part of the inputs. -/
def Throughout (step : State → Input → State) (holds : State → Prop)
    (state : State) (inputs : List Input) : Prop :=
  ∀ front, front <+: inputs → holds (runInputs step state front)

/-- Every input is allowed in the state it is given to. -/
def EveryStep (step : State → Input → State)
    (allowed : State → Input → Prop) : State → List Input → Prop
  | _, [] => True
  | state, input :: inputs =>
      allowed state input ∧ EveryStep step allowed (step state input) inputs

instance EveryStep.decidable {step : State → Input → State}
    {allowed : State → Input → Prop}
    [∀ state input, Decidable (allowed state input)] :
    (state : State) → (inputs : List Input) →
      Decidable (EveryStep step allowed state inputs)
  | _, [] => isTrue True.intro
  | state, input :: inputs =>
      have : Decidable (EveryStep step allowed (step state input) inputs) :=
        EveryStep.decidable (step state input) inputs
      inferInstanceAs (Decidable (allowed state input ∧ _))

variable {step : State → Input → State} {holds : State → Prop}

@[simp] theorem runInputs_nil (state : State) :
    runInputs step state [] = state := rfl

@[simp] theorem runInputs_cons (state : State) (input : Input)
    (inputs : List Input) :
    runInputs step state (input :: inputs) =
      runInputs step (step state input) inputs := rfl

theorem runInputs_append (state : State) (first second : List Input) :
    runInputs step state (first ++ second) =
      runInputs step (runInputs step state first) second :=
  List.foldl_append

/-- What every step keeps holds at the end of every run. -/
theorem runInputs_invariant
    (kept : ∀ state input, holds state → holds (step state input))
    {state : State} (start : holds state) (inputs : List Input) :
    holds (runInputs step state inputs) := by
  induction inputs generalizing state with
  | nil => exact start
  | cons input inputs induction => exact induction (kept state input start)

@[simp] theorem throughout_nil (state : State) :
    Throughout step holds state [] ↔ holds state := by
  constructor
  · intro always
    exact always [] (List.nil_prefix)
  · intro now front isPrefix
    rw [List.prefix_nil.mp isPrefix]
    exact now

theorem throughout_cons (state : State) (input : Input)
    (inputs : List Input) :
    Throughout step holds state (input :: inputs) ↔
      holds state ∧ Throughout step holds (step state input) inputs := by
  constructor
  · intro always
    refine ⟨always [] List.nil_prefix, ?_⟩
    intro front isPrefix
    exact always (input :: front) (List.cons_prefix_cons.mpr ⟨rfl, isPrefix⟩)
  · rintro ⟨now, later⟩ front isPrefix
    cases front with
    | nil => exact now
    | cons head front =>
        obtain ⟨rfl, rest⟩ := List.cons_prefix_cons.mp isPrefix
        exact later front rest

theorem throughout_append (state : State) (first second : List Input) :
    Throughout step holds state (first ++ second) ↔
      Throughout step holds state first ∧
        Throughout step holds (runInputs step state first) second := by
  induction first generalizing state with
  | nil =>
      rw [List.nil_append, throughout_nil, runInputs_nil]
      constructor
      · intro always
        exact ⟨always [] List.nil_prefix, always⟩
      · exact And.right
  | cons input first induction =>
      rw [List.cons_append, throughout_cons, throughout_cons, induction,
        runInputs_cons, and_assoc]

/-- A property holds throughout exactly those possible runs whose inputs are
all allowed, if allowed inputs keep an invariant that gives the property, and
any other input spoils the property. -/
theorem throughout_iff_everyStep_via
    {possible allowed : State → Input → Prop} {invariant : State → Prop}
    (sound : ∀ state, invariant state → holds state)
    (kept : ∀ state input, possible state input → invariant state →
      allowed state input → invariant (step state input))
    (spoiled : ∀ state input, possible state input → invariant state →
      ¬allowed state input → ¬holds (step state input))
    {state : State} (start : invariant state) {inputs : List Input}
    (possibly : EveryStep step possible state inputs) :
    Throughout step holds state inputs ↔
      EveryStep step allowed state inputs := by
  induction inputs generalizing state with
  | nil =>
      rw [throughout_nil, EveryStep]
      exact iff_true_intro (sound state start)
  | cons input inputs induction =>
      obtain ⟨possibleNow, possiblyLater⟩ := possibly
      rw [throughout_cons, EveryStep]
      constructor
      · rintro ⟨_, later⟩
        have isAllowed : allowed state input := by
          by_contra other
          exact spoiled state input possibleNow start other
            (later [] List.nil_prefix)
        have next := kept state input possibleNow start isAllowed
        exact ⟨isAllowed, (induction next possiblyLater).mp later⟩
      · rintro ⟨isAllowed, later⟩
        have next := kept state input possibleNow start isAllowed
        exact ⟨sound state start, (induction next possiblyLater).mpr later⟩

/-- When the allowed inputs are exactly those possible ones that keep a
property, it holds throughout the possible runs whose inputs are all allowed,
and only those. -/
theorem throughout_iff_everyStep_of {possible allowed : State → Input → Prop}
    (exactly : ∀ state input, possible state input → holds state →
      (holds (step state input) ↔ allowed state input))
    {state : State} (start : holds state) {inputs : List Input}
    (possibly : EveryStep step possible state inputs) :
    Throughout step holds state inputs ↔
      EveryStep step allowed state inputs := by
  apply throughout_iff_everyStep_via (fun _ now => now) _ _ start possibly
  · intro state input isPossible now isAllowed
    exact (exactly state input isPossible now).mpr isAllowed
  · intro state input isPossible now other next
    exact other ((exactly state input isPossible now).mp next)

/-- Two conditions on inputs that agree wherever an invariant holds agree on
whole runs, if one of them keeps the invariant. -/
theorem everyStep_congr {first second : State → Input → Prop}
    {invariant : State → Prop}
    (agree : ∀ state input, invariant state →
      (first state input ↔ second state input))
    (kept : ∀ state input, invariant state → second state input →
      invariant (step state input))
    {state : State} (start : invariant state) (inputs : List Input) :
    EveryStep step first state inputs ↔
      EveryStep step second state inputs := by
  induction inputs generalizing state with
  | nil => exact Iff.rfl
  | cons input inputs induction =>
      rw [EveryStep, EveryStep, agree state input start]
      constructor
      · rintro ⟨now, later⟩
        exact ⟨now, (induction (kept state input start now)).mp later⟩
      · rintro ⟨now, later⟩
        exact ⟨now, (induction (kept state input start now)).mpr later⟩

theorem everyStep_append {allowed : State → Input → Prop} (state : State)
    (first second : List Input) :
    EveryStep step allowed state (first ++ second) ↔
      EveryStep step allowed state first ∧
        EveryStep step allowed (runInputs step state first) second := by
  induction first generalizing state with
  | nil =>
      rw [List.nil_append, EveryStep, true_and, runInputs_nil]
  | cons input first induction =>
      rw [List.cons_append, EveryStep, EveryStep, induction, runInputs_cons,
        and_assoc]

theorem everyStep_of_always {allowed : State → Input → Prop}
    {inputs : List Input}
    (always : ∀ input ∈ inputs, ∀ state, allowed state input)
    (state : State) : EveryStep step allowed state inputs := by
  induction inputs generalizing state with
  | nil => exact True.intro
  | cons input inputs induction =>
      refine ⟨always input (by simp) state, ?_⟩
      apply induction
      intro later member
      exact always later (by simp [member])

theorem throughout_iff_everyStep {allowed : State → Input → Prop}
    (exactly : ∀ state input, holds state →
      (holds (step state input) ↔ allowed state input))
    {state : State} (start : holds state) (inputs : List Input) :
    Throughout step holds state inputs ↔
      EveryStep step allowed state inputs :=
  throughout_iff_everyStep_of (fun state input _ => exactly state input)
    start (everyStep_of_always (fun _ _ _ => True.intro) state)

theorem EveryStep.run {system : TransitionSystem State Input}
    {allowed : State → Input → Prop}
    (steps : ∀ state input, allowed state input →
      system.step state input (step state input))
    {state : State} {inputs : List Input}
    (every : EveryStep step allowed state inputs) :
    system.Run state inputs (runInputs step state inputs) := by
  induction inputs generalizing state with
  | nil => exact .refl state
  | cons input inputs induction =>
      obtain ⟨now, later⟩ := every
      have first : system.Run state [input] (step state input) :=
        .single (steps state input now)
      exact first.append (induction later)

theorem Throughout.now {state : State} {inputs : List Input}
    (always : Throughout step holds state inputs) : holds state :=
  always [] List.nil_prefix

theorem Throughout.last {state : State} {inputs : List Input}
    (always : Throughout step holds state inputs) :
    holds (runInputs step state inputs) :=
  always inputs (List.prefix_refl inputs)

end StreamIO.Library
