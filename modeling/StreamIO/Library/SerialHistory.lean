import Mathlib.Data.List.Basic

/-!
# Serial histories

Several clients use one object.  A serial history is the order in which their
operations take effect; run on the object alone it says what every operation
returns, and each client sees its own part of it.
-/

namespace StreamIO.Library

variable {Client : Type u} {Object : Type v} {Operation : Type w}
  {Value : Type x}

/-- One client after another applies an operation to the object. -/
def serialRun (apply : Object → Operation → Object × List Value) :
    Object → List (Client × Operation) → Object × List (Client × Value)
  | object, [] => (object, [])
  | object, (client, operation) :: history =>
      let (object, first) := apply object operation
      let (object, later) := serialRun apply object history
      (object, first.map (Prod.mk client) ++ later)

section SerialRun

variable (apply : Object → Operation → Object × List Value)
  (object : Object)

theorem serialRun_cons (client : Client) (operation : Operation)
    (history : List (Client × Operation)) :
    serialRun apply object ((client, operation) :: history) =
      ((serialRun apply (apply object operation).1 history).1,
        (apply object operation).2.map (Prod.mk client) ++
          (serialRun apply (apply object operation).1 history).2) := rfl

theorem serialRun_append (first second : List (Client × Operation)) :
    serialRun apply object (first ++ second) =
      ((serialRun apply (serialRun apply object first).1 second).1,
        (serialRun apply object first).2 ++
          (serialRun apply (serialRun apply object first).1 second).2) := by
  induction first generalizing object with
  | nil => rfl
  | cons head first induction =>
      obtain ⟨client, operation⟩ := head
      rw [List.cons_append, serialRun_cons, induction, serialRun_cons]
      simp only [List.append_assoc]

end SerialRun

variable [DecidableEq Client]

/-- What belongs to one client. -/
def ofClient (client : Client) (history : List (Client × Operation)) :
    List Operation :=
  (history.filter fun entry => entry.1 = client).map Prod.snd

theorem ofClient_cons_same (client : Client) (operation : Operation)
    (history : List (Client × Operation)) :
    ofClient client ((client, operation) :: history) =
      operation :: ofClient client history := by
  simp [ofClient]

theorem ofClient_cons_other {client other : Client} (apart : other ≠ client)
    (operation : Operation) (history : List (Client × Operation)) :
    ofClient client ((other, operation) :: history) =
      ofClient client history := by
  simp [ofClient, apart]

@[simp] theorem ofClient_append (client : Client)
    (first second : List (Client × Operation)) :
    ofClient client (first ++ second) =
      ofClient client first ++ ofClient client second := by
  simp [ofClient]

@[simp] theorem ofClient_same (client : Client)
    (operations : List Operation) :
    ofClient client (operations.map (Prod.mk client)) = operations := by
  simp [ofClient, List.filter_map, Function.comp_def]

theorem ofClient_other {client other : Client} (apart : other ≠ client)
    (operations : List Operation) :
    ofClient client (operations.map (Prod.mk other)) = [] := by
  simp [ofClient, apart]

/-- A client alone decides the order. -/
theorem ofClient_alone {client : Client}
    {history : List (Client × Operation)}
    (alone : ∀ other, other ≠ client → ofClient other history = []) :
    history = (ofClient client history).map (Prod.mk client) := by
  induction history with
  | nil => rfl
  | cons head history induction =>
      obtain ⟨mover, operation⟩ := head
      by_cases same : mover = client
      · subst same
        have others : ∀ other, other ≠ mover →
            ofClient other history = [] := by
          intro other apart
          rw [← ofClient_cons_other apart.symm operation]
          exact alone other apart
        rw [ofClient_cons_same, List.map_cons, ← induction others]
      · have none := alone mover same
        rw [ofClient_cons_same] at none
        cases none

end StreamIO.Library
