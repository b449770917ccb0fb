import Mathlib.Algebra.Order.BigOperators.Group.Finset
import Mathlib.Data.Fintype.BigOperators

/-!
# Tallies over the parties of a system

Every party stands somewhere, and every place has a weight.  When one party
moves, the sum of the weights changes by the weights of its two places.
-/

namespace StreamIO.Library

variable {Party : Type u} [Fintype Party] [DecidableEq Party]
  {Place : Type v} {Weight : Type w} [AddCommMonoid Weight]

/-- The weights of all places where a party stands, summed up. -/
def tally (weight : Place → Weight) (place : Party → Place) : Weight :=
  ∑ party, weight (place party)

omit [DecidableEq Party] in
@[simp] theorem tally_const (weight : Place → Nat) (place : Place) :
    tally weight (fun _ : Party => place) =
      Fintype.card Party * weight place := by
  simp [tally]

omit [DecidableEq Party] in
theorem tally_add (first second : Place → Weight) (place : Party → Place) :
    tally (fun spot => first spot + second spot) place =
      tally first place + tally second place :=
  Finset.sum_add_distrib

theorem tally_split (weight : Place → Weight) (place : Party → Place)
    (party : Party) :
    tally weight place =
      weight (place party) +
        ∑ other ∈ Finset.univ.erase party, weight (place other) :=
  (Finset.add_sum_erase _ _ (Finset.mem_univ party)).symm

theorem tally_update (weight : Place → Weight) (place : Party → Place)
    (party : Party) (next : Place) :
    tally weight (Function.update place party next) + weight (place party) =
      tally weight place + weight next := by
  have others :
      ∑ other ∈ Finset.univ.erase party,
          weight (Function.update place party next other) =
        ∑ other ∈ Finset.univ.erase party, weight (place other) := by
    apply Finset.sum_congr rfl
    intro other member
    rw [Function.update_of_ne (Finset.ne_of_mem_erase member)]
  rw [tally_split weight (Function.update place party next) party,
    tally_split weight place party, others, Function.update_self]
  ac_rfl

section Counted

variable {weight : Place → Nat} {place : Party → Place} {party : Party}

theorem le_tally : weight (place party) ≤ tally weight place := by
  rw [tally_split weight place party]
  exact Nat.le_add_right _ _

theorem add_le_tally (weight : Place → Nat) (place : Party → Place)
    {left right : Party} (apart : left ≠ right) :
    weight (place left) + weight (place right) ≤ tally weight place := by
  rw [tally_split weight place left]
  apply Nat.add_le_add_left
  have member : right ∈ Finset.univ.erase left :=
    Finset.mem_erase.mpr ⟨apart.symm, Finset.mem_univ right⟩
  exact Finset.single_le_sum_of_canonicallyOrdered
    (f := fun other => weight (place other)) member

omit [DecidableEq Party] in
theorem tally_eq_zero :
    tally weight place = 0 ↔ ∀ party, weight (place party) = 0 := by
  simp [tally, Finset.sum_eq_zero_iff]

omit [DecidableEq Party] in
theorem tally_pos :
    0 < tally weight place ↔ ∃ party, 0 < weight (place party) := by
  rw [Nat.pos_iff_ne_zero, ne_eq, tally_eq_zero]
  simp [Nat.pos_iff_ne_zero]

omit [DecidableEq Party] in
theorem tally_le_card (bounded : ∀ place, weight place ≤ 1) :
    tally weight place ≤ Fintype.card Party := by
  have each : tally weight place ≤ ∑ _ : Party, 1 :=
    Finset.sum_le_sum fun party _ => bounded (place party)
  simpa using each

end Counted

end StreamIO.Library
