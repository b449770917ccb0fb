import Mathlib.Data.List.Basic

/-!
# The layout of C structures

Where a compiler puts the members of a structure, and the elements of an
array of structures.
-/

namespace StreamIO.Library

variable {Name : Type u}

/-- A member with the size and the alignment of its type. -/
structure Member (Name : Type u) where
  name : Name
  size : Nat
  alignment : Nat

/-- The next multiple of the alignment. -/
def alignUp (offset alignment : Nat) : Nat :=
  (offset + (alignment - 1)) / alignment * alignment

/-- Where the member of a name is put, the members starting at an offset. -/
def offsetFrom [DecidableEq Name] :
    (start : Nat) → List (Member Name) → Name → Nat
  | start, [], _ => start
  | start, member :: members, name =>
      let offset := alignUp start member.alignment
      if member.name = name then offset
      else offsetFrom (offset + member.size) members name

/-- `offsetof`. -/
def offsetOf [DecidableEq Name] (members : List (Member Name))
    (name : Name) : Nat :=
  offsetFrom 0 members name

/-- The end of the last member. -/
def endFrom : (start : Nat) → List (Member Name) → Nat
  | start, [] => start
  | start, member :: members =>
      endFrom (alignUp start member.alignment + member.size) members

/-- The alignment of a structure, at least what is asked for. -/
def structAlignment (aligned : Nat) (members : List (Member Name)) : Nat :=
  members.foldl (fun alignment member => max alignment member.alignment)
    aligned

/-- `sizeof`, with the padding at the end. -/
def structSize (aligned : Nat) (members : List (Member Name)) : Nat :=
  alignUp (endFrom 0 members) (structAlignment aligned members)

/-- An element and a byte in it are given by the byte of the array. -/
theorem element_unique {size first second left right : Nat}
    (leftInside : left < size) (rightInside : right < size)
    (same : first * size + left = second * size + right) :
    first = second ∧ left = right := by
  have positive : 0 < size := Nat.lt_of_le_of_lt (Nat.zero_le left) leftInside
  have quotient := congrArg (· / size) same
  have remainder := congrArg (· % size) same
  simp only [Nat.mul_comm _ size, Nat.mul_add_mod,
    Nat.mul_add_div positive, Nat.div_eq_of_lt leftInside,
    Nat.div_eq_of_lt rightInside, Nat.mod_eq_of_lt leftInside,
    Nat.mod_eq_of_lt rightInside, Nat.add_zero] at quotient remainder
  exact ⟨quotient, remainder⟩

end StreamIO.Library
