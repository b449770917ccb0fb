import Mathlib.Data.List.Basic

/-!
# A stream cut into blocks

A stream that was cut into blocks of one size, up to a rest shorter than that:
the blocks are determined by the stream.
-/

namespace StreamIO.Library

variable {Item : Type u} {blocks : List (List Item)} {size : Nat}

/-- The block of a stream with this number. -/
def blockAt (size : Nat) (stream : List Item) (turn : Nat) : List Item :=
  (stream.drop (turn * size)).take size

theorem length_flatten_of_blocks
    (whole : ∀ block ∈ blocks, block.length = size) :
    blocks.flatten.length = blocks.length * size := by
  induction blocks with
  | nil => simp
  | cons block blocks induction =>
      have rest := induction fun other member =>
        whole other (List.mem_cons_of_mem _ member)
      rw [List.flatten_cons, List.length_append, rest,
        whole block List.mem_cons_self, List.length_cons, Nat.succ_mul,
        Nat.add_comm]

theorem blockAt_eq (whole : ∀ block ∈ blocks, block.length = size)
    (rest : List Item) {turn : Nat} {block : List Item}
    (found : blocks[turn]? = some block) :
    blockAt size (blocks.flatten ++ rest) turn = block := by
  induction blocks generalizing turn with
  | nil => cases found
  | cons first blocks induction =>
      have length := whole first List.mem_cons_self
      have others : ∀ other ∈ blocks, other.length = size :=
        fun other member => whole other (List.mem_cons_of_mem _ member)
      rw [List.flatten_cons, List.append_assoc, blockAt]
      cases turn with
      | zero =>
          rw [List.getElem?_cons_zero, Option.some.injEq] at found
          rw [Nat.zero_mul, List.drop_zero, ← length, List.take_left, found]
      | succ turn =>
          rw [List.getElem?_cons_succ] at found
          rw [Nat.succ_mul, Nat.add_comm, ← List.drop_drop]
          have dropped : (first ++ (blocks.flatten ++ rest)).drop size =
              blocks.flatten ++ rest := by
            rw [← length, List.drop_left]
          rw [dropped]
          exact induction others found

theorem length_blocks (whole : ∀ block ∈ blocks, block.length = size)
    {rest : List Item} (short : rest.length < size) :
    blocks.length = (blocks.flatten ++ rest).length / size := by
  rw [List.length_append, length_flatten_of_blocks whole, Nat.add_comm,
    Nat.add_mul_div_right _ _ (Nat.lt_of_le_of_lt (Nat.zero_le _) short),
    Nat.div_eq_of_lt short, Nat.zero_add]

/-- Before its end the stream has the blocks of every longer one. -/
theorem blockAt_of_isPrefix {stream longer : List Item}
    (isPrefix : stream <+: longer) {turn : Nat}
    (inside : (turn + 1) * size ≤ stream.length) :
    blockAt size longer turn = blockAt size stream turn := by
  obtain ⟨rest, split⟩ := isPrefix
  rw [Nat.succ_mul] at inside
  have room : size ≤ (stream.drop (turn * size)).length := by
    rw [List.length_drop]
    omega
  rw [blockAt, blockAt, ← split, List.drop_append_of_le_length (by omega),
    List.take_append_of_le_length room]

end StreamIO.Library
