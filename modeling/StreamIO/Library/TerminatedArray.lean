import Mathlib.Data.List.Basic

/-!
# Arrays that end with a terminator

An allocated array is the list of its cells.  Every access gives the cell or
fails, so a computation that does not fail has stayed inside its arrays.  The
items of a terminated array are the cells before the first terminator.
-/

namespace StreamIO.Library

variable {Cell : Type u}

/-- Store into a cell. -/
def writeCell (cells : List Cell) (index : Nat) (cell : Cell) :
    Option (List Cell) :=
  if index < cells.length then some (cells.set index cell) else none

/-- The number of cells before the first terminator. -/
def scanLength (isEnd : Cell → Bool) : List Cell → Option Nat
  | [] => none
  | cell :: cells =>
      if isEnd cell then some 0 else (scanLength isEnd cells).map (· + 1)

/-- Copy the first cells of an array, one after the other. -/
def copyCells (source : List Cell) : Nat → List Cell → Option (List Cell)
  | 0, target => some target
  | count + 1, target => do
      let target ← copyCells source count target
      let cell ← source[count]?
      writeCell target count cell

theorem writeCell_of_lt {cells : List Cell} {index : Nat}
    (inside : index < cells.length) (cell : Cell) :
    writeCell cells index cell = some (cells.set index cell) :=
  if_pos inside

theorem scanLength_terminated {isEnd : Cell → Bool} {items : List Cell}
    {terminator : Cell} (before : ∀ item ∈ items, isEnd item = false)
    (ends : isEnd terminator = true) (rest : List Cell) :
    scanLength isEnd (items ++ terminator :: rest) = some items.length := by
  induction items with
  | nil => simp [scanLength, ends]
  | cons item items induction =>
      have later : ∀ other ∈ items, isEnd other = false := by
        intro other member
        exact before other (by simp [member])
      have first : isEnd item = false := before item (by simp)
      simp [scanLength, first, induction later]

/-- Copying stays inside both arrays if both are long enough. -/
theorem copyCells_eq {source target : List Cell} {count : Nat}
    (inSource : count ≤ source.length) (inTarget : count ≤ target.length) :
    copyCells source count target =
      some (source.take count ++ target.drop count) := by
  induction count with
  | zero => simp [copyCells]
  | succ count induction =>
      have length : (source.take count).length = count := by
        rw [List.length_take]
        omega
      have inside : count <
          (source.take count ++ target.drop count).length := by
        rw [List.length_append, length, List.length_drop]
        omega
      have cell : target.drop count =
          target[count] :: target.drop (count + 1) :=
        List.drop_eq_getElem_cons inTarget
      simp only [copyCells, induction (by omega) (by omega),
        Option.bind_eq_bind, Option.bind_some,
        List.getElem?_eq_getElem inSource, writeCell_of_lt inside]
      rw [List.set_append_right _ _ (by omega), length, Nat.sub_self, cell,
        List.set_cons_zero, List.take_add_one,
        List.getElem?_eq_getElem inSource, Option.toList_some,
        List.append_assoc, List.singleton_append]

end StreamIO.Library
