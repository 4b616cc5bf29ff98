import Mathlib.Data.List.Rotate

/-!
# Windows of a ring

A ring is a list of cells whose last cell is followed by the first.  What a queue
keeps in it is a window: so many cells, from the head on.
-/

namespace DataGateway.Foundation

variable {α : Type*}

/-- So many cells of the ring, from the head on. -/
def window (cells : List α) (head count : Nat) : List α :=
  (cells.rotate head).take count

section

variable {cells : List α} {head count : Nat}

@[simp]
theorem window_zero (cells : List α) (head : Nat) : window cells head 0 = [] :=
  List.take_zero

theorem length_window (bound : count ≤ cells.length) :
    (window cells head count).length = count := by
  rw [window, List.length_take, List.length_rotate, Nat.min_eq_left bound]

theorem window_mod (cells : List α) (head count : Nat) :
    window cells (head % cells.length) count = window cells head count := by
  rw [window, List.rotate_mod, window]

/-- Two places of the ring that are less than a round apart are different. -/
theorem add_mod_ne {index : Nat} (before : index < count)
    (bound : count < cells.length) :
    (index + head) % cells.length ≠ (count + head) % cells.length := by
  intro same
  have rounds := Nat.dvd_of_mod_eq_zero (Nat.sub_mod_eq_zero_of_mod_eq same.symm)
  have whole := Nat.le_of_dvd (by omega) rounds
  omega

/-- The cell behind the window is filled, and the window grows by it. -/
theorem window_set (value : α) (bound : count < cells.length) :
    window (cells.set ((head + count) % cells.length) value) head (count + 1) =
      window cells head count ++ [value] := by
  have inside : (head + count) % cells.length < cells.length :=
    Nat.mod_lt _ (by omega)
  unfold window
  rw [List.take_add_one]
  congr 1
  · apply List.ext_getElem?
    intro index
    by_cases before : index < count
    · rw [List.getElem?_take_of_lt before, List.getElem?_take_of_lt before,
        List.getElem?_rotate (by rw [List.length_set]; omega),
        List.getElem?_rotate (by omega), List.length_set, List.getElem?_set_ne]
      rw [Nat.add_comm head]
      exact (add_mod_ne before bound).symm
    · rw [List.getElem?_take, List.getElem?_take, if_neg before, if_neg before]
  · rw [List.getElem?_rotate (by rw [List.length_set]; exact bound), List.length_set,
      Nat.add_comm count, List.getElem?_set_self inside]
    rfl

/-- The head moves on, and the window loses its first cell. -/
theorem window_tail (bound : count < cells.length) :
    window cells ((head + 1) % cells.length) count =
      (window cells head (count + 1)).tail := by
  rw [window_mod]
  unfold window
  rw [← List.rotate_rotate]
  cases rotated : cells.rotate head with
  | nil =>
      have length := congrArg List.length rotated
      rw [List.length_rotate, List.length_nil] at length
      omega
  | cons first rest =>
      have length := congrArg List.length rotated
      rw [List.length_rotate, List.length_cons] at length
      rw [List.rotate_cons_succ, List.rotate_zero, List.take_succ_cons,
        List.tail_cons, List.take_append_of_le_length (by omega)]

theorem head?_window (positive : 0 < count) (inside : head < cells.length) :
    (window cells head count).head? = cells[head]? := by
  unfold window
  rw [List.head?_take, if_neg (by omega), List.head?_rotate inside]

end

end DataGateway.Foundation
