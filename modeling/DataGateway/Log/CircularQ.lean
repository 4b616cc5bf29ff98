import DataGateway.Foundation.Ring

/-!
# The queue of `spdlog`

`circular_q` (`spdlog/details/circular_q.h`) is a view of a vector.  One item is
reserved as a marker for the full queue, so that the vector is one longer than
what it is asked to hold; the sum is that of `size_t`, and a queue of which it
wraps to zero is disabled.
-/

namespace DataGateway.Log

open Foundation

structure CircularQ (α : Type*) where
  maxItems : Nat
  head : Nat
  tail : Nat
  overrunCounter : Nat
  v : List α
  length_v : v.length = maxItems
  head_lt : head < max 1 maxItems
  tail_lt : tail < max 1 maxItems

namespace CircularQ

variable {α : Type*}

/-- The constructor, which fills the vector with default items. -/
def construct [Inhabited α] (maxItems : Nat) : CircularQ α :=
  { maxItems := (maxItems + 1) % UInt64.size
    head := 0
    tail := 0
    overrunCounter := 0
    v := List.replicate ((maxItems + 1) % UInt64.size) default
    length_v := List.length_replicate
    head_lt := Nat.lt_of_lt_of_le Nat.zero_lt_one (Nat.le_max_left _ _)
    tail_lt := Nat.lt_of_lt_of_le Nat.zero_lt_one (Nat.le_max_left _ _) }

variable (queue : CircularQ α)

def empty : Bool := queue.tail = queue.head

def full : Bool :=
  if 0 < queue.maxItems then (queue.tail + 1) % queue.maxItems = queue.head
  else false

def size : Nat :=
  if queue.head ≤ queue.tail then queue.tail - queue.head
  else queue.maxItems - (queue.head - queue.tail)

theorem mod_lt_max {index maxItems : Nat} (positive : 0 < maxItems) :
    index % maxItems < max 1 maxItems :=
  Nat.lt_of_lt_of_le (Nat.mod_lt _ positive) (Nat.le_max_right _ _)

/-- Where there is no room the oldest item is overrun. -/
def pushBack (item : α) : CircularQ α :=
  if positive : 0 < queue.maxItems then
    let tail := (queue.tail + 1) % queue.maxItems
    { queue with
      v := queue.v.set queue.tail item
      tail := tail
      head := if tail = queue.head then (queue.head + 1) % queue.maxItems
        else queue.head
      overrunCounter := if tail = queue.head then
          (queue.overrunCounter + 1) % UInt64.size
        else queue.overrunCounter
      length_v := by rw [List.length_set, queue.length_v]
      head_lt := by
        split
        · exact mod_lt_max positive
        · exact queue.head_lt
      tail_lt := mod_lt_max positive }
  else queue

theorem maxItems_pos {queue : CircularQ α} (some_ : queue.empty = false) :
    0 < queue.maxItems := by
  have head := queue.head_lt
  have tail := queue.tail_lt
  have different : queue.tail ≠ queue.head := of_decide_eq_false some_
  omega

/-- Of an empty queue there is no front item. -/
def front (some_ : queue.empty = false) : α :=
  queue.v.get ⟨queue.head, by
    have positive := maxItems_pos some_
    have head := queue.head_lt
    rw [queue.length_v]
    omega⟩

def popFront (some_ : queue.empty = false) : CircularQ α :=
  { queue with
    head := (queue.head + 1) % queue.maxItems
    head_lt := mod_lt_max (maxItems_pos some_) }

/-- The items that are stored, the oldest first. -/
def items : List α := window queue.v queue.head queue.size

/-- How many items there is room for. -/
def capacity : Nat := queue.maxItems - 1

section

variable {queue : CircularQ α} {item : α}

theorem succ_mod {index count : Nat} (inside : index < count) :
    (index + 1) % count = if index + 1 = count then 0 else index + 1 := by
  split
  · next last => rw [last, Nat.mod_self]
  · next more => exact Nat.mod_eq_of_lt (by omega)

theorem size_lt (positive : 0 < queue.maxItems) : queue.size < queue.maxItems := by
  have head := queue.head_lt
  have tail := queue.tail_lt
  unfold size
  split <;> omega

private theorem size_of_disabled (disabled : queue.maxItems = 0) : queue.size = 0 := by
  have head := queue.head_lt
  have tail := queue.tail_lt
  unfold size
  split <;> omega

private theorem tail_eq (positive : 0 < queue.maxItems) :
    queue.tail = (queue.head + queue.size) % queue.maxItems := by
  have head := queue.head_lt
  have tail := queue.tail_lt
  unfold size
  split
  · next order =>
      rw [Nat.add_sub_cancel' order, Nat.mod_eq_of_lt (by omega)]
  · next order =>
      have round : queue.head + (queue.maxItems - (queue.head - queue.tail)) =
          queue.tail + queue.maxItems := by omega
      rw [round, Nat.add_mod_right, Nat.mod_eq_of_lt (by omega)]

@[simp]
theorem length_items (queue : CircularQ α) : queue.items.length = queue.size := by
  apply length_window
  rw [queue.length_v]
  rcases Nat.eq_zero_or_pos queue.maxItems with disabled | positive
  · rw [size_of_disabled disabled]
    exact Nat.zero_le _
  · exact (size_lt positive).le

theorem empty_iff (queue : CircularQ α) : queue.empty = true ↔ queue.items = [] := by
  have head := queue.head_lt
  have tail := queue.tail_lt
  rw [← List.length_eq_zero_iff, length_items, empty, decide_eq_true_iff]
  unfold size
  split <;> omega

theorem full_iff (queue : CircularQ α) :
    queue.full = true ↔
      0 < queue.maxItems ∧ queue.items.length = queue.capacity := by
  have head := queue.head_lt
  have tail := queue.tail_lt
  rw [length_items, capacity, full]
  by_cases positive : 0 < queue.maxItems
  · rw [if_pos positive, decide_eq_true_iff, succ_mod (by omega)]
    unfold size
    split <;> split <;> omega
  · rw [if_neg positive]
    simp [positive]

@[simp]
theorem items_construct [Inhabited α] (maxItems : Nat) :
    (construct maxItems : CircularQ α).items = [] :=
  (empty_iff _).mp (decide_eq_true rfl)

@[simp]
theorem maxItems_pushBack (queue : CircularQ α) (item : α) :
    (queue.pushBack item).maxItems = queue.maxItems := by
  unfold pushBack
  split <;> rfl

@[simp]
theorem maxItems_popFront (some_ : queue.empty = false) :
    (queue.popFront some_).maxItems = queue.maxItems := rfl

theorem pushBack_of_disabled (disabled : queue.maxItems = 0) :
    queue.pushBack item = queue := by
  unfold pushBack
  rw [dif_neg (by omega)]

theorem window_pushBack (positive : 0 < queue.maxItems) :
    window (queue.v.set queue.tail item) queue.head (queue.size + 1) =
      queue.items ++ [item] := by
  have bound : queue.size < queue.v.length := by
    rw [queue.length_v]
    exact size_lt positive
  rw [tail_eq positive, ← queue.length_v]
  exact window_set item bound

theorem items_pushBack (positive : 0 < queue.maxItems) (room : queue.full = false) :
    (queue.pushBack item).items = queue.items ++ [item] := by
  have head := queue.head_lt
  have tail := queue.tail_lt
  have next : (queue.tail + 1) % queue.maxItems ≠ queue.head := by
    simpa [full, positive] using room
  rw [← window_pushBack positive]
  unfold pushBack items
  simp only [dif_pos positive, if_neg next]
  congr 1
  have step := succ_mod (show queue.tail < queue.maxItems by omega)
  rw [step] at next
  simp only [size, step]
  split_ifs at next ⊢ <;> omega

private theorem items_popFront (some_ : queue.empty = false) :
    (queue.popFront some_).items = queue.items.tail := by
  have positive := maxItems_pos some_
  have head := queue.head_lt
  have tail := queue.tail_lt
  have different : queue.tail ≠ queue.head := of_decide_eq_false some_
  have fits := size_lt positive
  obtain ⟨rest, size⟩ : ∃ rest, queue.size = rest + 1 := by
    refine ⟨queue.size - 1, ?_⟩
    unfold CircularQ.size
    split <;> omega
  have less : (queue.popFront some_).size = rest := by
    have step := succ_mod (show queue.head < queue.maxItems by omega)
    simp only [CircularQ.size, popFront, step] at size ⊢
    split_ifs at size ⊢ <;> omega
  unfold items
  rw [less, size, ← window_tail (by rw [queue.length_v]; omega), queue.length_v]
  rfl

private theorem head?_items (some_ : queue.empty = false) :
    queue.items.head? = some (queue.front some_) := by
  have positive := maxItems_pos some_
  have head := queue.head_lt
  have stored : queue.items ≠ [] := by
    intro none
    rw [(empty_iff queue).mpr none] at some_
    cases some_
  have count : 0 < queue.size := by
    rw [← length_items]
    exact List.length_pos_iff.mpr stored
  unfold items
  rw [head?_window count (by rw [queue.length_v]; omega)]
  exact List.getElem?_eq_getElem _

theorem items_eq_cons (some_ : queue.empty = false) :
    queue.items = queue.front some_ :: (queue.popFront some_).items := by
  rw [items_popFront]
  exact List.eq_cons_of_mem_head? (head?_items some_)

end

end CircularQ

end DataGateway.Log
