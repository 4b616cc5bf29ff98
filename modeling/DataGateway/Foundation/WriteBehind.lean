import Mathlib.Algebra.Order.Group.Multiset
import Mathlib.Algebra.BigOperators.Group.Multiset.Basic
import Mathlib.Tactic.Abel

/-!
# Writing behind a buffer

Several writers put items into one buffer.  A writer whose item must be safe
flushes before it is through, and a flush saves whatever it finds, the items of
others included.
-/

namespace DataGateway.Foundation

variable {α Writer : Type*}

/-- `stored` is safe and `pending` is in the buffer.  Of the items of writers that
are not through, those in `due` must be flushed first and those in `settled`
need nothing more. -/
structure WriteBehind (α : Type*) where
  stored : Multiset α
  pending : Multiset α
  due : Multiset α
  settled : Multiset α
  finished : Multiset α

namespace WriteBehind

variable (must : α → Prop) [DecidablePred must]

inductive Step : WriteBehind α → WriteBehind α → Prop
  | writeDue (item : α) (stored pending due settled finished : Multiset α) :
      Step ⟨stored, pending, due, settled, finished⟩
        ⟨stored, item ::ₘ pending, item ::ₘ due, settled, finished⟩
  | writeSettled (item : α) (stored pending due settled finished : Multiset α)
      (free : ¬must item) :
      Step ⟨stored, pending, due, settled, finished⟩
        ⟨stored, item ::ₘ pending, due, item ::ₘ settled, finished⟩
  | flush (stored pending relieved due settled finished : Multiset α) :
      Step ⟨stored, pending, relieved + due, settled, finished⟩
        ⟨stored + pending, 0, due, relieved + settled, finished⟩
  | finish (item : α) (stored pending due settled finished : Multiset α) :
      Step ⟨stored, pending, due, item ::ₘ settled, finished⟩
        ⟨stored, pending, due, settled, item ::ₘ finished⟩

/-- Every item is accounted for, and what must be safe and is not has a writer
that is still to flush. -/
structure Sound (state : WriteBehind α) : Prop where
  accounted : state.finished + state.due + state.settled =
    state.stored + state.pending
  awaited : state.pending.filter must ≤ state.due

variable {must} {state next : WriteBehind α}

theorem Sound.step (sound : Sound must state) (step : Step must state next) :
    Sound must next := by
  obtain ⟨accounted, awaited⟩ := sound
  cases step with
  | writeDue item stored pending due settled finished =>
      constructor
      · simp only [Multiset.add_cons, Multiset.cons_add, accounted]
      · by_cases needed : must item
        · rw [Multiset.filter_cons_of_pos _ needed]
          exact Multiset.cons_le_cons item awaited
        · rw [Multiset.filter_cons_of_neg _ needed]
          exact awaited.trans (Multiset.le_cons_self due item)
  | writeSettled item stored pending due settled finished free =>
      constructor
      · simp only [Multiset.add_cons, accounted]
      · rw [Multiset.filter_cons_of_neg _ free]
        exact awaited
  | flush stored pending relieved due settled finished =>
      constructor
      · simp only [add_zero] at accounted ⊢
        rw [← accounted]
        abel
      · exact Multiset.zero_le due
  | finish item stored pending due settled finished =>
      constructor
      · simp only [Multiset.add_cons, Multiset.cons_add] at accounted ⊢
        exact accounted
      · exact awaited

section Rules

variable {stored pending due settled finished relieved : Multiset α}

theorem Sound.write (sound : Sound must ⟨stored, pending, due, settled, finished⟩)
    (item : α) :
    Sound must ⟨stored, item ::ₘ pending, (if must item then {item} else 0) + due,
      (if must item then 0 else {item}) + settled, finished⟩ := by
  by_cases needed : must item
  · simp only [if_pos needed, Multiset.singleton_add, zero_add]
    exact sound.step (.writeDue item _ _ _ _ _)
  · simp only [if_neg needed, Multiset.singleton_add, zero_add]
    exact sound.step (.writeSettled item _ _ _ _ _ needed)

theorem Sound.flush
    (sound : Sound must ⟨stored, pending, relieved + due, settled, finished⟩) :
    Sound must ⟨stored + pending, 0, due, relieved + settled, finished⟩ :=
  sound.step (.flush _ _ _ _ _ _)

/-- A flush that no writer waited for. -/
theorem Sound.flush_alone (sound : Sound must ⟨stored, pending, due, settled, finished⟩) :
    Sound must ⟨stored + pending, 0, due, settled, finished⟩ := by
  rw [← zero_add due] at sound
  rw [← zero_add settled]
  exact sound.flush

theorem Sound.finish {item : α}
    (sound : Sound must ⟨stored, pending, due, item ::ₘ settled, finished⟩) :
    Sound must ⟨stored, pending, due, settled, item ::ₘ finished⟩ :=
  sound.step (.finish _ _ _ _ _ _)

end Rules

/-- Of a writer that is through, an item that must be safe is. -/
theorem Sound.finished_le (sound : Sound must state) :
    state.finished.filter must ≤ state.stored := by
  have needed : (state.pending.filter must) ≤ state.due.filter must := by
    have filtered := Multiset.filter_le_filter must sound.awaited
    rwa [Multiset.filter_filter, Multiset.filter_congr
      (fun item _ => and_self_iff)] at filtered
  have parts := congrArg (Multiset.filter must) sound.accounted
  simp only [Multiset.filter_add] at parts
  have bound : state.finished.filter must + state.pending.filter must ≤
      state.stored.filter must + state.pending.filter must := by
    rw [← parts, add_assoc]
    apply add_le_add_right
    exact needed.trans (Multiset.le_add_right _ _)
  exact (le_of_add_le_add_right bound).trans (Multiset.filter_le _ _)

end WriteBehind

section Gathered

variable {M : Type*} [AddCommMonoid M]

/-- What the writers hold together. -/
def gathered (held : Writer → M) (writers : List Writer) : M :=
  (writers.map held).sum

theorem exists_gathered_rest (held : Writer → M) {writers : List Writer} {index : Nat}
    {writer : Writer} (found : writers[index]? = some writer) :
    ∃ rest, gathered held writers = held writer + rest ∧
      ∀ other, gathered held (writers.set index other) = held other + rest := by
  induction writers generalizing index with
  | nil => simp at found
  | cons first writers induction =>
      cases index with
      | zero =>
          rw [List.getElem?_cons_zero] at found
          cases found
          exact ⟨gathered held writers, by simp [gathered], fun other => by
            simp [gathered]⟩
      | succ index =>
          rw [List.getElem?_cons_succ] at found
          obtain ⟨rest, whole, set⟩ := induction found
          refine ⟨held first + rest, ?_, ?_⟩
          · simp only [gathered, List.map_cons, List.sum_cons] at whole ⊢
            rw [whole, add_left_comm]
          · intro other
            have replaced := set other
            simp only [gathered, List.set_cons_succ, List.map_cons,
              List.sum_cons] at replaced ⊢
            rw [replaced, add_left_comm]

theorem gathered_set (held : Writer → M) {writers : List Writer} {index : Nat}
    {old new : Writer} (found : writers[index]? = some old)
    (same : held new = held old) :
    gathered held (writers.set index new) = gathered held writers := by
  obtain ⟨rest, whole, set⟩ := exists_gathered_rest held found
  rw [set, whole, same]

theorem gathered_eq_zero (held : Writer → M) {writers : List Writer}
    (nothing : ∀ writer ∈ writers, held writer = 0) : gathered held writers = 0 := by
  apply List.sum_eq_zero
  intro value member
  obtain ⟨writer, found, rfl⟩ := List.mem_map.mp member
  exact nothing writer found

end Gathered

end DataGateway.Foundation
