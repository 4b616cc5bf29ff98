import Mathlib.Order.MinMax
import Mathlib.Tactic.Common

/-!
# Pacing by a clock that may jump

A pacer fires at a clock reading that is more than a gap above the last mark.
A firing moves the mark to its reading, and so does a reading below the mark.
After a firing the mark is therefore the smallest reading since.
-/

namespace DataGateway.Foundation

/-- The mark after a reading, and whether the pacer fires. -/
def pace (gap mark reading : Nat) : Nat × Bool :=
  if min mark reading + gap < reading then (reading, true)
  else (min mark reading, false)

def markAfter (gap mark : Nat) (readings : List Nat) : Nat :=
  readings.foldl (fun mark reading => (pace gap mark reading).1) mark

/-- The pacer fires at the reading that follows others. -/
def FiresAfter (gap mark : Nat) (before : List Nat) (reading : Nat) : Prop :=
  (pace gap (markAfter gap mark before) reading).2 = true

/-- The pacer fires at no reading of a list. -/
def Quiet (gap mark : Nat) (readings : List Nat) : Prop :=
  ∀ passed reading rest, readings = passed ++ reading :: rest →
    ¬FiresAfter gap mark passed reading

/-- A reading is below the one before it. -/
def JumpsBack (readings : List Nat) : Prop :=
  ∃ before earlier later after,
    readings = before ++ earlier :: later :: after ∧ later < earlier

variable {gap mark : Nat}

theorem pace_fires_iff {reading : Nat} :
    (pace gap mark reading).2 = true ↔ mark + gap < reading := by
  unfold pace
  split
  · next due =>
      simp only [true_iff]
      omega
  · next notDue =>
      simp only [Bool.false_eq_true, false_iff]
      omega

theorem pace_of_fires {reading : Nat}
    (fires : (pace gap mark reading).2 = true) :
    (pace gap mark reading).1 = reading := by
  unfold pace at *
  split at fires
  · next due => rw [if_pos due]
  · cases fires

theorem pace_of_quiet {reading : Nat}
    (quiet : ¬(pace gap mark reading).2 = true) :
    (pace gap mark reading).1 = min mark reading := by
  unfold pace at *
  split at quiet
  · exact (quiet rfl).elim
  · next notDue => rw [if_neg notDue]

theorem markAfter_append (first second : List Nat) :
    markAfter gap mark (first ++ second) =
      markAfter gap (markAfter gap mark first) second :=
  List.foldl_append

theorem Quiet.head {reading : Nat} {readings : List Nat}
    (quiet : Quiet gap mark (reading :: readings)) :
    ¬(pace gap mark reading).2 = true :=
  quiet [] reading readings rfl

theorem Quiet.tail {reading : Nat} {readings : List Nat}
    (quiet : Quiet gap mark (reading :: readings)) :
    Quiet gap (pace gap mark reading).1 readings := by
  intro passed later rest split
  exact quiet (reading :: passed) later rest (by rw [split, List.cons_append])

/-- Without a firing the mark is the smallest of the old mark and the
readings. -/
theorem lt_markAfter_of_quiet {readings : List Nat} {bound : Nat}
    (quiet : Quiet gap mark readings) :
    markAfter gap mark readings < bound ↔
      ∃ low ∈ mark :: readings, low < bound := by
  induction readings generalizing mark with
  | nil => simp [markAfter]
  | cons reading readings induction =>
      have moved := pace_of_quiet quiet.head
      have rest := induction quiet.tail
      rw [moved] at rest
      have step : markAfter gap mark (reading :: readings) =
          markAfter gap (min mark reading) readings := by
        rw [← moved]
        rfl
      rw [step, rest]
      simp only [List.mem_cons, exists_eq_or_imp, min_lt_iff]
      exact or_assoc

/-- What came before a firing makes no difference after it. -/
theorem firesAfter_append_iff {before between : List Nat} {first second : Nat}
    (fired : FiresAfter gap mark before first) :
    FiresAfter gap mark (before ++ first :: between) second ↔
      FiresAfter gap first between second := by
  have marked : markAfter gap mark (before ++ first :: between) =
      markAfter gap first between := by
    rw [markAfter_append]
    exact congrArg (markAfter gap · between) (pace_of_fires fired)
  unfold FiresAfter
  rw [marked]

/-- After a firing, and until the next one, the pacer fires at a reading exactly
when the reading is more than the gap above one of those since. -/
theorem firesAfter_iff_of_quiet {before between : List Nat} {first second : Nat}
    (fired : FiresAfter gap mark before first)
    (quiet : Quiet gap first between) :
    FiresAfter gap mark (before ++ first :: between) second ↔
      ∃ low ∈ first :: between, low + gap < second := by
  rw [firesAfter_append_iff fired, FiresAfter, pace_fires_iff]
  constructor
  · intro due
    have below : markAfter gap first between < second - gap := by omega
    obtain ⟨low, member, lowBelow⟩ := (lt_markAfter_of_quiet quiet).mp below
    exact ⟨low, member, by omega⟩
  · intro exists_low
    obtain ⟨low, member, due⟩ := exists_low
    have below : low < second - gap := by omega
    have markBelow := (lt_markAfter_of_quiet quiet).mpr ⟨low, member, below⟩
    omega

/-- Without a jump back no reading is below the first one. -/
theorem le_of_not_jumpsBack {first : Nat} {readings : List Nat}
    (steady : ¬JumpsBack (first :: readings)) :
    ∀ reading ∈ readings, first ≤ reading := by
  induction readings generalizing first with
  | nil =>
      intro reading member
      cases member
  | cons next readings induction =>
      have forward : first ≤ next := by
        by_contra below
        exact steady ⟨[], first, next, readings, rfl, by omega⟩
      have steadyRest : ¬JumpsBack (next :: readings) := by
        intro jumps
        obtain ⟨before, earlier, later, after, split, below⟩ := jumps
        exact steady ⟨first :: before, earlier, later, after,
          congrArg (first :: ·) split, below⟩
      intro reading member
      rcases List.mem_cons.mp member with same | later
      · exact same ▸ forward
      · exact Nat.le_trans forward (induction steadyRest reading later)

/-- Between two consecutive firings the clock has advanced by more than the gap
or jumped back. -/
theorem gap_or_jumpsBack {before between : List Nat} {first second : Nat}
    (fired : FiresAfter gap mark before first)
    (quiet : Quiet gap first between)
    (firesAgain : FiresAfter gap mark (before ++ first :: between) second) :
    first + gap < second ∨ JumpsBack (first :: (between ++ [second])) := by
  by_cases jumps : JumpsBack (first :: (between ++ [second]))
  · exact .inr jumps
  · left
    obtain ⟨low, member, due⟩ := (firesAfter_iff_of_quiet fired quiet).mp
      firesAgain
    have above : first ≤ low := by
      rcases List.mem_cons.mp member with same | later
      · exact Nat.le_of_eq same.symm
      · apply le_of_not_jumpsBack jumps
        exact List.mem_append_left _ later
    omega

end DataGateway.Foundation
