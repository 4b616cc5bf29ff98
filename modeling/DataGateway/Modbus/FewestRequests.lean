import DataGateway.Foundation.Grouping
import DataGateway.Modbus.Coalescing
import DataGateway.Modbus.Placement

/-!
# The number of requests of a poll

A request reads a gapless run of registers.  `processContinuousRegisters` cuts
the sorted points wherever a run ends, and no other grouping of points without
common registers needs fewer requests.
-/

namespace DataGateway.Modbus

open Foundation ConfigDataModbus

section

variable {points : List DataPoint} {i j : Nat}

theorem length_ranges_le {runs : List (List DataPoint)} (ahead : j ≤ i)
    (whole : runs.flatten = points.drop j)
    (each : ∀ run ∈ runs, IsRun address cells? run) :
    (ranges points i).length ≤ runs.length := by
  induction runs generalizing i j with
  | nil =>
      have past : points.length ≤ j := List.drop_eq_nil_iff.mp whole.symm
      rw [ranges, dif_neg (by omega)]
      exact Nat.le_refl 0
  | cons run runs induction =>
      have eachLater : ∀ run ∈ runs, IsRun address cells? run :=
        fun run member => each run (List.mem_cons_of_mem _ member)
      rw [List.flatten_cons] at whole
      have later : runs.flatten = points.drop (j + run.length) := by
        rw [← List.drop_drop, ← whole, List.drop_left]
      rw [List.length_cons]
      by_cases past : j + run.length ≤ i
      · exact Nat.le_succ_of_le (induction past later eachLater)
      · have isRun := (each run List.mem_cons_self).drop (i - j) (by omega)
        have suffix : points.drop i = run.drop (i - j) ++ runs.flatten := by
          have split : i = j + (i - j) := by omega
          rw [split, ← List.drop_drop, ← whole, Nat.add_sub_cancel_left,
            List.drop_append_of_le_length (by omega)]
        have length : (run.drop (i - j)).length = run.length - (i - j) :=
          List.length_drop
        cases rest : run.drop (i - j) with
        | nil => exact (isRun.nonempty rest).elim
        | cons head tail =>
            rw [rest] at isRun suffix length
            rw [List.cons_append] at suffix
            have inside : i < points.length := by
              have some := congrArg List.length suffix
              rw [List.length_drop, List.length_cons] at some
              omega
            have known : (cells? head).isSome := isRun.known head List.mem_cons_self
            obtain ⟨more, goesOn⟩ :=
              block_append_of_eq_self isRun.consecutive runs.flatten
            have follows : follows head (tail ++ runs.flatten) = tail ++ more := goesOn
            have found := findContinuousRegisters_known suffix known
            rw [follows] at found
            rw [ranges, dif_pos inside, List.length_cons]
            apply Nat.succ_le_succ
            apply induction _ later eachLater
            rw [found]
            simp only [List.length_append, List.length_cons] at length ⊢
            omega

end

/-- A poll of points of known types without common registers issues as few
requests as any grouping of the points into gapless runs. -/
theorem fewest_requests {σ : Type*} (sorter : AddressSort)
    (readRegisters : σ → UInt16 → Nat → σ × Option (List UInt16))
    (config : ConfigDataModbus) (state : σ)
    (known : ∀ point ∈ config.dataPoints, (cells? point).isSome)
    (apart : config.dataPoints.Pairwise (Apart address cells?))
    (runs : List (List DataPoint)) (grouped : runs.flatten.Perm config.dataPoints)
    (each : ∀ run ∈ runs, IsRun address cells? run) :
    (processContinuousRegisters sorter readRegisters config state).1.length ≤
      runs.length := by
  have permutation := sorter.perm config.dataPoints
  have sortedApart : (sorter.sort config.dataPoints).Pairwise (Apart address cells?) :=
    (permutation.pairwise_iff Apart.symm).mpr apart
  have positive : ∀ point ∈ sorter.sort config.dataPoints,
      0 < (cells? point).getD 0 :=
    fun point member => cells_pos (known point (permutation.mem_iff.mp member))
  obtain ⟨arranged, sameRuns, cut⟩ := exists_arrangement positive sortedApart
    (sorter.sorted config.dataPoints) (grouped.trans permutation.symm) each
  have ranges := processContinuousRegisters_ranges sorter readRegisters config state
  rw [← List.length_map Polled.range, ranges, ← sameRuns.length_eq]
  apply length_ranges_le (Nat.le_refl 0) cut
  exact fun run member => each run (sameRuns.mem_iff.mp member)

theorem fewest_requests_block :
    (processContinuousRegisters insertionSorter
      (fun (state : Nat) _ count => (state + 1, some (List.replicate count 0)))
      blockDevice 0).1.length ≤ 1 := by
  apply fewest_requests insertionSorter _ blockDevice 0 (by decide) (by decide)
    [[samplePoint "level" 40 "int16", samplePoint "flow" 41 "float32"]]
  · exact List.Perm.swap _ _ _
  · intro run member
    rw [List.mem_singleton.mp member]
    exact ⟨by simp, by decide, rfl⟩

end DataGateway.Modbus
