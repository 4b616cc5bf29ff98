import DataGateway.Foundation.Tiling

/-!
# Grouping intervals into gapless runs

Intervals that do not overlap are grouped into runs without gaps.  However they
are grouped, the runs follow each other, so that a grouping is a way of cutting
the sorted intervals, and the cuts that extend every run as far as possible are
the fewest.
-/

namespace DataGateway.Foundation

section

variable {α : Type*} (start : α → Nat) (width : α → Option Nat)

/-- Two intervals without a common cell. -/
def Apart (first second : α) : Prop :=
  start first + (width first).getD 0 ≤ start second ∨
    start second + (width second).getD 0 ≤ start first

instance (first second : α) : Decidable (Apart start width first second) :=
  inferInstanceAs (Decidable (_ ∨ _))

/-- A gapless run of items of known width. -/
structure IsRun (items : List α) : Prop where
  nonempty : items ≠ []
  known : ∀ item ∈ items, (width item).isSome
  consecutive : Consecutive start width items

def headStart : List α → Nat
  | [] => 0
  | first :: _ => start first

end

section

variable {α : Type*} {start : α → Nat} {width : α → Option Nat}

theorem Apart.symm {first second : α} (apart : Apart start width first second) :
    Apart start width second first :=
  Or.symm apart

/-- A gapless list goes on into what follows it. -/
theorem block_append_of_eq_self {expected : Nat} {items : List α}
    (whole : block start width expected items = items) (more : List α) :
    ∃ later, block start width expected (items ++ more) = items ++ later := by
  induction items generalizing expected with
  | nil => exact ⟨_, rfl⟩
  | cons item items induction =>
      obtain ⟨cells, known, here, rest⟩ := block_eq_self_cons whole
      obtain ⟨later, goesOn⟩ := induction rest
      refine ⟨later, ?_⟩
      simp only [List.cons_append, block, known, if_pos here, goesOn]

theorem IsRun.tail {first : α} {items : List α}
    (isRun : IsRun start width (first :: items)) (nonempty : items ≠ []) :
    IsRun start width items := by
  refine ⟨nonempty, fun item member => isRun.known item (List.mem_cons_of_mem _ member),
    ?_⟩
  cases items with
  | nil => exact (nonempty rfl).elim
  | cons second items =>
      obtain ⟨cells, known, here, rest⟩ := block_eq_self_cons isRun.consecutive
      change block start width (start second + (width second).getD 0) items = items
      rw [known, here, Option.getD_some]
      exact rest

theorem IsRun.drop {items : List α} (isRun : IsRun start width items) (count : Nat)
    (less : count < items.length) : IsRun start width (items.drop count) := by
  induction count generalizing items with
  | zero => exact isRun
  | succ count induction =>
      cases items with
      | nil => cases less
      | cons first items =>
          have shorter : count < items.length := by simpa using less
          have nonempty : items ≠ [] := by
            intro empty
            rw [empty] at shorter
            cases shorter
          exact induction (isRun.tail nonempty) shorter

/-- Every cell between the head of a run and the start of an item belongs to an
item of the run. -/
theorem IsRun.covers {items : List α} (isRun : IsRun start width items)
    (positive : ∀ item ∈ items, 0 < (width item).getD 0) {cell : Nat} {last : α}
    (member : last ∈ items) (fromHead : headStart start items ≤ cell)
    (upTo : cell ≤ start last) :
    ∃ item ∈ items, start item ≤ cell ∧ cell < start item + (width item).getD 0 := by
  induction items with
  | nil => cases member
  | cons first items induction =>
      by_cases inFirst : cell < start first + (width first).getD 0
      · exact ⟨first, List.mem_cons_self, fromHead, inFirst⟩
      · have later : last ∈ items := by
          rcases List.mem_cons.mp member with same | later
          · have cells := positive first List.mem_cons_self
            rw [same] at upTo
            omega
          · exact later
        have nonempty : items ≠ [] := List.ne_nil_of_mem later
        have beyond : headStart start items ≤ cell := by
          cases items with
          | nil => exact (nonempty rfl).elim
          | cons second items =>
              obtain ⟨cells, known, here, rest⟩ :=
                block_eq_self_cons isRun.consecutive
              simp only [headStart, here]
              omega
        obtain ⟨item, inside, covers⟩ := induction (isRun.tail nonempty)
          (fun item inside => positive item (List.mem_cons_of_mem _ inside)) later
          beyond
        exact ⟨item, List.mem_cons_of_mem _ inside, covers⟩

theorem IsRun.headStart_le {items : List α} (isRun : IsRun start width items)
    (positive : ∀ item ∈ items, 0 < (width item).getD 0) :
    ∀ item ∈ items, headStart start items ≤ start item := by
  have ordered := isRun.consecutive.pairwise_start_lt positive
  cases items with
  | nil => exact (isRun.nonempty rfl).elim
  | cons first items =>
      intro item member
      rcases List.mem_cons.mp member with same | later
      · rw [same]
        exact Nat.le_refl _
      · exact Nat.le_of_lt ((List.pairwise_cons.mp ordered).1 item later)

theorem IsRun.below {first second : List α} (firstRun : IsRun start width first)
    (secondRun : IsRun start width second)
    (positive : ∀ item ∈ first ++ second, 0 < (width item).getD 0)
    (apart : ∀ item ∈ first, ∀ other ∈ second, Apart start width item other)
    (heads : headStart start first ≤ headStart start second) :
    ∀ item ∈ first, ∀ other ∈ second, start item < start other := by
  intro item inFirst other inSecond
  by_contra above
  have positiveFirst : ∀ item ∈ first, 0 < (width item).getD 0 :=
    fun item member => positive item (List.mem_append_left _ member)
  have positiveSecond : ∀ item ∈ second, 0 < (width item).getD 0 :=
    fun item member => positive item (List.mem_append_right _ member)
  have lowest := secondRun.headStart_le positiveSecond other inSecond
  -- the head of the second run would lie in a cell of the first
  obtain ⟨holder, holds, reaches, covers⟩ := firstRun.covers positiveFirst inFirst heads
    (by omega)
  cases second with
  | nil => exact secondRun.nonempty rfl
  | cons head second =>
      have headPositive := positiveSecond head List.mem_cons_self
      simp only [headStart] at reaches covers
      rcases apart holder holds head List.mem_cons_self with before | after
      · omega
      · omega

/-- Runs of items that do not overlap can be put into an order in which they are
the sorted items, cut into pieces. -/
theorem exists_arrangement {sorted : List α} {runs : List (List α)}
    (positive : ∀ item ∈ sorted, 0 < (width item).getD 0)
    (apart : sorted.Pairwise (Apart start width))
    (ordered : sorted.Pairwise fun first second => start first ≤ start second)
    (grouped : runs.flatten.Perm sorted)
    (each : ∀ run ∈ runs, IsRun start width run) :
    ∃ arranged : List (List α), arranged.Perm runs ∧ arranged.flatten = sorted := by
  let lower : List α → List α → Bool :=
    fun first second => headStart start first ≤ headStart start second
  have permutation : (runs.mergeSort lower).Perm runs := List.mergeSort_perm runs lower
  refine ⟨runs.mergeSort lower, permutation, ?_⟩
  have byHead : (runs.mergeSort lower).Pairwise fun first second =>
      headStart start first ≤ headStart start second := by
    have sortedRuns : (runs.mergeSort lower).Pairwise fun first second =>
        lower first second = true := by
      apply List.pairwise_mergeSort
      · intro first second third
        simp only [lower, decide_eq_true_eq]
        omega
      · intro first second
        simp only [lower, Bool.or_eq_true, decide_eq_true_eq]
        omega
    exact sortedRuns.imp fun less => by simpa [lower] using less
  have whole : (runs.mergeSort lower).flatten.Perm sorted :=
    permutation.flatten.trans grouped
  have isRun : ∀ run ∈ runs.mergeSort lower, IsRun start width run :=
    fun run member => each run (permutation.mem_iff.mp member)
  have inside : ∀ run ∈ runs.mergeSort lower, ∀ item ∈ run, 0 < (width item).getD 0 :=
    fun run member item inRun =>
      positive item (whole.mem_iff.mp (List.mem_flatten_of_mem member inRun))
  have allApart : (runs.mergeSort lower).flatten.Pairwise (Apart start width) :=
    (whole.pairwise_iff Apart.symm).mpr apart
  have strict : (runs.mergeSort lower).flatten.Pairwise fun first second =>
      start first < start second := by
    rw [List.pairwise_flatten] at allApart ⊢
    refine ⟨fun run member =>
      (isRun run member).consecutive.pairwise_start_lt (inside run member), ?_⟩
    apply (byHead.and allApart.2).imp_of_mem
    intro first second inFirst inSecond both
    obtain ⟨heads, apart⟩ := both
    apply (isRun first inFirst).below (isRun second inSecond) _ apart heads
    intro item member
    rcases List.mem_append.mp member with here | there
    · exact inside first inFirst item here
    · exact inside second inSecond item there
  apply List.Perm.eq_of_pairwise _ (strict.imp Nat.le_of_lt) ordered whole
  intro first second firstMember secondMember forward backward
  have distinct : ((runs.mergeSort lower).flatten.map start).Nodup :=
    List.pairwise_map.mpr (strict.imp fun less => Nat.ne_of_lt less)
  exact List.inj_on_of_nodup_map distinct firstMember
    (whole.mem_iff.mpr secondMember) (Nat.le_antisymm forward backward)

end

end DataGateway.Foundation
