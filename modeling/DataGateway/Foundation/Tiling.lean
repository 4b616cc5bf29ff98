import Mathlib.Algebra.BigOperators.Group.List.Basic
import Mathlib.Algebra.GroupWithZero.Nat
import Mathlib.Data.List.Nodup
import Mathlib.Tactic.Common

/-!
# Consecutive intervals

Items occupy an interval each: `start item` and `width item` cells, or no
known width at all.  `block expected items` is the longest prefix of items that
fill the cells from `expected` on without a gap or an overlap.
-/

namespace DataGateway.Foundation

section

variable {α : Type*} (start : α → Nat) (width : α → Option Nat)

def totalWidth (items : List α) : Nat :=
  (items.map fun item => (width item).getD 0).sum

def block (expected : Nat) : List α → List α
  | [] => []
  | item :: rest =>
      match width item with
      | none => []
      | some cells =>
          if start item = expected then
            item :: block (expected + cells) rest
          else []

/-- Every item starts where the one before it ends. -/
def Consecutive : List α → Prop
  | [] => True
  | item :: rest => block start width (start item + (width item).getD 0) rest = rest

end

section

variable {α : Type*} {start : α → Nat} {width : α → Option Nat}

@[simp] theorem totalWidth_nil : totalWidth width [] = 0 := rfl

@[simp] theorem totalWidth_cons (item : α) (rest : List α) :
    totalWidth width (item :: rest) =
      (width item).getD 0 + totalWidth width rest := by
  simp [totalWidth]

@[simp] theorem totalWidth_append (first second : List α) :
    totalWidth width (first ++ second) =
      totalWidth width first + totalWidth width second := by
  simp [totalWidth]

theorem block_split (start : α → Nat) (width : α → Option Nat) (expected : Nat)
    (items : List α) :
    ∃ rest, items = block start width expected items ++ rest := by
  induction items generalizing expected with
  | nil => exact ⟨[], rfl⟩
  | cons item items induction =>
      cases known : width item with
      | none => exact ⟨item :: items, by simp [block, known]⟩
      | some cells =>
          by_cases here : start item = expected
          · obtain ⟨rest, split⟩ := induction (expected + cells)
            refine ⟨rest, ?_⟩
            simp only [block, known, if_pos here, List.cons_append]
            exact congrArg (item :: ·) split
          · exact ⟨item :: items, by simp [block, known, here]⟩

theorem block_eq_self_cons {expected : Nat} {item : α} {rest : List α}
    (whole : block start width expected (item :: rest) = item :: rest) :
    ∃ cells, width item = some cells ∧ start item = expected ∧
      block start width (expected + cells) rest = rest := by
  cases known : width item with
  | none => simp [block, known] at whole
  | some cells =>
      by_cases here : start item = expected
      · simp only [block, known, if_pos here, List.cons.injEq, true_and] at whole
        exact ⟨cells, rfl, here, whole⟩
      · simp [block, known, here] at whole

theorem block_known {expected : Nat} {items : List α} :
    ∀ item ∈ block start width expected items, (width item).isSome := by
  induction items generalizing expected with
  | nil => simp [block]
  | cons head items induction =>
      cases known : width head with
      | none => simp [block, known]
      | some cells =>
          by_cases here : start head = expected
          · simp only [block, known, if_pos here]
            intro item member
            rcases List.mem_cons.mp member with same | later
            · rw [same, known]
              rfl
            · exact induction item later
          · simp [block, known, here]

theorem block_block (expected : Nat) (items : List α) :
    block start width expected (block start width expected items) =
      block start width expected items := by
  induction items generalizing expected with
  | nil => rfl
  | cons head items induction =>
      cases known : width head with
      | none => simp [block, known]
      | some cells =>
          by_cases here : start head = expected
          · simp [block, known, here, induction]
          · simp [block, known, here]

theorem block_stops {expected : Nat} {items : List α} {next : α}
    {after : List α}
    (split : items = block start width expected items ++ next :: after) :
    width next = none ∨
      start next ≠ expected + totalWidth width (block start width expected items) := by
  induction items generalizing expected with
  | nil => simp at split
  | cons head items induction =>
      cases known : width head with
      | none =>
          have stopped : block start width expected (head :: items) = [] := by
            simp [block, known]
          rw [stopped, List.nil_append] at split
          cases split
          exact .inl known
      | some cells =>
          by_cases here : start head = expected
          · have goesOn : block start width expected (head :: items) =
                head :: block start width (expected + cells) items := by
              simp [block, known, here]
            rw [goesOn, List.cons_append, List.cons.injEq] at split
            rw [goesOn, totalWidth_cons, known, Option.getD_some, ← Nat.add_assoc]
            exact induction split.2
          · have stopped : block start width expected (head :: items) = [] := by
              simp [block, known, here]
            rw [stopped, List.nil_append] at split
            cases split
            rw [stopped]
            exact .inr (by simpa using here)

theorem start_of_block_eq_self {expected : Nat} {before : List α} {item : α}
    {after : List α}
    (whole : block start width expected (before ++ item :: after) =
      before ++ item :: after) :
    start item = expected + totalWidth width before := by
  induction before generalizing expected with
  | nil =>
      obtain ⟨cells, known, here, _⟩ := block_eq_self_cons whole
      simpa using here
  | cons head before induction =>
      obtain ⟨cells, known, here, rest⟩ := block_eq_self_cons whole
      have found := induction rest
      simp only [totalWidth_cons, known, Option.getD_some]
      omega

theorem Consecutive.start_eq {head : α} {before : List α} {item : α}
    {after : List α}
    (consecutive : Consecutive start width (head :: (before ++ item :: after))) :
    start item = start head + totalWidth width (head :: before) := by
  have found := start_of_block_eq_self consecutive
  rw [found, totalWidth_cons]
  omega

theorem Consecutive.start_of_split {head : α} {rest before : List α} {item : α}
    {after : List α} (consecutive : Consecutive start width (head :: rest))
    (split : head :: rest = before ++ item :: after) :
    start item = start head + totalWidth width before := by
  cases before with
  | nil =>
      cases split
      simp
  | cons first before =>
      cases split
      exact consecutive.start_eq

theorem Consecutive.known_of_split {head : α} {before : List α} {item : α}
    {after : List α}
    (consecutive : Consecutive start width (head :: (before ++ item :: after))) :
    (width item).isSome := by
  apply block_known item
  rw [show block start width _ _ = _ from consecutive]
  simp

/-- A gapless run in a list that starts with a maximal block lies inside the
block or after it. -/
theorem Consecutive.inside_or_after {head : α}
    {rest remaining run before after : List α}
    (split : rest =
      block start width (start head + (width head).getD 0) rest ++ remaining)
    (consecutive : Consecutive start width run)
    (inside : head :: rest = before ++ (run ++ after)) :
    (∃ later, head :: block start width
        (start head + (width head).getD 0) rest = before ++ (run ++ later)) ∨
      ∃ earlier, remaining = earlier ++ (run ++ after) := by
  let taken := block start width (start head + (width head).getD 0) rest
  have whole : (head :: taken) ++ remaining = before ++ (run ++ after) := by
    rw [← inside, List.cons_append]
    exact congrArg (head :: ·) split.symm
  have takenConsecutive : Consecutive start width (head :: taken) :=
    block_block _ _
  rcases List.append_eq_append_iff.mp whole with
    ⟨gap, _, later⟩ | ⟨overlap, blockSplit, runSplit⟩
  · exact .inr ⟨gap, later⟩
  · rcases List.append_eq_append_iff.mp runSplit with
      ⟨short, same, _⟩ | ⟨beyond, same, later⟩
    · exact .inl ⟨short, by rw [← same]; exact blockSplit⟩
    · cases overlap with
      | nil => exact .inr ⟨[], by rw [later, same]; rfl⟩
      | cons first overlap =>
          cases beyond with
          | nil =>
              refine .inl ⟨[], ?_⟩
              rw [same, List.append_nil, List.append_nil]
              exact blockSplit
          | cons next beyond =>
              -- `next` goes on where the block ends, so the block would hold it
              rw [same, List.cons_append] at consecutive
              have known := consecutive.known_of_split
              have place := consecutive.start_eq
              have firstPlace := takenConsecutive.start_of_split blockSplit
              have total := congrArg (totalWidth width) blockSplit
              rw [later, List.cons_append] at split
              simp only [taken, totalWidth_append, totalWidth_cons] at total
              rcases block_stops split with unknown | elsewhere
              · rw [unknown] at known
                cases known
              · refine (elsewhere ?_).elim
                rw [place, firstPlace, totalWidth_cons]
                omega

theorem block_end_le {bound : Nat} (expected : Nat) (items : List α)
    (startsBelow : expected ≤ bound)
    (endsBelow : ∀ item ∈ items, start item + (width item).getD 0 ≤ bound) :
    expected + totalWidth width (block start width expected items) ≤ bound := by
  induction items generalizing expected with
  | nil => simpa [block] using startsBelow
  | cons item items induction =>
      cases known : width item with
      | none => simpa [block, known] using startsBelow
      | some cells =>
          by_cases here : start item = expected
          · have itemEnd := endsBelow item List.mem_cons_self
            rw [known, Option.getD_some, here] at itemEnd
            have restEnd := induction (expected + cells) itemEnd
              (fun other member =>
                endsBelow other (List.mem_cons_of_mem item member))
            simp only [block, known, if_pos here, totalWidth_cons,
              Option.getD_some]
            omega
          · simpa [block, known, here] using startsBelow

theorem pairwise_start_lt_of_block_eq_self {expected : Nat} {items : List α}
    (positive : ∀ item ∈ items, 0 < (width item).getD 0)
    (whole : block start width expected items = items) :
    (∀ item ∈ items, expected ≤ start item) ∧
      items.Pairwise (fun first second => start first < start second) := by
  induction items generalizing expected with
  | nil => simp
  | cons head items induction =>
      obtain ⟨cells, known, here, rest⟩ := block_eq_self_cons whole
      have headPositive := positive head List.mem_cons_self
      rw [known, Option.getD_some] at headPositive
      obtain ⟨later, ordered⟩ := induction
        (fun item member => positive item (List.mem_cons_of_mem head member))
        rest
      constructor
      · intro item member
        rcases List.mem_cons.mp member with same | inRest
        · subst same
          omega
        · have bound := later item inRest
          omega
      · apply List.pairwise_cons.mpr
        refine ⟨?_, ordered⟩
        intro item member
        have bound := later item member
        omega

theorem Consecutive.pairwise_start_lt {items : List α}
    (positive : ∀ item ∈ items, 0 < (width item).getD 0)
    (consecutive : Consecutive start width items) :
    items.Pairwise (fun first second => start first < start second) := by
  cases items with
  | nil => exact List.Pairwise.nil
  | cons head items =>
      have headPositive := positive head List.mem_cons_self
      obtain ⟨later, ordered⟩ := pairwise_start_lt_of_block_eq_self
        (fun item member => positive item (List.mem_cons_of_mem head member))
        consecutive
      apply List.pairwise_cons.mpr
      refine ⟨?_, ordered⟩
      intro item member
      have bound := later item member
      omega

/-- A gapless arrangement of items of positive width is the only list of them
that is sorted by start. -/
theorem Consecutive.eq_of_perm_sorted {arranged sorted : List α}
    (positive : ∀ item ∈ arranged, 0 < (width item).getD 0)
    (consecutive : Consecutive start width arranged)
    (permutation : arranged.Perm sorted)
    (ordered : sorted.Pairwise (fun first second => start first ≤ start second)) :
    arranged = sorted := by
  have strict := consecutive.pairwise_start_lt positive
  have distinct : (arranged.map start).Nodup := by
    apply List.pairwise_map.mpr
    exact strict.imp (fun less => Nat.ne_of_lt less)
  apply List.Perm.eq_of_pairwise _ (strict.imp Nat.le_of_lt) ordered permutation
  intro first second firstMember secondMember forward backward
  have sameStart : start first = start second := Nat.le_antisymm forward backward
  exact List.inj_on_of_nodup_map distinct firstMember
    (permutation.mem_iff.mpr secondMember) sameStart

end

end DataGateway.Foundation
