import Mathlib.Tactic.Common

/-!
# Joining two texts with a separator

A pair joined around a separator can be read back in more than one way when
the separator occurs in its parts.  Two pairs give the same text exactly when
they are equal or one of them splits the other at a later separator.
-/

namespace DataGateway.Foundation

theorem cons_eq_append_cons_iff {α : Type*} {separator : α}
    {rest overlap second : List α} :
    separator :: rest = overlap ++ separator :: second ↔
      overlap = [] ∧ rest = second ∨
        ∃ middle, overlap = separator :: middle ∧
          rest = middle ++ separator :: second := by
  cases overlap with
  | nil => simp
  | cons head middle =>
      constructor
      · intro same
        rw [List.cons_append, List.cons.injEq] at same
        apply Or.inr
        exact ⟨middle, by rw [same.1], same.2⟩
      · intro cases_
        rcases cases_ with empty | longer
        · cases empty.1
        · obtain ⟨other, same, split⟩ := longer
          cases same
          rw [split, List.cons_append]

theorem joined_eq_iff {α : Type*} {separator : α}
    {first rest other second : List α} :
    first ++ separator :: rest = other ++ separator :: second ↔
      first = other ∧ rest = second ∨
        (∃ middle, other = first ++ separator :: middle ∧
          rest = middle ++ separator :: second) ∨
        ∃ middle, first = other ++ separator :: middle ∧
          second = middle ++ separator :: rest := by
  rw [List.append_eq_append_iff]
  simp only [cons_eq_append_cons_iff]
  constructor
  · intro overlaps
    rcases overlaps with forward | backward
    · obtain ⟨overlap, same, equal | longer⟩ := forward
      · rw [equal.1, List.append_nil] at same
        exact Or.inl ⟨same.symm, equal.2⟩
      · obtain ⟨middle, overlapEq, split⟩ := longer
        rw [overlapEq] at same
        exact Or.inr (Or.inl ⟨middle, same, split⟩)
    · obtain ⟨overlap, same, equal | longer⟩ := backward
      · rw [equal.1, List.append_nil] at same
        exact Or.inl ⟨same, equal.2.symm⟩
      · obtain ⟨middle, overlapEq, split⟩ := longer
        rw [overlapEq] at same
        exact Or.inr (Or.inr ⟨middle, same, split⟩)
  · intro cases_
    rcases cases_ with equal | forward | backward
    · exact Or.inl ⟨[], by simp [equal.1], Or.inl ⟨rfl, equal.2⟩⟩
    · obtain ⟨middle, same, split⟩ := forward
      exact Or.inl ⟨separator :: middle, same, Or.inr ⟨middle, rfl, split⟩⟩
    · obtain ⟨middle, same, split⟩ := backward
      exact Or.inr ⟨separator :: middle, same, Or.inr ⟨middle, rfl, split⟩⟩

/-- A text that is split by a list of characters is split by a text. -/
theorem exists_toList_split_iff (separator : Char) {whole first second rest : String} :
    (∃ middle : List Char, whole.toList = first.toList ++ separator :: middle ∧
        rest.toList = middle ++ separator :: second.toList) ↔
      ∃ middle : String, whole = first ++ String.singleton separator ++ middle ∧
        rest = middle ++ String.singleton separator ++ second := by
  constructor
  · intro split
    obtain ⟨middle, wholeEq, restEq⟩ := split
    refine ⟨String.ofList middle, ?_, ?_⟩
    · apply String.toList_inj.mp
      simp [wholeEq]
    · apply String.toList_inj.mp
      simp [restEq]
  · intro split
    obtain ⟨middle, wholeEq, restEq⟩ := split
    exact ⟨middle.toList, by simp [wholeEq], by simp [restEq]⟩

theorem string_joined_eq_iff (separator : Char) {first rest other second : String} :
    first ++ String.singleton separator ++ rest =
        other ++ String.singleton separator ++ second ↔
      first = other ∧ rest = second ∨
        (∃ middle, other = first ++ String.singleton separator ++ middle ∧
          rest = middle ++ String.singleton separator ++ second) ∨
        ∃ middle, first = other ++ String.singleton separator ++ middle ∧
          second = middle ++ String.singleton separator ++ rest := by
  rw [← exists_toList_split_iff, ← exists_toList_split_iff,
    ← String.toList_inj, ← String.toList_inj, ← String.toList_inj]
  simp only [String.toList_append, String.toList_singleton, List.append_assoc,
    List.singleton_append]
  exact joined_eq_iff

/-- Without the separator in the first parts the text determines both parts. -/
theorem string_joined_eq_iff_of_not_mem {separator : Char}
    {first rest other second : String} (free : separator ∉ first.toList)
    (otherFree : separator ∉ other.toList) :
    first ++ String.singleton separator ++ rest =
        other ++ String.singleton separator ++ second ↔
      first = other ∧ rest = second := by
  rw [string_joined_eq_iff]
  constructor
  · intro overlaps
    rcases overlaps with equal | forward | backward
    · exact equal
    · obtain ⟨middle, same, _⟩ := forward
      exact absurd (by simp [same]) otherFree
    · obtain ⟨middle, same, _⟩ := backward
      exact absurd (by simp [same]) free
  · exact Or.inl

theorem string_append_eq_iff_of_length_eq {first rest other second : String}
    (sameLength : first.length = other.length) :
    first ++ rest = other ++ second ↔ first = other ∧ rest = second := by
  constructor
  · intro same
    have lists := String.toList_inj.mpr same
    rw [String.toList_append, String.toList_append] at lists
    have parts := List.append_inj lists sameLength
    exact ⟨String.toList_inj.mp parts.1, String.toList_inj.mp parts.2⟩
  · intro parts
    rw [parts.1, parts.2]

end DataGateway.Foundation
