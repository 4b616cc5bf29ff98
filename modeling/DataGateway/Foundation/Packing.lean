import Mathlib.Algebra.BigOperators.Group.List.Basic
import Mathlib.Algebra.GroupWithZero.Nat
import Mathlib.Tactic.Common

/-!
# Packing items into one container

Items are offered one after the other and are appended or refused; a refused
item is dropped without a trace.  The container takes only items of the kind
of its first item, up to a capacity.
-/

namespace DataGateway.Foundation

section

variable {α κ : Type*}

def pack (accepts : List α → α → Bool) (contents : List α) : List α → List α
  | [] => contents
  | item :: rest =>
      if accepts contents item then pack accepts (contents ++ [item]) rest
      else pack accepts contents rest

/-- The container has room for the item and holds items of its kind only; an
empty container already takes up `base`. -/
def fits [DecidableEq κ] (kind : α → κ) (size : α → Nat) (base room : Nat)
    (contents : List α) (item : α) : Bool :=
  (contents.head?.all fun first => decide (kind first = kind item)) &&
    decide (base + (contents.map size).sum + size item ≤ room)

end

section

variable {α κ : Type*} {accepts : List α → α → Bool}

theorem pack_cons (contents : List α) (item : α) (rest : List α) :
    pack accepts contents (item :: rest) =
      if accepts contents item then pack accepts (contents ++ [item]) rest
      else pack accepts contents rest := rfl

theorem pack_sublist (accepts : List α → α → Bool) (contents items : List α) :
    (pack accepts contents items).Sublist (contents ++ items) := by
  induction items generalizing contents with
  | nil =>
      rw [List.append_nil]
      exact List.Sublist.refl contents
  | cons item items induction =>
      rw [pack_cons]
      split
      · have kept := induction (contents ++ [item])
        rw [List.append_assoc, List.singleton_append] at kept
        exact kept
      · apply (induction contents).trans
        apply List.Sublist.append_left
        exact List.sublist_cons_self item items

/-- All items are packed if and only if the first one is accepted and all later
ones are packed after it. -/
theorem pack_cons_eq_iff (contents : List α) (item : α) (items : List α) :
    pack accepts contents (item :: items) = contents ++ item :: items ↔
      accepts contents item = true ∧
        pack accepts (contents ++ [item]) items = (contents ++ [item]) ++ items := by
  rw [pack_cons]
  by_cases accepted : accepts contents item = true
  · simp [accepted]
  · rw [if_neg accepted]
    constructor
    · intro complete
      have bound := (pack_sublist accepts contents items).length_le
      rw [complete, List.length_append, List.length_append,
        List.length_cons] at bound
      omega
    · intro both
      exact (accepted both.1).elim

variable [DecidableEq κ] (kind : α → κ) (size : α → Nat) (base room : Nat)

theorem fits_iff (contents : List α) (item : α) :
    fits kind size base room contents item = true ↔
      (∀ first ∈ contents.head?, kind first = kind item) ∧
        base + (contents.map size).sum + size item ≤ room := by
  unfold fits
  cases contents with
  | nil => simp
  | cons head tail => simp

theorem pack_fits_iff (contents items : List α) :
    pack (fits kind size base room) contents items = contents ++ items ↔
      items = [] ∨
        (∀ first ∈ (contents ++ items).head?, ∀ item ∈ items,
          kind first = kind item) ∧
        base + ((contents ++ items).map size).sum ≤ room := by
  induction items generalizing contents with
  | nil => simp [pack]
  | cons item items induction =>
      rw [pack_cons_eq_iff, induction, fits_iff, List.append_assoc,
        List.singleton_append]
      have total : ((contents ++ item :: items).map size).sum =
          (contents.map size).sum + size item + (items.map size).sum := by
        simp [Nat.add_assoc]
      rw [total]
      constructor
      · intro packed
        obtain ⟨⟨sameKind, fitsItem⟩, rest⟩ := packed
        have headKind : ∀ first ∈ (contents ++ item :: items).head?,
            kind first = kind item := by
          intro first head
          cases contents with
          | nil =>
              cases head
              rfl
          | cons contentsHead contents => exact sameKind first head
        apply Or.inr
        rcases rest with none | rest
        · subst none
          refine ⟨?_, by simpa [Nat.add_assoc] using fitsItem⟩
          intro first head other member
          cases List.mem_singleton.mp member
          exact headKind first head
        · refine ⟨?_, rest.2⟩
          intro first head other member
          rcases List.mem_cons.mp member with same | later
          · subst same
            exact headKind first head
          · exact rest.1 first head other later
      · intro packed
        rcases packed with none | packed
        · cases none
        · obtain ⟨sameKind, fitsAll⟩ := packed
          refine ⟨⟨?_, by omega⟩, Or.inr ⟨?_, fitsAll⟩⟩
          · intro first head
            apply sameKind first ?_ item List.mem_cons_self
            rw [List.head?_append, Option.mem_def.mp head]
            rfl
          · intro first head other member
            exact sameKind first head other (List.mem_cons_of_mem item member)

/-- Everything is packed into an empty container if and only if there is
nothing to pack, or all items are of one kind and fit together. -/
theorem pack_all_iff (items : List α) :
    pack (fits kind size base room) [] items = items ↔
      items = [] ∨
        (∀ first ∈ items, ∀ second ∈ items, kind first = kind second) ∧
        base + (items.map size).sum ≤ room := by
  have packed := pack_fits_iff kind size base room [] items
  rw [List.nil_append] at packed
  rw [packed]
  apply or_congr_right
  apply and_congr_left
  intro _
  constructor
  · intro sameAsHead first firstMember second secondMember
    cases items with
    | nil => cases firstMember
    | cons head tail =>
        have withFirst := sameAsHead head rfl first firstMember
        have withSecond := sameAsHead head rfl second secondMember
        exact withFirst.symm.trans withSecond
  · intro same first firstHead second member
    exact same first (List.mem_of_head? firstHead) second member

/-- How many items of this size an empty container takes. -/
def capacity (base room size : Nat) : Nat := (room - base) / size

/-- The items that go into an empty container where the kind of an item
determines its size: of those that would fit alone, the first items of the
first kind. -/
def packed (items : List α) : List α :=
  match items.filter fun item => base + size item ≤ room with
  | [] => []
  | first :: rest =>
      ((first :: rest).filter fun item => kind item = kind first).take
        (capacity base room (size first))

section Uniform

variable {kind size base room} {weight : Nat} {first item : α}
  {contents items : List α}

theorem lt_capacity_iff (positive : 0 < weight) (count : Nat) :
    count < capacity base room weight ↔ base + count * weight + weight ≤ room := by
  have whole : (count + 1) * weight = count * weight + weight :=
    Nat.succ_mul count weight
  rw [capacity, ← Nat.succ_le_iff, Nat.le_div_iff_mul_le positive, whole]
  omega

/-- Further items of the kind of the contents are taken up to the capacity. -/
theorem pack_uniform (positive : 0 < weight) (nonempty : contents ≠ [])
    (ofKind : ∀ inside ∈ contents, kind inside = kind first)
    (sizes : ∀ other, kind other = kind first → size other = weight) :
    pack (fits kind size base room) contents items =
      contents ++ (items.filter fun item => kind item = kind first).take
        (capacity base room weight - contents.length) := by
  have total : ∀ inside : List α, (∀ other ∈ inside, kind other = kind first) →
      (inside.map size).sum = inside.length * weight := by
    intro inside same
    rw [List.map_congr_left fun other member => sizes other (same other member)]
    simp
  have accepts : ∀ inside : List α, inside ≠ [] →
      (∀ other ∈ inside, kind other = kind first) → ∀ item,
      fits kind size base room inside item = true ↔
        kind item = kind first ∧
          inside.length < capacity base room weight := by
    intro inside some same item
    rw [fits_iff, total inside same, lt_capacity_iff positive]
    obtain ⟨head, tail, split⟩ := List.exists_cons_of_ne_nil some
    have headKind := same head (by simp [split])
    constructor
    · rintro ⟨sameKind, room⟩
      have itemKind : kind item = kind first :=
        (sameKind head (by simp [split])).symm.trans headKind
      rw [sizes item itemKind] at room
      exact ⟨itemKind, room⟩
    · rintro ⟨itemKind, room⟩
      rw [sizes item itemKind]
      refine ⟨?_, room⟩
      intro other present
      rw [same other (List.mem_of_head? present), itemKind]
  induction items generalizing contents with
  | nil => simp [pack]
  | cons item items induction =>
      rw [pack_cons]
      by_cases same : kind item = kind first
      · by_cases below : contents.length < capacity base room weight
        · have taken := (accepts contents nonempty ofKind item).mpr ⟨same, below⟩
          rw [if_pos taken, induction (by simp) (by
            intro inside member
            rcases List.mem_append.mp member with old | new
            · exact ofKind inside old
            · rw [List.mem_singleton.mp new, same])]
          obtain ⟨left, split⟩ : ∃ left, capacity base room weight -
              contents.length = left + 1 :=
            ⟨capacity base room weight - contents.length - 1, by omega⟩
          have shorter : capacity base room weight -
              (contents ++ [item]).length = left := by
            rw [List.length_append, List.length_singleton]
            omega
          rw [shorter, split, List.filter_cons_of_pos (by simpa using same),
            List.take_succ_cons, List.append_assoc, List.singleton_append]
        · have refused : ¬fits kind size base room contents item = true := by
            intro taken
            exact below ((accepts contents nonempty ofKind item).mp taken).2
          have none : capacity base room weight - contents.length = 0 := by omega
          rw [if_neg refused, induction nonempty ofKind, none, List.take_zero,
            List.take_zero]
      · have refused : ¬fits kind size base room contents item = true := by
          intro taken
          exact same ((accepts contents nonempty ofKind item).mp taken).1
        rw [if_neg refused, induction nonempty ofKind,
          List.filter_cons_of_neg (by simpa using same)]

/-- An item that fits alone decides about the rest. -/
theorem packed_cons_of_fits {item : α} (alone : base + size item ≤ room)
    (sizes : ∀ other, kind other = kind item → size other = size item)
    (items : List α) :
    packed kind size base room (item :: items) =
      ((item :: items).filter fun other => kind other = kind item).take
        (capacity base room (size item)) := by
  -- what has the kind of an item that fits alone fits alone
  have redundant : ((item :: items).filter fun other => base + size other ≤ room).filter
      (fun other => kind other = kind item) =
        (item :: items).filter fun other => kind other = kind item := by
    rw [List.filter_filter]
    apply List.filter_congr
    intro other _
    by_cases same : kind other = kind item
    · simpa [same, sizes other same] using alone
    · simp [same]
  unfold packed
  rw [List.filter_cons_of_pos (by simpa using alone)] at redundant ⊢
  simp only [redundant]

theorem pack_eq_packed {weight : κ → Nat}
    (positive : ∀ item : α, 0 < weight (kind item))
    (sizes : ∀ item, size item = weight (kind item)) (items : List α) :
    pack (fits kind size base room) [] items =
      packed kind size base room items := by
  induction items with
  | nil => rfl
  | cons item items induction =>
      rw [pack_cons]
      have alone : fits kind size base room [] item = true ↔
          base + size item ≤ room := by
        simp [fits_iff]
      by_cases enough : base + size item ≤ room
      · have ofKind : ∀ other, kind other = kind item → size other = size item := by
          intro other same
          rw [sizes other, sizes item, same]
        have positiveSize : 0 < size item := by
          rw [sizes item]
          exact positive item
        have one : 0 < capacity base room (size item) := by
          rw [lt_capacity_iff positiveSize]
          simpa using enough
        obtain ⟨left, split⟩ : ∃ left, capacity base room (size item) = left + 1 :=
          ⟨_, (Nat.succ_pred_eq_of_pos one).symm⟩
        rw [if_pos (alone.mpr enough), List.nil_append,
          pack_uniform positiveSize (by simp) (by simp) ofKind,
          packed_cons_of_fits enough ofKind, List.filter_cons_of_pos (by simp),
          split, List.take_succ_cons]
        rfl
      · rw [if_neg (fun taken => enough (alone.mp taken)), induction]
        unfold packed
        rw [List.filter_cons_of_neg (by simpa using enough)]

end Uniform

end

end DataGateway.Foundation
