import Mathlib.Data.List.Nodup
import Mathlib.Tactic.Common

/-!
# Tables of library handles

A C library hands out handles and takes each of them back once.  The table
numbers the handles in the order of issue and remembers which were given
back.  Giving a handle back twice, giving back a handle that was never issued
and using a dead or null handle are faults, so a table never represents them.
`acquire` issues the handle numbered `issued`.
-/

namespace DataGateway.Foundation

inductive HandleFault
  | nullUse
  | deadUse
  | deadRelease
  deriving DecidableEq, Repr

structure HandleTable where
  issued : Nat
  released : List Nat
  releasedOnce : released.Nodup
  releasedIssued : ∀ handle ∈ released, handle < issued

namespace HandleTable

def empty : HandleTable :=
  { issued := 0
    released := []
    releasedOnce := List.nodup_nil
    releasedIssued := by simp }

def Live (table : HandleTable) (handle : Nat) : Prop :=
  handle < table.issued ∧ handle ∉ table.released

instance (table : HandleTable) (handle : Nat) : Decidable (table.Live handle) :=
  inferInstanceAs (Decidable (_ ∧ _))

def acquire (table : HandleTable) : HandleTable :=
  { issued := table.issued + 1
    released := table.released
    releasedOnce := table.releasedOnce
    releasedIssued := fun handle member =>
      Nat.lt_succ_of_lt (table.releasedIssued handle member) }

def release (table : HandleTable) (handle : Nat) (live : table.Live handle) :
    HandleTable :=
  { issued := table.issued
    released := handle :: table.released
    releasedOnce := List.nodup_cons.mpr ⟨live.2, table.releasedOnce⟩
    releasedIssued := by
      intro other member
      rcases List.mem_cons.mp member with same | earlier
      · exact same ▸ live.1
      · exact table.releasedIssued other earlier }

def release? (table : HandleTable) (handle : Nat) :
    Except HandleFault HandleTable :=
  if live : table.Live handle then .ok (table.release handle live)
  else .error .deadRelease

def use (table : HandleTable) : Option Nat → Except HandleFault Unit
  | none => .error .nullUse
  | some handle => if table.Live handle then .ok () else .error .deadUse

/-- Every handle issued so far has been given back, and once. -/
def ReleasedExactlyOnce (table : HandleTable) : Prop :=
  ∀ handle < table.issued, table.released.count handle = 1

/-- How many handles are issued and not yet given back. -/
def outstanding (table : HandleTable) : Nat :=
  (List.range table.issued).countP (table.Live ·)

@[simp] theorem empty_issued : empty.issued = 0 := rfl

@[simp] theorem acquire_issued (table : HandleTable) :
    table.acquire.issued = table.issued + 1 := rfl

@[simp] theorem release_issued (table : HandleTable) (handle : Nat)
    (live : table.Live handle) :
    (table.release handle live).issued = table.issued := rfl

@[simp] theorem release_released (table : HandleTable) (handle : Nat)
    (live : table.Live handle) :
    (table.release handle live).released = handle :: table.released := rfl

theorem release?_of_live {table : HandleTable} {handle : Nat}
    (live : table.Live handle) :
    table.release? handle = .ok (table.release handle live) := by
  simp [release?, live]

theorem release?_eq_ok {table next : HandleTable} {handle : Nat}
    (released : table.release? handle = .ok next) :
    ∃ live, next = table.release handle live := by
  unfold release? at released
  split at released
  · next live =>
      cases released
      exact ⟨live, rfl⟩
  · cases released

theorem release?_of_released {table : HandleTable} {handle : Nat}
    (dead : handle ∈ table.released) :
    table.release? handle = .error .deadRelease := by
  simp [release?, Live, dead]

theorem use_of_live {table : HandleTable} {handle : Nat}
    (live : table.Live handle) : table.use (some handle) = .ok () := by
  simp [use, live]

theorem use_eq_ok_iff {table : HandleTable} {slot : Option Nat} :
    table.use slot = .ok () ↔ ∃ handle, slot = some handle ∧ table.Live handle := by
  cases slot with
  | none => simp [use]
  | some handle => by_cases live : table.Live handle <;> simp [use, live]

theorem issued_not_released (table : HandleTable) :
    table.issued ∉ table.released :=
  fun member => Nat.lt_irrefl _ (table.releasedIssued _ member)

theorem live_acquire_iff {table : HandleTable} {handle : Nat} :
    table.acquire.Live handle ↔ handle = table.issued ∨ table.Live handle := by
  constructor
  · intro live
    obtain ⟨bound, absent⟩ := live
    rcases Nat.lt_succ_iff_lt_or_eq.mp bound with older | newest
    · exact Or.inr ⟨older, absent⟩
    · exact Or.inl newest
  · intro cases
    rcases cases with newest | live
    · subst newest
      exact ⟨Nat.lt_succ_self _, table.issued_not_released⟩
    · exact ⟨Nat.lt_succ_of_lt live.1, live.2⟩

theorem live_release_iff {table : HandleTable} {handle other : Nat}
    (live : table.Live handle) :
    (table.release handle live).Live other ↔
      other ≠ handle ∧ table.Live other := by
  simp only [Live, release_issued, release_released, List.mem_cons, not_or]
  tauto

theorem outstanding_eq_zero_iff {table : HandleTable} :
    table.outstanding = 0 ↔ ∀ handle, ¬table.Live handle := by
  simp only [outstanding, List.countP_eq_zero, List.mem_range,
    decide_eq_true_eq]
  constructor
  · intro none handle live
    exact none handle live.1 live
  · intro none handle _
    exact none handle

theorem count_released_eq_one {table : HandleTable} {handle : Nat}
    (member : handle ∈ table.released) : table.released.count handle = 1 :=
  List.count_eq_one_of_mem table.releasedOnce member

end HandleTable

/-- The slot holds the one live handle of the table, and nothing is live when
the slot is null. -/
def SoleOwner (table : HandleTable) (slot : Option Nat) : Prop :=
  ∀ handle, table.Live handle ↔ slot = some handle

namespace SoleOwner

variable {table : HandleTable} {handle : Nat}

theorem empty : SoleOwner HandleTable.empty none := by
  intro handle
  simp [HandleTable.Live]

theorem live (owner : SoleOwner table (some handle)) : table.Live handle :=
  (owner handle).mpr rfl

theorem acquire (owner : SoleOwner table none) :
    SoleOwner table.acquire (some table.issued) := by
  intro other
  rw [HandleTable.live_acquire_iff, owner other]
  simp [eq_comm]

theorem release (owner : SoleOwner table (some handle)) :
    SoleOwner (table.release handle owner.live) none := by
  intro other
  rw [HandleTable.live_release_iff, owner other]
  simp only [Option.some.injEq, reduceCtorEq, iff_false, not_and]
  exact fun different same => different same.symm

theorem outstanding {slot : Option Nat} (owner : SoleOwner table slot) :
    table.outstanding = if slot.isSome then 1 else 0 := by
  cases slot with
  | none =>
      apply HandleTable.outstanding_eq_zero_iff.mpr
      intro handle live
      have null := (owner handle).mp live
      cases null
  | some handle =>
      have bound : handle ∈ List.range table.issued :=
        List.mem_range.mpr owner.live.1
      calc
        table.outstanding = (List.range table.issued).count handle := by
          apply List.countP_congr
          intro other _
          rw [decide_eq_true_iff, owner other, beq_iff_eq, Option.some.injEq]
          exact eq_comm
        _ = 1 := List.count_eq_one_of_mem List.nodup_range bound

/-- With an empty slot nothing is live: every issued handle came back. -/
theorem releasedExactlyOnce (owner : SoleOwner table none) :
    table.ReleasedExactlyOnce := by
  intro handle bound
  apply HandleTable.count_released_eq_one
  by_contra absent
  have null := (owner handle).mp ⟨bound, absent⟩
  cases null

end SoleOwner

end DataGateway.Foundation
