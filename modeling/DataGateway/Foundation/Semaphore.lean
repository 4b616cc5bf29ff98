import Mathlib.Data.List.Basic

/-!
# Counting semaphores

A semaphore with a record of the threads between their `wait` and their
`post`.  Nothing makes a thread wait before it posts; a post of a thread that
does not hold the semaphore raises the number of permits for good.
-/

namespace DataGateway.Foundation

structure Semaphore (Thread : Type*) where
  value : Nat
  holders : List Thread

namespace Semaphore

variable {Thread : Type*}

def create (initialValue : Nat) : Semaphore Thread :=
  { value := initialValue
    holders := [] }

/-- `none` while the thread has to wait. -/
def wait? (semaphore : Semaphore Thread) (thread : Thread) :
    Option (Semaphore Thread) :=
  if 0 < semaphore.value then
    some
      { value := semaphore.value - 1
        holders := thread :: semaphore.holders }
  else none

def post [DecidableEq Thread] (semaphore : Semaphore Thread) (thread : Thread) :
    Semaphore Thread :=
  { value := semaphore.value + 1
    holders := semaphore.holders.erase thread }

/-- The free permits and those that are in use. -/
def permits (semaphore : Semaphore Thread) : Nat :=
  semaphore.value + semaphore.holders.length

@[simp] theorem permits_create (initialValue : Nat) :
    (create initialValue : Semaphore Thread).permits = initialValue := rfl

@[simp] theorem holders_create (initialValue : Nat) :
    (create initialValue : Semaphore Thread).holders = [] := rfl

theorem wait?_eq_some_iff {semaphore next : Semaphore Thread} {thread : Thread} :
    semaphore.wait? thread = some next ↔
      0 < semaphore.value ∧ next =
        { value := semaphore.value - 1
          holders := thread :: semaphore.holders } := by
  unfold wait?
  by_cases free : 0 < semaphore.value
  · simp [free, eq_comm]
  · simp [free]

theorem permits_wait {semaphore next : Semaphore Thread} {thread : Thread}
    (taken : semaphore.wait? thread = some next) :
    next.permits = semaphore.permits := by
  obtain ⟨free, same⟩ := wait?_eq_some_iff.mp taken
  subst same
  simp only [permits, List.length_cons]
  omega

variable [DecidableEq Thread]

theorem permits_post_of_holder {semaphore : Semaphore Thread} {thread : Thread}
    (holds : thread ∈ semaphore.holders) :
    (semaphore.post thread).permits = semaphore.permits := by
  have positive := List.length_pos_of_mem holds
  simp only [permits, post, List.length_erase_of_mem holds]
  omega

theorem permits_post_of_not_holder {semaphore : Semaphore Thread}
    {thread : Thread} (absent : thread ∉ semaphore.holders) :
    (semaphore.post thread).permits = semaphore.permits + 1 := by
  simp only [permits, post, List.erase_of_not_mem absent]
  omega

end Semaphore

end DataGateway.Foundation
