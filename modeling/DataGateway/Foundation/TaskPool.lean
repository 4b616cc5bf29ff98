import Mathlib.Data.Multiset.AddSub
import Mathlib.Tactic.Common

/-!
# Pools of workers

What a pool of workers is for: tasks start in the order in which they were
submitted, each of them once and no more at a time than there are workers, and
a call that waits for the pool returns when there is nothing left to do.
-/

namespace DataGateway.Foundation

variable {Task : Type*}

inductive PoolEvent (Task : Type*)
  | submitted (task : Task)
  | started (task : Task)
  | finished (task : Task)
  | returned

/-- The tasks that wait and those under way. -/
structure TaskPool (Task : Type*) where
  queue : List Task
  running : Multiset Task

namespace TaskPool

def empty : TaskPool Task :=
  { queue := []
    running := 0 }

/-- One event in the life of a pool with so many workers. -/
inductive Step (workers : Nat) :
    TaskPool Task → PoolEvent Task → TaskPool Task → Prop
  | submitted (task : Task) (queue : List Task) (running : Multiset Task) :
      Step workers ⟨queue, running⟩ (.submitted task) ⟨queue ++ [task], running⟩
  | started (task : Task) (queue : List Task) (running : Multiset Task)
      (free : running.card < workers) :
      Step workers ⟨task :: queue, running⟩ (.started task)
        ⟨queue, task ::ₘ running⟩
  | finished (task : Task) (queue : List Task) (running : Multiset Task) :
      Step workers ⟨queue, task ::ₘ running⟩ (.finished task) ⟨queue, running⟩
  | returned : Step workers empty .returned empty

/-- A sequence of events that leads from one pool to another. -/
inductive Lives (workers : Nat) :
    TaskPool Task → List (PoolEvent Task) → TaskPool Task → Prop
  | nil (pool : TaskPool Task) : Lives workers pool [] pool
  | cons {pool next final : TaskPool Task} {event : PoolEvent Task}
      {events : List (PoolEvent Task)} (step : Step workers pool event next)
      (rest : Lives workers next events final) :
      Lives workers pool (event :: events) final

def submittedOf (events : List (PoolEvent Task)) : List Task :=
  events.filterMap fun
    | .submitted task => some task
    | _ => none

def startedOf (events : List (PoolEvent Task)) : List Task :=
  events.filterMap fun
    | .started task => some task
    | _ => none

def finishedOf (events : List (PoolEvent Task)) : List Task :=
  events.filterMap fun
    | .finished task => some task
    | _ => none

section

variable {workers : Nat} {pool next final : TaskPool Task}
  {events later : List (PoolEvent Task)} {event : PoolEvent Task}

theorem Lives.append (first : Lives workers pool events next)
    (second : Lives workers next later final) :
    Lives workers pool (events ++ later) final := by
  induction first with
  | nil pool => exact second
  | cons step rest induction => exact .cons step (induction second)

theorem Lives.single (step : Step workers pool event next) :
    Lives workers pool [event] next :=
  .cons step (.nil next)

theorem Lives.split (lives : Lives workers pool (events ++ later) final) :
    ∃ middle, Lives workers pool events middle ∧
      Lives workers middle later final := by
  induction events generalizing pool with
  | nil => exact ⟨pool, .nil pool, lives⟩
  | cons event events induction =>
      cases lives with
      | cons step rest =>
          obtain ⟨middle, first, second⟩ := induction rest
          exact ⟨middle, .cons step first, second⟩

/-- Tasks start in the order of submission, none of them is lost and none
starts twice. -/
theorem Lives.fifo (lives : Lives workers pool events final) :
    pool.queue ++ submittedOf events = startedOf events ++ final.queue := by
  induction lives with
  | nil pool => simp [submittedOf, startedOf]
  | cons step rest induction =>
      cases step with
      | submitted task queue running =>
          simpa [submittedOf, startedOf] using induction
      | started task queue running free =>
          simpa [submittedOf, startedOf] using induction
      | finished task queue running =>
          simpa [submittedOf, startedOf] using induction
      | returned => simpa [submittedOf, startedOf, empty] using induction

/-- What has started is under way or has finished. -/
theorem Lives.accounted (lives : Lives workers pool events final) :
    pool.running + (startedOf events : Multiset Task) =
      (finishedOf events : Multiset Task) + final.running := by
  induction lives with
  | nil pool => simp [startedOf, finishedOf]
  | cons step rest induction =>
      cases step with
      | submitted task queue running =>
          simpa [startedOf, finishedOf] using induction
      | started task queue running free =>
          simp only [startedOf, finishedOf, List.filterMap_cons] at induction ⊢
          rw [← Multiset.cons_coe, Multiset.add_cons, ← Multiset.cons_add]
          exact induction
      | finished task queue running =>
          simp only [startedOf, finishedOf, List.filterMap_cons] at induction ⊢
          rw [← Multiset.cons_coe, Multiset.cons_add, Multiset.cons_add, induction]
      | returned => simpa [startedOf, finishedOf, empty] using induction

theorem Lives.running_le (lives : Lives workers pool events final)
    (start : pool.running.card ≤ workers) : final.running.card ≤ workers := by
  induction lives with
  | nil pool => exact start
  | cons step rest induction =>
      apply induction
      cases step with
      | submitted task queue running => exact start
      | started task queue running free =>
          rw [Multiset.card_cons]
          exact free
      | finished task queue running =>
          rw [Multiset.card_cons] at start
          exact Nat.le_of_succ_le start
      | returned => exact start

/-- When a call that waits returns, all that was submitted has finished. -/
theorem Lives.finished_of_returned
    (lives : Lives workers empty (events ++ .returned :: later) final) :
    (finishedOf events : Multiset Task) = (submittedOf events : Multiset Task) := by
  obtain ⟨middle, before, after⟩ := lives.split
  cases after with
  | cons step rest =>
      cases step with
      | returned =>
          have order := before.fifo
          have account := before.accounted
          simp only [empty, List.nil_append, List.append_nil, Multiset.zero_add,
            Multiset.add_zero] at order account
          rw [order, account]

end

end TaskPool

end DataGateway.Foundation
