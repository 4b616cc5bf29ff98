import DataGateway.Foundation.TaskPool

/-!
# The thread pool

`BS::thread_pool` (`thirdparty/BS_thread_pool`) as the program uses it: without
priorities and pausing, and with the workers that C++17 gives it.  A move is
what one thread does between taking `tasks_mutex` and releasing it, a
notification, or the end of a task; a thread that waits for a condition may
also wake up for no reason.
-/

namespace DataGateway

open Foundation

/-- Where a worker is: before the lock at the head of its loop, in the wait for
`task_available_cv`, in a task, or past its loop. -/
inductive WorkerAt (Task : Type*)
  | outside
  | waits (notified : Bool)
  | runs (task : Task)
  | ended

namespace WorkerAt

variable {Task : Type*}

def task? : WorkerAt Task → Option Task
  | runs task => some task
  | outside | waits _ | ended => none

/-- Counted in `tasks_running`. -/
def counted : WorkerAt Task → Bool
  | outside | runs _ => true
  | waits _ | ended => false

/-- Going to look at the queue by itself. -/
def awake : WorkerAt Task → Bool
  | outside | waits true => true
  | waits false | runs _ | ended => false

def sleeps : WorkerAt Task → Bool
  | waits false => true
  | outside | waits true | runs _ | ended => false

def gone : WorkerAt Task → Bool
  | ended => true
  | outside | waits _ | runs _ => false

/-- What `task_available_cv.notify_all` does to a worker. -/
def notified : WorkerAt Task → WorkerAt Task
  | waits _ => waits true
  | outside => outside
  | runs task => runs task
  | ended => ended

end WorkerAt

/-- The thread that calls `wait`, one call after the other. -/
inductive ClientAt
  | away
  | waits (notified : Bool)
  deriving DecidableEq

/-- The members of a pool, its threads, and the notifications that are due: one
for each `detach_task` under way, and that of `destroy_threads`. -/
structure ThreadPool (Task : Type*) where
  tasks : List Task
  tasksRunning : Nat
  waiting : Bool
  workersRunning : Bool
  workers : List (WorkerAt Task)
  client : ClientAt
  detaching : Nat
  destroying : Bool

inductive PoolMove (Task : Type*)
  | detachTask (task : Task)
  | notifyOne (worker : Nat)
  | worker (index : Nat)
  | workerWakes (index : Nat)
  | wait
  | client
  | clientWakes
  | destroyThreads
  | notifyAll

namespace ThreadPool

variable {Task : Type*}

/-- Never zero. -/
def determineThreadCount (numThreads hardwareConcurrency : Nat) : Nat :=
  if 0 < numThreads then numThreads
  else if 0 < hardwareConcurrency then hardwareConcurrency
  else 1

/-- `create_threads` after `determine_thread_count`; every worker counts as
running until it takes the lock. -/
def create (threads : Nat) : ThreadPool Task :=
  { tasks := []
    tasksRunning := threads
    waiting := false
    workersRunning := true
    workers := List.replicate threads .outside
    client := .away
    detaching := 0
    destroying := false }

section Operations

variable (pool : ThreadPool Task)

def setWorker (index : Nat) (worker : WorkerAt Task) : ThreadPool Task :=
  { pool with workers := pool.workers.set index worker }

/-- `tasks_running == 0 && tasks.empty()`. -/
def idle : Bool := pool.tasksRunning == 0 && pool.tasks.isEmpty

/-- `tasks_done_cv.notify_all()`. -/
def notifyDone : ThreadPool Task :=
  { pool with
    client := match pool.client with
      | .waits _ => .waits true
      | .away => .away }

/-- The head of the loop of `worker` up to the wait. -/
def leaveTask : ThreadPool Task :=
  let left := { pool with tasksRunning := pool.tasksRunning - 1 }
  if left.waiting && left.idle then left.notifyDone else left

/-- The condition of the wait, and `worker` up to the unlock if it holds. -/
def await (index : Nat) : ThreadPool Task × List (PoolEvent Task) :=
  if pool.workersRunning then
    match pool.tasks with
    | [] => (pool.setWorker index (.waits false), [])
    | task :: tasks =>
        ({ pool.setWorker index (.runs task) with
            tasks := tasks
            tasksRunning := pool.tasksRunning + 1 }, [.started task])
  else (pool.setWorker index .ended, [])

/-- A worker goes on. -/
def worker (index : Nat) : ThreadPool Task × List (PoolEvent Task) :=
  match pool.workers[index]? with
  | some .outside => pool.leaveTask.await index
  | some (.waits true) => pool.await index
  | some (.runs task) => (pool.setWorker index .outside, [.finished task])
  | some (.waits false) | some .ended | none => (pool, [])

def detachTask (task : Task) : ThreadPool Task × List (PoolEvent Task) :=
  ({ pool with
      tasks := pool.tasks ++ [task]
      detaching := pool.detaching + 1 }, [.submitted task])

/-- The `notify_one` of `detach_task`: it reaches a sleeping worker if there is
one. -/
def notifyOne (index : Nat) : ThreadPool Task :=
  if pool.detaching = 0 then pool
  else
    match pool.workers[index]? with
    | some (.waits false) =>
        { pool.setWorker index (.waits true) with detaching := pool.detaching - 1 }
    | _ =>
        if pool.workers.any WorkerAt.sleeps then pool
        else { pool with detaching := pool.detaching - 1 }

/-- The condition of the wait in `wait`, and the rest of it if it holds. -/
def checkDone : ThreadPool Task × List (PoolEvent Task) :=
  if pool.idle then ({ pool with waiting := false, client := .away }, [.returned])
  else ({ pool with client := .waits false }, [])

def wait : ThreadPool Task × List (PoolEvent Task) :=
  match pool.client with
  | .away => checkDone { pool with waiting := true }
  | .waits _ => (pool, [])

def destroyThreads : ThreadPool Task :=
  { pool with
    workersRunning := false
    destroying := true }

def notifyAll : ThreadPool Task :=
  if pool.destroying then
    { pool with
      workers := pool.workers.map WorkerAt.notified
      destroying := false }
  else pool

end Operations

def step (pool : ThreadPool Task) :
    PoolMove Task → ThreadPool Task × List (PoolEvent Task)
  | .detachTask task => pool.detachTask task
  | .notifyOne index => (pool.notifyOne index, [])
  | .worker index => pool.worker index
  | .workerWakes index =>
      match pool.workers[index]? with
      | some (.waits _) => (pool.setWorker index (.waits true), [])
      | some .outside | some (.runs _) | some .ended | none => (pool, [])
  | .wait => pool.wait
  | .client =>
      match pool.client with
      | .waits true => pool.checkDone
      | .waits false | .away => (pool, [])
  | .clientWakes =>
      match pool.client with
      | .waits _ => ({ pool with client := .waits true }, [])
      | .away => (pool, [])
  | .destroyThreads => (pool.destroyThreads, [])
  | .notifyAll => (pool.notifyAll, [])

def runs (pool : ThreadPool Task) :
    List (PoolMove Task) → ThreadPool Task × List (PoolEvent Task)
  | [] => (pool, [])
  | move :: moves =>
      let stepped := pool.step move
      let rest := runs stepped.1 moves
      (rest.1, stepped.2 ++ rest.2)

/-- The queue and the tasks under way. -/
def view (pool : ThreadPool Task) : TaskPool Task :=
  { queue := pool.tasks
    running := (pool.workers.filterMap WorkerAt.task? : List Task) }

theorem exists_split {α : Type*} {items : List α} {index : Nat} {item : α}
    (found : items[index]? = some item) :
    ∃ before after, items = before ++ item :: after ∧
      ∀ other, items.set index other = before ++ other :: after := by
  induction items generalizing index with
  | nil => cases found
  | cons head items induction =>
      cases index with
      | zero =>
          cases found
          exact ⟨[], items, rfl, fun _ => rfl⟩
      | succ index =>
          obtain ⟨before, after, split, set⟩ := induction found
          refine ⟨head :: before, after, by rw [split]; rfl, ?_⟩
          intro other
          rw [List.set_cons_succ, set other]
          rfl

section

variable {pool next : ThreadPool Task} {index threads : Nat}
  {old new : WorkerAt Task}

theorem countP_setWorker (count : WorkerAt Task → Bool)
    (found : pool.workers[index]? = some old) :
    (pool.setWorker index new).workers.countP count + (if count old then 1 else 0) =
      pool.workers.countP count + (if count new then 1 else 0) := by
  obtain ⟨before, after, split, set⟩ := exists_split found
  simp only [setWorker, set]
  simp only [split, List.countP_append, List.countP_cons]
  omega

theorem view_setWorker_idle (found : pool.workers[index]? = some old)
    (before : old.task? = none) (after : new.task? = none) :
    (pool.setWorker index new).view = pool.view := by
  obtain ⟨first, last, split, set⟩ := exists_split found
  simp only [view, setWorker, set]
  simp [split, before, after]

private theorem running_setWorker {task : Task} (found : pool.workers[index]? = some old)
    (before : old.task? = none) (after : new.task? = some task) :
    (pool.setWorker index new).view.running = task ::ₘ pool.view.running := by
  obtain ⟨first, last, split, set⟩ := exists_split found
  simp only [view, setWorker, set]
  simp only [split, List.filterMap_append, List.filterMap_cons, before, after]
  exact Multiset.coe_eq_coe.mpr List.perm_middle

private theorem running_finished {task : Task} (found : pool.workers[index]? = some old)
    (before : old.task? = some task) (after : new.task? = none) :
    pool.view.running = task ::ₘ (pool.setWorker index new).view.running := by
  obtain ⟨first, last, split, set⟩ := exists_split found
  simp only [view, setWorker, set]
  simp only [split, List.filterMap_append, List.filterMap_cons, before, after]
  exact Multiset.coe_eq_coe.mpr List.perm_middle

private theorem running_card_lt (found : pool.workers[index]? = some old)
    (before : old.task? = none) :
    pool.view.running.card < pool.workers.length := by
  obtain ⟨first, last, split, _⟩ := exists_split found
  have firstLe := List.length_filterMap_le WorkerAt.task? first
  have lastLe := List.length_filterMap_le WorkerAt.task? last
  simp only [view, split, List.filterMap_append, List.filterMap_cons, before,
    Multiset.coe_card, List.length_append, List.length_cons]
  omega

/-- What `leaveTask` leaves alone. -/
structure SameWork (pool next : ThreadPool Task) : Prop where
  tasks : next.tasks = pool.tasks
  workers : next.workers = pool.workers
  workersRunning : next.workersRunning = pool.workersRunning
  detaching : next.detaching = pool.detaching
  destroying : next.destroying = pool.destroying

theorem SameWork.view (same : SameWork pool next) : next.view = pool.view := by
  simp [ThreadPool.view, same.tasks, same.workers]

theorem sameWork_leaveTask (pool : ThreadPool Task) :
    SameWork pool pool.leaveTask := by
  simp only [leaveTask]
  split
  · exact ⟨rfl, rfl, rfl, rfl, rfl⟩
  · exact ⟨rfl, rfl, rfl, rfl, rfl⟩

theorem await_lives (found : pool.workers[index]? = some old)
    (before : old.task? = none) :
    TaskPool.Lives pool.workers.length pool.view (pool.await index).2
      (pool.await index).1.view := by
  unfold await
  cases pool.workersRunning with
  | false =>
      have same : (pool.setWorker index .ended).view = pool.view :=
        view_setWorker_idle found before rfl
      simp only [Bool.false_eq_true, if_false, same]
      exact .nil pool.view
  | true =>
      simp only [if_true]
      cases queue : pool.tasks with
      | nil =>
          have same : (pool.setWorker index (.waits false)).view = pool.view :=
            view_setWorker_idle found before rfl
          simp only [same]
          exact .nil pool.view
      | cons task tasks =>
          have free := running_card_lt found before
          have taken : (pool.setWorker index (.runs task)).view.running =
              task ::ₘ pool.view.running := running_setWorker found before rfl
          have start : pool.view = ⟨task :: tasks, pool.view.running⟩ := by
            rw [← queue]
            rfl
          have ending : ({ pool.setWorker index (.runs task) with
              tasks := tasks
              tasksRunning := pool.tasksRunning + 1 } : ThreadPool Task).view =
                ⟨tasks, task ::ₘ pool.view.running⟩ := by
            rw [← taken]
            rfl
          simp only [ending]
          rw [start]
          exact .single (.started task tasks _ free)

private theorem worker_lives (pool : ThreadPool Task) (index : Nat) :
    TaskPool.Lives pool.workers.length pool.view (pool.worker index).2
      (pool.worker index).1.view := by
  unfold worker
  cases found : pool.workers[index]? with
  | none => exact .nil pool.view
  | some at_ =>
      cases at_ with
      | outside =>
          have same := sameWork_leaveTask pool
          rw [← same.workers] at found
          have lives := await_lives found rfl
          rw [same.workers, same.view] at lives
          exact lives
      | waits notified =>
          cases notified with
          | true => exact await_lives found rfl
          | false => exact .nil pool.view
      | runs task =>
          have done : pool.view.running =
              task ::ₘ (pool.setWorker index .outside).view.running :=
            running_finished found rfl rfl
          have start : pool.view = ⟨pool.tasks,
              task ::ₘ (pool.setWorker index .outside).view.running⟩ := by
            rw [← done]
            rfl
          rw [start]
          exact .single (.finished task pool.tasks _)
      | ended => exact .nil pool.view

/-- What is true of the pool between any two moves: the counter is right, a
queue longer than the number of workers that will look at it has no sleeping
worker, and the caller of `wait` sleeps only while there is something to do. -/
structure Sound (threads : Nat) (pool : ThreadPool Task) : Prop where
  size : pool.workers.length = threads
  counts : pool.tasksRunning = pool.workers.countP WorkerAt.counted
  wakes : pool.workersRunning = true →
    pool.workers.countP WorkerAt.sleeps = 0 ∨
      pool.tasks.length ≤
        pool.detaching + pool.workers.countP WorkerAt.awake
  waiting : pool.client ≠ .away → pool.waiting = true
  client : pool.client = .waits false → pool.idle = false
  ends : pool.workersRunning = false →
    pool.destroying = true ∨ pool.workers.countP WorkerAt.sleeps = 0
  stays : pool.workersRunning = true → pool.workers.countP WorkerAt.gone = 0

theorem sound_create (threads : Nat) :
    Sound threads (create threads : ThreadPool Task) := by
  constructor
  · simp [create]
  · simp [create, WorkerAt.counted, List.countP_replicate]
  · intro _
    left
    simp [create, WorkerAt.sleeps, List.countP_replicate]
  · intro waits
    exact absurd rfl waits
  · intro asleep
    cases asleep
  · intro stopped
    cases stopped
  · intro _
    simp [create, WorkerAt.gone, List.countP_replicate]

/-- The invariant while a worker that is about to look at the queue holds the
lock: it does not count as running any more. -/
structure Looking (threads : Nat) (pool : ThreadPool Task)
    (old : WorkerAt Task) : Prop where
  awake : old.awake = true
  size : pool.workers.length = threads
  counts : pool.tasksRunning + (if old.counted then 1 else 0) =
    pool.workers.countP WorkerAt.counted
  wakes : pool.workersRunning = true →
    pool.workers.countP WorkerAt.sleeps = 0 ∨
      pool.tasks.length ≤
        pool.detaching + pool.workers.countP WorkerAt.awake
  waiting : pool.client ≠ .away → pool.waiting = true
  client : pool.client = .waits false → pool.idle = false
  ends : pool.workersRunning = false →
    pool.destroying = true ∨ pool.workers.countP WorkerAt.sleeps = 0
  stays : pool.workersRunning = true → pool.workers.countP WorkerAt.gone = 0

private theorem sleeps_of_awake (awake : old.awake = true) : old.sleeps = false := by
  cases old with
  | waits notified => cases notified <;> simp_all [WorkerAt.awake, WorkerAt.sleeps]
  | outside | runs task | ended => rfl

theorem Looking.await (looking : Looking threads pool old)
    (found : pool.workers[index]? = some old) :
    Sound threads (pool.await index).1 := by
  have asleep := sleeps_of_awake looking.awake
  have awake := looking.awake
  have counts := looking.counts
  unfold ThreadPool.await
  cases running : pool.workersRunning with
  | false =>
      have counted : (pool.setWorker index .ended).workers.countP WorkerAt.counted +
          (if old.counted then 1 else 0) =
            pool.workers.countP WorkerAt.counted + 0 := countP_setWorker _ found
      have sleeps : (pool.setWorker index .ended).workers.countP WorkerAt.sleeps +
          (if old.sleeps then 1 else 0) =
            pool.workers.countP WorkerAt.sleeps + 0 := countP_setWorker _ found
      simp only [asleep, Bool.false_eq_true, if_false] at sleeps ⊢
      refine ⟨by simpa [setWorker] using looking.size, ?_, ?_, looking.waiting,
        looking.client, ?_, ?_⟩
      · show pool.tasksRunning = _
        omega
      · intro runs
        exact absurd (running.symm.trans runs) (by decide)
      · intro _
        rcases looking.ends running with due | none
        · exact Or.inl due
        · exact Or.inr (by omega)
      · intro runs
        exact absurd (running.symm.trans runs) (by decide)
  | true =>
      have stays := looking.stays running
      simp only [if_true]
      cases queue : pool.tasks with
      | nil =>
          have gone : (pool.setWorker index (.waits false)).workers.countP
              WorkerAt.gone + (if old.gone then 1 else 0) =
                pool.workers.countP WorkerAt.gone + 0 := countP_setWorker _ found
          have counted : (pool.setWorker index (.waits false)).workers.countP
              WorkerAt.counted + (if old.counted then 1 else 0) =
                pool.workers.countP WorkerAt.counted + 0 := countP_setWorker _ found
          refine ⟨by simpa [setWorker] using looking.size, ?_, ?_, looking.waiting,
            looking.client, ?_, ?_⟩
          · show pool.tasksRunning =
              (pool.setWorker index (.waits false)).workers.countP _
            omega
          · intro _
            right
            simp [setWorker, queue]
          · intro stopped
            exact absurd (running.symm.trans stopped) (by decide)
          · intro _
            show (pool.setWorker index (.waits false)).workers.countP _ = 0
            omega
      | cons task tasks =>
          have counted : (pool.setWorker index (.runs task)).workers.countP
              WorkerAt.counted + (if old.counted then 1 else 0) =
                pool.workers.countP WorkerAt.counted + 1 := countP_setWorker _ found
          have gone : (pool.setWorker index (.runs task)).workers.countP
              WorkerAt.gone + (if old.gone then 1 else 0) =
                pool.workers.countP WorkerAt.gone + 0 := countP_setWorker _ found
          have sleeps : (pool.setWorker index (.runs task)).workers.countP
              WorkerAt.sleeps + (if old.sleeps then 1 else 0) =
                pool.workers.countP WorkerAt.sleeps + 0 := countP_setWorker _ found
          have looks : (pool.setWorker index (.runs task)).workers.countP
              WorkerAt.awake + (if old.awake then 1 else 0) =
                pool.workers.countP WorkerAt.awake + 0 := countP_setWorker _ found
          simp only [asleep, awake, Bool.false_eq_true, if_false, if_true]
            at sleeps looks
          refine ⟨by simpa [setWorker] using looking.size, ?_, ?_, looking.waiting,
            ?_, ?_, ?_⟩
          · show pool.tasksRunning + 1 =
              (pool.setWorker index (.runs task)).workers.countP _
            omega
          · intro _
            rcases looking.wakes running with none | enough
            · left
              show (pool.setWorker index (.runs task)).workers.countP _ = 0
              omega
            · right
              rw [queue, List.length_cons] at enough
              show tasks.length ≤ pool.detaching +
                (pool.setWorker index (.runs task)).workers.countP _
              omega
          · intro _
            simp [idle]
          · intro stopped
            exact absurd (running.symm.trans stopped) (by decide)
          · intro _
            show (pool.setWorker index (.runs task)).workers.countP _ = 0
            omega

/-- A worker that comes back from a task stops counting, and tells the caller of
`wait` if that was the last thing to do. -/
theorem Sound.leaveTask (sound : Sound threads pool)
    (found : pool.workers[index]? = some .outside) :
    Looking threads pool.leaveTask .outside := by
  have same := sameWork_leaveTask pool
  have positive : 0 < pool.workers.countP WorkerAt.counted :=
    List.countP_pos_iff.mpr ⟨.outside, List.mem_of_getElem? found, rfl⟩
  have counter : pool.leaveTask.tasksRunning = pool.tasksRunning - 1 := by
    simp only [ThreadPool.leaveTask]
    split <;> rfl
  have counts := sound.counts
  refine ⟨rfl, by rw [same.workers]; exact sound.size, ?_, ?_, ?_, ?_, ?_, ?_⟩
  · rw [same.workers, counter]
    show pool.tasksRunning - 1 + 1 = _
    omega
  · rw [same.workersRunning, same.workers, same.tasks, same.detaching]
    exact sound.wakes
  · intro waits
    simp only [ThreadPool.leaveTask] at waits ⊢
    split at waits
    · next done =>
        rw [if_pos done]
        exact (Bool.and_eq_true_iff.mp done).1
    · next left =>
        rw [if_neg left]
        exact sound.waiting waits
  · intro waits
    simp only [ThreadPool.leaveTask] at waits ⊢
    by_cases done : (pool.waiting && idle { pool with
        tasksRunning := pool.tasksRunning - 1 }) = true
    · rw [if_pos done] at waits
      cases client : pool.client with
      | away => simp [notifyDone, client] at waits
      | waits notified => simp [notifyDone, client] at waits
    · rw [if_neg done] at waits ⊢
      have waiting : pool.waiting = true := by
        apply sound.waiting
        rw [show pool.client = .waits false from waits]
        decide
      simpa [waiting] using done
  · rw [same.workersRunning, same.workers, same.destroying]
    exact sound.ends
  · rw [same.workersRunning, same.workers]
    exact sound.stays

theorem Sound.worker (sound : Sound threads pool) (index : Nat) :
    Sound threads (pool.worker index).1 := by
  unfold ThreadPool.worker
  cases found : pool.workers[index]? with
  | none => exact sound
  | some at_ =>
      cases at_ with
      | outside =>
          have looking := sound.leaveTask found
          rw [← (sameWork_leaveTask pool).workers] at found
          exact looking.await found
      | ended => exact sound
      | waits notified =>
          cases notified with
          | false => exact sound
          | true =>
              have looking : Looking threads pool (.waits true) :=
                ⟨rfl, sound.size, sound.counts, sound.wakes, sound.waiting,
                  sound.client, sound.ends, sound.stays⟩
              exact looking.await found
      | runs task =>
          have counted : (pool.setWorker index .outside).workers.countP
              WorkerAt.counted + 1 =
                pool.workers.countP WorkerAt.counted + 1 := countP_setWorker _ found
          have sleeps : (pool.setWorker index .outside).workers.countP
              WorkerAt.sleeps + 0 =
                pool.workers.countP WorkerAt.sleeps + 0 := countP_setWorker _ found
          have looks : (pool.setWorker index .outside).workers.countP
              WorkerAt.awake + 0 =
                pool.workers.countP WorkerAt.awake + 1 := countP_setWorker _ found
          have gone : (pool.setWorker index .outside).workers.countP
              WorkerAt.gone + 0 =
                pool.workers.countP WorkerAt.gone + 0 := countP_setWorker _ found
          have counts := sound.counts
          show Sound threads (pool.setWorker index .outside)
          refine ⟨by simpa [setWorker] using sound.size, ?_, ?_, sound.waiting,
            sound.client, ?_, ?_⟩
          · show pool.tasksRunning = _
            omega
          · intro running
            rcases sound.wakes running with none | enough
            · left
              omega
            · right
              show pool.tasks.length ≤ pool.detaching + _
              omega
          · intro stopped
            rcases sound.ends stopped with due | none
            · exact Or.inl due
            · exact Or.inr (by omega)
          · intro running
            have stays := sound.stays running
            omega

theorem Sound.detachTask (sound : Sound threads pool) (task : Task) :
    Sound threads (pool.detachTask task).1 := by
  refine ⟨sound.size, sound.counts, ?_, sound.waiting, ?_, sound.ends, sound.stays⟩
  · intro running
    rcases sound.wakes running with none | enough
    · exact Or.inl none
    · right
      show (pool.tasks ++ [task]).length ≤ pool.detaching + 1 +
        pool.workers.countP _
      rw [List.length_append, List.length_singleton]
      omega
  · intro _
    simp [idle, ThreadPool.detachTask]

theorem Sound.wakeWorker (sound : Sound threads pool)
    (found : pool.workers[index]? = some (.waits false)) {detaching : Nat}
    (due : pool.detaching ≤ detaching + 1) :
    Sound threads
      { pool.setWorker index (.waits true) with detaching := detaching } := by
  have counted : (pool.setWorker index (.waits true)).workers.countP
      WorkerAt.counted + 0 =
        pool.workers.countP WorkerAt.counted + 0 := countP_setWorker _ found
  have sleeps : (pool.setWorker index (.waits true)).workers.countP
      WorkerAt.sleeps + 1 =
        pool.workers.countP WorkerAt.sleeps + 0 := countP_setWorker _ found
  have looks : (pool.setWorker index (.waits true)).workers.countP
      WorkerAt.awake + 0 =
        pool.workers.countP WorkerAt.awake + 1 := countP_setWorker _ found
  have gone : (pool.setWorker index (.waits true)).workers.countP
      WorkerAt.gone + 0 =
        pool.workers.countP WorkerAt.gone + 0 := countP_setWorker _ found
  have counts := sound.counts
  refine ⟨by simpa [setWorker] using sound.size, ?_, ?_, sound.waiting,
    sound.client, ?_, ?_⟩
  · show pool.tasksRunning = (pool.setWorker index (.waits true)).workers.countP _
    omega
  · intro running
    rcases sound.wakes running with none | enough
    · left
      show (pool.setWorker index (.waits true)).workers.countP _ = 0
      omega
    · right
      show pool.tasks.length ≤ detaching +
        (pool.setWorker index (.waits true)).workers.countP _
      omega
  · intro stopped
    rcases sound.ends stopped with due | none
    · exact Or.inl due
    · right
      show (pool.setWorker index (.waits true)).workers.countP _ = 0
      omega
  · intro running
    have stays := sound.stays running
    show (pool.setWorker index (.waits true)).workers.countP _ = 0
    omega

theorem Sound.notifyOne (sound : Sound threads pool) (index : Nat) :
    Sound threads (pool.notifyOne index) := by
  unfold ThreadPool.notifyOne
  by_cases none : pool.detaching = 0
  · rw [if_pos none]
    exact sound
  · rw [if_neg none]
    split
    · next found => exact sound.wakeWorker found (by omega)
    · split
      · exact sound
      · next awake =>
          have zero : pool.workers.countP WorkerAt.sleeps = 0 := by
            rw [List.countP_eq_zero]
            intro worker member sleeps
            exact awake (List.any_eq_true.mpr ⟨worker, member, sleeps⟩)
          exact ⟨sound.size, sound.counts, fun _ => Or.inl zero, sound.waiting,
            sound.client, fun _ => Or.inr zero, sound.stays⟩

theorem Sound.checkDone (sound : Sound threads pool)
    (waiting : pool.waiting = true) : Sound threads pool.checkDone.1 := by
  unfold ThreadPool.checkDone
  cases done : pool.idle with
  | true =>
      refine ⟨sound.size, sound.counts, sound.wakes, ?_, ?_, sound.ends,
        sound.stays⟩
      · intro waits
        exact absurd rfl waits
      · intro asleep
        cases asleep
  | false =>
      exact ⟨sound.size, sound.counts, sound.wakes, fun _ => waiting,
        fun _ => done, sound.ends, sound.stays⟩

theorem Sound.begins (sound : Sound threads pool) (away : pool.client = .away) :
    Sound threads { pool with waiting := true } := by
  refine ⟨sound.size, sound.counts, sound.wakes, fun _ => rfl, ?_, sound.ends,
    sound.stays⟩
  intro waits
  rw [away] at waits
  cases waits

private theorem countP_notified (workers : List (WorkerAt Task)) :
    (workers.map WorkerAt.notified).countP WorkerAt.counted =
        workers.countP WorkerAt.counted ∧
      (workers.map WorkerAt.notified).countP WorkerAt.sleeps = 0 ∧
      (workers.map WorkerAt.notified).countP WorkerAt.gone =
        workers.countP WorkerAt.gone := by
  induction workers with
  | nil => exact ⟨rfl, rfl, rfl⟩
  | cons worker workers induction =>
      simp only [List.map_cons, List.countP_cons, induction]
      cases worker <;> exact ⟨rfl, rfl, rfl⟩

theorem Sound.notifyAll (sound : Sound threads pool) :
    Sound threads pool.notifyAll := by
  obtain ⟨counted, asleep, gone⟩ := countP_notified pool.workers
  unfold ThreadPool.notifyAll
  split
  · refine ⟨by simpa using sound.size, ?_, fun _ => Or.inl asleep, sound.waiting,
      sound.client, fun _ => Or.inr asleep, ?_⟩
    · rw [counted]
      exact sound.counts
    · rw [gone]
      exact sound.stays
  · exact sound

theorem Sound.step (sound : Sound threads pool) (move : PoolMove Task) :
    Sound threads (pool.step move).1 := by
  cases move with
  | detachTask task => exact sound.detachTask task
  | notifyOne index => exact sound.notifyOne index
  | worker index => exact sound.worker index
  | workerWakes index =>
      simp only [ThreadPool.step]
      split
      · next notified found =>
          cases notified with
          | false => exact sound.wakeWorker found (Nat.le_succ _)
          | true =>
              have same : pool.workers.set index (.waits true) = pool.workers := by
                obtain ⟨before, after, split, set⟩ := exists_split found
                rw [set, ← split]
              simpa [setWorker, same] using sound
      all_goals exact sound
  | wait =>
      simp only [ThreadPool.step, ThreadPool.wait]
      cases client : pool.client with
      | waits notified => exact sound
      | away =>
          exact (sound.begins client).checkDone rfl
  | client =>
      simp only [ThreadPool.step]
      split
      · next client =>
          apply sound.checkDone
          apply sound.waiting
          rw [client]
          decide
      all_goals exact sound
  | clientWakes =>
      simp only [ThreadPool.step]
      split
      · next notified client =>
          refine ⟨sound.size, sound.counts, sound.wakes, ?_, ?_, sound.ends,
            sound.stays⟩
          · intro _
            apply sound.waiting
            rw [client]
            cases notified <;> decide
          · intro waits
            cases waits
      · exact sound
  | destroyThreads =>
      refine ⟨sound.size, sound.counts, ?_, sound.waiting, sound.client,
        fun _ => Or.inl rfl, ?_⟩
      · intro running
        cases running
      · intro running
        cases running
  | notifyAll => exact sound.notifyAll

private theorem view_notified (workers : List (WorkerAt Task)) :
    (workers.map WorkerAt.notified).filterMap WorkerAt.task? =
      workers.filterMap WorkerAt.task? := by
  rw [List.filterMap_map]
  apply List.filterMap_congr
  intro worker _
  cases worker <;> rfl

private theorem view_notifyOne (pool : ThreadPool Task) (index : Nat) :
    (pool.notifyOne index).view = pool.view := by
  unfold ThreadPool.notifyOne
  split
  · rfl
  · split
    · next found =>
        have same : (pool.setWorker index (.waits true)).view = pool.view :=
          view_setWorker_idle found rfl rfl
        exact same
    · split <;> rfl

theorem Sound.checkDone_lives (sound : Sound threads pool) :
    TaskPool.Lives threads pool.view pool.checkDone.2 pool.checkDone.1.view := by
  unfold ThreadPool.checkDone
  cases done : pool.idle with
  | false => exact .nil pool.view
  | true =>
      simp only [idle, Bool.and_eq_true, beq_iff_eq, List.isEmpty_iff] at done
      obtain ⟨zero, queue⟩ := done
      have counts := sound.counts
      rw [zero] at counts
      have running : pool.workers.filterMap WorkerAt.task? = [] := by
        rw [List.filterMap_eq_nil_iff]
        intro worker member
        have free := List.countP_eq_zero.mp counts.symm worker member
        cases worker with
        | runs task => exact absurd rfl free
        | outside | waits notified | ended => rfl
      have empty : pool.view = TaskPool.empty := by
        simp [ThreadPool.view, queue, running, TaskPool.empty]
      show TaskPool.Lives threads pool.view [.returned] pool.view
      rw [empty]
      exact .single .returned

/-- A move is at most one event in the life of the pool. -/
theorem Sound.step_lives (sound : Sound threads pool) (move : PoolMove Task) :
    TaskPool.Lives threads pool.view (pool.step move).2 (pool.step move).1.view := by
  cases move with
  | detachTask task => exact .single (.submitted task pool.tasks _)
  | notifyOne index =>
      simp only [ThreadPool.step, view_notifyOne]
      exact .nil pool.view
  | worker index =>
      have lives := worker_lives pool index
      rw [sound.size] at lives
      exact lives
  | workerWakes index =>
      simp only [ThreadPool.step]
      split
      · next notified found =>
          have same : (pool.setWorker index (.waits true)).view = pool.view :=
            view_setWorker_idle found rfl rfl
          simp only [same]
          exact .nil pool.view
      all_goals exact .nil pool.view
  | wait =>
      simp only [ThreadPool.step, ThreadPool.wait]
      cases client : pool.client with
      | waits notified => exact .nil pool.view
      | away =>
          exact (sound.begins client).checkDone_lives
  | client =>
      simp only [ThreadPool.step]
      split
      · exact sound.checkDone_lives
      all_goals exact .nil pool.view
  | clientWakes =>
      simp only [ThreadPool.step]
      split <;> exact .nil pool.view
  | destroyThreads => exact .nil pool.view
  | notifyAll =>
      have same : pool.notifyAll.view = pool.view := by
        unfold ThreadPool.notifyAll
        split
        · simp only [ThreadPool.view, view_notified]
        · rfl
      simp only [ThreadPool.step, same]
      exact .nil pool.view

/-- A run keeps the invariant, and its events are the life of a pool. -/
theorem Sound.runs (sound : Sound threads pool) (moves : List (PoolMove Task)) :
    Sound threads (pool.runs moves).1 ∧
      TaskPool.Lives threads pool.view (pool.runs moves).2
        (pool.runs moves).1.view := by
  induction moves generalizing pool with
  | nil => exact ⟨sound, .nil pool.view⟩
  | cons move moves induction =>
      obtain ⟨kept, lives⟩ := induction (sound.step move)
      exact ⟨kept, (sound.step_lives move).append lives⟩

private theorem determineThreadCount_pos (numThreads hardwareConcurrency : Nat) :
    0 < determineThreadCount numThreads hardwareConcurrency := by
  unfold determineThreadCount
  split
  · assumption
  · split
    · assumption
    · exact Nat.one_pos

/-- Nothing moves any more unless a task ends or somebody calls: no worker is
about to look at the queue, no notification is due, and the caller of `wait` has
not been woken. -/
structure Quiet (pool : ThreadPool Task) : Prop where
  detaching : pool.detaching = 0
  destroying : pool.destroying = false
  workers : ∀ worker ∈ pool.workers, worker.awake = false
  client : pool.client ≠ .waits true

/-- No wakeup has been lost: a task waits only while every worker is in a task,
`wait` only while some worker is, and a stopped pool has no other workers left
than those in a task. -/
structure NoneStranded (pool : ThreadPool Task) : Prop where
  tasks : pool.workersRunning = true → pool.tasks ≠ [] →
    ∀ worker ∈ pool.workers, ∃ task, worker = .runs task
  wait : pool.workersRunning = true → pool.client ≠ .away →
    ∃ worker ∈ pool.workers, ∃ task, worker = .runs task
  stopped : pool.workersRunning = false →
    ∀ worker ∈ pool.workers, worker = .ended ∨ ∃ task, worker = .runs task

theorem runs_or_ended {worker : WorkerAt Task} (quiet : worker.awake = false)
    (awake : worker.sleeps = false) :
    worker = .ended ∨ ∃ task, worker = .runs task := by
  cases worker with
  | outside => cases quiet
  | waits notified =>
      cases notified with
      | true => cases quiet
      | false => cases awake
  | runs task => exact Or.inr ⟨task, rfl⟩
  | ended => exact Or.inl rfl

theorem Sound.noneStranded (sound : Sound threads pool) (positive : 0 < threads)
    (quiet : pool.Quiet) : NoneStranded pool := by
  have tasks : pool.workersRunning = true → pool.tasks ≠ [] →
      ∀ worker ∈ pool.workers, ∃ task, worker = .runs task := by
    intro running nonempty worker member
    have present := List.countP_eq_zero.mp (sound.stays running) worker member
    have looks : pool.workers.countP WorkerAt.awake = 0 :=
      List.countP_eq_zero.mpr fun other inside => by simp [quiet.workers other inside]
    have none : pool.workers.countP WorkerAt.sleeps = 0 := by
      rcases sound.wakes running with none | enough
      · exact none
      · rw [quiet.detaching, looks] at enough
        exact absurd (List.length_eq_zero_iff.mp (Nat.le_zero.mp enough)) nonempty
    have awake := List.countP_eq_zero.mp none worker member
    rcases runs_or_ended (quiet.workers worker member) (by simpa using awake) with
      ended | runs
    · subst ended
      exact absurd rfl present
    · exact runs
  refine ⟨tasks, ?_, ?_⟩
  · intro running waits
    have asleep : pool.client = .waits false := by
      cases client : pool.client with
      | away => exact absurd client waits
      | waits notified =>
          cases notified with
          | false => rfl
          | true => exact absurd client quiet.client
    have busy := sound.client asleep
    by_cases empty : pool.tasks = []
    · have counted : 0 < pool.workers.countP WorkerAt.counted := by
        rw [← sound.counts]
        by_contra zero
        simp [idle, empty, Nat.eq_zero_of_not_pos zero] at busy
      obtain ⟨worker, member, counts⟩ := List.countP_pos_iff.mp counted
      refine ⟨worker, member, ?_⟩
      have still := quiet.workers worker member
      cases worker with
      | outside => cases still
      | runs task => exact ⟨task, rfl⟩
      | waits notified | ended => cases counts
    · have some : 0 < pool.workers.length := sound.size ▸ positive
      exact ⟨pool.workers[0], List.getElem_mem some,
        tasks running empty _ (List.getElem_mem some)⟩
  · intro stopped worker member
    rcases sound.ends stopped with due | none
    · rw [quiet.destroying] at due
      cases due
    · have awake := List.countP_eq_zero.mp none worker member
      exact runs_or_ended (quiet.workers worker member) (by simpa using awake)

end

open TaskPool in
/-- Over any moves of its threads, a pool starts the tasks in the order of
submission, each once and no more at a time than it has threads, and `wait`
returns only when all that was submitted before has finished. -/
theorem tasks_in_order (numThreads hardwareConcurrency : Nat)
    (moves : List (PoolMove Task)) :
    let reached := (create (determineThreadCount numThreads hardwareConcurrency) :
      ThreadPool Task).runs moves
    submittedOf reached.2 = startedOf reached.2 ++ reached.1.tasks ∧
      (startedOf reached.2 : Multiset Task) =
        (finishedOf reached.2 : Multiset Task) + reached.1.view.running ∧
      reached.1.view.running.card ≤
        determineThreadCount numThreads hardwareConcurrency ∧
      ∀ before after, reached.2 = before ++ .returned :: after →
        (finishedOf before : Multiset Task) = (submittedOf before : Multiset Task) := by
  have start : Sound (determineThreadCount numThreads hardwareConcurrency)
      (create (determineThreadCount numThreads hardwareConcurrency) :
        ThreadPool Task) := sound_create _
  obtain ⟨_, lives⟩ := start.runs moves
  have blank : (create (determineThreadCount numThreads hardwareConcurrency) :
      ThreadPool Task).view = empty := by
    simp [create, view, empty, WorkerAt.task?, List.filterMap_replicate]
  rw [blank] at lives
  refine ⟨?_, by simpa [empty] using lives.accounted,
    lives.running_le (Nat.zero_le _), ?_⟩
  · have order := lives.fifo
    rw [empty, List.nil_append] at order
    exact order
  · intro before after split
    rw [split] at lives
    exact lives.finished_of_returned

/-- Once nothing moves by itself any more, no task and no caller has been
forgotten. -/
theorem quiet_noneStranded (numThreads hardwareConcurrency : Nat)
    (moves : List (PoolMove Task))
    (quiet : ((create (determineThreadCount numThreads hardwareConcurrency) :
      ThreadPool Task).runs moves).1.Quiet) :
    NoneStranded ((create (determineThreadCount numThreads hardwareConcurrency) :
      ThreadPool Task).runs moves).1 := by
  have start : Sound (determineThreadCount numThreads hardwareConcurrency)
      (create (determineThreadCount numThreads hardwareConcurrency) :
        ThreadPool Task) := sound_create _
  obtain ⟨sound, _⟩ := start.runs moves
  exact sound.noneStranded (determineThreadCount_pos _ _) quiet

/-- One worker, two tasks and a caller of `wait`: the second task is submitted
while the worker is in the first. -/
theorem quiet_noneStranded_busy : NoneStranded ((create (determineThreadCount 1 4) :
    ThreadPool Nat).runs [.detachTask 0, .worker 0, .notifyOne 0, .detachTask 1,
      .notifyOne 0, .wait]).1 := by
  apply quiet_noneStranded 1 4
  refine ⟨rfl, rfl, ?_, ?_⟩
  · intro worker member
    cases List.mem_singleton.mp member
    rfl
  · intro woken
    cases woken

end ThreadPool

end DataGateway
