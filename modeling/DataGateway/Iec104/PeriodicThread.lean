import DataGateway.Foundation.Handles
import DataGateway.Foundation.Runs
import Mathlib.Logic.Function.Basic

/-!
# The periodic thread of the IEC 104 server

`start`, `stop`, the destructor and `periodicSendTask` of `IEC104Server`
(`core/iec104/iec104Service.cc`) on the threads of the HAL.  The thread is
created with `autodestroy`, so the library destroys it when its function
returns; `stop` destroys it too, and does not wait for it.
-/

namespace DataGateway.Iec104

open Foundation

/-- What the task does next: it tests `running_`, copies `dataPoints_`, sends
through `slave_`, sleeps, or has returned. -/
inductive TaskAt
  | testsRunning
  | copies
  | sends
  | sleeps
  | returned
  deriving DecidableEq, Repr

def TaskAt.usesServer : TaskAt → Bool
  | .copies | .sends => true
  | _ => false

/-- `periodicSendTask` in one thread; it is outlived once `stop` or the
destructor has returned. -/
structure Task where
  position : TaskAt
  outlived : Bool
  deriving DecidableEq, Repr

/-- What the caller does next in the call that is under way; `destructs` tells
`stop` in the destructor from `stop` alone. -/
inductive CallerAt
  | idle
  | createsThread
  | startsThread
  | undoesStart
  | destroysThread (destructs : Bool)
  | stopsSlave (destructs : Bool)
  | destroysSlave
  | gone
  deriving DecidableEq, Repr

/-- An `IEC104Server` with the threads that the HAL has created for it, and the
task of each of them that was started. -/
structure PeriodicServer where
  running : Bool
  periodicThread : Option Nat
  slaveRunning : Bool
  threads : HandleTable
  tasks : Nat → Option Task
  caller : CallerAt

/-- A call begins while none is under way, the call under way goes on, or a
task does. -/
inductive ServerMove
  | start (slaveStarts : Bool)
  | stop
  | destruct
  | caller (threadCreated : Bool)
  | task (thread : Nat)

def ServerMove.continues : ServerMove → Bool
  | .caller _ | .task _ => true
  | _ => false

namespace PeriodicServer

def construct : PeriodicServer :=
  { running := false
    periodicThread := none
    slaveRunning := false
    threads := .empty
    tasks := fun _ => none
    caller := .idle }

section Operations

variable (server : PeriodicServer)

/-- The tests of `start`, and `running_ = true`. -/
def start (slaveStarts : Bool) : PeriodicServer :=
  if server.running then server
  else if slaveStarts then
    { server with
      slaveRunning := true
      running := true
      caller := .createsThread }
  else server

/-- `stop` returns. -/
def outliveTasks : PeriodicServer :=
  { server with
    tasks := fun thread =>
      (server.tasks thread).map ({ · with outlived := true }) }

def stop : PeriodicServer :=
  if server.running then
    { server with
      running := false
      caller := .destroysThread false }
  else server.outliveTasks

def destruct : PeriodicServer :=
  if server.running then
    { server with
      running := false
      caller := .destroysThread true }
  else { server.outliveTasks with caller := .destroysSlave }

/-- The call that is under way goes on. -/
def proceed (threadCreated : Bool) : Except HandleFault PeriodicServer :=
  match server.caller with
  | .idle | .gone => .ok server
  | .createsThread =>
      if threadCreated then
        .ok { server with
          periodicThread := some server.threads.issued
          threads := server.threads.acquire
          caller := .startsThread }
      else
        .ok { server with
          periodicThread := none
          caller := .undoesStart }
  | .startsThread =>
      match server.periodicThread with
      | none => .error .nullUse
      | some thread =>
          .ok { server with
            tasks := Function.update server.tasks thread
              (some ⟨.testsRunning, false⟩)
            caller := .idle }
  | .undoesStart =>
      .ok { server with
        slaveRunning := false
        running := false
        caller := .idle }
  | .destroysThread destructs =>
      match server.periodicThread with
      | none => .ok { server with caller := .stopsSlave destructs }
      | some thread =>
          match server.threads.release? thread with
          | .error fault => .error fault
          | .ok threads =>
              .ok { server with
                periodicThread := none
                threads := threads
                caller := .stopsSlave destructs }
  | .stopsSlave destructs =>
      .ok { server.outliveTasks with
        slaveRunning := false
        caller := if destructs then .destroysSlave else .idle }
  | .destroysSlave => .ok { server with caller := .gone }

def moveTask (thread : Nat) (task : Task) (next : TaskAt) : PeriodicServer :=
  { server with
    tasks := Function.update server.tasks thread
      (some { task with position := next }) }

/-- One step of `periodicSendTask`; on its return the library destroys the
thread. -/
def periodicSendTask (thread : Nat) : Except HandleFault PeriodicServer :=
  match server.tasks thread with
  | none => .ok server
  | some task =>
      match task.position with
      | .testsRunning =>
          if server.running then .ok (server.moveTask thread task .copies)
          else
            match server.threads.release? thread with
            | .error fault => .error fault
            | .ok threads =>
                .ok { server.moveTask thread task .returned with
                  threads := threads }
      | .copies => .ok (server.moveTask thread task .sends)
      | .sends => .ok (server.moveTask thread task .sleeps)
      | .sleeps => .ok (server.moveTask thread task .testsRunning)
      | .returned => .ok server

end Operations

/-- Calls come one after the other, so one that comes too early is none. -/
def step (server : PeriodicServer) (move : ServerMove) :
    Except HandleFault (PeriodicServer × Unit) :=
  match move with
  | .start slaveStarts =>
      .ok (if server.caller = .idle then server.start slaveStarts else server,
        ())
  | .stop => .ok (if server.caller = .idle then server.stop else server, ())
  | .destruct =>
      .ok (if server.caller = .idle then server.destruct else server, ())
  | .caller threadCreated => (server.proceed threadCreated).map (·, ())
  | .task thread => (server.periodicSendTask thread).map (·, ())

/-- The destructor and every task have returned. -/
def Finished (server : PeriodicServer) : Prop :=
  server.caller = .gone ∧
    ∀ thread task, server.tasks thread = some task → task.position = .returned

/-- No thread is destroyed twice, an outlived task uses neither `slave_` nor
`dataPoints_`, and in the end every thread has been destroyed. -/
def Safe (server : PeriodicServer) (move : ServerMove)
    (result : Except HandleFault (PeriodicServer × Unit)) : Prop :=
  (∃ next, result = .ok (next, ()) ∧
    (next.Finished → next.threads.ReleasedExactlyOnce)) ∧
  ∀ thread task, move = .task thread → server.tasks thread = some task →
    task.position.usesServer = true → task.outlived = false

/-- The run is safe, however the call under way and the tasks go on. -/
def AlwaysSafe (moves : List ServerMove) : Prop :=
  ∀ more, (∀ move ∈ more, move.continues = true) →
    EachStep step Safe construct (moves ++ more)

/-- Neither `stop` nor the destructor is called on a running server. -/
def StopsIdle (server : PeriodicServer) (move : ServerMove)
    (_ : Except HandleFault (PeriodicServer × Unit)) : Prop :=
  move = .stop ∨ move = .destruct → server.caller = .idle →
    server.running = false

/-- All that a step can do. -/
inductive Transition (server : PeriodicServer) :
    ServerMove → PeriodicServer → Prop where
  | still {move : ServerMove} : Transition server move server
  | starts {slaveStarts : Bool} :
      server.caller = .idle → server.running = false →
      Transition server (.start slaveStarts)
        { server with
          slaveRunning := true
          running := true
          caller := .createsThread }
  | stops {move : ServerMove} (destructs : Bool) :
      move = .stop ∨ move = .destruct →
      server.caller = .idle → server.running = true →
      Transition server move
        { server with
          running := false
          caller := .destroysThread destructs }
  | outlives {move : ServerMove} (caller : CallerAt) :
      server.caller = .idle → server.running = false →
      caller = .idle ∨ caller = .destroysSlave →
      Transition server move { server.outliveTasks with caller := caller }
  | creates :
      server.caller = .createsThread →
      Transition server (.caller true)
        { server with
          periodicThread := some server.threads.issued
          threads := server.threads.acquire
          caller := .startsThread }
  | createsNone :
      server.caller = .createsThread →
      Transition server (.caller false)
        { server with
          periodicThread := none
          caller := .undoesStart }
  | startsTask (thread : Nat) {threadCreated : Bool} :
      server.caller = .startsThread →
      server.periodicThread = some thread →
      Transition server (.caller threadCreated)
        { server with
          tasks := Function.update server.tasks thread
            (some ⟨.testsRunning, false⟩)
          caller := .idle }
  | undoes {threadCreated : Bool} :
      server.caller = .undoesStart →
      Transition server (.caller threadCreated)
        { server with
          slaveRunning := false
          running := false
          caller := .idle }
  | destroysNone (destructs : Bool) {threadCreated : Bool} :
      server.caller = .destroysThread destructs →
      server.periodicThread = none →
      Transition server (.caller threadCreated)
        { server with caller := .stopsSlave destructs }
  | destroys (destructs : Bool) (thread : Nat) {threadCreated : Bool}
      (live : server.threads.Live thread) :
      server.caller = .destroysThread destructs →
      server.periodicThread = some thread →
      Transition server (.caller threadCreated)
        { server with
          periodicThread := none
          threads := server.threads.release thread live
          caller := .stopsSlave destructs }
  | returns (destructs : Bool) {threadCreated : Bool} :
      server.caller = .stopsSlave destructs →
      Transition server (.caller threadCreated)
        { server.outliveTasks with
          slaveRunning := false
          caller := if destructs then .destroysSlave else .idle }
  | goes {threadCreated : Bool} :
      server.caller = .destroysSlave →
      Transition server (.caller threadCreated)
        { server with caller := .gone }
  | moves (thread : Nat) (task : Task) (position : TaskAt) :
      server.tasks thread = some task → position ≠ .returned →
      Transition server (.task thread) (server.moveTask thread task position)
  | ends (thread : Nat) (task : Task) (live : server.threads.Live thread) :
      server.tasks thread = some task → server.running = false →
      Transition server (.task thread)
        { server.moveTask thread task .returned with
          threads := server.threads.release thread live }

/-- A running server between two calls has a thread whose task has not
returned, and a thread about to be started belongs to nobody else. -/
structure Wellformed (server : PeriodicServer) : Prop where
  issued : ∀ thread task, server.tasks thread = some task →
    thread < server.threads.issued
  calling : server.running = true → server.caller = .idle ∨
    server.caller = .createsThread ∨ server.caller = .startsThread ∨
    server.caller = .undoesStart
  serving : server.running = true → server.caller = .idle →
    ∃ thread task, server.periodicThread = some thread ∧
      server.tasks thread = some task ∧ task.position ≠ .returned
  starting : server.caller = .startsThread →
    ∃ thread, server.periodicThread = some thread ∧
      server.threads.Live thread ∧ server.tasks thread = none

section

variable {server next : PeriodicServer} {thread other : Nat} {task found : Task}

@[simp] theorem outliveTasks_eq_none_iff :
    server.outliveTasks.tasks thread = none ↔ server.tasks thread = none := by
  simp [outliveTasks]

theorem outliveTasks_eq_some_iff :
    server.outliveTasks.tasks thread = some found ↔
      ∃ task, server.tasks thread = some task ∧
        { task with outlived := true } = found := by
  simp [outliveTasks]

@[simp] theorem moveTask_self (position : TaskAt) :
    (server.moveTask thread task position).tasks thread =
      some { task with position := position } :=
  Function.update_self _ _ _

@[simp] theorem moveTask_of_ne (position : TaskAt) (different : other ≠ thread) :
    (server.moveTask thread task position).tasks other = server.tasks other :=
  Function.update_of_ne different _ _

theorem step_caller_iff {threadCreated : Bool} :
    server.step (.caller threadCreated) = .ok (next, ()) ↔
      server.proceed threadCreated = .ok next := by
  simp only [step]
  cases server.proceed threadCreated <;> simp [Except.map]

theorem step_task_iff :
    server.step (.task thread) = .ok (next, ()) ↔
      server.periodicSendTask thread = .ok next := by
  simp only [step]
  cases server.periodicSendTask thread <;> simp [Except.map]

private theorem transition_of_periodicSendTask
    (stepped : server.periodicSendTask thread = .ok next) :
    Transition server (.task thread) next := by
  unfold periodicSendTask at stepped
  cases present : server.tasks thread with
  | none =>
      simp only [present] at stepped
      cases stepped
      exact .still
  | some task =>
      simp only [present] at stepped
      cases position : task.position with
      | returned =>
          simp only [position] at stepped
          cases stepped
          exact .still
      | copies | sends | sleeps =>
          simp only [position] at stepped
          cases stepped
          exact .moves thread task _ present (by simp)
      | testsRunning =>
          simp only [position] at stepped
          cases running : server.running with
          | true =>
              simp only [running, if_true] at stepped
              cases stepped
              exact .moves thread task _ present (by simp)
          | false =>
              simp only [running, Bool.false_eq_true, if_false] at stepped
              cases released : server.threads.release? thread with
              | error fault => simp [released] at stepped
              | ok threads =>
                  simp only [released] at stepped
                  obtain ⟨live, same⟩ := HandleTable.release?_eq_ok released
                  cases stepped
                  subst same
                  exact .ends thread task live present running

private theorem transition_of_proceed {threadCreated : Bool}
    (stepped : server.proceed threadCreated = .ok next) :
    Transition server (.caller threadCreated) next := by
  unfold PeriodicServer.proceed at stepped
  cases caller : server.caller with
  | idle | gone =>
      simp only [caller] at stepped
      cases stepped
      exact .still
  | createsThread =>
      simp only [caller] at stepped
      cases threadCreated with
      | true =>
          cases stepped
          exact .creates caller
      | false =>
          cases stepped
          exact .createsNone caller
  | startsThread =>
      simp only [caller] at stepped
      cases pointer : server.periodicThread with
      | none => simp [pointer] at stepped
      | some thread =>
          simp only [pointer] at stepped
          cases stepped
          rw [← pointer]
          exact .startsTask thread caller pointer
  | undoesStart =>
      simp only [caller] at stepped
      cases stepped
      exact .undoes caller
  | destroysThread destructs =>
      simp only [caller] at stepped
      cases pointer : server.periodicThread with
      | none =>
          simp only [pointer] at stepped
          cases stepped
          rw [← pointer]
          exact .destroysNone destructs caller pointer
      | some thread =>
          simp only [pointer] at stepped
          cases released : server.threads.release? thread with
          | error fault => simp [released] at stepped
          | ok threads =>
              simp only [released] at stepped
              obtain ⟨live, same⟩ := HandleTable.release?_eq_ok released
              cases stepped
              subst same
              exact .destroys destructs thread live caller pointer
  | stopsSlave destructs =>
      simp only [caller] at stepped
      cases stepped
      exact .returns destructs caller
  | destroysSlave =>
      simp only [caller] at stepped
      cases stepped
      exact .goes caller

theorem transition_of_step {move : ServerMove}
    (stepped : server.step move = .ok (next, ())) :
    Transition server move next := by
  cases move with
  | start slaveStarts =>
      cases stepped
      split
      · next idle =>
          unfold PeriodicServer.start
          split
          · exact .still
          · next halted =>
              split
              · exact .starts idle (eq_false_of_ne_true halted)
              · exact .still
      · exact .still
  | stop =>
      cases stepped
      split
      · next idle =>
          unfold PeriodicServer.stop
          split
          · next running => exact .stops false (Or.inl rfl) idle running
          · next halted =>
              exact .outlives server.caller idle (eq_false_of_ne_true halted)
                (Or.inl idle)
      · exact .still
  | destruct =>
      cases stepped
      split
      · next idle =>
          unfold PeriodicServer.destruct
          split
          · next running => exact .stops true (Or.inr rfl) idle running
          · next halted =>
              exact .outlives .destroysSlave idle (eq_false_of_ne_true halted)
                (Or.inr rfl)
      · exact .still
  | caller threadCreated =>
      exact transition_of_proceed (step_caller_iff.mp stepped)
  | task thread => exact transition_of_periodicSendTask (step_task_iff.mp stepped)

theorem Wellformed.of_stopped
    (issued : ∀ thread task, server.tasks thread = some task →
      thread < server.threads.issued)
    (stopped : server.running = false)
    (waits : server.caller ≠ .startsThread) : Wellformed server := by
  refine ⟨issued, ?_, ?_, fun starts => absurd starts waits⟩
  · intro running
    cases stopped.symm.trans running
  · intro running
    cases stopped.symm.trans running

theorem Wellformed.outlived_issued (wellformed : Wellformed server) :
    ∀ thread task, server.outliveTasks.tasks thread = some task →
      thread < server.threads.issued := by
  intro thread task same
  obtain ⟨earlier, present, _⟩ := outliveTasks_eq_some_iff.mp same
  exact wellformed.issued thread earlier present

theorem Wellformed.moveTask (wellformed : Wellformed server)
    (present : server.tasks thread = some task) {position : TaskAt}
    (unfinished : position ≠ .returned) :
    Wellformed (server.moveTask thread task position) := by
  refine ⟨?_, wellformed.calling, ?_, ?_⟩
  · intro other found same
    by_cases equal : other = thread
    · subst equal
      exact wellformed.issued other task present
    · rw [moveTask_of_ne position equal] at same
      exact wellformed.issued other found same
  · intro running idle
    obtain ⟨other, found, pointer, same, active⟩ :=
      wellformed.serving running idle
    by_cases equal : other = thread
    · subst equal
      exact ⟨other, _, pointer, moveTask_self position, unfinished⟩
    · exact ⟨other, found, pointer, (moveTask_of_ne position equal).trans same,
        active⟩
  · intro starts
    obtain ⟨other, pointer, live, absent⟩ := wellformed.starting starts
    have different : other ≠ thread := by
      intro equal
      rw [equal, present] at absent
      cases absent
    exact ⟨other, pointer, live, (moveTask_of_ne position different).trans absent⟩

theorem Wellformed.returnTask (wellformed : Wellformed server)
    (present : server.tasks thread = some task)
    (stopped : server.running = false) (live : server.threads.Live thread) :
    Wellformed { server.moveTask thread task .returned with
      threads := server.threads.release thread live } := by
  refine ⟨?_, ?_, ?_, ?_⟩
  · intro other found same
    by_cases equal : other = thread
    · subst equal
      exact wellformed.issued other task present
    · have earlier : server.tasks other = some found :=
        (moveTask_of_ne .returned equal).symm.trans same
      exact wellformed.issued other found earlier
  · intro running
    cases stopped.symm.trans running
  · intro running
    cases stopped.symm.trans running
  · intro starts
    obtain ⟨other, pointer, otherLive, absent⟩ := wellformed.starting starts
    have different : other ≠ thread := by
      intro equal
      rw [equal, present] at absent
      cases absent
    refine ⟨other, pointer, ?_, (moveTask_of_ne _ different).trans absent⟩
    exact (HandleTable.live_release_iff live).mpr ⟨different, otherLive⟩

theorem Wellformed.stopped (wellformed : Wellformed server)
    (stops : server.caller ≠ .idle ∧ server.caller ≠ .createsThread ∧
      server.caller ≠ .startsThread ∧ server.caller ≠ .undoesStart) :
    server.running = false := by
  cases running : server.running with
  | false => rfl
  | true =>
      rcases wellformed.calling running with idle | creates | starts | undoes
      · exact absurd idle stops.1
      · exact absurd creates stops.2.1
      · exact absurd starts stops.2.2.1
      · exact absurd undoes stops.2.2.2

theorem Wellformed.creates (wellformed : Wellformed server) :
    Wellformed { server with
      periodicThread := some server.threads.issued
      threads := server.threads.acquire
      caller := .startsThread } := by
  refine ⟨?_, fun _ => Or.inr (Or.inr (Or.inl rfl)), ?_, ?_⟩
  · intro thread task present
    exact Nat.lt_succ_of_lt (wellformed.issued thread task present)
  · intro _ idle
    cases idle
  · intro _
    refine ⟨server.threads.issued, rfl,
      HandleTable.live_acquire_iff.mpr (Or.inl rfl), ?_⟩
    cases present : server.tasks server.threads.issued with
    | none => rfl
    | some task =>
        have earlier := wellformed.issued _ task present
        exact absurd earlier (Nat.lt_irrefl _)

theorem Wellformed.startsTask (wellformed : Wellformed server)
    (starts : server.caller = .startsThread)
    (pointer : server.periodicThread = some thread) :
    Wellformed { server with
      tasks := Function.update server.tasks thread
        (some ⟨.testsRunning, false⟩)
      caller := .idle } := by
  obtain ⟨created, same, live, _⟩ := wellformed.starting starts
  cases pointer.symm.trans same
  refine ⟨?_, fun _ => Or.inl rfl, ?_, ?_⟩
  · intro other task present
    by_cases equal : other = thread
    · rw [equal]
      exact live.1
    · have earlier : server.tasks other = some task :=
        (Function.update_of_ne equal _ _).symm.trans present
      exact wellformed.issued other task earlier
  · intro _ _
    exact ⟨thread, _, pointer, Function.update_self _ _ _, by simp⟩
  · intro starts
    cases starts

theorem Wellformed.of_calling (wellformed : Wellformed server)
    (same : next.tasks = server.tasks) (threads : next.threads = server.threads)
    (calls : next.caller = .createsThread ∨ next.caller = .undoesStart) :
    Wellformed next := by
  refine ⟨?_, ?_, ?_, ?_⟩
  · rw [same, threads]
    exact wellformed.issued
  · intro _
    rcases calls with creates | undoes
    · exact Or.inr (Or.inl creates)
    · exact Or.inr (Or.inr (Or.inr undoes))
  · intro _ idle
    rcases calls with creates | undoes
    · cases idle.symm.trans creates
    · cases idle.symm.trans undoes
  · intro starts
    rcases calls with creates | undoes
    · cases starts.symm.trans creates
    · cases starts.symm.trans undoes

theorem Wellformed.transition (wellformed : Wellformed server)
    {move : ServerMove} (transition : Transition server move next) :
    Wellformed next := by
  cases transition with
  | still => exact wellformed
  | starts => exact wellformed.of_calling rfl rfl (Or.inl rfl)
  | createsNone => exact wellformed.of_calling rfl rfl (Or.inr rfl)
  | creates => exact wellformed.creates
  | startsTask thread starts pointer => exact wellformed.startsTask starts pointer
  | stops | undoes => exact .of_stopped wellformed.issued rfl (by simp)
  | outlives caller idle stopped rests =>
      refine .of_stopped wellformed.outlived_issued stopped ?_
      rcases rests with same | same <;> simp [same]
  | destroysNone destructs busy =>
      have stopped := wellformed.stopped (by simp [busy])
      exact .of_stopped wellformed.issued stopped (by simp)
  | destroys destructs thread live busy =>
      have stopped := wellformed.stopped (by simp [busy])
      exact .of_stopped wellformed.issued stopped (by simp)
  | returns destructs busy =>
      have stopped := wellformed.stopped (by simp [busy])
      refine .of_stopped wellformed.outlived_issued stopped ?_
      cases destructs <;> simp
  | goes busy =>
      have stopped := wellformed.stopped (by simp [busy])
      exact .of_stopped wellformed.issued stopped (by simp)
  | moves thread task position present unfinished =>
      exact wellformed.moveTask present unfinished
  | ends thread task live present stopped =>
      exact wellformed.returnTask present stopped live

theorem wellformed_construct : Wellformed construct := by
  refine Wellformed.of_stopped ?_ rfl ?_
  · intro thread task present
    cases present
  · exact fun starts => by cases starts

end

end PeriodicServer

end DataGateway.Iec104
