import DataGateway.Iec104.PeriodicThread

/-!
# Who destroys the periodic thread

A server that is stopped while it runs is doomed: the library and `stop` both
destroy the thread, or the task goes on after `stop` has returned.  A server
that is never stopped while it runs destroys no thread at all.
-/

namespace DataGateway.Iec104

open Foundation

namespace PeriodicServer

section

variable {server next : PeriodicServer} {thread other : Nat} {task found : Task}

/-- The server cannot go on safely for ever: a thread is about to be destroyed
that is destroyed already or whose task will return, or the task of a destroyed
thread has not returned. -/
inductive Doomed (server : PeriodicServer) : Prop
  | destroying (destructs : Bool) (thread : Nat)
      (caller : server.caller = .destroysThread destructs)
      (pointer : server.periodicThread = some thread)
      (fate : thread ∈ server.threads.released ∨ ∃ task,
        server.tasks thread = some task ∧ task.position ≠ .returned)
  | outliving (thread : Nat) (task : Task)
      (present : server.tasks thread = some task)
      (unfinished : task.position ≠ .returned)
      (dead : thread ∈ server.threads.released)
      (outlived : task.outlived = true ∨
        ∃ destructs, server.caller = .stopsSlave destructs)

private theorem not_safe_of_uses (present : server.tasks thread = some task)
    (uses : task.position.usesServer = true) (outlived : task.outlived = true)
    (result : Except HandleFault (PeriodicServer × Unit)) :
    ¬Safe server (.task thread) result := by
  intro safe
  have fresh := safe.2 thread task rfl present uses
  exact Bool.false_ne_true (fresh.symm.trans outlived)

private theorem outlived_tests_fails (present : server.tasks thread = some task)
    (tests : task.position = .testsRunning)
    (dead : thread ∈ server.threads.released)
    (outlived : task.outlived = true) (more : List ServerMove) :
    ¬EachStep step Safe server (.task thread :: .task thread :: more) := by
  intro each
  cases running : server.running with
  | false =>
      obtain ⟨next, stepped, _⟩ := each.1.1
      have released := HandleTable.release?_of_released dead
      simp [step, PeriodicServer.periodicSendTask, present, tests, running,
        released, Except.map] at stepped
  | true =>
      have stepped : server.step (.task thread) =
          .ok (server.moveTask thread task .copies, ()) := by
        simp [step, PeriodicServer.periodicSendTask, present, tests, running,
          Except.map]
      have second := (each.2 _ _ stepped).1
      exact not_safe_of_uses (moveTask_self .copies) rfl outlived _ second

theorem outlived_fails (present : server.tasks thread = some task)
    (unfinished : task.position ≠ .returned)
    (dead : thread ∈ server.threads.released)
    (outlived : task.outlived = true) :
    ¬EachStep step Safe server
      [.task thread, .task thread, .task thread] := by
  intro each
  cases position : task.position with
  | returned => exact unfinished position
  | copies | sends =>
      exact not_safe_of_uses present (by rw [position]; rfl) outlived _ each.1
  | testsRunning =>
      exact outlived_tests_fails present position dead outlived _ each
  | sleeps =>
      have stepped : server.step (.task thread) =
          .ok (server.moveTask thread task .testsRunning, ()) := by
        simp [step, PeriodicServer.periodicSendTask, present, position,
          Except.map]
      exact outlived_tests_fails (moveTask_self .testsRunning) rfl dead outlived
        _ (each.2 _ _ stepped)

theorem Wellformed.stop_doomed (wellformed : Wellformed server)
    (running : server.running = true) (idle : server.caller = .idle)
    {move : ServerMove} (stops : move = .stop ∨ move = .destruct) :
    ∃ next, server.step move = .ok (next, ()) ∧ Doomed next := by
  obtain ⟨thread, task, pointer, present, unfinished⟩ :=
    wellformed.serving running idle
  rcases stops with same | same
  · subst same
    refine ⟨{ server with
      running := false
      caller := .destroysThread false }, ?_,
      .destroying false thread rfl pointer (Or.inr ⟨task, present, unfinished⟩)⟩
    simp [PeriodicServer.step, PeriodicServer.stop, running, idle]
  · subst same
    refine ⟨{ server with
      running := false
      caller := .destroysThread true }, ?_,
      .destroying true thread rfl pointer (Or.inr ⟨task, present, unfinished⟩)⟩
    simp [PeriodicServer.step, PeriodicServer.destruct, running, idle]

theorem exists_moved (present : server.tasks thread = some task)
    (unfinished : task.position ≠ .returned)
    (moves : server.tasks other = some found) {position : TaskAt}
    (going : position ≠ .returned) :
    ∃ after : Task, (server.moveTask other found position).tasks thread =
        some after ∧
      after.position ≠ .returned ∧ after.outlived = task.outlived := by
  by_cases equal : thread = other
  · subst equal
    cases moves.symm.trans present
    exact ⟨_, moveTask_self position, going, rfl⟩
  · exact ⟨task, (moveTask_of_ne position equal).trans present, unfinished, rfl⟩

theorem Doomed.of_destroying {destructs : Bool} {move : ServerMove}
    (caller : server.caller = .destroysThread destructs)
    (pointer : server.periodicThread = some thread)
    (fate : thread ∈ server.threads.released ∨ ∃ task,
      server.tasks thread = some task ∧ task.position ≠ .returned)
    (transition : Transition server move next) : Doomed next := by
  cases transition with
  | still => exact .destroying destructs thread caller pointer fate
  | starts idle | stops _ _ idle | outlives _ idle => cases idle.symm.trans caller
  | creates busy | createsNone busy | startsTask _ busy | undoes busy
  | returns _ busy | goes busy => cases busy.symm.trans caller
  | destroysNone _ _ none => cases none.symm.trans pointer
  | destroys destructs other live busy same =>
      cases pointer.symm.trans same
      rcases fate with dead | ⟨task, present, unfinished⟩
      · exact absurd dead live.2
      · exact .outliving thread task present unfinished List.mem_cons_self
          (Or.inr ⟨destructs, rfl⟩)
  | moves other found position moves going =>
      refine .destroying destructs thread caller pointer ?_
      rcases fate with dead | ⟨task, present, unfinished⟩
      · exact Or.inl dead
      · obtain ⟨after, presentAfter, unfinishedAfter, _⟩ :=
          exists_moved present unfinished moves going
        exact Or.inr ⟨after, presentAfter, unfinishedAfter⟩
  | ends other found live moves =>
      refine .destroying destructs thread caller pointer ?_
      by_cases equal : thread = other
      · subst equal
        exact Or.inl List.mem_cons_self
      · rcases fate with dead | ⟨task, present, unfinished⟩
        · exact Or.inl (List.mem_cons_of_mem other dead)
        · exact Or.inr ⟨task, (moveTask_of_ne .returned equal).trans present,
            unfinished⟩

theorem Doomed.of_outliving (wellformed : Wellformed server) {move : ServerMove}
    (present : server.tasks thread = some task)
    (unfinished : task.position ≠ .returned)
    (dead : thread ∈ server.threads.released)
    (outlived : task.outlived = true ∨
      ∃ destructs, server.caller = .stopsSlave destructs)
    (transition : Transition server move next) : Doomed next := by
  have waits : (∀ destructs, server.caller ≠ .stopsSlave destructs) →
      task.outlived = true := by
    intro busy
    rcases outlived with outlived | ⟨destructs, stops⟩
    · exact outlived
    · exact absurd stops (busy destructs)
  cases transition with
  | still => exact .outliving thread task present unfinished dead outlived
  | starts idle | stops _ _ idle =>
      exact .outliving thread task present unfinished dead
        (Or.inl (waits (by simp [idle])))
  | outlives | returns =>
      exact .outliving thread { task with outlived := true }
        (outliveTasks_eq_some_iff.mpr ⟨task, present, rfl⟩) unfinished dead
        (Or.inl rfl)
  | creates busy | createsNone busy | undoes busy | destroysNone _ busy
  | goes busy =>
      exact .outliving thread task present unfinished dead
        (Or.inl (waits (by simp [busy])))
  | startsTask fresh busy pointer =>
      obtain ⟨created, same, live, _⟩ := wellformed.starting busy
      cases pointer.symm.trans same
      have different : thread ≠ fresh := by
        intro equal
        rw [equal] at dead
        exact live.2 dead
      exact .outliving thread task
        ((Function.update_of_ne different _ _).trans present) unfinished dead
        (Or.inl (waits (by simp [busy])))
  | destroys destructs other live busy =>
      exact .outliving thread task present unfinished
        (List.mem_cons_of_mem other dead) (Or.inl (waits (by simp [busy])))
  | moves other found position moves going =>
      obtain ⟨after, presentAfter, unfinishedAfter, same⟩ :=
        exists_moved present unfinished moves going
      exact .outliving thread after presentAfter unfinishedAfter dead
        (outlived.imp_left same.trans)
  | ends other found live moves =>
      have different : thread ≠ other := by
        intro equal
        rw [equal] at dead
        exact live.2 dead
      exact .outliving thread task
        ((moveTask_of_ne .returned different).trans present) unfinished
        (List.mem_cons_of_mem other dead) outlived

theorem Doomed.transition (doomed : Doomed server) (wellformed : Wellformed server)
    {move : ServerMove} (transition : Transition server move next) :
    Doomed next := by
  cases doomed with
  | destroying destructs thread caller pointer fate =>
      exact .of_destroying caller pointer fate transition
  | outliving thread task present unfinished dead outlived =>
      exact .of_outliving wellformed present unfinished dead outlived transition

/-- Whatever the caller has left to do, the tasks can then go wrong. -/
theorem Doomed.fails (doomed : Doomed server) :
    ∃ more, (∀ move ∈ more, move.continues = true) ∧
      ¬EachStep PeriodicServer.step Safe server more := by
  have outliving : ∀ (server : PeriodicServer) {thread : Nat} {task : Task},
      server.tasks thread = some task → task.position ≠ .returned →
      thread ∈ server.threads.released →
      (task.outlived = true ∨
        ∃ destructs, server.caller = .stopsSlave destructs) →
      ∃ more, (∀ move ∈ more, move.continues = true) ∧
        ¬EachStep PeriodicServer.step Safe server more := by
    intro server thread task present unfinished dead outlived
    rcases outlived with outlived | ⟨destructs, caller⟩
    · refine ⟨[.task thread, .task thread, .task thread],
        by simp [ServerMove.continues], ?_⟩
      exact outlived_fails present unfinished dead outlived
    · refine ⟨[.caller true, .task thread, .task thread, .task thread],
        by simp [ServerMove.continues], ?_⟩
      intro each
      have stops : server.proceed true =
          .ok { server.outliveTasks with
            slaveRunning := false
            caller := if destructs then .destroysSlave else .idle } := by
        simp only [PeriodicServer.proceed, caller]
      apply outlived_fails _ _ _ _ (each.2 _ _ (step_caller_iff.mpr stops))
      · exact { task with outlived := true }
      · exact outliveTasks_eq_some_iff.mpr ⟨task, present, rfl⟩
      · exact unfinished
      · exact dead
      · rfl
  cases doomed with
  | outliving thread task present unfinished dead outlived =>
      exact outliving server present unfinished dead outlived
  | destroying destructs thread caller pointer fate =>
      cases released : server.threads.release? thread with
      | error fault =>
          refine ⟨[.caller true], by simp [ServerMove.continues], ?_⟩
          intro each
          obtain ⟨next, stepped, _⟩ := each.1.1
          have proceeded := step_caller_iff.mp stepped
          simp [PeriodicServer.proceed, caller, pointer, released] at proceeded
      | ok threads =>
          obtain ⟨live, same⟩ := HandleTable.release?_eq_ok released
          rcases fate with dead | ⟨task, present, unfinished⟩
          · exact absurd dead live.2
          · let next : PeriodicServer :=
              { server with
                periodicThread := none
                threads := threads
                caller := .stopsSlave destructs }
            have proceeded : server.proceed true = .ok next := by
              simp [PeriodicServer.proceed, caller, pointer, released, next]
            have dead : thread ∈ next.threads.released := by
              simp only [next, same]
              exact List.mem_cons_self
            obtain ⟨more, continues, fails⟩ := outliving next
              present unfinished dead (Or.inr ⟨destructs, rfl⟩)
            refine ⟨.caller true :: more, ?_, ?_⟩
            · intro move member
              rcases List.mem_cons.mp member with first | later
              · rw [first]
                rfl
              · exact continues move later
            · intro each
              exact fails (each.2 _ _ (step_caller_iff.mpr proceeded))

/-- Nothing that happens afterwards averts the failure. -/
theorem Doomed.fails_after (doomed : Doomed server)
    (wellformed : Wellformed server) (moves : List ServerMove) :
    ∃ more, (∀ move ∈ more, move.continues = true) ∧
      ¬EachStep PeriodicServer.step Safe server (moves ++ more) := by
  induction moves generalizing server with
  | nil => exact doomed.fails
  | cons move moves induction =>
      by_cases safe : Safe server move (PeriodicServer.step server move)
      · obtain ⟨⟨next, stepped, _⟩, _⟩ := safe
        have transition := transition_of_step stepped
        obtain ⟨more, continues, fails⟩ := induction
          (doomed.transition wellformed transition)
          (wellformed.transition transition)
        refine ⟨more, continues, ?_⟩
        intro each
        exact fails (each.2 next () stepped)
      · refine ⟨[], by simp, ?_⟩
        intro each
        exact safe each.1

theorem Wellformed.fails_of_stops (wellformed : Wellformed server)
    {moves : List ServerMove}
    (stops : ¬EachStep PeriodicServer.step StopsIdle server moves) :
    ∃ more, (∀ move ∈ more, move.continues = true) ∧
      ¬EachStep PeriodicServer.step Safe server (moves ++ more) := by
  induction moves generalizing server with
  | nil => exact absurd trivial stops
  | cons move moves induction =>
      by_cases careful : StopsIdle server move (PeriodicServer.step server move)
      · by_cases safe : Safe server move (PeriodicServer.step server move)
        · obtain ⟨⟨next, stepped, _⟩, _⟩ := safe
          have later : ¬EachStep PeriodicServer.step StopsIdle next moves :=
            fun each => stops (each.cons careful stepped)
          obtain ⟨more, continues, fails⟩ :=
            induction (wellformed.transition (transition_of_step stepped)) later
          refine ⟨more, continues, ?_⟩
          intro each
          exact fails (each.2 next () stepped)
        · refine ⟨[], by simp, ?_⟩
          intro each
          exact safe each.1
      · simp only [StopsIdle, Classical.not_imp, Bool.not_eq_false] at careful
        obtain ⟨kind, idle, running⟩ := careful
        obtain ⟨next, stepped, doomed⟩ :=
          wellformed.stop_doomed running idle kind
        obtain ⟨more, continues, fails⟩ := doomed.fails_after
          (wellformed.transition (transition_of_step stepped)) moves
        refine ⟨more, continues, ?_⟩
        intro each
        exact fails (each.2 next () stepped)

/-- What a server that is never stopped while it runs can be doing. -/
def QuietCaller (server : PeriodicServer) : CallerAt → Prop
  | .idle => True
  | .createsThread => server.running = true ∧ server.threads.issued = 0
  | .startsThread => server.running = true
  | .undoesStart => server.threads.issued = 0
  | .destroysThread _ | .stopsSlave _ => False
  | .destroysSlave | .gone => server.running = false

/-- No thread has been destroyed, and tasks run in a running server only. -/
structure Quiet (server : PeriodicServer) : Prop where
  wellformed : Wellformed server
  unused : server.running = false → server.threads.issued = 0
  caller : server.QuietCaller server.caller
  tasks : ∀ thread task, server.tasks thread = some task →
    server.running = true ∧ server.caller = .idle ∧ task.outlived = false

theorem Quiet.no_task (quiet : Quiet server)
    (stopped : server.running = false) (thread : Nat) :
    server.tasks thread = none := by
  cases present : server.tasks thread with
  | none => rfl
  | some task =>
      have running := (quiet.tasks thread task present).1
      cases stopped.symm.trans running

theorem Quiet.finished (quiet : Quiet server) (finished : server.Finished) :
    server.threads.ReleasedExactlyOnce := by
  have stopped : server.running = false := by
    have caller := quiet.caller
    rw [finished.1] at caller
    exact caller
  intro handle issued
  rw [quiet.unused stopped] at issued
  cases issued

theorem Quiet.alone (quiet : Quiet server) (busy : server.caller ≠ .idle)
    (thread : Nat) : server.tasks thread = none := by
  cases present : server.tasks thread with
  | none => rfl
  | some task => exact absurd (quiet.tasks thread task present).2.1 busy

theorem Quiet.moveTask (quiet : Quiet server)
    (present : server.tasks thread = some task) {position : TaskAt}
    (unfinished : position ≠ .returned) :
    Quiet (server.moveTask thread task position) := by
  refine ⟨quiet.wellformed.moveTask present unfinished, quiet.unused,
    quiet.caller, ?_⟩
  intro other found same
  by_cases equal : other = thread
  · subst equal
    rw [moveTask_self] at same
    cases same
    exact quiet.tasks other task present
  · rw [moveTask_of_ne position equal] at same
    exact quiet.tasks other found same

theorem Quiet.of_no_task (wellformed : Wellformed next)
    (none : ∀ thread, next.tasks thread = none)
    (unused : next.running = false → next.threads.issued = 0)
    (caller : next.QuietCaller next.caller) : Quiet next := by
  refine ⟨wellformed, unused, caller, ?_⟩
  intro thread task present
  cases (none thread).symm.trans present

theorem Quiet.transition (quiet : Quiet server) {move : ServerMove}
    (careful : move = .stop ∨ move = .destruct → server.caller = .idle →
      server.running = false)
    (transition : Transition server move next) : Quiet next := by
  have wellformed := quiet.wellformed.transition transition
  have position := quiet.caller
  cases transition with
  | still => exact quiet
  | starts idle stopped =>
      exact .of_no_task wellformed (quiet.no_task stopped) (by simp)
        ⟨rfl, quiet.unused stopped⟩
  | stops destructs stops idle running =>
      cases running.symm.trans (careful stops idle)
  | outlives caller idle stopped rests =>
      refine .of_no_task wellformed ?_ (fun _ => quiet.unused stopped) ?_
      · intro thread
        exact outliveTasks_eq_none_iff.mpr (quiet.no_task stopped thread)
      · rcases rests with same | same
        · rw [same]
          trivial
        · rw [same]
          exact stopped
  | creates busy =>
      rw [busy] at position
      refine .of_no_task wellformed (quiet.alone (by simp [busy])) ?_ position.1
      intro stopped
      cases position.1.symm.trans stopped
  | createsNone busy =>
      rw [busy] at position
      exact .of_no_task wellformed (quiet.alone (by simp [busy]))
        (fun _ => position.2) position.2
  | startsTask thread busy =>
      rw [busy] at position
      refine ⟨wellformed, quiet.unused, trivial, ?_⟩
      intro other task present
      refine ⟨position, rfl, ?_⟩
      by_cases equal : other = thread
      · subst equal
        cases (Function.update_self _ _ _).symm.trans present
        rfl
      · have earlier := (Function.update_of_ne equal _ _).symm.trans present
        cases (quiet.alone (by simp [busy]) other).symm.trans earlier
  | undoes busy =>
      rw [busy] at position
      exact .of_no_task wellformed (quiet.alone (by simp [busy]))
        (fun _ => position) trivial
  | destroysNone destructs busy | destroys destructs _ _ busy
  | returns destructs busy =>
      rw [busy] at position
      exact position.elim
  | goes busy =>
      rw [busy] at position
      exact .of_no_task wellformed (quiet.alone (by simp [busy])) quiet.unused
        position
  | moves thread task position present going =>
      exact quiet.moveTask present going
  | ends thread task live present stopped =>
      cases (quiet.no_task stopped thread).symm.trans present

/-- A quiet server destroys no thread, so every step is possible. -/
theorem Quiet.exists_step (quiet : Quiet server) (move : ServerMove) :
    ∃ next, PeriodicServer.step server move = .ok (next, ()) := by
  cases move with
  | start slaveStarts => exact ⟨_, rfl⟩
  | stop => exact ⟨_, rfl⟩
  | destruct => exact ⟨_, rfl⟩
  | caller threadCreated =>
      suffices possible : ∃ next, server.proceed threadCreated = .ok next by
        obtain ⟨next, proceeded⟩ := possible
        exact ⟨next, step_caller_iff.mpr proceeded⟩
      have position := quiet.caller
      unfold PeriodicServer.proceed
      cases caller : server.caller with
      | idle | gone | undoesStart | destroysSlave => exact ⟨_, rfl⟩
      | createsThread => cases threadCreated <;> exact ⟨_, rfl⟩
      | startsThread =>
          obtain ⟨thread, pointer, _⟩ := quiet.wellformed.starting caller
          simp only [pointer]
          exact ⟨_, rfl⟩
      | destroysThread destructs | stopsSlave destructs =>
          rw [caller] at position
          exact position.elim
  | task thread =>
      suffices possible : ∃ next, server.periodicSendTask thread = .ok next by
        obtain ⟨next, stepped⟩ := possible
        exact ⟨next, step_task_iff.mpr stepped⟩
      unfold PeriodicServer.periodicSendTask
      cases present : server.tasks thread with
      | none => exact ⟨_, rfl⟩
      | some task =>
          have running := (quiet.tasks thread task present).1
          cases position : task.position <;> simp [position, running]

theorem Quiet.step (quiet : Quiet server) {move : ServerMove}
    (careful : StopsIdle server move (PeriodicServer.step server move)) :
    ∃ next, PeriodicServer.step server move = .ok (next, ()) ∧ Quiet next := by
  obtain ⟨next, stepped⟩ := quiet.exists_step move
  exact ⟨next, stepped, quiet.transition careful (transition_of_step stepped)⟩

theorem Quiet.safe (quiet : Quiet server) {move : ServerMove}
    (careful : StopsIdle server move (PeriodicServer.step server move)) :
    Safe server move (PeriodicServer.step server move) := by
  obtain ⟨next, stepped, quietNext⟩ := quiet.step careful
  refine ⟨⟨next, stepped, quietNext.finished⟩, ?_⟩
  intro thread task _ present _
  exact (quiet.tasks thread task present).2.2

private theorem quiet_construct : Quiet construct := by
  refine ⟨wellformed_construct, fun _ => rfl, trivial, ?_⟩
  intro thread task present
  cases present

theorem stopsIdle_of_continues {moves : List ServerMove}
    (continues : ∀ move ∈ moves, move.continues = true) :
    EachStep PeriodicServer.step StopsIdle server moves := by
  apply eachStep_iff_reached.mpr
  intro before move after middle split _ stops
  have goesOn := continues move (by rw [split]; simp)
  rcases stops with same | same <;> rw [same] at goesOn <;> cases goesOn

/-- A run is safe, however it goes on, exactly when it neither stops nor
destroys a running server. -/
theorem alwaysSafe_iff (moves : List ServerMove) :
    AlwaysSafe moves ↔
      EachStep PeriodicServer.step StopsIdle construct moves := by
  constructor
  · intro safe
    by_contra stops
    obtain ⟨more, continues, fails⟩ :=
      wellformed_construct.fails_of_stops stops
    exact fails (safe more continues)
  · intro careful more continues
    have whole : EachStep PeriodicServer.step StopsIdle construct
        (moves ++ more) :=
      eachStep_append.mpr
        ⟨careful, fun _ _ => stopsIdle_of_continues continues⟩
    apply EachStep.of_condition Quiet _ _ quiet_construct whole
    · intro server move quiet careful
      exact quiet.safe careful
    · intro server move next output quiet careful stepped
      obtain ⟨after, result, quietAfter⟩ := quiet.step careful
      cases stepped.symm.trans result
      exact quietAfter

/-- `stop` destroys the thread and returns while the task copies the points. -/
def stopWhileCopying : List ServerMove :=
  [.start true, .caller true, .caller true, .task 0,
    .stop, .caller true, .caller true]

/-- The task returns, and the library destroys the thread, before `stop` comes
to destroy it. -/
def returnsFirst : List ServerMove :=
  [.start true, .caller true, .caller true, .stop, .task 0]

/-- In the first order the task goes on without the server; in the second the
thread is destroyed twice. -/
theorem stop_unsafe :
    ¬EachStep PeriodicServer.step Safe construct
        (stopWhileCopying ++ [.task 0]) ∧
      ¬EachStep PeriodicServer.step Safe construct
        (returnsFirst ++ [.caller true]) := by
  constructor
  · apply not_eachStep_of_reached [] (by rfl)
    intro safe
    have fresh := safe.2 0 _ rfl rfl rfl
    cases fresh
  · apply not_eachStep_of_reached [] (by rfl)
    intro safe
    obtain ⟨next, stepped, _⟩ := safe.1
    cases stepped

end

end PeriodicServer

end DataGateway.Iec104
