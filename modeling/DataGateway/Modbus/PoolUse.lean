import DataGateway.Foundation.TaskPool
import DataGateway.Modbus.PollingLoops

/-!
# What `AppModbus` asks of its pool

The polling loops live in the pool: `run` submits `runTask`, which submits one
task for each device, and a loop leaves when `running_` is false.  This is a
life of a pool of 1024 workers, which is all that is used of `BS::thread_pool`.
-/

namespace DataGateway.Modbus

open Foundation TaskPool

namespace AppModbus

/-- The queue, and the polling tasks that have come to their loops. -/
def poolView (app : AppModbus) : TaskPool PoolTask :=
  { queue := app.queue
    running := (app.polled.map .poll : List PoolTask) }

/-- What a task does before it ends or comes to its loop: `runTask` detaches a task
for each device. -/
def taskEvents (app : AppModbus) : PoolTask → List (PoolEvent PoolTask)
  | .runTask =>
      (app.devices.keys.map .poll).map .submitted ++ [.finished .runTask]
  | .poll deviceId =>
      if deviceId ∈ app.config.table then [] else [.finished (.poll deviceId)]

/-- What the pool sees of a move: `run` detaches `runTask` unless it refuses, a
worker starts the first task, a loop that finds `running_` false ends its task, and
the `wait` of `stop` returns. -/
def poolEvents (app : AppModbus) : AppMove → List (PoolEvent PoolTask)
  | .run environment =>
      if app.caller = .idle then
        match app.run environment with
        | .ok (_, true) => [.submitted .runTask]
        | _ => []
      else []
  | .schedule =>
      match app.queue with
      | [] => []
      | task :: _ =>
          if app.loops.length < poolSize then .started task :: app.taskEvents task
          else []
  | .loop index _ =>
      match app.loops[index]? with
      | some ⟨deviceId, []⟩ =>
          if app.running then [] else [.finished (.poll deviceId)]
      | _ => []
  | .caller =>
      if app.caller = .waits ∧ app.proceed.caller = .idle then [.returned] else []
  | .load _ | .stop | .reconnect _ _ => []

/-- What the pool sees of a run. -/
def history (sorter : AddressSort) (app : AppModbus) :
    List AppMove → List (PoolEvent PoolTask)
  | [] => []
  | move :: moves =>
      app.poolEvents move ++
        match AppModbus.step sorter app move with
        | .ok (next, _) => history sorter next moves
        | .error _ => []

section

variable {app next : AppModbus}

theorem Lives.submits (tasks queue : List PoolTask) (running : Multiset PoolTask) :
    Lives poolSize ⟨queue, running⟩ (tasks.map .submitted)
      ⟨queue ++ tasks, running⟩ := by
  induction tasks generalizing queue with
  | nil => simpa using Lives.nil _
  | cons task tasks induction =>
      have rest := induction (queue ++ [task])
      rw [List.append_assoc, List.singleton_append] at rest
      exact .cons (.submitted task queue running) rest

theorem schedule_lives (stepped : app.schedule = .ok next) :
    Lives poolSize app.poolView (app.poolEvents .schedule) next.poolView := by
  unfold schedule at stepped
  cases queue : app.queue with
  | nil =>
      rw [queue] at stepped
      cases stepped
      simp only [poolEvents, queue]
      exact .nil _
  | cons task rest =>
      rw [queue] at stepped
      simp only [poolEvents, queue]
      by_cases free : app.loops.length < poolSize
      · have view : app.poolView = ⟨task :: rest, app.poolView.running⟩ := by
          rw [← queue]
          rfl
        have room : app.poolView.running.card < poolSize := by
          simpa [poolView, polled] using free
        have start := Step.started task rest app.poolView.running room
        rw [← view] at start
        simp only [if_pos free] at stepped ⊢
        cases task with
        | runTask =>
            cases stepped
            exact .cons start ((Lives.submits _ rest _).append
              (.single (.finished PoolTask.runTask _ _)))
        | poll deviceId =>
            simp only [startLoop] at stepped
            cases found : app.devices.lookup deviceId with
            | none => simp [found] at stepped
            | some threaded =>
                simp only [found] at stepped
                cases debug : threaded.api.set_debug with
                | error fault => simp [debug] at stepped
                | ok api =>
                    simp only [debug] at stepped
                    cases stepped
                    by_cases known : deviceId ∈ app.config.table
                    · have joined : (⟨rest, .poll deviceId ::ₘ
                          app.poolView.running⟩ : TaskPool PoolTask) =
                            poolView { app.setApi deviceId threaded api with
                              queue := rest
                              loops := app.loops ++ [⟨deviceId, []⟩] } := by
                        simp only [poolView, polled, List.map_append,
                          List.map_cons, List.map_nil]
                        congr 1
                        exact Multiset.coe_eq_coe.mpr
                          (List.perm_append_singleton _ _).symm
                      rw [joined] at start
                      simp only [taskEvents, setApi, known, if_true]
                      exact .single start
                    · simp only [taskEvents, setApi, known, if_false]
                      exact .cons start (.single (.finished _ _ _))
      · simp only [if_neg free] at stepped ⊢
        cases stepped
        exact .nil _

private theorem poolView_of_same (queue : next.queue = app.queue)
    (polled : next.polled = app.polled) : next.poolView = app.poolView := by
  simp [poolView, queue, polled]

section Loops

variable {index : Nat} {deviceId : String} {pending : List RegisterRange}

/-- A loop that goes on is the same task. -/
private theorem polled_set
    (found : app.loops[index]? = some ⟨deviceId, pending⟩)
    (ranges : List RegisterRange) :
    (app.loops.set index ⟨deviceId, ranges⟩).map PollingLoop.deviceId = app.polled := by
  have same : PollingLoop.deviceId ⟨deviceId, ranges⟩ =
      PollingLoop.deviceId ⟨deviceId, pending⟩ := rfl
  exact map_set_of_getElem? found same

private theorem leave_lives
    (found : app.loops[index]? = some ⟨deviceId, pending⟩) :
    Lives poolSize app.poolView [.finished (.poll deviceId)]
      (poolView { app with loops := app.loops.eraseIdx index }) := by
  obtain ⟨inside, here⟩ := List.getElem?_eq_some_iff.mp found
  have ordered := List.getElem_cons_eraseIdx_perm inside
  rw [here] at ordered
  have leaves : Step poolSize _ _ _ := .finished (.poll deviceId) app.queue
    (poolView { app with loops := app.loops.eraseIdx index }).running
  have view : app.poolView = ⟨app.queue, .poll deviceId ::ₘ
      (poolView { app with loops := app.loops.eraseIdx index }).running⟩ := by
    simp only [poolView, polled]
    congr 1
    exact Multiset.coe_eq_coe.mpr
      ((ordered.map PollingLoop.deviceId).map PoolTask.poll).symm
  rw [← view] at leaves
  exact .single leaves

theorem turn_lives {sorter : AddressSort} {environment : Environment}
    (stepped : app.turn sorter index environment = .ok next) :
    Lives poolSize app.poolView (app.poolEvents (.loop index environment))
      next.poolView := by
  unfold turn at stepped
  cases found : app.loops[index]? with
  | none =>
      rw [found] at stepped
      cases stepped
      simp only [poolEvents, found]
      exact .nil _
  | some loop =>
      obtain ⟨deviceId, pending⟩ := loop
      rw [found] at stepped
      simp only [poolEvents, found]
      have kept := polled_set found
      cases pending with
      | nil =>
          simp only at stepped ⊢
          cases stepped
          by_cases running : app.running = true
          · have same : ∀ ranges : List RegisterRange,
                poolView { app with
                  loops := app.loops.set index ⟨deviceId, ranges⟩ } =
                app.poolView := fun ranges => poolView_of_same rfl (kept ranges)
            simp only [if_pos running]
            rw [same]
            exact .nil _
          · simp only [if_neg running]
            exact leave_lives found
      | cons range pending =>
          simp only at stepped ⊢
          cases present : app.devices.lookup deviceId with
          | none => simp [present] at stepped
          | some threaded =>
              simp only [present] at stepped
              cases read : threaded.api.readRegisters environment range.startAddr
                  (Int32.ofNat range.count) with
              | error fault => simp [read] at stepped
              | ok result =>
                  simp only [read] at stepped
                  cases stepped
                  have same : poolView { app.setApi deviceId threaded result.1 with
                      loops := app.loops.set index ⟨deviceId, pending⟩ } =
                        app.poolView := poolView_of_same rfl (kept pending)
                  rw [same]
                  exact .nil _

end Loops

/-- The `wait` of `stop` returns from an empty pool. -/
theorem proceed_lives (app : AppModbus) :
    Lives poolSize app.poolView (app.poolEvents .caller) app.proceed.poolView := by
  unfold poolEvents proceed
  cases position : app.caller with
  | idle => exact .nil _
  | stops remaining =>
      cases remaining with
      | nil => exact .nil _
      | cons deviceId remaining => exact .nil _
  | waits =>
      by_cases done : (app.queue.isEmpty && app.loops.isEmpty) = true
      · simp only [done, if_true, and_self]
        rw [Bool.and_eq_true, List.isEmpty_iff, List.isEmpty_iff] at done
        obtain ⟨queue, loops⟩ := done
        have view : app.poolView = .empty := by
          simp [poolView, polled, queue, loops, TaskPool.empty]
        have same : poolView { app with
            caller := .idle
            expects := .rests } = app.poolView := rfl
        rw [same, view]
        exact .single .returned
      · have waits : ¬app.caller = .idle := by simp [position]
        simp only [if_neg done, waits, and_false, if_false]
        exact .nil _

theorem run_lives {environment : String → Environment} {result : Bool}
    (called : app.run environment = .ok (next, result)) :
    Lives poolSize app.poolView (if result then [.submitted .runTask] else [])
      next.poolView := by
  unfold AppModbus.run at called
  split at called
  · cases called
    exact .nil _
  · split at called
    · cases called
    · cases called
      exact .single (.submitted PoolTask.runTask _ _)

/-- The events of a move lead the pool from before it to after it. -/
theorem step_lives {sorter : AddressSort} {move : AppMove}
    (stepped : AppModbus.step sorter app move = .ok (next, ())) :
    Lives poolSize app.poolView (app.poolEvents move) next.poolView := by
  cases move with
  | load config =>
      cases stepped
      split
      · exact .nil _
      · exact .nil _
  | run environment =>
      unfold poolEvents
      by_cases idle : app.caller = .idle
      · simp only [AppModbus.step, if_pos idle] at stepped ⊢
        cases called : app.run environment with
        | error fault => simp [called, Except.map] at stepped
        | ok result =>
            obtain ⟨after, accepted⟩ := result
            simp only [called, Except.map] at stepped
            cases stepped
            have lives := run_lives called
            cases accepted with
            | false => exact lives
            | true => exact lives
      · simp only [AppModbus.step, if_neg idle] at stepped ⊢
        cases stepped
        exact .nil _
  | stop =>
      cases stepped
      split
      · exact .nil _
      · exact .nil _
  | caller =>
      cases stepped
      exact app.proceed_lives
  | schedule =>
      cases scheduled : app.schedule with
      | error fault => simp [AppModbus.step, scheduled, Except.map] at stepped
      | ok after =>
          simp only [AppModbus.step, scheduled, Except.map] at stepped
          cases stepped
          exact schedule_lives scheduled
  | loop index environment =>
      cases turned : app.turn sorter index environment with
      | error fault => simp [AppModbus.step, turned, Except.map] at stepped
      | ok after =>
          simp only [AppModbus.step, turned, Except.map] at stepped
          cases stepped
          exact turn_lives turned
  | reconnect deviceId environment =>
      cases advanced : app.reconnect deviceId environment with
      | error fault => simp [AppModbus.step, advanced, Except.map] at stepped
      | ok after =>
          simp only [AppModbus.step, advanced, Except.map] at stepped
          cases stepped
          unfold AppModbus.reconnect at advanced
          split at advanced
          · cases advanced
            exact .nil _
          · split at advanced
            · cases advanced
            · cases advanced
              exact .nil _

end

end AppModbus

end DataGateway.Modbus
