import DataGateway.Iec104.Client

/-!
# Joining the worker thread

Only `stop` joins the worker, and it does nothing once `running_` is clear.
A worker that clears `running_` itself is therefore never joined, and the next
`start` or the destructor terminates the program.
-/

namespace DataGateway.Iec104

open Foundation

namespace Client

/-- The step does not call `std::terminate`. -/
def KeepsThread (_ : Client) (_ : Move)
    (result : Except Terminated (Client × Unit)) : Prop :=
  ∃ next, result = .ok (next, ())

end Client

def Entry.concernsThread : Entry → Bool
  | .started | .joined | .runningCleared => true
  | _ => false

namespace Client

/-- The worker has cleared `running_` since it was created, and it has not been
joined. -/
def EndedItself (client : Client) : Prop :=
  client.history.find? Entry.concernsThread = some .runningCleared

instance (client : Client) : Decidable client.EndedItself :=
  inferInstanceAs (Decidable (_ = _))

/-- A caller that is outside the client neither starts nor destroys it after
its worker has ended the session. -/
def LeavesEnded (client : Client) (move : Move)
    (_ : Except Terminated (Client × Unit)) : Prop :=
  move = .start ∨ move = .destroy →
    client.caller = .idle → ¬client.EndedItself

/-- Between two calls a joinable thread is that of a running client or one that
has ended itself. -/
structure ThreadAccounted (client : Client) : Prop where
  idle : client.caller = .idle →
    (client.workerThread ≠ none ↔
      client.running = true ∨ client.EndedItself)
  running : client.running = true →
    client.caller = .idle ∧ ¬client.EndedItself
  stopping : ∀ destroys, client.caller = .stopping destroys →
    client.workerThread ≠ none

section

variable {client next : Client} {move : Move}

theorem ThreadAccounted.of_agree (accounted : ThreadAccounted client)
    (caller : next.caller = client.caller)
    (running : next.running = client.running)
    (joinable : next.workerThread ≠ none ↔ client.workerThread ≠ none)
    (ended : next.EndedItself ↔ client.EndedItself) :
    ThreadAccounted next := by
  constructor
  · rw [caller, running, joinable, ended]
    exact accounted.idle
  · rw [caller, running, ended]
    exact accounted.running
  · intro destroys
    rw [caller, joinable]
    exact accounted.stopping destroys

theorem ThreadAccounted.transition (accounted : ThreadAccounted client)
    (transition : Transition client move next) : ThreadAccounted next := by
  cases transition with
  | still => exact accounted
  | starts idle stopped unjoined =>
      constructor <;>
        simp [EndedItself, Entry.concernsThread, record, idle]
  | stops idle running | destructs idle running =>
      have joinable := (accounted.idle idle).mpr (.inl running)
      constructor <;> simp [callStop, record, joinable]
  | destroyed idle stopped unjoined =>
      constructor <;> simp [stopped]
  | stopped destroys stopping joined =>
      have stopped : client.running ≠ true := by
        intro running
        have idle := (accounted.running running).1
        cases idle.symm.trans stopping
      have joinable := accounted.stopping destroys stopping
      rcases joined with ⟨unjoined, _⟩ | ⟨_, same⟩
      · exact (joinable unjoined).elim
      · subst same
        cases destroys <;> constructor <;>
          simp [EndedItself, Entry.concernsThread, stopped]
  | delivers event reading present =>
      exact accounted.of_agree rfl rfl Iff.rfl Iff.rfl
  | handlerPosts inHandler =>
      exact accounted.of_agree rfl rfl Iff.rfl Iff.rfl
  | tests reading thread | waits reading thread | idles reading thread
  | posts reading thread | sendsStartDt reading thread =>
      exact accounted.of_agree rfl rfl (by simp [thread]) Iff.rfl
  | endsSession reading thread ended =>
      constructor <;>
        simp [EndedItself, Entry.concernsThread, record]

theorem keepsThread_step_iff :
    KeepsThread client move (client.step move) ↔
      (move = .start ∨ move = .destroy → client.caller = .idle →
        client.running = true ∨ client.workerThread = none) := by
  cases move with
  | start =>
      simp only [step, start, KeepsThread]
      split
      · next idle =>
          by_cases running : client.running = true
          · simp [running, Except.map]
          · cases thread : client.workerThread <;>
              simp [running, idle, Except.map]
      · next busy =>
          have notIdle : client.caller ≠ .idle := busy
          simp [notIdle]
  | destroy =>
      simp only [step, destroyMembers, KeepsThread]
      split
      · next idle =>
          by_cases running : client.running = true
          · simp [running]
          · cases thread : client.workerThread <;>
              simp [running, idle, Except.map]
      · next busy =>
          have notIdle : client.caller ≠ .idle := busy
          simp [notIdle]
  | stop | stopReturns | deliver | handlerPosts | worker =>
      simp [KeepsThread, exists_step]

theorem ThreadAccounted.step_iff (accounted : ThreadAccounted client) :
    KeepsThread client move (client.step move) ↔
      LeavesEnded client move (client.step move) := by
  rw [keepsThread_step_iff]
  constructor
  · intro kept calls idle ended
    have joinable := (accounted.idle idle).mpr (.inr ended)
    rcases kept calls idle with running | unjoined
    · exact (accounted.running running).2 ended
    · exact joinable unjoined
  · intro leaves calls idle
    by_contra terminates
    rw [not_or] at terminates
    rcases (accounted.idle idle).mp terminates.2 with running | ended
    · exact terminates.1 running
    · exact leaves calls idle ended

end

/-- No run ends in `std::terminate` if and only if nobody starts or destroys
the client after its worker has cleared `running_` itself. -/
theorem keepsThread_iff (giIntervalMs : Int32) (moves : List Move) :
    EachStep step KeepsThread (create giIntervalMs) moves ↔
      EachStep step LeavesEnded (create giIntervalMs) moves := by
  apply eachStep_iff ThreadAccounted
  · intro client move next accounted _ transition
    exact accounted.transition transition
  · intro client move _ accounted
    exact accounted.step_iff
  · constructor <;> simp [create, EndedItself]

/-- The peer closes the connection, and the worker sees it. -/
def remoteClose : List Move :=
  [.start, .deliver .closed 5, .handlerPosts, .worker 10, .worker 10,
    .worker 10]

/-- After a remote close both a restart and the destructor terminate. -/
theorem not_keepsThread_after_remoteClose :
    ¬EachStep step KeepsThread (create 10000) (remoteClose ++ [.start]) ∧
      ¬EachStep step KeepsThread (create 10000)
        (remoteClose ++ [.destroy]) := by
  constructor
  · apply not_eachStep_of_reached [] (by rfl)
    rintro ⟨next, survived⟩
    cases survived
  · apply not_eachStep_of_reached [] (by rfl)
    rintro ⟨next, survived⟩
    cases survived

end Client

end DataGateway.Iec104
