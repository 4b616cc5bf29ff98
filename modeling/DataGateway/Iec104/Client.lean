import DataGateway.Foundation.Runs
import DataGateway.Foundation.Semaphore
import Mathlib.Tactic.Common

/-!
# The IEC 104 client

`IEC104Client` (`core/iec104/iec104Client.cc`) with its worker thread, the
thread of lib60870 that delivers connection events, and one caller of `start`,
`stop` and the destructor.  The three of them interleave in any order; the
worker moves from one point of `run` to the next, and `stop` blocks in `join`.
The history keeps what was called and delivered, newest first.
-/

namespace DataGateway.Iec104

open Foundation

/-- `CS104_ConnectionEvent`. -/
inductive ConnectionEvent
  | opened
  | closed
  | startDtConReceived
  | stopDtConReceived
  | failed
  deriving DecidableEq, Repr

/-- The threads that use `last_event_lock_`. -/
inductive Party
  | worker
  | library
  deriving DecidableEq, Repr

/-- Where the worker is in `run`: before the test of `running_`, before
`Semaphore_wait`, before the branches on `last_event_`, before
`Semaphore_post`, or at the end of its thread function. -/
inductive WorkerAt
  | loopHead
  | waiting
  | holding
  | acted
  | returned
  deriving DecidableEq, Repr

/-- Where the caller is: outside the client, in the `join` of `stop`, or past
the destructor. -/
inductive Caller
  | idle
  | stopping (destroys : Bool)
  | gone
  deriving DecidableEq, Repr

inductive Entry
  | started
  | stopCalled
  | joined
  | delivered (event : ConnectionEvent) (reading : UInt64)
  | iteration (reading : UInt64)
  | startDtSent
  | interrogationSent (reading : UInt64)
  | stopDtSent
  | runningCleared
  deriving DecidableEq

def Entry.event? : Entry → Option ConnectionEvent
  | .delivered event _ => some event
  | _ => none

/-- The newest entry of a kind that includes all events is the newest event, or
it has come after it. -/
theorem Entry.find?_of_newest (concerns : Entry → Bool)
    (events : ∀ event reading, concerns (.delivered event reading) = true)
    {history : List Entry} {event : ConnectionEvent}
    (newest : history.findSome? Entry.event? = some event) :
    ∃ entry, history.find? concerns = some entry ∧
      (entry.event? = none ∨ ∃ reading, entry = .delivered event reading) := by
  induction history with
  | nil => cases newest
  | cons entry history induction =>
      cases kind : concerns entry with
      | true =>
          refine ⟨entry, List.find?_cons_of_pos kind, ?_⟩
          cases entry with
          | delivered other reading =>
              cases newest
              exact .inr ⟨reading, rfl⟩
          | started | stopCalled | joined | iteration | startDtSent
          | interrogationSent | stopDtSent | runningCleared => exact .inl rfl
      | false =>
          rw [List.find?_cons_of_neg (by simp [kind])]
          apply induction
          cases entry with
          | delivered other reading => simp [events] at kind
          | started | stopCalled | joined | iteration | startDtSent
          | interrogationSent | stopDtSent | runningCleared => exact newest

structure Client where
  giIntervalMs : Int32
  running : Bool
  startDtSent : Bool
  lastGiSent : UInt64
  lastEventLock : Semaphore Party
  lastEvent : Option ConnectionEvent
  /-- `worker_thread_`, `none` when it is not joinable. -/
  workerThread : Option WorkerAt
  /-- The calls of `connectionHandler` between their write and their post. -/
  handlers : Nat
  caller : Caller
  history : List Entry

namespace Client

/-- The constructor; `last_event_` is -1. -/
def create (giIntervalMs : Int32) : Client :=
  { giIntervalMs := giIntervalMs
    running := false
    startDtSent := false
    lastGiSent := 0
    lastEventLock := .create 1
    lastEvent := none
    workerThread := none
    handlers := 0
    caller := .idle
    history := [] }

section Operations

variable (client : Client)

def record (entry : Entry) : Client :=
  { client with history := entry :: client.history }

def sendStartDT : Client :=
  if client.running then client.record .startDtSent else client

def sendStopDT : Client :=
  if client.running then client.record .stopDtSent else client

/-- `sendInterrogationCommand`, whose result `run` ignores. -/
def sendInterrogationCommand (reading : UInt64) : Client :=
  if client.running && client.startDtSent then
    client.record (.interrogationSent reading)
  else client

/-- The branch of `run` on the clock. -/
def interrogateWhenDue (reading : UInt64) : Client :=
  let lastGiSent :=
    if reading < client.lastGiSent then reading else client.lastGiSent
  if lastGiSent + client.giIntervalMs.toInt64.toUInt64 < reading then
    { client with lastGiSent := reading }.sendInterrogationCommand reading
  else { client with lastGiSent := lastGiSent }

/-- The branches of `run` between `Semaphore_wait` and `Semaphore_post`. -/
def iterate (reading : UInt64) : Client :=
  let client := client.record (.iteration reading)
  match client.lastEvent with
  | some .opened => client.sendStartDT
  | some .closed | some .failed =>
      { client with running := false }.record .runningCleared
  | _ =>
      if client.startDtSent then client.interrogateWhenDue reading else client

/-- `stop` from its `join` on. -/
def finishStop : Client :=
  let client := match client.workerThread with
    | none => client
    | some _ => { client with workerThread := none }.record .joined
  if client.startDtSent then client.sendStopDT else client

end Operations

end Client

/-- Who moves.  The destructor calls `stop` first. -/
inductive Move
  | start
  | stop
  | destroy
  | stopReturns
  | deliver (event : ConnectionEvent) (reading : UInt64)
  | handlerPosts
  | worker (reading : UInt64)
  deriving DecidableEq

/-- The two ways to `std::terminate` with a joinable `worker_thread_`. -/
inductive Terminated
  | assigned
  | destroyed
  deriving DecidableEq, Repr

namespace Client

def start (client : Client) : Except Terminated (Client × Bool) :=
  if client.running then .ok (client, false)
  else
    match client.workerThread with
    | some _ => .error .assigned
    | none =>
        .ok ({ client with
          running := true
          workerThread := some .loopHead }.record .started, true)

def callStop (client : Client) (destroys : Bool) : Client :=
  { client with
    running := false
    caller := .stopping destroys }.record .stopCalled

/-- The end of the destructor, which destroys the members. -/
def destroyMembers (client : Client) : Except Terminated Client :=
  match client.workerThread with
  | some _ => .error .destroyed
  | none => .ok { client with caller := .gone }

/-- The next step of the worker thread.  It waits while the semaphore is 0. -/
def advance (client : Client) (reading : UInt64) : Client :=
  match client.workerThread with
  | none | some .returned => client
  | some .loopHead =>
      { client with
        workerThread := some (if client.running then .waiting else .returned) }
  | some .waiting =>
      match client.lastEventLock.wait? .worker with
      | none => client
      | some lock =>
          { client with
            lastEventLock := lock
            workerThread := some .holding }
  | some .holding =>
      { client.iterate reading with workerThread := some .acted }
  | some .acted =>
      { client with
        lastEventLock := client.lastEventLock.post .worker
        workerThread := some .loopHead }

/-- One step.  A move that is not possible changes nothing: the caller is in
one call at a time, `join` blocks until the worker has returned, and the
library delivers nothing once the connection is destroyed. -/
def step (client : Client) (move : Move) : Except Terminated (Client × Unit) :=
  match move with
  | .start =>
      match client.caller with
      | .idle => client.start.map fun (next, _) => (next, ())
      | _ => .ok (client, ())
  | .stop =>
      match client.caller with
      | .idle =>
          .ok (if client.running then client.callStop false else client, ())
      | _ => .ok (client, ())
  | .destroy =>
      match client.caller with
      | .idle =>
          if client.running then .ok (client.callStop true, ())
          else client.destroyMembers.map (·, ())
      | _ => .ok (client, ())
  | .stopReturns =>
      match client.caller, client.workerThread with
      | .stopping destroys, none | .stopping destroys, some .returned =>
          if destroys then client.finishStop.destroyMembers.map (·, ())
          else .ok ({ client.finishStop with caller := .idle }, ())
      | _, _ => .ok (client, ())
  | .deliver event reading =>
      match client.caller with
      | .gone => .ok (client, ())
      | _ =>
          .ok ({ client with
            lastEvent := some event
            handlers := client.handlers + 1 }.record (.delivered event reading), ())
  | .handlerPosts =>
      if 0 < client.handlers then
        .ok ({ client with
          lastEventLock := client.lastEventLock.post .library
          handlers := client.handlers - 1 }, ())
      else .ok (client, ())
  | .worker reading => .ok (client.advance reading, ())

/-- The worker has something to do about `last_event_`. -/
def Acts (client : Client) : Prop :=
  client.lastEvent = some .closed ∨ client.lastEvent = some .failed ∨
    client.lastEvent = some .opened ∧ client.running = true

instance (client : Client) : Decidable client.Acts :=
  inferInstanceAs (Decidable (_ ∨ _ ∨ _))

/-- The worker goes through the branches of `run` with this clock reading. -/
def Iterates (client : Client) (move : Move) (reading : UInt64) : Prop :=
  move = .worker reading ∧ client.workerThread = some .holding

/-- What one step does to a client whose `start_dt_sent_` is clear.  The
branches of `run` and `stop` that test the flag are gone. -/
inductive Transition (client : Client) : Move → Client → Prop where
  | still {move : Move} : Transition client move client
  | starts :
      client.caller = .idle → client.running = false →
      client.workerThread = none →
      Transition client .start
        ({ client with
          running := true
          workerThread := some .loopHead }.record .started)
  | stops :
      client.caller = .idle → client.running = true →
      Transition client .stop (client.callStop false)
  | destructs :
      client.caller = .idle → client.running = true →
      Transition client .destroy (client.callStop true)
  | destroyed :
      client.caller = .idle → client.running = false →
      client.workerThread = none →
      Transition client .destroy { client with caller := .gone }
  | stopped (destroys : Bool) {history : List Entry} :
      client.caller = .stopping destroys →
      client.workerThread = none ∧ history = client.history ∨
        client.workerThread = some .returned ∧
          history = .joined :: client.history →
      Transition client .stopReturns
        { client with
          workerThread := none
          caller := if destroys then .gone else .idle
          history := history }
  | delivers (event : ConnectionEvent) (reading : UInt64) :
      client.caller ≠ .gone →
      Transition client (.deliver event reading)
        ({ client with
          lastEvent := some event
          handlers := client.handlers + 1 }.record (.delivered event reading))
  | handlerPosts :
      0 < client.handlers →
      Transition client .handlerPosts
        { client with
          lastEventLock := client.lastEventLock.post .library
          handlers := client.handlers - 1 }
  | tests (reading : UInt64) :
      client.workerThread = some .loopHead →
      Transition client (.worker reading)
        { client with
          workerThread :=
            some (if client.running then .waiting else .returned) }
  | waits (reading : UInt64) {lock : Semaphore Party} :
      client.workerThread = some .waiting →
      client.lastEventLock.wait? .worker = some lock →
      Transition client (.worker reading)
        { client with
          lastEventLock := lock
          workerThread := some .holding }
  | sendsStartDt (reading : UInt64) :
      client.workerThread = some .holding →
      client.lastEvent = some .opened → client.running = true →
      Transition client (.worker reading)
        { (client.record (.iteration reading)).record .startDtSent with
          workerThread := some .acted }
  | endsSession (reading : UInt64) :
      client.workerThread = some .holding →
      client.lastEvent = some .closed ∨ client.lastEvent = some .failed →
      Transition client (.worker reading)
        { ({ client.record (.iteration reading) with
            running := false }.record .runningCleared) with
          workerThread := some .acted }
  | idles (reading : UInt64) :
      client.workerThread = some .holding →
      ¬client.Acts →
      Transition client (.worker reading)
        { client.record (.iteration reading) with
          workerThread := some .acted }
  | posts (reading : UInt64) :
      client.workerThread = some .acted →
      Transition client (.worker reading)
        { client with
          lastEventLock := client.lastEventLock.post .worker
          workerThread := some .loopHead }

section

variable {client next : Client} {reading : UInt64}

@[simp] theorem create_history (giIntervalMs : Int32) :
    (create giIntervalMs).history = [] := rfl

@[simp] theorem record_history (entry : Entry) :
    (client.record entry).history = entry :: client.history := rfl

theorem iterate_opened (opened : client.lastEvent = some .opened)
    (running : client.running = true) :
    client.iterate reading =
      (client.record (.iteration reading)).record .startDtSent := by
  simp [iterate, record, sendStartDT, opened, running]

theorem iterate_ended
    (ended : client.lastEvent = some .closed ∨
      client.lastEvent = some .failed) :
    client.iterate reading =
      { client.record (.iteration reading) with
        running := false }.record .runningCleared := by
  rcases ended with closed | failed
  · simp [iterate, record, closed]
  · simp [iterate, record, failed]

theorem iterate_idle (rests : ¬client.Acts)
    (unsent : client.startDtSent = false) :
    client.iterate reading = client.record (.iteration reading) := by
  simp only [Acts, not_or, not_and, Bool.not_eq_true] at rests
  obtain ⟨notClosed, notFailed, stopped⟩ := rests
  cases last : client.lastEvent with
  | none => simp [iterate, record, last, unsent]
  | some event =>
      cases event with
      | opened => simp [iterate, record, last, sendStartDT, stopped last]
      | closed => exact (notClosed last).elim
      | failed => exact (notFailed last).elim
      | startDtConReceived | stopDtConReceived =>
          simp [iterate, record, last, unsent]

private theorem transition_of_advance (unsent : client.startDtSent = false) :
    Transition client (.worker reading) (client.advance reading) := by
  unfold advance
  split
  · exact .still
  · exact .still
  · next atHead => exact .tests reading atHead
  · next atWait =>
      split
      · exact .still
      · next lock taken => exact .waits reading atWait taken
  · next holds =>
      by_cases acts : client.Acts
      · rcases acts with closed | failed | ⟨opened, running⟩
        · rw [iterate_ended (.inl closed)]
          exact .endsSession reading holds (.inl closed)
        · rw [iterate_ended (.inr failed)]
          exact .endsSession reading holds (.inr failed)
        · rw [iterate_opened opened running]
          exact .sendsStartDt reading holds opened running
      · rw [iterate_idle acts unsent]
        exact .idles reading holds acts
  · next acted => exact .posts reading acted

theorem workerThread_finishStop : client.finishStop.workerThread = none := by
  have sends : ∀ other : Client,
      (if other.startDtSent then other.sendStopDT else other).workerThread =
        other.workerThread := by
    intro other
    simp only [sendStopDT, record]
    split <;> [split; rfl] <;> rfl
  simp only [finishStop, sends]
  split
  · assumption
  · rfl

private theorem finishStop_of_unsent (unsent : client.startDtSent = false)
    (past : client.workerThread = none ∨
      client.workerThread = some .returned) :
    ∃ history,
      client.finishStop =
          { client with workerThread := none, history := history } ∧
        (client.workerThread = none ∧ history = client.history ∨
          client.workerThread = some .returned ∧
            history = .joined :: client.history) := by
  rcases past with unjoined | returned
  · refine ⟨client.history, ?_, .inl ⟨unjoined, rfl⟩⟩
    have kept : client.finishStop = client := by
      simp [finishStop, unsent, unjoined]
    rw [kept, ← unjoined]
  · refine ⟨.joined :: client.history, ?_, .inr ⟨returned, rfl⟩⟩
    simp [finishStop, record, unsent, returned]

/-- `stop` stays in its `join`, or it comes to its end, and with it the
destructor that has called it. -/
theorem step_stopReturns_cases :
    client.step .stopReturns = .ok (client, ()) ∨
      ∃ destroys, client.caller = .stopping destroys ∧
        (client.workerThread = none ∨ client.workerThread = some .returned) ∧
        client.step .stopReturns = .ok
          ({ client.finishStop with
            caller := if destroys then .gone else .idle }, ()) := by
  have ends : ∀ destroys : Bool,
      (if destroys then client.finishStop.destroyMembers.map (·, ())
        else .ok ({ client.finishStop with caller := .idle }, ())) =
        .ok ({ client.finishStop with
          caller := if destroys then .gone else .idle }, ()) := by
    intro destroys
    cases destroys with
    | false => rfl
    | true => simp [destroyMembers, workerThread_finishStop, Except.map]
  simp only [step]
  split
  · next destroys stopping unjoined =>
      exact .inr ⟨destroys, stopping, .inl unjoined, ends destroys⟩
  · next destroys stopping returned =>
      exact .inr ⟨destroys, stopping, .inr returned, ends destroys⟩
  · exact .inl rfl

/-- Only a call of `start` and the destructor can terminate the program. -/
theorem exists_step {move : Move} (notStart : move ≠ .start)
    (notDestroy : move ≠ .destroy) :
    ∃ next, client.step move = .ok (next, ()) := by
  cases move with
  | start => exact (notStart rfl).elim
  | destroy => exact (notDestroy rfl).elim
  | stopReturns =>
      rcases step_stopReturns_cases with blocked | ⟨_, _, _, returned⟩
      · exact ⟨_, blocked⟩
      · exact ⟨_, returned⟩
  | stop | deliver | handlerPosts =>
      simp only [step]
      split <;> simp
  | worker reading => simp [step]

private theorem transition_of_start (stepped : client.step .start = .ok (next, ())) :
    Transition client .start next := by
  simp only [step, start] at stepped
  split at stepped
  · next idle =>
      split at stepped
      · cases stepped
        exact .still
      · next stopped =>
          split at stepped
          · cases stepped
          · next unjoined =>
              cases stepped
              exact .starts idle (by simpa using stopped) unjoined
  · cases stepped
    exact .still

private theorem transition_of_destroy
    (stepped : client.step .destroy = .ok (next, ())) :
    Transition client .destroy next := by
  simp only [step, destroyMembers] at stepped
  split at stepped
  · next idle =>
      split at stepped
      · next running =>
          cases stepped
          exact .destructs idle running
      · next stopped =>
          split at stepped
          · cases stepped
          · next unjoined =>
              cases stepped
              exact .destroyed idle (by simpa using stopped) unjoined
  · cases stepped
    exact .still

private theorem transition_of_stopReturns (unsent : client.startDtSent = false)
    (stepped : client.step .stopReturns = .ok (next, ())) :
    Transition client .stopReturns next := by
  rcases step_stopReturns_cases with
    blocked | ⟨destroys, stopping, past, returned⟩
  · cases blocked.symm.trans stepped
    exact .still
  · obtain ⟨history, finished, joined⟩ := finishStop_of_unsent unsent past
    rw [finished] at returned
    cases returned.symm.trans stepped
    exact .stopped destroys stopping joined

theorem transition_of_step {move : Move} {output : Unit}
    (unsent : client.startDtSent = false)
    (stepped : client.step move = .ok (next, output)) :
    Transition client move next := by
  cases move with
  | start => exact transition_of_start stepped
  | destroy => exact transition_of_destroy stepped
  | stopReturns => exact transition_of_stopReturns unsent stepped
  | stop =>
      simp only [step] at stepped
      split at stepped
      · next idle =>
          cases stepped
          split
          · next running => exact .stops idle running
          · exact .still
      · cases stepped
        exact .still
  | deliver event reading =>
      simp only [step] at stepped
      split at stepped
      · cases stepped
        exact .still
      · next present =>
          cases stepped
          exact .delivers event reading present
  | handlerPosts =>
      simp only [step] at stepped
      split at stepped
      · next inHandler =>
          cases stepped
          exact .handlerPosts inHandler
      · cases stepped
        exact .still
  | worker reading =>
      cases stepped
      exact transition_of_advance unsent

/-- Without `start_dt_sent_` nothing but STARTDT is ever sent. -/
theorem Transition.adds {move : Move}
    (transition : Transition client move next) :
    ∃ added, next.history = added ++ client.history ∧
      .stopDtSent ∉ added ∧ ∀ reading, .interrogationSent reading ∉ added := by
  cases transition with
  | still | destroyed | handlerPosts | tests | waits | posts =>
      exact ⟨[], by simp⟩
  | starts => exact ⟨[.started], by simp⟩
  | stops | destructs => exact ⟨[.stopCalled], by simp [callStop]⟩
  | stopped destroys stopping joined =>
      rcases joined with ⟨_, same⟩ | ⟨_, same⟩
      · exact ⟨[], by simp [same]⟩
      · exact ⟨[.joined], by simp [same]⟩
  | delivers event reading => exact ⟨[.delivered event reading], by simp⟩
  | sendsStartDt reading =>
      exact ⟨[.startDtSent, .iteration reading], by simp⟩
  | endsSession reading =>
      exact ⟨[.runningCleared, .iteration reading], by simp⟩
  | idles reading => exact ⟨[.iteration reading], by simp⟩

theorem Transition.lastEvent_eq {move : Move}
    (transition : Transition client move next)
    (newest : client.lastEvent = client.history.findSome? Entry.event?) :
    next.lastEvent = next.history.findSome? Entry.event? := by
  cases transition with
  | stopped destroys stopping joined =>
      rcases joined with ⟨_, same⟩ | ⟨_, same⟩ <;> subst same <;> exact newest
  | delivers => rfl
  | still | starts | stops | destructs | destroyed | handlerPosts | tests
  | waits | sendsStartDt | endsSession | idles | posts => exact newest

theorem Transition.startDtSent_eq {move : Move}
    (transition : Transition client move next) :
    next.startDtSent = client.startDtSent := by
  cases transition <;> rfl

end

section

variable
  {property other : Client → Move → Except Terminated (Client × Unit) → Prop}
  {giIntervalMs : Int32} {moves : List Move}

/-- `start_dt_sent_` is false from the constructor on and nothing sets it, so
every step of a run is a `Transition`. -/
theorem eachStep_iff (invariant : Client → Prop)
    (preserved : ∀ client move next, invariant client →
      property client move (.ok (next, ())) →
      Transition client move next → invariant next)
    (agree : ∀ client move, client.startDtSent = false → invariant client →
      (property client move (client.step move) ↔
        other client move (client.step move)))
    (start : invariant (create giIntervalMs)) :
    EachStep step property (create giIntervalMs) moves ↔
      EachStep step other (create giIntervalMs) moves := by
  apply eachStep_congr fun client =>
    client.startDtSent = false ∧ invariant client
  · intro client move next output kept holds stepped
    have transition := transition_of_step kept.1 stepped
    rw [stepped] at holds
    exact ⟨transition.startDtSent_eq.trans kept.1,
      preserved client move next kept.2 holds transition⟩
  · intro client move kept
    exact agree client move kept.1 kept.2
  · exact ⟨rfl, start⟩

/-- What every transition preserves holds in every reachable state. -/
theorem invariant_of_run {client : Client} (invariant : Client → Prop)
    (preserved : ∀ client move next, invariant client →
      Transition client move next → invariant next)
    (start : invariant (create giIntervalMs))
    (reached : run step (create giIntervalMs) moves = .ok client) :
    invariant client := by
  have kept := run_invariant
    (fun client => client.startDtSent = false ∧ invariant client)
    (fun state move next _ kept stepped =>
      have transition := transition_of_step kept.1 stepped
      ⟨transition.startDtSent_eq.trans kept.1,
        preserved state move next kept.2 transition⟩)
    ⟨rfl, start⟩ reached
  exact kept.2

theorem eachStep_of_condition (invariant : Client → Prop)
    (sound : ∀ client move, client.startDtSent = false → invariant client →
      property client move (client.step move) →
      other client move (client.step move))
    (preserved : ∀ client move next, invariant client →
      property client move (.ok (next, ())) →
      Transition client move next → invariant next)
    (start : invariant (create giIntervalMs))
    (each : EachStep step property (create giIntervalMs) moves) :
    EachStep step other (create giIntervalMs) moves := by
  apply EachStep.of_condition (fun client =>
    client.startDtSent = false ∧ invariant client) _ _ ⟨rfl, start⟩ each
  · intro client move kept holds
    exact sound client move kept.1 kept.2 holds
  · intro client move next output kept holds stepped
    have transition := transition_of_step kept.1 stepped
    rw [stepped] at holds
    exact ⟨transition.startDtSent_eq.trans kept.1,
      preserved client move next kept.2 holds transition⟩

end

end Client

end DataGateway.Iec104
