import DataGateway.Iec104.Client

/-!
# Activation, interrogation and deactivation

What the client sends over the life of a connection.  `run` answers the level
of `last_event_`, so one OPENED can be answered many times; and since
`start_dt_sent_` is never set, neither a general interrogation nor STOPDT is
ever sent.
-/

namespace DataGateway.Iec104

open Foundation

def ConnectionEvent.endsConnection : ConnectionEvent → Bool
  | .closed | .failed => true
  | _ => false

namespace Entry

def isOpened : Entry → Bool
  | .delivered .opened _ => true
  | _ => false

def isInterrogation : Entry → Bool
  | .interrogationSent _ => true
  | _ => false

def endsConnection (entry : Entry) : Bool :=
  entry.event?.any ConnectionEvent.endsConnection

def isStopCalled : Entry → Bool
  | .stopCalled => true
  | _ => false

end Entry

namespace Client

section Interrogation

/-- The clock reading that the next interrogation is counted from: that of the
last one, or of the confirmation. -/
def interrogationReference (confirmation : UInt64) (later : List Entry) :
    UInt64 :=
  match later.find? Entry.isInterrogation with
  | some (.interrogationSent reading) => reading
  | _ => confirmation

/-- The client was started and not stopped, its connection was opened,
confirmed and not lost since, and the interval has passed. -/
def InterrogationDue (client : Client) (reading : UInt64) : Prop :=
  ∃ later confirmation middle openedAt earlier,
    client.history = later ++ .delivered .startDtConReceived confirmation ::
      middle ++ .delivered .opened openedAt :: earlier ∧
    .started ∈ client.history ∧ .stopCalled ∉ client.history ∧
    (∀ entry ∈ later ++ middle, entry.endsConnection = false) ∧
    ((interrogationReference confirmation later).toNat : Int) +
      client.giIntervalMs.toInt < reading.toNat

def interrogations (client : Client) : Nat :=
  client.history.countP Entry.isInterrogation

/-- An iteration that finds the interrogation due sends it. -/
def InterrogatesWhenDue (client : Client) (move : Move)
    (result : Except Terminated (Client × Unit)) : Prop :=
  ∀ reading, client.Iterates move reading → client.InterrogationDue reading →
    ∃ next, result = .ok (next, ()) ∧
      client.interrogations < next.interrogations

def NotDue (client : Client) (move : Move)
    (_ : Except Terminated (Client × Unit)) : Prop :=
  ∀ reading, client.Iterates move reading → ¬client.InterrogationDue reading

variable {client next : Client} {move : Move}

private theorem interrogations_of_transition
    (transition : Transition client move next) :
    next.interrogations = client.interrogations := by
  obtain ⟨added, history, _, none⟩ := transition.adds
  have nothing : added.countP Entry.isInterrogation = 0 := by
    apply List.countP_eq_zero.mpr
    intro entry member
    cases entry with
    | interrogationSent reading => exact (none reading member).elim
    | started | stopCalled | joined | delivered | iteration | startDtSent
    | stopDtSent | runningCleared => simp [Entry.isInterrogation]
  simp [interrogations, history, List.countP_append, nothing]

/-- No iteration that is due interrogates, so a run does what is asked if and
only if none of its iterations is due. -/
theorem interrogatesWhenDue_iff (giIntervalMs : Int32) (moves : List Move) :
    EachStep step InterrogatesWhenDue (create giIntervalMs) moves ↔
      EachStep step NotDue (create giIntervalMs) moves := by
  apply eachStep_iff fun _ => True
  · intro client move next _ _ _
    trivial
  · intro client move unsent _
    constructor
    · intro interrogates reading iterates due
      obtain ⟨next, stepped, more⟩ := interrogates reading iterates due
      have same := interrogations_of_transition
        (transition_of_step unsent stepped)
      omega
    · intro notDue reading iterates due
      exact (notDue reading iterates due).elim
  · trivial

/-- The worker goes once around the loop of `run`. -/
def loop (reading : UInt64) : List Move :=
  List.replicate 4 (.worker reading)

/-- A session up to its confirmed STARTDT. -/
def confirmedSession : List Move :=
  [.start, .deliver .opened 5, .handlerPosts] ++ loop 10 ++
    [.deliver .startDtConReceived 20, .handlerPosts]

/-- With an interval of ten seconds the interrogation is due at 20000 ms. -/
theorem not_interrogatesWhenDue_confirmedSession :
    ¬EachStep step InterrogatesWhenDue (create 10000)
      (confirmedSession ++ [.worker 20000, .worker 20000] ++
        [.worker 20000]) := by
  apply not_eachStep_of_reached [] (by rfl)
  intro interrogates
  obtain ⟨next, stepped, more⟩ := interrogates 20000 ⟨rfl, rfl⟩
    ⟨[], 20, [.startDtSent, .iteration 10], 5, [.started], rfl, by decide,
      by decide, by decide, by decide⟩
  cases stepped
  exact absurd more (by decide)

end Interrogation

section Activation

def startDts (client : Client) : Nat :=
  client.history.count .startDtSent

def openings (client : Client) : Nat :=
  client.history.countP Entry.isOpened

def OneStartDtEach (_ : Client) (_ : Move)
    (result : Except Terminated (Client × Unit)) : Prop :=
  ∀ next output, result = .ok (next, output) → next.startDts ≤ next.openings

end Activation

end Client

namespace Entry

/-- What decides whether an event is still unanswered. -/
def concernsActivation : Entry → Bool
  | .delivered _ _ | .startDtSent => true
  | _ => false

end Entry

namespace Client

section Activation

/-- No iteration that finds OPENED comes after a STARTDT for the same event. -/
def AnswersOnce (client : Client) (move : Move)
    (_ : Except Terminated (Client × Unit)) : Prop :=
  ∀ reading, client.Iterates move reading →
    client.lastEvent = some .opened → client.running = true →
    client.history.find? Entry.concernsActivation ≠ some .startDtSent

/-- An OPENED event that no STARTDT has followed. -/
def unanswered (client : Client) : Nat :=
  match client.history.find? Entry.concernsActivation with
  | some (.delivered .opened _) => 1
  | _ => 0

structure ActivationAccounted (client : Client) : Prop where
  newest : client.lastEvent = client.history.findSome? Entry.event?
  bound : client.startDts + client.unanswered ≤ client.openings

variable {client next : Client} {move : Move}

theorem ActivationAccounted.unanswered_eq_one
    (accounted : ActivationAccounted client)
    (opened : client.lastEvent = some .opened)
    (once : client.history.find? Entry.concernsActivation ≠
      some .startDtSent) :
    client.unanswered = 1 := by
  have newest := accounted.newest.symm.trans opened
  obtain ⟨entry, found, kind⟩ := Entry.find?_of_newest
    Entry.concernsActivation (fun _ _ => rfl) newest
  rcases kind with other | ⟨reading, same⟩
  · have concerned := List.find?_some found
    cases entry with
    | startDtSent => exact (once found).elim
    | delivered => cases other
    | started | stopCalled | joined | iteration | interrogationSent
    | stopDtSent | runningCleared => cases concerned
  · subst same
    simp [unanswered, found]

theorem ActivationAccounted.transition (accounted : ActivationAccounted client)
    (once : AnswersOnce client move (.ok (next, ())))
    (transition : Transition client move next) : ActivationAccounted next := by
  refine ⟨transition.lastEvent_eq accounted.newest, ?_⟩
  have bound := accounted.bound
  cases transition with
  | stopped destroys stopping joined =>
      rcases joined with ⟨_, same⟩ | ⟨_, same⟩ <;> subst same <;> exact bound
  | delivers event reading present =>
      have answered : client.startDts ≤ client.openings :=
        Nat.le_trans (Nat.le_add_right _ _) bound
      cases event with
      | opened =>
          have counted :
              (client.record (.delivered .opened reading)).openings =
                client.openings + 1 := List.countP_cons_of_pos rfl
          calc
            _ = client.startDts + 1 := rfl
            _ ≤ client.openings + 1 := Nat.succ_le_succ answered
            _ = _ := counted.symm
      | closed | startDtConReceived | stopDtConReceived | failed =>
          exact answered
  | sendsStartDt reading thread opened running =>
      have pending := accounted.unanswered_eq_one opened
        (once reading ⟨rfl, thread⟩ opened running)
      have sent : (client.record .startDtSent).startDts =
          client.startDts + 1 := List.count_cons_self
      calc
        _ = (client.record .startDtSent).startDts := rfl
        _ = client.startDts + client.unanswered := by rw [sent, pending]
        _ ≤ client.openings := bound
  | still | starts | stops | destructs | destroyed | handlerPosts | tests
  | waits | endsSession | idles | posts => exact bound

/-- The STARTDTs never outnumber the OPENED events in a run whose iterations
answer no event a second time. -/
theorem oneStartDtEach_of_answersOnce (giIntervalMs : Int32)
    (moves : List Move)
    (once : EachStep step AnswersOnce (create giIntervalMs) moves) :
    EachStep step OneStartDtEach (create giIntervalMs) moves := by
  apply eachStep_of_condition ActivationAccounted _ _ _ once
  · intro client move unsent accounted once next output stepped
    rw [stepped] at once
    have kept := accounted.transition once (transition_of_step unsent stepped)
    exact Nat.le_trans (Nat.le_add_right _ _) kept.bound
  · intro client move next accounted once transition
    exact accounted.transition once transition
  · exact ⟨rfl, Nat.le_refl _⟩

/-- One iteration answers OPENED, and the confirmation comes before the next. -/
theorem oneStartDtEach_confirmedSession :
    EachStep step OneStartDtEach (create 10000) confirmedSession := by
  apply oneStartDtEach_of_answersOnce
  have outside : ∀ {client : Client} {move : Move} {result},
      client.workerThread ≠ some .holding → AnswersOnce client move result :=
    fun absent _ iterates => (absent iterates.2).elim
  have once : EachStep step AnswersOnce (create 10000) confirmedSession :=
    .cons (outside nofun) rfl <|
    .cons (outside nofun) rfl <|
    .cons (outside nofun) rfl <|
    .cons (outside nofun) rfl <|
    .cons (outside nofun) rfl <|
    .cons (fun _ _ _ _ => nofun) rfl <|
    .cons (outside nofun) rfl <|
    .cons (outside nofun) rfl <|
    .cons (outside nofun) rfl trivial
  exact once

/-- A confirmation that takes longer than one round of the loop. -/
theorem not_oneStartDtEach_of_slow_confirmation :
    ¬EachStep step OneStartDtEach (create 10000)
      ([.start, .deliver .opened 5, .handlerPosts] ++ loop 10 ++
        [.worker 110, .worker 110] ++ [.worker 110]) := by
  apply not_eachStep_of_reached [] (by rfl)
  intro bounded
  exact absurd (bounded _ () rfl) (by decide)

end Activation

section Deactivation

/-- The newest connection is open, and a STARTDT was sent on it. -/
def StartDtSentOnOpen (history : List Entry) : Prop :=
  ∃ later openedAt earlier,
    history = later ++ .delivered .opened openedAt :: earlier ∧
    .startDtSent ∈ later ∧
    ∀ entry ∈ later, entry.isOpened = false ∧ entry.endsConnection = false

/-- What has happened since the newest call of `stop` on a running client. -/
def sinceStop (client : Client) : List Entry :=
  client.history.takeWhile (!·.isStopCalled)

/-- What had happened when `stop` was called. -/
def beforeStop (client : Client) : List Entry :=
  (client.history.dropWhile (!·.isStopCalled)).tail

/-- `stop` gets past its `join` and returns. -/
def StopReturns (client : Client) (move : Move) : Prop :=
  move = .stopReturns ∧ (∃ destroys, client.caller = .stopping destroys) ∧
    (client.workerThread = none ∨ client.workerThread = some .returned)

/-- A stop of an activated connection returns after one STOPDT. -/
def StopsOrderly (client : Client) (move : Move)
    (result : Except Terminated (Client × Unit)) : Prop :=
  client.StopReturns move → StartDtSentOnOpen client.beforeStop →
    ∃ next, result = .ok (next, ()) ∧ next.sinceStop.count .stopDtSent = 1

def NotActivatedAtStop (client : Client) (move : Move)
    (_ : Except Terminated (Client × Unit)) : Prop :=
  client.StopReturns move → ¬StartDtSentOnOpen client.beforeStop

variable {client next : Client} {move : Move}

private theorem stopDtSent_not_mem_of_transition
    (transition : Transition client move next)
    (never : .stopDtSent ∉ client.history) : .stopDtSent ∉ next.history := by
  obtain ⟨added, history, absent, _⟩ := transition.adds
  rw [history, List.mem_append]
  exact not_or.mpr ⟨absent, never⟩

private theorem count_sinceStop_eq_zero (never : .stopDtSent ∉ client.history) :
    client.sinceStop.count .stopDtSent = 0 := by
  apply List.count_eq_zero.mpr
  intro member
  exact never ((List.takeWhile_sublist _).subset member)

/-- No stop sends STOPDT, so a run stops orderly if and only if no stop that
returns was called on an activated connection. -/
theorem stopsOrderly_iff (giIntervalMs : Int32) (moves : List Move) :
    EachStep step StopsOrderly (create giIntervalMs) moves ↔
      EachStep step NotActivatedAtStop (create giIntervalMs) moves := by
  apply eachStep_iff fun client => .stopDtSent ∉ client.history
  · intro client move next never _ transition
    exact stopDtSent_not_mem_of_transition transition never
  · intro client move unsent never
    constructor
    · intro orderly returns activated
      obtain ⟨next, stepped, sent⟩ := orderly returns activated
      have absent := stopDtSent_not_mem_of_transition
        (transition_of_step unsent stepped) never
      rw [count_sinceStop_eq_zero absent] at sent
      cases sent
    · intro notActivated returns activated
      exact (notActivated returns activated).elim
  · simp

/-- `stop` clears `running_` before `sendStopDT` tests it. -/
theorem not_stopsOrderly_confirmedSession :
    ¬EachStep step StopsOrderly (create 10000)
      (confirmedSession ++ [.stop, .worker 30] ++ [.stopReturns]) := by
  apply not_eachStep_of_reached [] (by rfl)
  intro orderly
  obtain ⟨next, stepped, sent⟩ := orderly ⟨rfl, ⟨false, rfl⟩, .inr rfl⟩
    ⟨[.delivered .startDtConReceived 20, .startDtSent, .iteration 10], 5,
      [.started], rfl, by decide, by decide⟩
  cases stepped
  exact absurd sent (by decide)

end Deactivation

end Client

end DataGateway.Iec104
