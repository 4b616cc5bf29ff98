import DataGateway.Iec104.Client

/-!
# The lock of the event slot

The worker waits and posts in pairs.  `connectionHandler` writes `last_event_`
and posts without a wait, so every event adds a permit that is never taken
back.
-/

namespace DataGateway.Iec104

open Foundation

def Entry.isDelivered : Entry → Bool
  | .delivered _ _ => true
  | _ => false

namespace Client

/-- The permits add up to one, and only a holder writes `last_event_`. -/
def Exclusive (client : Client) (move : Move)
    (result : Except Terminated (Client × Unit)) : Prop :=
  ∀ next output, result = .ok (next, output) →
    next.lastEventLock.permits = 1 ∧
      ∀ event reading, move = .deliver event reading → client.caller ≠ .gone →
        .library ∈ client.lastEventLock.holders

/-- The library delivers no event while the client exists. -/
def Undisturbed (client : Client) (move : Move)
    (_ : Except Terminated (Client × Unit)) : Prop :=
  ∀ event reading, move = .deliver event reading → client.caller = .gone

def deliveries (client : Client) : Nat :=
  client.history.countP Entry.isDelivered

/-- Every delivered event has posted or is about to. -/
structure LockAccounted (client : Client) : Prop where
  permits : client.lastEventLock.permits + client.handlers =
    1 + client.deliveries
  handlers : client.handlers ≤ client.deliveries
  library : .library ∉ client.lastEventLock.holders
  worker : client.workerThread = some .holding ∨
      client.workerThread = some .acted →
    .worker ∈ client.lastEventLock.holders

section

variable {client next : Client} {move : Move}

theorem LockAccounted.of_agree (accounted : LockAccounted client)
    (lock : next.lastEventLock = client.lastEventLock)
    (handlers : next.handlers = client.handlers)
    (deliveries : next.deliveries = client.deliveries)
    (worker : next.workerThread = some .holding ∨
        next.workerThread = some .acted →
      client.workerThread = some .holding ∨
        client.workerThread = some .acted) :
    LockAccounted next := by
  constructor
  · rw [lock, handlers, deliveries]
    exact accounted.permits
  · rw [handlers, deliveries]
    exact accounted.handlers
  · rw [lock]
    exact accounted.library
  · rw [lock]
    intro between
    exact accounted.worker (worker between)

theorem LockAccounted.transition (accounted : LockAccounted client)
    (transition : Transition client move next) : LockAccounted next := by
  cases transition with
  | still => exact accounted
  | starts | stops | destructs | destroyed =>
      exact accounted.of_agree rfl rfl (by simp [deliveries, callStop, record,
        Entry.isDelivered]) (by simp [callStop, record])
  | stopped destroys stopping joined =>
      refine accounted.of_agree rfl rfl ?_ (by simp)
      rcases joined with ⟨_, same⟩ | ⟨_, same⟩
      · subst same
        rfl
      · subst same
        simp [deliveries, Entry.isDelivered]
  | delivers event reading present =>
      have more : ({ client with
          lastEvent := some event
          handlers := client.handlers + 1 }.record
            (.delivered event reading)).deliveries = client.deliveries + 1 := by
        exact List.countP_cons_of_pos rfl
      refine ⟨?_, ?_, accounted.library, accounted.worker⟩
      · rw [more, ← Nat.add_assoc, ← accounted.permits]
        rfl
      · rw [more]
        exact Nat.succ_le_succ accounted.handlers
  | handlerPosts inHandler =>
      refine ⟨?_, ?_, ?_, ?_⟩
      · have permits := accounted.permits
        have raised :=
          Semaphore.permits_post_of_not_holder accounted.library
        simp only [deliveries] at permits ⊢
        omega
      · exact Nat.le_trans (Nat.sub_le _ _) accounted.handlers
      · exact fun member => accounted.library (List.mem_of_mem_erase member)
      · intro between
        have holds := accounted.worker between
        exact (List.mem_erase_of_ne (by decide)).mpr holds
  | tests reading thread =>
      refine accounted.of_agree rfl rfl rfl ?_
      simp only [Option.some.injEq]
      split <;> simp
  | waits reading thread taken =>
      have kept := Semaphore.permits_wait taken
      obtain ⟨_, same⟩ := Semaphore.wait?_eq_some_iff.mp taken
      refine ⟨?_, accounted.handlers, ?_, ?_⟩
      · have permits := accounted.permits
        simp only [deliveries] at permits ⊢
        omega
      · subst same
        simpa using accounted.library
      · intro _
        subst same
        exact List.mem_cons_self
  | sendsStartDt reading thread | endsSession reading thread
  | idles reading thread =>
      exact accounted.of_agree rfl rfl (by simp [deliveries, record,
        Entry.isDelivered]) (fun _ => .inl thread)
  | posts reading thread =>
      have holds := accounted.worker (.inr thread)
      have kept := Semaphore.permits_post_of_holder holds
      refine ⟨?_, accounted.handlers, ?_, by simp⟩
      · have permits := accounted.permits
        simp only [deliveries] at permits ⊢
        omega
      · exact fun member => accounted.library (List.mem_of_mem_erase member)

private theorem deliveries_of_transition (transition : Transition client move next) :
    next.deliveries = client.deliveries ∨
      ∃ event reading, move = .deliver event reading ∧
        client.caller ≠ .gone := by
  cases transition with
  | still => exact .inl rfl
  | delivers event reading present =>
      exact .inr ⟨event, reading, rfl, present⟩
  | stopped destroys stopping joined =>
      rcases joined with ⟨_, same⟩ | ⟨_, same⟩ <;> subst same
      · exact .inl rfl
      · exact .inl (by simp [deliveries, Entry.isDelivered])
  | starts | stops | destructs | destroyed | handlerPosts | tests | waits
  | sendsStartDt | endsSession | idles | posts =>
      left
      simp [deliveries, callStop, record, Entry.isDelivered]

theorem LockAccounted.step_iff (accounted : LockAccounted client)
    (unsent : client.startDtSent = false) (none : client.deliveries = 0) :
    Exclusive client move (client.step move) ↔
      Undisturbed client move (client.step move) := by
  constructor
  · intro exclusive event reading delivers
    by_contra present
    subst delivers
    obtain ⟨next, stepped⟩ : ∃ next,
        client.step (.deliver event reading) = .ok (next, ()) :=
      exists_step (by simp) (by simp)
    have holds := (exclusive next () stepped).2 event reading rfl present
    exact accounted.library holds
  · intro undisturbed next output stepped
    have transition := transition_of_step unsent stepped
    have kept := accounted.transition transition
    rcases deliveries_of_transition transition with
      same | ⟨event, reading, delivers, present⟩
    · refine ⟨?_, ?_⟩
      · have permits := kept.permits
        have handlers := kept.handlers
        omega
      · intro event reading delivers present
        exact (present (undisturbed event reading delivers)).elim
    · exact (present (undisturbed event reading delivers)).elim

end

private theorem lockAccounted_create (giIntervalMs : Int32) :
    LockAccounted (create giIntervalMs) := by
  constructor <;> simp [create, deliveries]

/-- The lock degrades for good: in every reachable state the permits exceed
one by the number of events whose handler has posted. -/
theorem permits_of_run {giIntervalMs : Int32} {moves : List Move}
    {client : Client}
    (reached : run step (create giIntervalMs) moves = .ok client) :
    client.lastEventLock.permits + client.handlers =
      1 + client.deliveries := by
  have accounted := invariant_of_run LockAccounted
    (fun _ _ _ accounted transition => accounted.transition transition)
    (lockAccounted_create giIntervalMs) reached
  exact accounted.permits

/-- The semaphore excludes in every state of a run if and only if the library
delivers no event. -/
theorem exclusive_iff (giIntervalMs : Int32) (moves : List Move) :
    EachStep step Exclusive (create giIntervalMs) moves ↔
      EachStep step Undisturbed (create giIntervalMs) moves := by
  apply eachStep_iff fun client =>
    LockAccounted client ∧ client.deliveries = 0
  · intro client move next kept exclusive transition
    refine ⟨kept.1.transition transition, ?_⟩
    rcases deliveries_of_transition transition with
      same | ⟨event, reading, delivers, present⟩
    · exact same.trans kept.2
    · have holds := (exclusive next () rfl).2 event reading delivers present
      exact (kept.1.library holds).elim
  · intro client move unsent kept
    exact kept.1.step_iff unsent kept.2
  · exact ⟨lockAccounted_create giIntervalMs, rfl⟩

/-- One event is enough: `connectionHandler` writes without the lock, and its
post leaves two permits. -/
theorem not_exclusive_of_event :
    ¬EachStep step Exclusive (create 10000)
        ([.start] ++ [.deliver .opened 5]) ∧
      ∃ client,
        run step (create 10000) [.start, .deliver .opened 5, .handlerPosts] =
            .ok client ∧
          client.lastEventLock.permits = 2 := by
  constructor
  · apply not_eachStep_of_reached [] (by rfl)
    intro exclusive
    have holds := (exclusive _ () rfl).2 .opened 5 rfl (by decide)
    cases holds
  · exact ⟨_, rfl, rfl⟩

end Client

end DataGateway.Iec104
