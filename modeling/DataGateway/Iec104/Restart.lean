import DataGateway.Iec104.Client

/-!
# Sessions and left-over events

`start` does not reset `last_event_`, so the first iterations of a new worker
see the last event of the session before.
-/

namespace DataGateway.Iec104

open Foundation

namespace Entry

/-- What decides whether the current session has had an event. -/
def concernsSession : Entry → Bool
  | .started | .delivered _ _ => true
  | _ => false

/-- What decides whether an iteration opens its session. -/
def concernsFirstIteration : Entry → Bool
  | .started | .delivered _ _ | .iteration _ => true
  | _ => false

end Entry

namespace Client

/-- Whatever an iteration does, it does about an event that was delivered
after the `start` of its worker. -/
def ActsOnOwnEvents (client : Client) (move : Move)
    (result : Except Terminated (Client × Unit)) : Prop :=
  ∀ reading next output, client.Iterates move reading →
    result = .ok (next, output) →
    next.history ≠ .iteration reading :: client.history →
    ∃ event delivery,
      client.history.find? Entry.concernsSession =
          some (.delivered event delivery) ∧
        client.lastEvent = some event

/-- A worker whose first iteration comes before any event of its session finds
nothing left over to act on. -/
def StartsClean (client : Client) (move : Move)
    (_ : Except Terminated (Client × Unit)) : Prop :=
  ∀ reading, client.Iterates move reading →
    client.history.find? Entry.concernsFirstIteration = some .started →
    ¬client.Acts

/-- After its first iteration a session without events has nothing to act on. -/
structure SessionAccounted (client : Client) : Prop where
  newest : client.lastEvent = client.history.findSome? Entry.event?
  rests : client.history.find? Entry.concernsSession = some .started →
    client.history.find? Entry.concernsFirstIteration ≠ some .started →
    ¬client.Acts

section

variable {client next : Client} {move : Move} {reading : UInt64}

theorem Acts.of_agree (acts : next.Acts)
    (lastEvent : next.lastEvent = client.lastEvent)
    (running : next.running = true → client.running = true) :
    client.Acts := by
  rcases acts with closed | failed | ⟨opened, runs⟩
  · exact .inl (lastEvent ▸ closed)
  · exact .inr (.inl (lastEvent ▸ failed))
  · exact .inr (.inr ⟨lastEvent ▸ opened, running runs⟩)

theorem Acts.lastEvent (acts : client.Acts) :
    ∃ event, client.lastEvent = some event := by
  rcases acts with closed | failed | ⟨opened, _⟩
  · exact ⟨_, closed⟩
  · exact ⟨_, failed⟩
  · exact ⟨_, opened⟩

/-- An event in the slot is the newest of its session, or the session has had
none. -/
theorem SessionAccounted.own_or_leftover (accounted : SessionAccounted client)
    {event : ConnectionEvent} (last : client.lastEvent = some event) :
    (∃ delivery, client.history.find? Entry.concernsSession =
        some (.delivered event delivery)) ∨
      client.history.find? Entry.concernsSession = some .started := by
  have newest := accounted.newest.symm.trans last
  obtain ⟨entry, found, kind⟩ := Entry.find?_of_newest
    Entry.concernsSession (fun _ _ => rfl) newest
  rcases kind with other | ⟨delivery, same⟩
  · right
    have concerned := List.find?_some found
    cases entry with
    | started => exact found
    | delivered => cases other
    | startDtSent | stopCalled | joined | iteration | interrogationSent
    | stopDtSent | runningCleared => cases concerned
  · subst same
    exact .inl ⟨delivery, found⟩

theorem concernsSession_of_first
    (first : client.history.find? Entry.concernsFirstIteration =
      some .started) :
    client.history.find? Entry.concernsSession = some .started := by
  obtain ⟨_, later, earlier, split, others⟩ :=
    List.find?_eq_some_iff_append.mp first
  apply List.find?_eq_some_iff_append.mpr
  refine ⟨rfl, later, earlier, split, ?_⟩
  intro entry member
  have other := others entry member
  cases entry with
  | started | delivered => cases other
  | stopCalled | joined | iteration | startDtSent | interrogationSent
  | stopDtSent | runningCleared => rfl

theorem step_of_iterates (iterates : client.Iterates move reading) :
    client.step move =
      .ok ({ client.iterate reading with workerThread := some .acted }, ()) := by
  obtain ⟨moves, thread⟩ := iterates
  subst moves
  simp [step, advance, thread]

theorem history_iterate_iff (unsent : client.startDtSent = false) :
    (client.iterate reading).history ≠ .iteration reading :: client.history ↔
      client.Acts := by
  constructor
  · intro more
    by_contra rests
    rw [iterate_idle rests unsent] at more
    exact more rfl
  · intro acts
    have longer : ∃ action, (client.iterate reading).history =
        action :: .iteration reading :: client.history := by
      rcases acts with closed | failed | ⟨opened, running⟩
      · exact ⟨_, by rw [iterate_ended (.inl closed)]; rfl⟩
      · exact ⟨_, by rw [iterate_ended (.inr failed)]; rfl⟩
      · exact ⟨_, by rw [iterate_opened opened running]; rfl⟩
    obtain ⟨action, history⟩ := longer
    rw [history]
    exact List.cons_ne_self _ _

theorem SessionAccounted.step_iff
    (accounted : SessionAccounted client)
    (unsent : client.startDtSent = false) :
    ActsOnOwnEvents client move (client.step move) ↔
      StartsClean client move (client.step move) := by
  constructor
  · intro owns reading iterates first acts
    obtain ⟨event, delivery, own, _⟩ := owns reading _ ()
      iterates (step_of_iterates iterates)
      ((history_iterate_iff unsent).mpr acts)
    cases own.symm.trans (concernsSession_of_first first)
  · intro clean reading next output iterates stepped more
    cases (step_of_iterates iterates).symm.trans stepped
    have acts := (history_iterate_iff unsent).mp more
    obtain ⟨event, last⟩ := acts.lastEvent
    rcases accounted.own_or_leftover last with ⟨delivery, own⟩ | leftover
    · exact ⟨event, delivery, own, last⟩
    · by_cases first :
          client.history.find? Entry.concernsFirstIteration = some .started
      · exact (clean reading iterates first acts).elim
      · exact (accounted.rests leftover first acts).elim

theorem SessionAccounted.transition (accounted : SessionAccounted client)
    (owns : ActsOnOwnEvents client move (.ok (next, ())))
    (transition : Transition client move next) : SessionAccounted next := by
  refine ⟨transition.lastEvent_eq accounted.newest, ?_⟩
  intro leftover notFirst acts
  have rests := accounted.rests
  cases transition with
  | starts => exact notFirst rfl
  | delivers => cases leftover
  | stopped destroys stopping joined =>
      rcases joined with ⟨_, same⟩ | ⟨_, same⟩ <;> subst same <;>
        exact rests leftover notFirst (acts.of_agree rfl id)
  | stops | destructs =>
      exact rests leftover notFirst
        (acts.of_agree rfl (fun running => by cases running))
  | sendsStartDt reading thread opened running =>
      obtain ⟨event, delivery, own, _⟩ := owns reading _ () ⟨rfl, thread⟩ rfl
        (List.cons_ne_self _ _)
      cases own.symm.trans leftover
  | endsSession reading thread ended =>
      obtain ⟨event, delivery, own, _⟩ := owns reading _ () ⟨rfl, thread⟩ rfl
        (List.cons_ne_self _ _)
      cases own.symm.trans leftover
  | idles reading thread nothing => exact nothing (acts.of_agree rfl id)
  | still | destroyed | handlerPosts | tests | waits | posts =>
      exact rests leftover notFirst (acts.of_agree rfl id)

end

/-- Every worker acts on events of its own session only if and only if no
session begins with an iteration that finds a CLOSED, a FAILED or, running, an
OPENED of the session before. -/
theorem actsOnOwnEvents_iff (giIntervalMs : Int32) (moves : List Move) :
    EachStep step ActsOnOwnEvents (create giIntervalMs) moves ↔
      EachStep step StartsClean (create giIntervalMs) moves := by
  apply eachStep_iff SessionAccounted
  · intro client move next accounted owns transition
    exact accounted.transition owns transition
  · intro client move unsent accounted
    exact accounted.step_iff unsent
  · constructor
    · rfl
    · intro leftover
      cases leftover

/-- The peer closes while `stop` is under way, and the client is started
again. -/
def restartAfterClose : List Move :=
  [.start, .deliver .opened 5, .handlerPosts, .stop, .deliver .closed 15,
    .handlerPosts, .worker 20, .stopReturns, .start]

/-- The first iteration of the second worker ends its session because of the
CLOSED event of the first. -/
theorem not_actsOnOwnEvents_restartAfterClose :
    ¬EachStep step ActsOnOwnEvents (create 10000)
      (restartAfterClose ++ [.worker 30, .worker 30] ++ [.worker 30]) := by
  apply not_eachStep_of_reached [] (by rfl)
  intro owns
  obtain ⟨event, delivery, own, _⟩ := owns 30 _ () ⟨rfl, rfl⟩ rfl
    (List.cons_ne_self _ _)
  cases own

end Client

end DataGateway.Iec104
