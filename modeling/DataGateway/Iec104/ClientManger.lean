import DataGateway.Iec104.Joining

/-!
# The manager of the IEC 104 clients

`IEC104ClientManger` (`core/iec104/iec104ClientManger.cc`).  `initClients`
starts a client for each device; the destructor stops one client after the other
and then destroys them all.  The manager has a thread of its caller only, and
the workers and the library go on beside it.
-/

namespace DataGateway.Iec104

open Foundation

/-- What the caller of the manager is in: nothing, `initClients` before the
devices that are left, the loop of the destructor, or `clients_.clear()`. -/
inductive MangerAt
  | idle
  | inits (intervals : List Int32)
  | stops (index : Nat)
  | clears (index : Nat)
  | gone

/-- Where a client is while the manager is somewhere. -/
def MangerAt.Admits (index : Nat) (client : Client) : MangerAt → Prop
  | .idle | .inits _ => client.caller = .idle
  | .stops current =>
      (index < current → client.caller = .idle ∧ client.running = false) ∧
        (index = current →
          client.caller = .idle ∨ client.caller = .stopping false) ∧
        (current < index → client.caller = .idle)
  | .clears current =>
      client.running = false ∧
        (index < current → client.caller = .gone) ∧
        (index = current → client.caller = .idle ∨ client.caller = .gone) ∧
        (current < index → client.caller = .idle)
  | .gone => client.caller = .gone

structure ClientManger where
  clients : List Client
  position : MangerAt

inductive MangerMove
  | initClients (intervals : List Int32)
  | destroy
  | proceed
  | deliver (index : Nat) (event : ConnectionEvent) (reading : UInt64)
  | handlerPosts (index : Nat)
  | worker (index : Nat) (reading : UInt64)

namespace ClientManger

def constructed : ClientManger :=
  { clients := []
    position := .idle }

section Operations

variable (manger : ClientManger)

/-- A step of one of the clients. -/
def onClient (index : Nat) (move : Move) : Except Terminated ClientManger :=
  match manger.clients[index]? with
  | none => .ok manger
  | some client =>
      (client.step move).map fun (next, _) =>
        { manger with clients := manger.clients.set index next }

/-- The loop of `initClients` constructs a client, starts it and keeps it if
that succeeds. -/
def initNext : List Int32 → Except Terminated ClientManger
  | [] => .ok { manger with position := .idle }
  | giIntervalMs :: intervals =>
      (Client.create giIntervalMs).start.map fun (client, started) =>
        { clients := if started then manger.clients ++ [client] else manger.clients
          position := .inits intervals }

/-- `client->stop()` up to its next wait. -/
def stopNext (index : Nat) : Except Terminated ClientManger :=
  match manger.clients[index]? with
  | none => .ok { manger with position := .clears 0 }
  | some client =>
      match client.caller with
      | .stopping _ => manger.onClient index .stopReturns
      | .idle | .gone =>
          if client.running then manger.onClient index .stop
          else .ok { manger with position := .stops (index + 1) }

/-- The destructor of a client up to its next wait. -/
def clearNext (index : Nat) : Except Terminated ClientManger :=
  match manger.clients[index]? with
  | none => .ok { manger with position := .gone }
  | some client =>
      match client.caller with
      | .stopping _ => manger.onClient index .stopReturns
      | .idle => manger.onClient index .destroy
      | .gone => .ok { manger with position := .clears (index + 1) }

def proceed : Except Terminated ClientManger :=
  match manger.position with
  | .idle | .gone => .ok manger
  | .inits intervals => manger.initNext intervals
  | .stops index => manger.stopNext index
  | .clears index => manger.clearNext index

/-- The caller makes one call at a time; a call that comes in between is
none. -/
def step (move : MangerMove) : Except Terminated (ClientManger × Unit) :=
  match move with
  | .initClients intervals =>
      match manger.position with
      | .idle => .ok ({ manger with position := .inits intervals }, ())
      | _ => .ok (manger, ())
  | .destroy =>
      match manger.position with
      | .idle => .ok ({ manger with position := .stops 0 }, ())
      | _ => .ok (manger, ())
  | .proceed => manger.proceed.map (·, ())
  | .deliver index event reading =>
      (manger.onClient index (.deliver event reading)).map (·, ())
  | .handlerPosts index => (manger.onClient index .handlerPosts).map (·, ())
  | .worker index reading => (manger.onClient index (.worker reading)).map (·, ())

end Operations

/-- The step does not call `std::terminate`. -/
def KeepsThreads (_ : ClientManger) (_ : MangerMove)
    (result : Except Terminated (ClientManger × Unit)) : Prop :=
  ∃ next, result = .ok (next, ())

/-- A client that is about to be destroyed has not ended its session by
itself. -/
def DestroysStopped (manger : ClientManger) (move : MangerMove)
    (_ : Except Terminated (ClientManger × Unit)) : Prop :=
  ∀ index client, move = .proceed → manger.position = .clears index →
    manger.clients[index]? = some client → client.caller = .idle →
    ¬client.EndedItself

/-- What holds of a client under any caller. -/
structure SoundClient (client : Client) : Prop where
  accounted : client.ThreadAccounted
  unsent : client.startDtSent = false
  joined : client.caller = .gone → client.workerThread = none

def Kept (manger : ClientManger) : Prop :=
  ∀ index client, manger.clients[index]? = some client →
    SoundClient client ∧ manger.position.Admits index client

section

variable {client next : Client} {move : Move}

theorem SoundClient.step (sound : SoundClient client)
    (stepped : client.step move = .ok (next, ())) : SoundClient next := by
  have transition := Client.transition_of_step sound.unsent stepped
  refine ⟨sound.accounted.transition transition,
    transition.startDtSent_eq.trans sound.unsent, ?_⟩
  have joined := sound.joined
  cases transition with
  | still | delivers | handlerPosts => exact joined
  | destroyed idle stopped unjoined => exact fun _ => unjoined
  | stopped destroys stopping past => exact fun _ => rfl
  | starts idle | stops idle | destructs idle =>
      intro gone
      simp [Client.record, Client.callStop, idle] at gone
  | tests reading thread | waits reading thread | idles reading thread
  | posts reading thread | sendsStartDt reading thread
  | endsSession reading thread =>
      intro gone
      have none := joined gone
      rw [none] at thread
      cases thread

theorem caller_of_library (sound : SoundClient client)
    (library : move ≠ .start ∧ move ≠ .stop ∧ move ≠ .destroy ∧
      move ≠ .stopReturns)
    (stepped : client.step move = .ok (next, ())) :
    next.caller = client.caller ∧
      (client.running = false → next.running = false) := by
  obtain ⟨notStart, notStop, notDestroy, notReturn⟩ := library
  cases Client.transition_of_step sound.unsent stepped with
  | still => exact ⟨rfl, id⟩
  | starts => exact (notStart rfl).elim
  | stops => exact (notStop rfl).elim
  | destructs | destroyed => exact (notDestroy rfl).elim
  | stopped => exact (notReturn rfl).elim
  | delivers | handlerPosts | tests | waits | idles | posts | sendsStartDt =>
      exact ⟨rfl, id⟩
  | endsSession => exact ⟨rfl, fun _ => rfl⟩

theorem sound_started (giIntervalMs : Int32) :
    ∃ client, (Client.create giIntervalMs).start = .ok (client, true) ∧
      SoundClient client ∧ client.caller = .idle := by
  refine ⟨_, rfl, ⟨⟨?_, ?_, ?_⟩, rfl, ?_⟩, rfl⟩
  · simp [Client.create, Client.record]
  · simp [Client.create, Client.record, Client.EndedItself, Entry.concernsThread]
  · simp [Client.create, Client.record]
  · intro gone
    cases gone

end

section

variable {manger next : ClientManger} {index : Nat} {client after : Client}

theorem onClient_eq {move : Move} (found : manger.clients[index]? = some client)
    (stepped : client.step move = .ok (after, ())) :
    manger.onClient index move =
      .ok { manger with clients := manger.clients.set index after } := by
  simp [onClient, found, stepped, Except.map]

theorem Kept.setClient (kept : Kept manger) (sound : SoundClient after)
    (admits : manger.position.Admits index after) :
    Kept { manger with clients := manger.clients.set index after } := by
  intro other found stored
  simp only [List.getElem?_set] at stored
  split at stored
  · next same =>
      subst same
      split at stored
      · cases stored
        exact ⟨sound, admits⟩
      · cases stored
  · exact kept other found stored

theorem Kept.reposition (kept : Kept manger) {position : MangerAt}
    (admits : ∀ index client, manger.clients[index]? = some client →
      manger.position.Admits index client → position.Admits index client) :
    Kept { manger with position := position } := by
  intro index client stored
  obtain ⟨sound, admitted⟩ := kept index client stored
  exact ⟨sound, admits index client stored admitted⟩

theorem admits_of_caller {position : MangerAt} (admits : position.Admits index client)
    (caller : after.caller = client.caller)
    (running : client.running = false → after.running = false) :
    position.Admits index after := by
  cases position with
  | idle | inits intervals | gone => exact caller.trans admits
  | stops current =>
      obtain ⟨before, here, later⟩ := admits
      refine ⟨fun less => ⟨caller.trans (before less).1, running (before less).2⟩,
        ?_, fun more => caller.trans (later more)⟩
      intro same
      rw [caller]
      exact here same
  | clears current =>
      obtain ⟨stopped, before, here, later⟩ := admits
      refine ⟨running stopped, fun less => caller.trans (before less), ?_,
        fun more => caller.trans (later more)⟩
      intro same
      rw [caller]
      exact here same

theorem Kept.library (kept : Kept manger) (index : Nat) (move : Move)
    (library : move ≠ .start ∧ move ≠ .stop ∧ move ≠ .destroy ∧
      move ≠ .stopReturns) :
    ∃ next, manger.onClient index move = .ok next ∧ Kept next := by
  cases found : manger.clients[index]? with
  | none => exact ⟨manger, by simp [onClient, found], kept⟩
  | some client =>
      obtain ⟨sound, admits⟩ := kept index client found
      obtain ⟨after, stepped⟩ := Client.exists_step library.1 library.2.2.1
      obtain ⟨caller, running⟩ := caller_of_library sound library stepped
      exact ⟨_, onClient_eq found stepped, kept.setClient (sound.step stepped)
        (admits_of_caller admits caller running)⟩

theorem Kept.initNext (kept : Kept manger) {intervals : List Int32}
    (inits : manger.position = .inits intervals) :
    ∃ next, manger.initNext intervals = .ok next ∧ Kept next := by
  cases intervals with
  | nil =>
      refine ⟨_, rfl, kept.reposition ?_⟩
      intro index client _ admits
      rw [inits] at admits
      exact admits
  | cons giIntervalMs intervals =>
      obtain ⟨client, started, sound, idle⟩ := sound_started giIntervalMs
      simp only [ClientManger.initNext, started, Except.map, if_true]
      refine ⟨_, rfl, ?_⟩
      intro index found stored
      rw [List.getElem?_append] at stored
      split at stored
      · obtain ⟨soundFound, admits⟩ := kept index found stored
        rw [inits] at admits
        exact ⟨soundFound, admits⟩
      · rw [List.getElem?_singleton] at stored
        split at stored
        · cases stored
          exact ⟨sound, idle⟩
        · cases stored

theorem Kept.stopNext (kept : Kept manger) (stops : manger.position = .stops index) :
    ∃ next, manger.stopNext index = .ok next ∧ Kept next := by
  unfold ClientManger.stopNext
  cases found : manger.clients[index]? with
  | none =>
      refine ⟨_, rfl, kept.reposition ?_⟩
      intro other client stored admits
      rw [stops] at admits
      have inside := (List.getElem?_eq_some_iff.mp stored).1
      have past := List.getElem?_eq_none_iff.mp found
      obtain ⟨caller, running⟩ := admits.1 (by omega)
      exact ⟨running, fun less => by omega, fun _ => .inl caller, fun _ => caller⟩
  | some client =>
      obtain ⟨sound, admits⟩ := kept index client found
      rw [stops] at admits
      have here := admits.2.1 rfl
      simp only
      have others : ∀ {after : Client}, after.caller = .idle ∨
          after.caller = .stopping false → (MangerAt.stops index).Admits index after :=
        fun caller => ⟨fun less => by omega, fun _ => caller, fun more => by omega⟩
      cases caller : client.caller with
      | gone => simp [caller] at here
      | stopping destroys =>
          simp only
          have notDestroys : destroys = false := by simpa [caller] using here
          subst notDestroys
          obtain ⟨after, stepped⟩ : ∃ after, client.step .stopReturns = .ok (after, ()) :=
            Client.exists_step (by simp) (by simp)
          have callerAfter : after.caller = .idle ∨ after.caller = .stopping false := by
            cases Client.transition_of_step sound.unsent stepped with
            | still => exact .inr caller
            | stopped destroys stopping past =>
                cases caller.symm.trans stopping
                exact .inl rfl
          refine ⟨_, onClient_eq found stepped,
            kept.setClient (sound.step stepped) ?_⟩
          rw [stops]
          exact others callerAfter
      | idle =>
          cases running : client.running with
          | true =>
              obtain ⟨after, stepped⟩ : ∃ after, client.step .stop = .ok (after, ()) :=
                Client.exists_step (by simp) (by simp)
              have callerAfter : after.caller = .idle ∨
                  after.caller = .stopping false := by
                cases Client.transition_of_step sound.unsent stepped with
                | still => exact .inl caller
                | stops idle running => exact .inr rfl
              simp only [if_true]
              refine ⟨_, onClient_eq found stepped,
                kept.setClient (sound.step stepped) ?_⟩
              rw [stops]
              exact others callerAfter
          | false =>
              simp only [Bool.false_eq_true, if_false]
              refine ⟨_, rfl, kept.reposition ?_⟩
              intro other found' stored admitted
              rw [stops] at admitted
              obtain ⟨before, _, later⟩ := admitted
              refine ⟨?_, ?_, fun more => later (by omega)⟩
              · intro less
                by_cases same : other = index
                · subst same
                  cases found.symm.trans stored
                  exact ⟨caller, running⟩
                · exact before (by omega)
              · intro same
                exact .inl (later (by omega))

/-- The destructor of the client at the index terminates the program exactly if
the client has ended itself. -/
theorem Kept.clearNext (kept : Kept manger)
    (clears : manger.position = .clears index) :
    ((∃ next, manger.clearNext index = .ok next) ↔
      ∀ client, manger.clients[index]? = some client → client.caller = .idle →
        ¬client.EndedItself) ∧
      ∀ next, manger.clearNext index = .ok next → Kept next := by
  unfold ClientManger.clearNext
  cases found : manger.clients[index]? with
  | none =>
      refine ⟨⟨?_, fun _ => ⟨_, rfl⟩⟩, ?_⟩
      · intro _ client other
        cases other
      · intro next stepped
        cases stepped
        apply kept.reposition
        intro other client stored admits
        rw [clears] at admits
        have inside := (List.getElem?_eq_some_iff.mp stored).1
        have past := List.getElem?_eq_none_iff.mp found
        exact admits.2.1 (by omega)
  | some client =>
      obtain ⟨sound, admits⟩ := kept index client found
      rw [clears] at admits
      obtain ⟨stopped, _, here, _⟩ := admits
      simp only
      cases caller : client.caller with
      | stopping destroys => simp [caller] at here
      | gone =>
          refine ⟨⟨fun _ other same idle => ?_, fun _ => ⟨_, rfl⟩⟩, ?_⟩
          · cases same
            rw [caller] at idle
            cases idle
          · intro next stepped
            cases stepped
            apply kept.reposition
            intro other found' stored admitted
            rw [clears] at admitted
            obtain ⟨running, before, _, later⟩ := admitted
            refine ⟨running, ?_, fun same => .inl (later (by omega)),
              fun more => later (by omega)⟩
            intro less
            by_cases same : other = index
            · subst same
              cases found.symm.trans stored
              exact caller
            · exact before (by omega)
      | idle =>
          have kills : Client.KeepsThread client .destroy (client.step .destroy) ↔
              ¬client.EndedItself := by
            rw [sound.accounted.step_iff]
            exact ⟨fun leaves => leaves (.inr rfl) caller, fun ended _ _ => ended⟩
          simp only
          refine ⟨⟨?_, ?_⟩, ?_⟩
          · rintro ⟨next, stepped⟩ other same _
            cases same
            apply kills.mp
            cases outcome : client.step .destroy with
            | error fault => simp [onClient, found, outcome, Except.map] at stepped
            | ok result => exact ⟨result.1, rfl⟩
          · intro notEnded
            obtain ⟨after, stepped⟩ := kills.mpr (notEnded client rfl caller)
            exact ⟨_, onClient_eq found stepped⟩
          · intro next stepped
            cases outcome : client.step .destroy with
            | error fault => simp [onClient, found, outcome, Except.map] at stepped
            | ok result =>
                obtain ⟨after, _⟩ := result
                rw [onClient_eq found outcome] at stepped
                cases stepped
                apply kept.setClient (sound.step outcome)
                rw [clears]
                have past : after.running = false ∧
                    (after.caller = .idle ∨ after.caller = .gone) := by
                  cases Client.transition_of_step sound.unsent outcome with
                  | still => exact ⟨stopped, .inl caller⟩
                  | destructs idle running =>
                      rw [stopped] at running
                      cases running
                  | destroyed idle off unjoined => exact ⟨off, .inr rfl⟩
                exact ⟨past.1, fun less => by omega, fun _ => past.2,
                  fun more => by omega⟩

theorem Kept.step_iff (kept : Kept manger) (move : MangerMove) :
    (KeepsThreads manger move (manger.step move) ↔
      DestroysStopped manger move (manger.step move)) ∧
      ∀ next, manger.step move = .ok (next, ()) → Kept next := by
  have harmless : move ≠ .proceed ∨ (∀ index, manger.position ≠ .clears index) →
      (∃ next, manger.step move = .ok (next, ()) ∧ Kept next) →
      (KeepsThreads manger move (manger.step move) ↔
        DestroysStopped manger move (manger.step move)) ∧
        ∀ next, manger.step move = .ok (next, ()) → Kept next := by
    rintro elsewhere ⟨next, stepped, keptNext⟩
    refine ⟨⟨fun _ index client proceeds clears => ?_, fun _ => ⟨next, stepped⟩⟩, ?_⟩
    · rcases elsewhere with other | other
      · exact (other proceeds).elim
      · exact (other index clears).elim
    · intro other same
      cases stepped.symm.trans same
      exact keptNext
  cases move with
  | initClients intervals =>
      apply harmless (.inl (by simp))
      cases position : manger.position with
      | idle =>
          refine ⟨_, by simp [ClientManger.step, position]; rfl, kept.reposition ?_⟩
          intro index client _ admits
          rw [position] at admits
          exact admits
      | inits | stops | clears | gone =>
          exact ⟨manger, by simp [ClientManger.step, position], kept⟩
  | destroy =>
      apply harmless (.inl (by simp))
      cases position : manger.position with
      | idle =>
          refine ⟨_, by simp [ClientManger.step, position]; rfl, kept.reposition ?_⟩
          intro index client _ admits
          rw [position] at admits
          exact ⟨fun less => by omega, fun _ => .inl admits, fun _ => admits⟩
      | inits | stops | clears | gone =>
          exact ⟨manger, by simp [ClientManger.step, position], kept⟩
  | deliver index event reading =>
      apply harmless (.inl (by simp))
      obtain ⟨next, stepped, keptNext⟩ := kept.library index (.deliver event reading)
        (by simp)
      exact ⟨next, by simp [ClientManger.step, stepped, Except.map], keptNext⟩
  | handlerPosts index =>
      apply harmless (.inl (by simp))
      obtain ⟨next, stepped, keptNext⟩ := kept.library index .handlerPosts
        (by simp)
      exact ⟨next, by simp [ClientManger.step, stepped, Except.map], keptNext⟩
  | worker index reading =>
      apply harmless (.inl (by simp))
      obtain ⟨next, stepped, keptNext⟩ := kept.library index (.worker reading)
        (by simp)
      exact ⟨next, by simp [ClientManger.step, stepped, Except.map], keptNext⟩
  | proceed =>
      cases position : manger.position with
      | idle | gone =>
          apply harmless (.inr (by simp [position]))
          exact ⟨manger, by
            simp [ClientManger.step, ClientManger.proceed, position, Except.map], kept⟩
      | inits intervals =>
          apply harmless (.inr (by simp [position]))
          obtain ⟨next, stepped, keptNext⟩ := kept.initNext position
          exact ⟨next, by
            simp [ClientManger.step, ClientManger.proceed, position, stepped,
              Except.map], keptNext⟩
      | stops index =>
          apply harmless (.inr (by simp [position]))
          obtain ⟨next, stepped, keptNext⟩ := kept.stopNext position
          exact ⟨next, by
            simp [ClientManger.step, ClientManger.proceed, position, stepped,
              Except.map], keptNext⟩
      | clears index =>
          obtain ⟨ends, keeps⟩ := kept.clearNext position
          have step : manger.step .proceed = (manger.clearNext index).map (·, ()) := by
            simp [ClientManger.step, ClientManger.proceed, position]
          constructor
          · have exists_iff : KeepsThreads manger .proceed (manger.step .proceed) ↔
                ∃ next, manger.clearNext index = .ok next := by
              rw [KeepsThreads, step]
              cases manger.clearNext index <;> simp [Except.map]
            rw [exists_iff, ends]
            constructor
            · intro none other client _ clears
              cases position.symm.trans clears
              exact none client
            · intro destroys client
              exact destroys index client rfl position
          · intro next stepped
            rw [step] at stepped
            cases outcome : manger.clearNext index with
            | error fault => simp [outcome, Except.map] at stepped
            | ok after =>
                simp only [outcome, Except.map] at stepped
                cases stepped
                exact keeps _ outcome

end

end ClientManger

end DataGateway.Iec104
