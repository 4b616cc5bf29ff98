import DataGateway.Foundation.Runs
import DataGateway.Redis.Client

/-!
# What an acknowledged store guarantees

A `store*` call that gets a null reply goes through `handleConnectionErrors`
and `reconnectIfNeeded`, and both of them report success without sending the
command again.  The call then returns `true` whether or not Redis executed
the `SET`.  Every other path of a store is exact, so a run acknowledges only
executed commands exactly when no unexecuted `SET` loses its reply.
-/

namespace DataGateway.Redis

open Foundation

def storeStep (session : Session) (input : StoreCall × Environment) :
    Except HandleFault (Session × Bool) :=
  session.store input.1 input.2

/-- A call that returns `true` sent a `SET`, and this very `SET` is the last
command that Redis executed: its value is stored under its key. -/
def AcknowledgedExecuted (session : Session) (input : StoreCall × Environment)
    (result : Except HandleFault (Session × Bool)) : Prop :=
  ∀ next, result = .ok (next, true) →
    ∃ command, input.1.command? = some command ∧
      next.executed = command :: session.executed ∧
      next.valueOf command.key = some command.argument

/-- A `SET` sent on a live context is executed whenever its reply is null. -/
def LostReplyExecuted (session : Session) (input : StoreCall × Environment)
    (_ : Except HandleFault (Session × Bool)) : Prop :=
  ∀ command handle, input.1.command? = some command →
    session.context = some handle → session.contexts.Live handle →
    (input.2.set command).reply = none →
    (input.2.set command).executed = true

theorem Session.valueOf_of_executed {session : Session} {command : SetCommand}
    {earlier : List SetCommand}
    (executed : session.executed = command :: earlier) :
    session.valueOf command.key = some command.argument := by
  simp [Session.valueOf, executed]

theorem Session.serve_executed_iff {session : Session} {command : SetCommand}
    {executed : Bool} :
    (session.serve command executed).executed = command :: session.executed ↔
      executed = true := by
  cases executed with
  | true => simp [Session.serve]
  | false =>
      simp only [Session.serve, Bool.false_eq_true, if_false, iff_false]
      intro same
      have lengths := congrArg List.length same
      simp at lengths

/-- The result of a store whose command reaches a live context: an answered
command is acknowledged unless the answer is an error, an unanswered one is
always acknowledged. -/
theorem Session.storeValue_returns {session : Session} {handle : Nat}
    (pointer : session.context = some handle)
    (live : session.contexts.Live handle)
    (command : SetCommand) (environment : Environment) :
    ∃ next, session.storeValue command environment =
        .ok (next, (environment.set command).reply.all (!·.isError)) ∧
      next.executed =
        (session.serve command (environment.set command).executed).executed := by
  simp only [Session.storeValue_of_live pointer live]
  cases (environment.set command).reply with
  | some answer => exact ⟨_, rfl, rfl⟩
  | none =>
      cases (environment.set command).err with
      | false => exact ⟨_, rfl, rfl⟩
      | true =>
          have valid : HandleValid
              (session.serve command (environment.set command).executed) := by
            intro other same
            rw [Session.serve_context, pointer] at same
            cases same
            rw [Session.serve_contexts]
            exact live
          exact Session.reconnectIfNeeded_returns valid environment

private theorem acknowledgedExecuted_iff_lostReplyExecuted
    (session : Session) (input : StoreCall × Environment) :
    AcknowledgedExecuted session input (storeStep session input) ↔
      LostReplyExecuted session input (storeStep session input) := by
  obtain ⟨call, environment⟩ := input
  cases sent : call.command? with
  | none =>
      -- Rejected before anything is sent: the call returns `false`.
      simp [AcknowledgedExecuted, LostReplyExecuted, storeStep, Session.store,
        sent]
  | some command =>
      cases used : session.contexts.use session.context with
      | error fault =>
          constructor
          · intro _ other handle _ pointer live
            rw [pointer, HandleTable.use_of_live live] at used
            cases used
          · intro _ next result
            simp [storeStep, Session.store, sent, Session.storeValue, used]
              at result
      | ok _ =>
          obtain ⟨handle, pointer, live⟩ := HandleTable.use_eq_ok_iff.mp used
          obtain ⟨next, result, executed⟩ :=
            Session.storeValue_returns pointer live command environment
          have stepResult : storeStep session (call, environment) =
              .ok (next, (environment.set command).reply.all (!·.isError)) := by
            simp only [storeStep, Session.store, sent]
            exact result
          constructor
          · intro acknowledged other _ same _ _ lost
            cases sent.symm.trans same
            have returned : storeStep session (call, environment) =
                .ok (next, true) := by
              rw [stepResult, lost]
              rfl
            obtain ⟨actual, actualSent, actualExecuted, _⟩ :=
              acknowledged next returned
            cases sent.symm.trans actualSent
            rw [executed] at actualExecuted
            exact Session.serve_executed_iff.mp actualExecuted
          · intro lostExecuted final returned
            rw [stepResult] at returned
            simp only [Except.ok.injEq, Prod.mk.injEq] at returned
            obtain ⟨same, accepted⟩ := returned
            subst same
            have wasExecuted : (environment.set command).executed = true := by
              cases reply : (environment.set command).reply with
              | none => exact lostExecuted command handle sent pointer live reply
              | some answer =>
                  rw [(environment.set command).answered answer reply]
                  simpa [reply] using accepted
            have last : next.executed = command :: session.executed := by
              rw [executed]
              exact Session.serve_executed_iff.mpr wasExecuted
            exact ⟨command, sent, last, Session.valueOf_of_executed last⟩

/-- Over any run, every `true` of a store stands for its executed `SET` if and
only if every `SET` whose reply is null was executed all the same. -/
theorem stores_acknowledge_executed_iff
    (session : Session) (calls : List (StoreCall × Environment)) :
    EachStep storeStep AcknowledgedExecuted session calls ↔
      EachStep storeStep LostReplyExecuted session calls :=
  eachStep_congr (fun _ => True)
    (fun _ _ _ _ _ _ _ => trivial)
    (fun state input _ => acknowledgedExecuted_iff_lostReplyExecuted state input)
    trivial

/-- The connection drops under the command and comes back at once. -/
def droppedReply : Environment :=
  { connect := fun _ => .connected
    query := fun _ => { reply := none, err := true }
    set := fun _ => SetOutcome.lost false
    append := fun _ => false
    nextReply := none }

/-- A freshly connected object acknowledges an `INT16` value that never
reached Redis. -/
theorem dropped_store_acknowledged :
    ∃ session, construct (.tcp "127.0.0.1" 6380) droppedReply =
        .ok (session, true) ∧
      ¬EachStep storeStep AcknowledgedExecuted session
        [(.storeInt "modbus_data:plc:level" 7, droppedReply)] := by
  refine ⟨_, rfl, ?_⟩
  intro each
  obtain ⟨command, _, executed, _⟩ := each.1 _ rfl
  cases executed

end DataGateway.Redis
