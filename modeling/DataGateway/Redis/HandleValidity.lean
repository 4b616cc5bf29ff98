import DataGateway.Foundation.Runs
import DataGateway.Redis.Client

/-!
# Validity of the Redis handle

While every reconnection either gets a usable context or none at all, the
object is the sole owner of the one live context.  A reconnection that gets a
context with its error flag set frees that context and keeps the pointer, and
a connection attempt that leaves a null pointer is not checked before the next
command; these are the only two ways to lose the handle.
-/

namespace DataGateway.Redis

open Foundation

inductive Operation
  | store (call : StoreCall)
  | storeBinaryForPipline (key : String) (data : List UInt8)
  | processSetRedisReply (key : String)
  | isKeyExist (key : String)
  | get (key : String)

inductive Result
  | flag (value : Bool)
  | setError (error : Option Session.RedisCommandSetError)
  | fetched (value : Session.Fetched)

def mapResult (wrap : α → Result) :
    Except HandleFault (Session × α) → Except HandleFault (Session × Result)
  | .error fault => .error fault
  | .ok (next, value) => .ok (next, wrap value)

def operationStep (session : Session) (input : Operation × Environment) :
    Except HandleFault (Session × Result) :=
  match input.1 with
  | .store call => mapResult .flag (session.store call input.2)
  | .storeBinaryForPipline key data =>
      mapResult .flag (session.storeBinaryForPipline key data input.2)
  | .processSetRedisReply key =>
      mapResult .setError (session.processSetRedisReply key input.2)
  | .isKeyExist key => mapResult .flag (session.isKeyExist key input.2)
  | .get key => mapResult .fetched (session.fetch key input.2)

/-- The destructor finds nothing wrong, and after it every context ever issued
has been freed exactly once. -/
def DestructedClean (session : Session) : Prop :=
  ∃ table, destruct session = .ok table ∧ table.ReleasedExactlyOnce

/-- The operation issues its commands on a live context and frees only live
ones (it does not fault), and it leaves a valid handle that a destructor can
clean up. -/
def KeepsHandle (_ : Session) (_ : Operation × Environment)
    (result : Except HandleFault (Session × Result)) : Prop :=
  ∃ next output, result = .ok (next, output) ∧
    HandleValid next ∧ DestructedClean next

def HandlesValid (constructor : Constructor) (environment : Environment)
    (operations : List (Operation × Environment)) : Prop :=
  ∃ session connected, construct constructor environment = .ok (session, connected) ∧
    HandleValid session ∧ DestructedClean session ∧
    EachStep operationStep KeepsHandle session operations

/-- All operations but a store rejected by its argument check send a command. -/
def Operation.sends : Operation → Bool
  | .store call => call.command?.isSome
  | _ => true

/-- The outcome of the command makes the operation call `reconnectIfNeeded`. -/
def Operation.reconnects (operation : Operation) (environment : Environment) :
    Bool :=
  match operation with
  | .store call =>
      match call.command? with
      | none => false
      | some command =>
          (environment.set command).reply.isNone && (environment.set command).err
  | .get key => (environment.query (.get (cStr key))).err
  | _ => false

/-- A command is sent only on a non-null pointer, and a reconnection does not
get a context whose error flag is set. -/
def HandleUsable (session : Session) (input : Operation × Environment)
    (_ : Except HandleFault (Session × Result)) : Prop :=
  input.1.sends = true →
    session.context ≠ none ∧
      (input.1.reconnects input.2 = true →
        input.2.connect session.endpoint ≠ .failed)

def OwnsContext (session : Session) : Prop :=
  SoleOwner session.contexts session.context

section

variable {session : Session} {environment : Environment}

theorem OwnsContext.valid (owner : OwnsContext session) : HandleValid session :=
  fun handle pointer => (owner handle).mpr pointer

theorem OwnsContext.freeContext (owner : OwnsContext session) :
    ∃ freed, session.freeContext = .ok freed ∧
      SoleOwner freed.contexts none ∧
      freed.context = session.context ∧ freed.endpoint = session.endpoint := by
  obtain ⟨freed, result, context, endpoint, _, empties⟩ :=
    Session.freeContext_of_valid owner.valid
  exact ⟨freed, result, empties owner, context, endpoint⟩

theorem openContext_owns (empty : SoleOwner session.contexts none)
    (outcome : ConnectOutcome) : OwnsContext (session.openContext outcome) := by
  cases outcome with
  | noContext => exact empty
  | failed | connected => exact empty.acquire

theorem OwnsContext.destructedClean (owner : OwnsContext session) :
    DestructedClean session := by
  obtain ⟨freed, result, empty, _, _⟩ := owner.freeContext
  refine ⟨freed.contexts, ?_, empty.releasedExactlyOnce⟩
  simp [destruct, result]

theorem OwnsContext.reconnect_usable (owner : OwnsContext session)
    (usable : environment.connect session.endpoint ≠ .failed) :
    ∃ next, session.reconnectIfNeeded environment = .ok (next, true) ∧
      OwnsContext next := by
  obtain ⟨freed, freeResult, empty, _, endpoint⟩ := owner.freeContext
  rw [← endpoint] at usable
  have reopened := openContext_owns empty (environment.connect freed.endpoint)
  by_cases null :
      (freed.openContext (environment.connect freed.endpoint)).context = none
  · obtain ⟨closed, closeResult, closedEmpty, closedContext, _⟩ :=
      reopened.freeContext
    refine ⟨closed, ?_, ?_⟩
    · simp [Session.reconnectIfNeeded, freeResult, null, closeResult]
    · unfold OwnsContext
      rw [closedContext, null]
      exact closedEmpty
  · refine ⟨_, ?_, reopened⟩
    simp [Session.reconnectIfNeeded, freeResult, null, usable]

/-- The failure branch of `reconnectIfNeeded` leaves a dangling pointer. -/
theorem OwnsContext.reconnect_failed (owner : OwnsContext session)
    (failed : environment.connect session.endpoint = .failed) :
    ∃ next, session.reconnectIfNeeded environment = .ok (next, true) ∧
      ¬HandleValid next := by
  obtain ⟨freed, freeResult, empty, _, endpoint⟩ := owner.freeContext
  rw [← endpoint] at failed
  obtain ⟨closed, closeResult, closedEmpty, closedContext, _⟩ :=
    (openContext_owns empty .failed).freeContext
  refine ⟨closed, ?_, ?_⟩
  · simp [Session.reconnectIfNeeded, freeResult, failed, closeResult]
  · intro valid
    have dangling : closed.context = some freed.contexts.issued := closedContext
    have live := valid _ dangling
    have null := (closedEmpty _).mp live
    cases null

private theorem checkRedisConnection_owns (owner : OwnsContext session)
    (outcome : ConnectOutcome) :
    ∃ next connected, session.checkRedisConnection outcome =
        .ok (next, connected) ∧ OwnsContext next := by
  by_cases bad : session.context = none ∨ outcome = .failed
  · obtain ⟨closed, closeResult, closedEmpty, _, _⟩ := owner.freeContext
    refine ⟨{ closed with context := none }, false, ?_, closedEmpty⟩
    simp only [Session.checkRedisConnection, closeResult]
    rw [if_pos bad]
  · refine ⟨{ session with initialized := some true }, true, ?_, owner⟩
    simp only [Session.checkRedisConnection]
    rw [if_neg bad]

theorem construct_owns (constructor : Constructor) (environment : Environment) :
    ∃ session connected, construct constructor environment =
        .ok (session, connected) ∧ OwnsContext session := by
  have unix : ∀ initialized path, ∃ session connected,
      (blank initialized).initializeUnixConnection path environment =
        .ok (session, connected) ∧ OwnsContext session := by
    intro initialized path
    apply checkRedisConnection_owns
    exact openContext_owns SoleOwner.empty _
  have tcp : ∀ initialized host port, ∃ session connected,
      (blank initialized).initializeTcpConnection host port environment =
        .ok (session, connected) ∧ OwnsContext session := by
    intro initialized host port
    apply checkRedisConnection_owns
    exact openContext_owns SoleOwner.empty _
  cases constructor with
  | unix path => exact unix none path
  | tcp host port => exact tcp none host port
  | default info =>
      simp only [construct]
      split
      · exact unix _ _
      · split
        · exact tcp _ _ _
        · exact ⟨_, _, rfl, SoleOwner.empty⟩

theorem OwnsContext.serve (owner : OwnsContext session) (command : SetCommand)
    (executed : Bool) : OwnsContext (session.serve command executed) := by
  unfold OwnsContext
  rw [Session.serve_context, Session.serve_contexts]
  exact owner

theorem OwnsContext.operationStep_spec (owner : OwnsContext session)
    (environment : Environment) {operation : Operation}
    (nonNull : session.context ≠ none) (sends : operation.sends = true) :
    ∃ served : Session, OwnsContext served ∧
      served.endpoint = session.endpoint ∧
      if operation.reconnects environment = true then
        ∃ wrap : Bool → Result,
          operationStep session (operation, environment) =
            mapResult wrap (served.reconnectIfNeeded environment)
      else
        ∃ output, operationStep session (operation, environment) =
          .ok (served, output) := by
  obtain ⟨handle, pointer⟩ := Option.ne_none_iff_exists'.mp nonNull
  have live := owner.valid handle pointer
  have used := Session.use_context_of_live pointer live
  cases operation with
  | store call =>
      obtain ⟨command, sent⟩ := Option.isSome_iff_exists.mp sends
      refine ⟨session.serve command (environment.set command).executed,
        owner.serve _ _, Session.serve_endpoint _ _, ?_⟩
      simp only [operationStep, Session.store, Operation.reconnects, sent,
        Session.storeValue_of_live pointer live]
      cases (environment.set command).reply with
      | some answer => exact ⟨_, rfl⟩
      | none =>
          cases (environment.set command).err with
          | false => exact ⟨_, rfl⟩
          | true => exact ⟨.flag, rfl⟩
  | get key =>
      refine ⟨session, owner, rfl, ?_⟩
      simp only [operationStep, Operation.reconnects,
        Session.fetch_of_live pointer live]
      cases (environment.query (.get (cStr key))).err with
      | false => exact ⟨_, rfl⟩
      | true =>
          refine ⟨fun handled => .fetched (.recovered handled), ?_⟩
          cases session.reconnectIfNeeded environment <;> rfl
  | storeBinaryForPipline key data =>
      refine ⟨session, owner, rfl, ?_⟩
      simp [Operation.reconnects, operationStep, Session.storeBinaryForPipline,
        used, mapResult]
  | processSetRedisReply key =>
      refine ⟨session, owner, rfl, ?_⟩
      simp only [Operation.reconnects, operationStep,
        Session.processSetRedisReply, used, Bool.false_eq_true, if_false]
      split <;> exact ⟨_, rfl⟩
  | isKeyExist key =>
      refine ⟨session, owner, rfl, ?_⟩
      simp only [Operation.reconnects, operationStep, Session.isKeyExist, used,
        Bool.false_eq_true, if_false]
      split <;> exact ⟨_, rfl⟩

private theorem mapResult_ok (wrap : α → Result) (next : Session) (value : α) :
    mapResult wrap (.ok (next, value)) = .ok (next, wrap value) := rfl

theorem operationStep_rejected (environment : Environment)
    {operation : Operation} (rejected : operation.sends = false) :
    ∃ output, operationStep session (operation, environment) =
      .ok (session, output) := by
  cases operation with
  | store call =>
      have unsent : call.command? = none := by
        simpa [Operation.sends] using rejected
      refine ⟨.flag false, ?_⟩
      simp [operationStep, Session.store, unsent, mapResult]
  | storeBinaryForPipline | processSetRedisReply | isKeyExist | get =>
      cases rejected

private theorem operationStep_null {operation : Operation}
    (null : session.context = none) (sends : operation.sends = true) :
    operationStep session (operation, environment) = .error .nullUse := by
  have used : session.contexts.use session.context = .error .nullUse := by
    rw [null]
    rfl
  cases operation with
  | store call =>
      obtain ⟨command, sent⟩ := Option.isSome_iff_exists.mp sends
      simp [operationStep, Session.store, sent, Session.storeValue, used,
        mapResult]
  | storeBinaryForPipline | processSetRedisReply | isKeyExist | get =>
      simp [operationStep, Session.storeBinaryForPipline,
        Session.processSetRedisReply, Session.isKeyExist, Session.fetch, used,
        mapResult]

theorem OwnsContext.step_usable (owner : OwnsContext session)
    {operation : Operation}
    (usable : HandleUsable session (operation, environment)
      (operationStep session (operation, environment))) :
    ∃ next output, operationStep session (operation, environment) =
      .ok (next, output) ∧ OwnsContext next := by
  cases sends : operation.sends with
  | false =>
      obtain ⟨output, result⟩ :=
        operationStep_rejected environment sends
      exact ⟨session, output, result, owner⟩
  | true =>
      obtain ⟨nonNull, reconnection⟩ := usable sends
      obtain ⟨served, servedOwner, endpoint, spec⟩ :=
        owner.operationStep_spec environment nonNull sends
      by_cases reconnects : operation.reconnects environment = true
      · rw [if_pos reconnects] at spec
        obtain ⟨wrap, result⟩ := spec
        have served_usable := endpoint ▸ reconnection reconnects
        obtain ⟨next, returned, owned⟩ :=
          servedOwner.reconnect_usable served_usable
        rw [returned, mapResult_ok] at result
        exact ⟨next, wrap true, result, owned⟩
      · rw [if_neg reconnects] at spec
        obtain ⟨output, result⟩ := spec
        exact ⟨served, output, result, servedOwner⟩

/-- Each way to break the condition shows at once: a command on a null pointer
faults, and a failed reconnection dangles. -/
theorem OwnsContext.step_unusable (owner : OwnsContext session)
    {operation : Operation}
    (unusable : ¬HandleUsable session (operation, environment)
      (operationStep session (operation, environment))) :
    ¬KeepsHandle session (operation, environment)
      (operationStep session (operation, environment)) := by
  intro kept
  obtain ⟨next, output, result, valid, _⟩ := kept
  apply unusable
  intro sends
  have nonNull : session.context ≠ none := by
    intro null
    rw [operationStep_null null sends] at result
    cases result
  refine ⟨nonNull, ?_⟩
  intro reconnects failed
  obtain ⟨served, servedOwner, endpoint, spec⟩ :=
    owner.operationStep_spec environment nonNull sends
  rw [if_pos reconnects] at spec
  obtain ⟨wrap, reconnected⟩ := spec
  obtain ⟨final, returned, dangling⟩ :=
    servedOwner.reconnect_failed (endpoint ▸ failed)
  rw [returned, mapResult_ok] at reconnected
  cases result.symm.trans reconnected
  exact dangling valid

theorem OwnsContext.keepsHandle_iff (owner : OwnsContext session)
    (input : Operation × Environment) :
    HandleUsable session input (operationStep session input) ↔
      KeepsHandle session input (operationStep session input) := by
  constructor
  · intro usable
    obtain ⟨next, output, result, owned⟩ := owner.step_usable usable
    exact ⟨next, output, result, owned.valid, owned.destructedClean⟩
  · intro kept
    by_contra unusable
    exact owner.step_unusable unusable kept

end

/-- The handle is valid throughout a run, from any constructor to the
destructor, if and only if no command is sent on a null pointer and no
reconnection gets a context whose error flag is set. -/
theorem handlesValid_iff (constructor : Constructor) (environment : Environment)
    (operations : List (Operation × Environment)) :
    HandlesValid constructor environment operations ↔
      ∀ session connected,
        construct constructor environment = .ok (session, connected) →
        EachStep operationStep HandleUsable session operations := by
  obtain ⟨session, connected, constructed, owner⟩ :=
    construct_owns constructor environment
  have runs : EachStep operationStep HandleUsable session operations ↔
      EachStep operationStep KeepsHandle session operations := by
    apply eachStep_congr OwnsContext
    · intro state input next output owned usable result
      obtain ⟨kept, value, same, keptOwner⟩ := owned.step_usable usable
      cases result.symm.trans same
      exact keptOwner
    · intro state input owned
      exact owned.keepsHandle_iff input
    · exact owner
  constructor
  · intro valid other flag again
    obtain ⟨first, firstFlag, firstConstructed, _, _, each⟩ := valid
    cases constructed.symm.trans firstConstructed
    cases constructed.symm.trans again
    exact runs.mpr each
  · intro usable
    refine ⟨session, connected, constructed, owner.valid,
      owner.destructedClean, ?_⟩
    exact runs.mp (usable session connected constructed)

/-- Every connection attempt gets a context with its error flag set, and every
command loses its reply. -/
def unreachable : Environment :=
  { connect := fun _ => .failed
    query := fun _ => { reply := none, err := true }
    set := fun _ => SetOutcome.lost false
    append := fun _ => false
    nextReply := none }

/-- One failed reconnection of a connected object leaves a dangling pointer,
and an object whose first connection failed sends its first command on null. -/
theorem handle_lost :
    ¬HandlesValid (.tcp "127.0.0.1" 6380)
        { unreachable with connect := fun _ => .connected }
        [(.get "modbus_data:plc:level", unreachable)] ∧
      ¬HandlesValid (.default ⟨"", "127.0.0.1", 6380⟩) unreachable
        [(.store (.storeInt "modbus_data:plc:level" 7), unreachable)] := by
  constructor
  · intro valid
    obtain ⟨session, connected, constructed, _, _, kept, _⟩ := valid
    cases constructed
    obtain ⟨next, output, result, nextValid, _⟩ := kept
    cases result
    have live := nextValid 1 rfl
    revert live
    decide
  · intro valid
    obtain ⟨session, connected, constructed, _, _, kept, _⟩ := valid
    cases constructed
    obtain ⟨next, output, result, _⟩ := kept
    cases result

end DataGateway.Redis
