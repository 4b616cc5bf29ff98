import DataGateway.Foundation.Handles

/-!
# The Redis client

`DRDSDataRedis` (`core/redis-api/app_redis.cc`) together with the hiredis
contexts it obtains and the `SET` commands Redis has executed for it.  What
hiredis and the server answer is an `Environment` of each call, so a run is a
list of calls with one environment each.
-/

namespace DataGateway.Redis

open Foundation

inductive RedisReply
  | status (text : String)
  | error (message : String)
  | integer (value : Int)
  | nil
  | string (bytes : List UInt8)

def RedisReply.isError : RedisReply → Bool
  | .error _ => true
  | _ => false

/-- The reply of a command, `none` for a null one, and the error flag that the
command leaves in the context. -/
structure CommandOutcome where
  reply : Option RedisReply
  err : Bool

/-- The outcome of a `SET`.  A reply tells whether it was executed; when the
connection is lost before the reply it may have been executed or not. -/
structure SetOutcome extends CommandOutcome where
  executed : Bool
  answered : ∀ answer, reply = some answer → executed = !answer.isError

/-- A `SET` whose reply is lost, executed or not. -/
def SetOutcome.lost (executed : Bool) : SetOutcome :=
  { reply := none
    err := true
    executed := executed
    answered := by simp }

inductive FormatArg
  | d (value : Int)
  | u (value : Nat)
  | lld (value : Int)
  | llu (value : Nat)
  | f (value : Float)
  | s (text : String)
  | b (data : List UInt8)

structure SetCommand where
  key : String
  argument : FormatArg

inductive Query
  | exist (key : String)
  | get (key : String)

inductive Endpoint
  | unix (path : String)
  | tcp (host : String) (port : Option Int)

/-- No context at all, a context whose `err` is set, or a usable context. -/
inductive ConnectOutcome
  | noContext
  | failed
  | connected
  deriving DecidableEq, Repr

structure Environment where
  connect : Endpoint → ConnectOutcome
  query : Query → CommandOutcome
  set : SetCommand → SetOutcome
  append : SetCommand → Bool
  nextReply : Option (Option RedisReply)

/-- `std::string::c_str` as a C function reads it. -/
def cStr (text : String) : String :=
  String.ofList (text.toList.takeWhile (· ≠ '\x00'))

inductive StoreCall
  | storeString (key value : String)
  | storeInt (key : String) (value : Int16)
  | storeUInt (key : String) (value : UInt16)
  | storeReal (key : String) (value : Float32)
  | storeBool (key : String) (value : Bool)
  | storeDInt (key : String) (value : Int32)
  | storeUDInt (key : String) (value : UInt32)
  | storeLReal (key : String) (value : Float)
  | storeSInt (key : String) (value : Int8)
  | storeUSInt (key : String) (value : UInt8)
  | storeLInt (key : String) (value : Int64)
  | storeULInt (key : String) (value : UInt64)
  | storeByte (key : String) (value : UInt8)
  | storeWord (key : String) (value : UInt16)
  | storeDWord (key : String) (value : UInt32)
  | storeLWord (key : String) (value : UInt64)
  | storeChar (key : String) (value : Option String)
  | storeBinary (key : String) (data : Option (List UInt8))

namespace StoreCall

/-- The `SET` that the operation sends, or `none` when its argument check
rejects the call before anything is sent. -/
def command? : StoreCall → Option SetCommand
  | storeString key value => some ⟨cStr key, .s (cStr value)⟩
  | storeInt key value => some ⟨cStr key, .d value.toInt⟩
  | storeUInt key value => some ⟨cStr key, .u value.toNat⟩
  | storeReal key value => some ⟨cStr key, .f value.toFloat⟩
  | storeBool key value => some ⟨cStr key, .d (if value then 1 else 0)⟩
  | storeDInt key value => some ⟨cStr key, .d value.toInt⟩
  | storeUDInt key value => some ⟨cStr key, .u value.toNat⟩
  | storeLReal key value => some ⟨cStr key, .f value⟩
  | storeSInt key value => some ⟨cStr key, .d value.toInt⟩
  | storeUSInt key value => some ⟨cStr key, .u value.toNat⟩
  | storeLInt key value => some ⟨cStr key, .lld value.toInt⟩
  | storeULInt key value => some ⟨cStr key, .llu value.toNat⟩
  | storeByte key value => some ⟨cStr key, .u value.toNat⟩
  | storeWord key value => some ⟨cStr key, .u value.toNat⟩
  | storeDWord key value => some ⟨cStr key, .u value.toNat⟩
  | storeLWord key value => some ⟨cStr key, .llu value.toNat⟩
  | storeChar _ none => none
  | storeChar key (some value) => some ⟨cStr key, .s (cStr value)⟩
  | storeBinary _ none => none
  | storeBinary _ (some []) => none
  | storeBinary key (some (byte :: data)) => some ⟨cStr key, .b (byte :: data)⟩

end StoreCall

/-- A `DRDSDataRedis` object, the contexts hiredis has issued to it and the
`SET`s executed for it, newest first.  A field is `none` where the source
leaves the member unset. -/
structure Session where
  context : Option Nat
  unixSocketPath : String
  host : String
  port : Option Int
  initialized : Option Bool
  contexts : HandleTable
  executed : List SetCommand

namespace Session

def valueOf (session : Session) (key : String) : Option FormatArg :=
  (session.executed.find? (·.key = key)).map SetCommand.argument

def endpoint (session : Session) : Endpoint :=
  if session.unixSocketPath = "" then .tcp session.host session.port
  else .unix session.unixSocketPath

/-- `context_ = redisConnect...`: the previous pointer is overwritten. -/
def openContext (session : Session) : ConnectOutcome → Session
  | .noContext => { session with context := none }
  | _ =>
      { session with
        context := some session.contexts.issued
        contexts := session.contexts.acquire }

/-- `if (context_) redisFree(context_)`: the pointer itself stays. -/
def freeContext (session : Session) : Except HandleFault Session :=
  match session.context with
  | none => .ok session
  | some handle =>
      match session.contexts.release? handle with
      | .error fault => .error fault
      | .ok contexts => .ok { session with contexts := contexts }

def checkRedisConnection (session : Session) (outcome : ConnectOutcome) :
    Except HandleFault (Session × Bool) :=
  if session.context = none ∨ outcome = .failed then
    match session.freeContext with
    | .error fault => .error fault
    | .ok closed => .ok ({ closed with context := none }, false)
  else .ok ({ session with initialized := some true }, true)

def initializeUnixConnection (session : Session) (path : String)
    (environment : Environment) : Except HandleFault (Session × Bool) :=
  let outcome := environment.connect (.unix path)
  (({ session with unixSocketPath := path }).openContext outcome)
    |>.checkRedisConnection outcome

def initializeTcpConnection (session : Session) (host : String) (port : Int)
    (environment : Environment) : Except HandleFault (Session × Bool) :=
  let outcome := environment.connect (.tcp host (some port))
  (({ session with host := host, port := some port }).openContext outcome)
    |>.checkRedisConnection outcome

/-- Unlike `checkRedisConnection`, a failed reconnection frees the new context
and keeps the pointer to it; the result is `true` on every path. -/
def reconnectIfNeeded (session : Session) (environment : Environment) :
    Except HandleFault (Session × Bool) :=
  match session.freeContext with
  | .error fault => .error fault
  | .ok freed =>
      let outcome := environment.connect freed.endpoint
      let reopened := freed.openContext outcome
      if reopened.context = none ∨ outcome = .failed then
        match reopened.freeContext with
        | .error fault => .error fault
        | .ok closed => .ok (closed, true)
      else .ok (reopened, true)

def handleConnectionErrors (session : Session) (err : Bool)
    (environment : Environment) : Except HandleFault (Session × Bool) :=
  match session.context with
  | none => session.reconnectIfNeeded environment
  | some _ =>
      match session.contexts.use session.context with
      | .error fault => .error fault
      | .ok _ =>
          if err then session.reconnectIfNeeded environment
          else .ok (session, true)

def serve (session : Session) (command : SetCommand) (executed : Bool) : Session :=
  if executed then
    { session with executed := command :: session.executed }
  else session

/-- `storeValue`, and `storeBinary` after its argument check: the two have the
same branches. -/
def storeValue (session : Session) (command : SetCommand)
    (environment : Environment) : Except HandleFault (Session × Bool) :=
  match session.contexts.use session.context with
  | .error fault => .error fault
  | .ok _ =>
      let outcome := environment.set command
      let served := session.serve command outcome.executed
      match outcome.reply with
      | none => served.handleConnectionErrors outcome.err environment
      | some reply => .ok (served, !reply.isError)

def store (session : Session) (call : StoreCall) (environment : Environment) :
    Except HandleFault (Session × Bool) :=
  match call.command? with
  | none => .ok (session, false)
  | some command => session.storeValue command environment

def storeBinaryForPipline (session : Session) (key : String)
    (data : List UInt8) (environment : Environment) :
    Except HandleFault (Session × Bool) :=
  match session.contexts.use session.context with
  | .error fault => .error fault
  | .ok _ => .ok (session, environment.append ⟨key, .b data⟩)

structure RedisCommandSetError where
  key : String
  errorMessage : String

/-- The error is `none` when the function returns `true`. -/
def processSetRedisReply (session : Session) (key : String)
    (environment : Environment) :
    Except HandleFault (Session × Option RedisCommandSetError) :=
  match session.contexts.use session.context with
  | .error fault => .error fault
  | .ok _ =>
      match environment.nextReply with
      | none => .ok (session, some ⟨key, "Error receiving reply"⟩)
      | some none => .ok (session, some ⟨key, "Received NULL reply"⟩)
      | some (some (.status text)) =>
          .ok (session,
            if text = "OK" then none
            else some ⟨key, "Failed to execute SET command"⟩)
      | some (some _) =>
          .ok (session, some ⟨key, "Failed to execute SET command"⟩)

def isKeyExist (session : Session) (key : String) (environment : Environment) :
    Except HandleFault (Session × Bool) :=
  match session.contexts.use session.context with
  | .error fault => .error fault
  | .ok _ =>
      match (environment.query (.exist (cStr key))).reply with
      | some (.integer value) => .ok (session, value == 1)
      | _ => .ok (session, false)

/-- How a getter goes on after its `GET`: with the reply, or with its default
value after `handleConnectionErrors`, whose result only `getBinary` returns. -/
inductive Fetched
  | converted (reply : RedisReply)
  | recovered (handled : Bool)

/-- The part that all `get*` operations share, up to the conversion of the
reply. -/
def fetch (session : Session) (key : String) (environment : Environment) :
    Except HandleFault (Session × Fetched) :=
  match session.contexts.use session.context with
  | .error fault => .error fault
  | .ok _ =>
      let outcome := environment.query (.get (cStr key))
      match outcome.reply, outcome.err with
      | some reply, false => .ok (session, .converted reply)
      | _, _ =>
          match session.handleConnectionErrors outcome.err environment with
          | .error fault => .error fault
          | .ok (next, handled) => .ok (next, .recovered handled)

end Session

structure ConnectionInfo where
  unixSocketPath : String
  host : String
  port : Int

inductive Constructor
  | default (info : ConnectionInfo)
  | unix (path : String)
  | tcp (host : String) (port : Int)

def blank (initialized : Option Bool) : Session :=
  { context := none
    unixSocketPath := ""
    host := ""
    port := none
    initialized := initialized
    contexts := HandleTable.empty
    executed := [] }

/-- The three constructors.  None of them looks at the result of the
connection check. -/
def construct (constructor : Constructor) (environment : Environment) :
    Except HandleFault (Session × Bool) :=
  match constructor with
  | .default info =>
      if info.unixSocketPath ≠ "" then
        (blank (some false)).initializeUnixConnection info.unixSocketPath environment
      else if info.host ≠ "" ∧ 0 < info.port then
        (blank (some false)).initializeTcpConnection info.host info.port environment
      else .ok (blank (some false), false)
  | .unix path => (blank none).initializeUnixConnection path environment
  | .tcp host port => (blank none).initializeTcpConnection host port environment

def destruct (session : Session) : Except HandleFault HandleTable :=
  match session.freeContext with
  | .error fault => .error fault
  | .ok freed => .ok freed.contexts

/-- `context_` is null or points to a context that has not been freed. -/
def HandleValid (session : Session) : Prop :=
  ∀ handle, session.context = some handle → session.contexts.Live handle

namespace Session

section

variable {session : Session} {environment : Environment}

@[simp] theorem serve_context (command : SetCommand) (executed : Bool) :
    (session.serve command executed).context = session.context := by
  cases executed <;> rfl

@[simp] theorem serve_contexts (command : SetCommand) (executed : Bool) :
    (session.serve command executed).contexts = session.contexts := by
  cases executed <;> rfl

@[simp] theorem serve_endpoint (command : SetCommand) (executed : Bool) :
    (session.serve command executed).endpoint = session.endpoint := by
  cases executed <;> rfl

/-- Freeing a valid handle succeeds and keeps the pointer; a sole owner is left
with nothing live. -/
theorem freeContext_of_valid (valid : HandleValid session) :
    ∃ freed, session.freeContext = .ok freed ∧
      freed.context = session.context ∧
      freed.endpoint = session.endpoint ∧
      freed.executed = session.executed ∧
      (SoleOwner session.contexts session.context →
        SoleOwner freed.contexts none) := by
  cases pointer : session.context with
  | none =>
      refine ⟨session, by simp [freeContext, pointer], pointer, rfl, rfl, ?_⟩
      exact fun owner => owner
  | some handle =>
      have released := HandleTable.release?_of_live (valid handle pointer)
      refine ⟨{ session with
        contexts := session.contexts.release handle (valid handle pointer) },
        ?_, pointer, rfl, rfl, fun owner => owner.release⟩
      simp [freeContext, pointer, released]

private theorem openContext_valid (session : Session) (outcome : ConnectOutcome) :
    HandleValid (session.openContext outcome) := by
  cases outcome with
  | noContext => simp [HandleValid, openContext]
  | failed | connected =>
      intro handle pointer
      cases pointer
      exact HandleTable.live_acquire_iff.mpr (Or.inl rfl)

@[simp] theorem openContext_executed (outcome : ConnectOutcome) :
    (session.openContext outcome).executed = session.executed := by
  cases outcome <;> rfl

/-- From a valid handle `reconnectIfNeeded` always returns, and returns
`true`; it executes no command. -/
theorem reconnectIfNeeded_returns (valid : HandleValid session)
    (environment : Environment) :
    ∃ next, session.reconnectIfNeeded environment = .ok (next, true) ∧
      next.executed = session.executed := by
  obtain ⟨freed, freeResult, _, _, freedExecuted, _⟩ := freeContext_of_valid valid
  let outcome := environment.connect freed.endpoint
  obtain ⟨closed, closeResult, _, _, closedExecuted, _⟩ :=
    freeContext_of_valid (openContext_valid freed outcome)
  by_cases bad :
      (freed.openContext outcome).context = none ∨ outcome = .failed
  · refine ⟨closed, ?_, ?_⟩
    · simp only [reconnectIfNeeded, freeResult]
      rw [if_pos bad, closeResult]
    · rw [closedExecuted, openContext_executed, freedExecuted]
  · refine ⟨freed.openContext outcome, ?_, ?_⟩
    · simp only [reconnectIfNeeded, freeResult]
      rw [if_neg bad]
    · rw [openContext_executed, freedExecuted]

section

variable {handle : Nat} (pointer : session.context = some handle)
  (live : session.contexts.Live handle)

include pointer live

theorem use_context_of_live : session.contexts.use session.context = .ok () := by
  rw [pointer]
  exact HandleTable.use_of_live live

private theorem handleConnectionErrors_of_live (err : Bool) (environment : Environment) :
    session.handleConnectionErrors err environment =
      if err then session.reconnectIfNeeded environment
      else .ok (session, true) := by
  have used := HandleTable.use_of_live live
  simp [handleConnectionErrors, pointer, used]

theorem storeValue_of_live (command : SetCommand) (environment : Environment) :
    session.storeValue command environment =
      let outcome := environment.set command
      let served := session.serve command outcome.executed
      match outcome.reply with
      | some answer => .ok (served, !answer.isError)
      | none =>
          if outcome.err then served.reconnectIfNeeded environment
          else .ok (served, true) := by
  let served := session.serve command (environment.set command).executed
  have servedPointer : served.context = some handle := by
    rw [serve_context]
    exact pointer
  have servedLive : served.contexts.Live handle := by
    rw [serve_contexts]
    exact live
  have handled := handleConnectionErrors_of_live servedPointer servedLive
    (environment.set command).err environment
  simp only [storeValue, use_context_of_live pointer live]
  cases (environment.set command).reply with
  | none => exact handled
  | some answer => rfl

theorem fetch_of_live (key : String) (environment : Environment) :
    session.fetch key environment =
      let outcome := environment.query (.get (cStr key))
      if outcome.err then
        (session.reconnectIfNeeded environment).map
          fun result => (result.1, .recovered result.2)
      else .ok (session, outcome.reply.elim (.recovered true) .converted) := by
  have handled := handleConnectionErrors_of_live pointer live
    (environment.query (.get (cStr key))).err environment
  simp only [fetch, use_context_of_live pointer live, handled]
  cases (environment.query (.get (cStr key))).err with
  | false => cases (environment.query (.get (cStr key))).reply <;> rfl
  | true =>
      cases (environment.query (.get (cStr key))).reply <;>
        cases session.reconnectIfNeeded environment <;> rfl

end

end

end Session

end DataGateway.Redis
