import DataGateway.Foundation.IntegerTypes
import DataGateway.Foundation.Numerals
import DataGateway.Redis.Client

/-!
# Reading values from Redis

The `get*` operations of `DRDSDataRedis` with the conversion of the reply.
They trust every reply to be the text of a value: all but `getBinary` hand
`reply->str` to the conversion without looking at the type of the reply.
-/

namespace DataGateway.Redis

open Foundation

/-- `reply->str`, which is null for nil and for an integer. -/
def RedisReply.str? : RedisReply → Option (List UInt8)
  | .status text => some (bytesOf text)
  | .error message => some (bytesOf message)
  | .string bytes => some bytes
  | .integer _ | .nil => none

/-- A dead context or reply, a `std::string` made of a null pointer, and an
exception of a conversion. -/
inductive GetterFault
  | handle (fault : HandleFault)
  | nullText
  | conversion (fault : ConversionFault)
  deriving DecidableEq

/-- The replies not yet freed, and how the getter has returned or thrown. -/
abbrev Answer (α : Type) := HandleTable × Except GetterFault (Session × α)

namespace Session

/-- The replies after a `GET`: a non-null one has to be freed. -/
def received (environment : Environment) (key : String)
    (replies : HandleTable) : HandleTable :=
  if (environment.query (.get (cStr key))).reply.isSome then replies.acquire
  else replies

/-- `FREE_REDIS_REPLY` and the return. -/
def freeReply {α : Type} (replies : HandleTable) (reply : Nat)
    (next : Session) (value : α) : Answer α :=
  match replies.release? reply with
  | .error fault => (replies, .error (.handle fault))
  | .ok freed => (freed, .ok (next, value))

/-- The getters that convert `reply->str`.  An exception leaves the reply. -/
def getConverted {α : Type} (default : α)
    (convert : List UInt8 → Except ConversionFault α) (session : Session)
    (key : String) (environment : Environment) (replies : HandleTable) :
    Answer α :=
  let answered := received environment key replies
  match session.fetch key environment with
  | .error fault => (answered, .error (.handle fault))
  | .ok (next, .recovered _) => (answered, .ok (next, default))
  | .ok (next, .converted reply) =>
      match reply.str? with
      | none => (answered, .error .nullText)
      | some str =>
          match convert (cText str) with
          | .error fault => (answered, .error (.conversion fault))
          | .ok value => freeReply answered replies.issued next value

def getBool : Session → String → Environment → HandleTable → Answer Bool :=
  getConverted false fun text => (stoi text).map (· ≠ 0)

def getDInt : Session → String → Environment → HandleTable → Answer Int32 :=
  getConverted 0 fun text => (stol text).map Int32.ofInt

def getUDInt : Session → String → Environment → HandleTable → Answer UInt32 :=
  getConverted 0 fun text => (stoul text).map UInt32.ofNat

/-- `stod` is the conversion of the standard library. -/
def getLReal (stod : List UInt8 → Except ConversionFault Float) :
    Session → String → Environment → HandleTable → Answer Float :=
  getConverted 0.0 stod

def getSInt : Session → String → Environment → HandleTable → Answer Int8 :=
  getConverted 0 fun text => (stoi text).map Int8.ofInt

def getUSInt : Session → String → Environment → HandleTable → Answer UInt8 :=
  getConverted 0 fun text => (stoul text).map UInt8.ofNat

def getLInt : Session → String → Environment → HandleTable → Answer Int64 :=
  getConverted 0 fun text => (stoll text).map Int64.ofInt

def getULInt : Session → String → Environment → HandleTable → Answer UInt64 :=
  getConverted 0 fun text => (stoull text).map UInt64.ofNat

def getString :
    Session → String → Environment → HandleTable → Answer (List UInt8) :=
  getConverted [] .ok

def getByte : Session → String → Environment → HandleTable → Answer UInt8 :=
  getUSInt

def getDWord : Session → String → Environment → HandleTable → Answer UInt32 :=
  getUDInt

def getLWord : Session → String → Environment → HandleTable → Answer UInt64 :=
  getULInt

/-- `data` is the caller's vector.  After a lost connection the result is that
of `handleConnectionErrors`. -/
def getBinary (data : List UInt8) (session : Session) (key : String)
    (environment : Environment) (replies : HandleTable) :
    Answer (Bool × List UInt8) :=
  let answered := received environment key replies
  match session.fetch key environment with
  | .error fault => (answered, .error (.handle fault))
  | .ok (next, .recovered handled) => (answered, .ok (next, (handled, data)))
  | .ok (next, .converted (.string bytes)) =>
      freeReply answered replies.issued next (true, bytes)
  | .ok (next, .converted _) =>
      freeReply answered replies.issued next (false, data)

end Session

/-- Every reply is freed, and the getter returns its default or what the text
of a string reply denotes. -/
def Survives {α : Type} (default : α) (denotes : List UInt8 → α → Prop)
    (reply : Option RedisReply) (answer : Answer α) : Prop :=
  answer.1.ReleasedExactlyOnce ∧
    ∃ next value, answer.2 = .ok (next, value) ∧
      (value = default ∨
        ∃ text, reply = some (.string text) ∧ denotes text value)

/-- hiredis returns a reply only when it has met no error. -/
def Environment.Answers (environment : Environment) : Prop :=
  ∀ query reply, (environment.query query).reply = some reply →
    (environment.query query).err = false

section

variable {α : Type} {session : Session} {handle : Nat} {key : String}
  {environment : Environment}

/-- A lost connection ends in `handleConnectionErrors`, which always returns
true, and a reply in the conversion. -/
theorem Session.fetch_cases (pointer : session.context = some handle)
    (live : session.contexts.Live handle) (key : String)
    (answers : environment.Answers) :
    (∃ next, (environment.query (.get (cStr key))).reply = none ∧
      session.fetch key environment = .ok (next, .recovered true)) ∨
    ∃ reply, (environment.query (.get (cStr key))).reply = some reply ∧
      session.fetch key environment = .ok (session, .converted reply) := by
  rw [Session.fetch_of_live pointer live]
  cases replied : (environment.query (.get (cStr key))).reply with
  | some reply =>
      refine .inr ⟨reply, rfl, ?_⟩
      simp [answers _ _ replied, replied]
  | none =>
      refine .inl ?_
      cases err : (environment.query (.get (cStr key))).err with
      | false => exact ⟨session, rfl, by simp [err, replied]⟩
      | true =>
          have valid : HandleValid session := by
            intro other same
            rw [pointer] at same
            cases same
            exact live
          obtain ⟨next, reconnected, _⟩ :=
            Session.reconnectIfNeeded_returns valid environment
          exact ⟨next, rfl, by simp [err, reconnected, Except.map]⟩

theorem Session.freeReply_acquired (next : Session) (value : α) :
    ∃ freed, Session.freeReply HandleTable.empty.acquire
        HandleTable.empty.issued next value = (freed, .ok (next, value)) ∧
      freed.ReleasedExactlyOnce := by
  have sole := SoleOwner.empty.acquire
  refine ⟨_, by
    simp only [Session.freeReply, HandleTable.release?_of_live sole.live]
    rfl, ?_⟩
  exact sole.release.releasedExactlyOnce

theorem Session.getConverted_replied (default : α)
    (convert : List UInt8 → Except ConversionFault α) {reply : RedisReply}
    (fetched : session.fetch key environment =
      .ok (session, .converted reply))
    (replied : (environment.query (.get (cStr key))).reply = some reply) :
    Session.getConverted default convert session key environment .empty =
      match reply.str? with
      | none => (HandleTable.empty.acquire, .error .nullText)
      | some str =>
          match convert (cText str) with
          | .error fault =>
              (HandleTable.empty.acquire, .error (.conversion fault))
          | .ok value =>
              Session.freeReply HandleTable.empty.acquire
                HandleTable.empty.issued session value := by
  simp [Session.getConverted, fetched, Session.received, replied]

theorem not_survives_of_error {default : α} {denotes : List UInt8 → α → Prop}
    {reply : Option RedisReply} {replies : HandleTable} {fault : GetterFault} :
    ¬Survives default denotes reply (replies, .error fault) := by
  rintro ⟨_, next, value, thrown, _⟩
  cases thrown

theorem survives_of_ok_iff {default value : α}
    {denotes : List UInt8 → α → Prop} {reply : RedisReply}
    {replies : HandleTable} {next : Session}
    (released : replies.ReleasedExactlyOnce) :
    Survives default denotes (some reply) (replies, .ok (next, value)) ↔
      value = default ∨ ∃ text, reply = .string text ∧ denotes text value := by
  constructor
  · rintro ⟨_, other, result, same, right⟩
    cases same
    rcases right with isDefault | ⟨text, isString, denoted⟩
    · exact .inl isDefault
    · exact .inr ⟨text, Option.some.inj isString, denoted⟩
  · rintro (isDefault | ⟨text, isString, denoted⟩)
    · exact ⟨released, next, value, rfl, .inl isDefault⟩
    · exact ⟨released, next, value, rfl,
        .inr ⟨text, congrArg some isString, denoted⟩⟩

/-- A converting getter survives exactly if the connection is lost, or there
is a text and its conversion gives the default or what a string denotes. -/
theorem survives_getConverted_iff (pointer : session.context = some handle)
    (live : session.contexts.Live handle) (answers : environment.Answers)
    (default : α) (convert : List UInt8 → Except ConversionFault α)
    (denotes : List UInt8 → α → Prop) :
    Survives default denotes (environment.query (.get (cStr key))).reply
        (Session.getConverted default convert session key environment .empty) ↔
      ∀ reply, (environment.query (.get (cStr key))).reply = some reply →
        ∃ text value, reply.str? = some text ∧
          convert (cText text) = .ok value ∧
          (value = default ∨ reply = .string text ∧ denotes text value) := by
  rcases Session.fetch_cases pointer live key answers with
    ⟨next, lost, fetched⟩ | ⟨reply, replied, fetched⟩
  · have answer : Session.getConverted default convert session key environment
        .empty = (.empty, .ok (next, default)) := by
      simp [Session.getConverted, fetched, Session.received, lost]
    rw [answer, lost]
    constructor
    · intro _ reply impossible
      cases impossible
    · intro _
      exact ⟨SoleOwner.empty.releasedExactlyOnce, next, default, rfl, .inl rfl⟩
  · rw [Session.getConverted_replied default convert fetched replied, replied]
    simp only [Option.some.injEq, forall_eq']
    cases text : reply.str? with
    | none => simp [not_survives_of_error]
    | some str =>
        cases converted : convert (cText str) with
        | error fault => simp [converted, not_survives_of_error]
        | ok value =>
            obtain ⟨freed, returned, released⟩ :=
              Session.freeReply_acquired session value
            have said : (∃ text, reply = .string text ∧ denotes text value) ↔
                reply = .string str ∧ denotes str value := by
              constructor
              · rintro ⟨other, isString, denoted⟩
                cases isString
                cases text
                exact ⟨rfl, denoted⟩
              · intro denoted
                exact ⟨str, denoted⟩
            simp only [converted, returned]
            rw [survives_of_ok_iff released, said]
            simp [converted]

end

end DataGateway.Redis
