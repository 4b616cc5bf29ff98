import DataGateway.Foundation.ReplyQueue
import DataGateway.Redis.HandleValidity

/-!
# Which command a Redis reply belongs to

The pipelined and the synchronous operations of one object share the replies
of one context, which hiredis delivers in the order of the commands.  A
synchronous operation waits for one reply and takes it for its own; it is the
reply of the oldest pipelined `SET` when `processSetRedisReply` has not yet
taken up all of them.  The connection does not fail here, so the state is what
hiredis holds for the context.
-/

namespace DataGateway.Redis

open Foundation

inductive Command
  | set (command : SetCommand)
  | query (query : Query)

def Command.key : Command → String
  | .set command => command.key
  | .query (.exist key) => key
  | .query (.get key) => key

/-- The command that a synchronous operation sends before it waits for a
reply. -/
def Operation.command? : Operation → Option Command
  | .store call => call.command?.map .set
  | .isKeyExist key => some (.query (.exist (cStr key)))
  | .get key => some (.query (.get (cStr key)))
  | .storeBinaryForPipline _ _ => none
  | .processSetRedisReply _ => none

/-- What an operation makes of the reply that it inspects. -/
def Operation.conclude : Operation → RedisReply → Result
  | .store _, reply => .flag !reply.isError
  | .isKeyExist _, .integer value => .flag (value == 1)
  | .isKeyExist _, _ => .flag false
  | .get _, reply => .fetched (.converted reply)
  | .processSetRedisReply key, .status text =>
      .setError
        (if text = "OK" then none
        else some ⟨key, "Failed to execute SET command"⟩)
  | .processSetRedisReply key, _ =>
      .setError (some ⟨key, "Failed to execute SET command"⟩)
  | .storeBinaryForPipline _ _, _ => .flag true

/-- What the environment does for one operation: how Redis answers the command
that it sends, and whether `redisAppendCommand` returns `REDIS_OK`. -/
structure Delivery where
  answer : RedisReply
  appended : Bool

/-- The replies of one context, and the pipelined `SET`s that no
`processSetRedisReply` has taken up yet, oldest first. -/
structure Connection where
  channel : Channel Command RedisReply
  unprocessed : List (Exchange Command RedisReply)

namespace Connection

def connected : Connection :=
  { channel := Channel.empty
    unprocessed := [] }

/-- `redisGetReply` waits for a reply that no command will bring. -/
inductive Stalled
  | waitsForever

abbrev Returned :=
  Except Stalled
    (Connection × (Option (Exchange Command RedisReply) × Result))

/-- Each operation returns what it inspected along with its result. -/
def step (connection : Connection) (input : Operation × Delivery) : Returned :=
  match input.1 with
  | .storeBinaryForPipline key data =>
      if input.2.appended then
        .ok ({ channel := connection.channel.append (.set ⟨key, .b data⟩)
                input.2.answer
               unprocessed := connection.unprocessed ++
                [connection.channel.fresh (.set ⟨key, .b data⟩)
                  input.2.answer] },
          none, .flag true)
      else .ok (connection, none, .flag false)
  | .processSetRedisReply key =>
      match connection.channel.deliver? with
      | none => .error .waitsForever
      | some (inspected, channel) =>
          .ok ({ channel := channel
                 unprocessed := connection.unprocessed.tail },
            some inspected,
            (Operation.processSetRedisReply key).conclude inspected.reply)
  | operation =>
      match operation.command? with
      | none => .ok (connection, none, .flag false)
      | some command =>
          match (connection.channel.append command
              input.2.answer).deliver? with
          | none => .error .waitsForever
          | some (inspected, channel) =>
              .ok ({ connection with channel := channel }, some inspected,
                operation.conclude inspected.reply)

/-- The reply that an operation inspects is the reply of the command it sent;
for `processSetRedisReply` that of the oldest `SET` not yet taken up, which has
the given key when the caller goes through the keys in their order. -/
def Attributed (connection : Connection) (input : Operation × Delivery)
    (result : Returned) : Prop :=
  ∀ next inspected output, result = .ok (next, some inspected, output) →
    match input.1 with
    | .processSetRedisReply key =>
        connection.unprocessed.head? = some inspected ∧
          (connection.unprocessed.head?.map (·.request.key) = some key →
            inspected.request.key = key)
    | operation =>
        ∃ command, operation.command? = some command ∧
          inspected = connection.channel.fresh command input.2.answer

/-- A synchronous command is sent only when every pipelined `SET` has been
taken up. -/
def Drained (connection : Connection) (input : Operation × Delivery)
    (_ : Returned) : Prop :=
  input.1.command? ≠ none → connection.unprocessed = []

/-- What hiredis still holds belongs to the pipelined `SET`s not taken up. -/
def InStep (connection : Connection) : Prop :=
  connection.channel.undelivered = connection.unprocessed

section

variable {connection next : Connection} {delivery : Delivery}
  {operation : Operation} {output : Result}
  {inspected : Exchange Command RedisReply}

private theorem connected_inStep : connected.InStep := rfl

theorem step_synchronous (connection : Connection) (delivery : Delivery)
    {command : Command} (sends : operation.command? = some command) :
    ∃ inspected channel,
      (connection.channel.append command delivery.answer).deliver? =
        some (inspected, channel) ∧
      connection.step (operation, delivery) =
        .ok ({ connection with channel := channel }, some inspected,
          operation.conclude inspected.reply) := by
  obtain ⟨⟨inspected, channel⟩, delivered⟩ := Option.ne_none_iff_exists'.mp
    (Channel.deliver?_append_ne_none connection.channel command
      delivery.answer)
  refine ⟨inspected, channel, delivered, ?_⟩
  cases operation with
  | store call | isKeyExist key | get key =>
      simp only [step, sends, delivered]
  | storeBinaryForPipline key data | processSetRedisReply key => cases sends

theorem step_rejected (connection : Connection) (delivery : Delivery)
    {call : StoreCall} (rejected : call.command? = none) :
    connection.step (.store call, delivery) =
      .ok (connection, none, .flag false) := by
  simp [step, Operation.command?, rejected]

theorem step_storeBinaryForPipline (connection : Connection)
    (delivery : Delivery) (key : String) (data : List UInt8) :
    ∃ next appended, connection.step
        (.storeBinaryForPipline key data, delivery) =
          .ok (next, none, .flag appended) ∧
      (connection.InStep → next.InStep) := by
  cases appended : delivery.appended with
  | true =>
      refine ⟨_, true, by simp [step, appended]; rfl, ?_⟩
      intro inStep
      simp [InStep, inStep.symm]
  | false =>
      refine ⟨connection, false, by simp [step, appended], ?_⟩
      exact fun inStep => inStep

/-- `processSetRedisReply` takes up the oldest `SET` that is left. -/
theorem InStep.processSetRedisReply (inStep : connection.InStep)
    {key : String}
    (returned : connection.step (.processSetRedisReply key, delivery) =
      .ok (next, some inspected, output)) :
    connection.unprocessed.head? = some inspected ∧ next.InStep := by
  cases delivered : connection.channel.deliver? with
  | none => simp [step, delivered] at returned
  | some pair =>
      obtain ⟨oldest, channel⟩ := pair
      have split := Channel.deliver?_eq_some delivered
      simp only [step, delivered, Except.ok.injEq, Prod.mk.injEq,
        Option.some.injEq] at returned
      obtain ⟨same, own, _⟩ := returned
      subst same own
      rw [inStep] at split
      constructor
      · rw [split]
        rfl
      · unfold InStep
        rw [split]
        rfl

/-- While the channel is in step, the operations whose reply is their own are
those that find it drained. -/
theorem InStep.attributed_iff_drained (inStep : connection.InStep)
    (input : Operation × Delivery) :
    connection.Attributed input (connection.step input) ↔
      connection.Drained input (connection.step input) := by
  obtain ⟨operation, delivery⟩ := input
  cases sends : operation.command? with
  | none =>
      have drained : connection.Drained (operation, delivery)
          (connection.step (operation, delivery)) := by
        intro sent
        exact absurd sends sent
      refine iff_of_true ?_ drained
      intro next inspected output returned
      cases operation with
      | processSetRedisReply key =>
          have oldest := (inStep.processSetRedisReply returned).1
          refine ⟨oldest, ?_⟩
          intro inOrder
          simpa [oldest] using inOrder
      | storeBinaryForPipline key data =>
          obtain ⟨_, _, result, _⟩ := step_storeBinaryForPipline
            connection delivery key data
          rw [result] at returned
          cases returned
      | store call =>
          have rejected : call.command? = none := by
            simpa [Operation.command?] using sends
          rw [step_rejected connection delivery rejected] at returned
          cases returned
      | isKeyExist key | get key => cases sends
  | some command =>
      obtain ⟨inspected, channel, delivered, result⟩ :=
        step_synchronous connection delivery sends
      have own := Channel.deliver?_append_own_iff delivered
      have attributed : connection.Attributed (operation, delivery)
          (connection.step (operation, delivery)) ↔
            inspected =
              connection.channel.fresh command delivery.answer := by
        rw [result]
        cases operation with
        | store call | isKeyExist key | get key =>
            constructor
            · intro each
              obtain ⟨sent, same, fresh⟩ := each _ _ _ rfl
              cases sends.symm.trans same
              exact fresh
            · intro fresh next other output same
              cases same
              exact ⟨command, sends, fresh⟩
        | storeBinaryForPipline key data | processSetRedisReply key =>
            cases sends
      have drained : connection.Drained (operation, delivery)
          (connection.step (operation, delivery)) ↔
            connection.channel.undelivered = [] := by
        rw [inStep]
        constructor
        · intro condition
          apply condition
          rw [sends]
          exact Option.some_ne_none command
        · intro nothing _
          exact nothing
      rw [attributed, drained]
      exact own

/-- An operation that finds the channel drained leaves it in step. -/
theorem InStep.step (inStep : connection.InStep)
    {input : Operation × Delivery}
    {seen : Option (Exchange Command RedisReply) × Result}
    (drained : connection.Drained input (connection.step input))
    (returned : connection.step input = .ok (next, seen)) : next.InStep := by
  obtain ⟨operation, delivery⟩ := input
  cases sends : operation.command? with
  | none =>
      cases operation with
      | processSetRedisReply key =>
          cases delivered : connection.channel.deliver? with
          | none => simp [Connection.step, delivered] at returned
          | some pair =>
              have result := returned
              simp only [Connection.step, delivered, Except.ok.injEq,
                Prod.mk.injEq] at returned
              obtain ⟨_, same⟩ := returned
              subst same
              exact (inStep.processSetRedisReply result).2
      | storeBinaryForPipline key data =>
          obtain ⟨appended, _, result, kept⟩ := step_storeBinaryForPipline
            connection delivery key data
          cases result.symm.trans returned
          exact kept inStep
      | store call =>
          have rejected : call.command? = none := by
            simpa [Operation.command?] using sends
          cases (step_rejected connection delivery rejected).symm.trans returned
          exact inStep
      | isKeyExist key | get key => cases sends
  | some command =>
      obtain ⟨inspected, channel, delivered, result⟩ :=
        step_synchronous connection delivery sends
      cases result.symm.trans returned
      have nothing : connection.unprocessed = [] := by
        apply drained
        rw [sends]
        exact Option.some_ne_none command
      have empty := Channel.deliver?_append_drained (inStep.trans nothing)
        delivered
      exact empty.trans nothing.symm

end

/-- The keys of the pipelined `SET`s not taken up yet, in their order. -/
def keys (connection : Connection) : List String :=
  connection.unprocessed.map (·.request.key)

/-- hiredis holds as many replies as there are `SET`s not taken up. -/
def Balanced (connection : Connection) : Prop :=
  connection.channel.undelivered.length = connection.unprocessed.length

private theorem connected_balanced : connected.Balanced := rfl

def appendedKey? : Operation × Delivery → Option String
  | (.storeBinaryForPipline key _, delivery) =>
      if delivery.appended then some key else none
  | _ => none

def takesUp : Operation × Delivery → Bool
  | (.processSetRedisReply _, _) => true
  | _ => false

section

variable {connection next : Connection} {input : Operation × Delivery}
  {seen : Option (Exchange Command RedisReply) × Result}

theorem step_keys (balanced : connection.Balanced)
    (returned : connection.step input = .ok (next, seen)) :
    next.Balanced ∧
      (takesUp input).toNat ≤ connection.keys.length ∧
      next.keys = (connection.keys ++ (appendedKey? input).toList).drop
        (takesUp input).toNat := by
  obtain ⟨operation, delivery⟩ := input
  cases sends : operation.command? with
  | some command =>
      obtain ⟨inspected, channel, delivered, result⟩ :=
        step_synchronous connection delivery sends
      cases result.symm.trans returned
      have split := Channel.deliver?_eq_some delivered
      have counted := congrArg List.length split
      refine ⟨?_, ?_⟩
      · simp only [Channel.append_undelivered, List.length_append,
          List.length_cons] at counted
        exact (Nat.succ.inj counted).symm.trans balanced
      · cases operation with
        | store call | isKeyExist key | get key =>
            simp [appendedKey?, takesUp, keys]
        | storeBinaryForPipline key data | processSetRedisReply key =>
            cases sends
  | none =>
      cases operation with
      | storeBinaryForPipline key data =>
          cases appended : delivery.appended with
          | true =>
              simp only [step, appended, if_true] at returned
              cases returned
              simp only [Balanced] at balanced
              simp [Balanced, appendedKey?, takesUp, keys, appended, balanced,
                Channel.fresh, Command.key]
          | false =>
              simp only [step, appended, Bool.false_eq_true, if_false]
                at returned
              cases returned
              simp [appendedKey?, takesUp, appended, balanced]
      | processSetRedisReply key =>
          cases delivered : connection.channel.deliver? with
          | none => simp [step, delivered] at returned
          | some pair =>
              have split := Channel.deliver?_eq_some delivered
              simp only [step, delivered, Except.ok.injEq, Prod.mk.injEq]
                at returned
              obtain ⟨same, _⟩ := returned
              subst same
              unfold Balanced at balanced
              rw [split, List.length_cons] at balanced
              simp only [Balanced, List.length_tail, takesUp, appendedKey?,
                keys, List.length_map, List.map_tail, Option.toList_none,
                List.append_nil, Bool.toNat_true, List.drop_one]
              refine ⟨?_, ?_, trivial⟩ <;> omega
      | store call =>
          have rejected : call.command? = none := by
            simpa [Operation.command?] using sends
          cases (step_rejected connection delivery rejected).symm.trans returned
          simp [appendedKey?, takesUp, balanced]
      | isKeyExist key | get key => cases sends

/-- After any run the keys left are those appended, in that order, less as
many as `processSetRedisReply` was called. -/
theorem run_keys {final : Connection} {operations : List (Operation × Delivery)}
    (balanced : connection.Balanced)
    (reached : run step connection operations = .ok final) :
    final.keys = (connection.keys ++ operations.filterMap appendedKey?).drop
      (operations.countP takesUp) := by
  induction operations generalizing connection with
  | nil =>
      cases reached
      simp
  | cons input operations induction =>
      simp only [run] at reached
      cases result : step connection input with
      | error fault => simp [result] at reached
      | ok pair =>
          simp only [result] at reached
          obtain ⟨nextBalanced, bound, nextKeys⟩ := step_keys balanced result
          have appended : (input :: operations).filterMap appendedKey? =
              (appendedKey? input).toList ++
                operations.filterMap appendedKey? := by
            cases key : appendedKey? input <;> simp [key]
          have taken : (input :: operations).countP takesUp =
              (takesUp input).toNat + operations.countP takesUp := by
            cases takes : takesUp input <;>
              simp [takes, Nat.add_comm]
          rw [induction nextBalanced reached, nextKeys, appended, taken,
            ← List.drop_append_of_le_length, List.drop_drop,
            List.append_assoc]
          rw [List.length_append]
          exact Nat.le_trans bound (Nat.le_add_right _ _)

/-- A channel is drained when `processSetRedisReply` was called as often as a
`SET` was appended. -/
theorem unprocessed_eq_nil_iff {operations : List (Operation × Delivery)}
    (reached : run step connected operations = .ok connection) :
    connection.unprocessed = [] ↔
      (operations.filterMap appendedKey?).length ≤
        operations.countP takesUp := by
  have left := run_keys connected_balanced reached
  rw [← List.map_eq_nil_iff]
  unfold keys at left
  rw [left]
  exact List.drop_eq_nil_iff

end

/-- In every run, each operation inspects the reply of its own command if and
only if no synchronous command is sent while a pipelined `SET` is not taken
up. -/
theorem attributed_iff (operations : List (Operation × Delivery)) :
    EachStep step Attributed connected operations ↔
      EachStep step Drained connected operations := by
  apply eachStep_congr InStep
  · intro connection input next seen inStep attributed returned
    have drained := (inStep.attributed_iff_drained input).mp attributed
    exact inStep.step drained returned
  · intro connection input inStep
    exact inStep.attributed_iff_drained input
  · exact connected_inStep

/-- With one pipelined `SET` outstanding, `isKeyExist` takes its `OK` for the
answer to `EXISTS` and denies a key that exists; the answer to `EXISTS` is
then reported as the failure of the `SET` that succeeded. -/
theorem misattributed :
    ∃ first second third denied failed,
      connected.step (.storeBinaryForPipline "level" [7],
        ⟨.status "OK", true⟩) = .ok (first, none, .flag true) ∧
      first.step (.isKeyExist "valve", ⟨.integer 1, true⟩) =
        .ok (second, some denied, .flag false) ∧
      second.step (.processSetRedisReply "level", ⟨.nil, true⟩) =
        .ok (third, some failed,
          .setError (some ⟨"level", "Failed to execute SET command"⟩)) ∧
      ¬EachStep step Attributed connected
        [(.storeBinaryForPipline "level" [7], ⟨.status "OK", true⟩),
          (.isKeyExist "valve", ⟨.integer 1, true⟩),
          (.processSetRedisReply "level", ⟨.nil, true⟩)] := by
  refine ⟨_, _, _, _, _, rfl, rfl, rfl, ?_⟩
  intro each
  obtain ⟨_, each⟩ := each
  obtain ⟨attributed, _⟩ := each _ _ rfl
  obtain ⟨command, sends, own⟩ := attributed _ _ _ rfl
  cases sends
  cases own

end Connection

/-- A Redis that delivers the given reply to whatever waits for one, over a
connection that does not fail. -/
def delivering (reply : RedisReply) (appended : Bool) : Environment :=
  { connect := fun _ => .connected
    query := fun _ => { reply := some reply, err := false }
    set := fun _ =>
      { reply := some reply
        err := false
        executed := !reply.isError
        answered := by
          intro answer same
          cases same
          rfl }
    append := fun _ => appended
    nextReply := some (some reply) }

/-- The object returns what it concludes from the reply delivered to it, and
keeps its context. -/
theorem operationStep_delivering {session : Session} {handle : Nat}
    (pointer : session.context = some handle)
    (live : session.contexts.Live handle) {connection next : Connection}
    {operation : Operation} {delivery : Delivery}
    {inspected : Option (Exchange Command RedisReply)} {output : Result}
    (returned : connection.step (operation, delivery) =
      .ok (next, inspected, output)) :
    ∃ after, operationStep session
        (operation, delivering
          (inspected.elim delivery.answer Exchange.reply)
          delivery.appended) = .ok (after, output) ∧
      after.context = session.context ∧ after.contexts = session.contexts := by
  have used := Session.use_context_of_live pointer live
  cases sends : operation.command? with
  | some command =>
      obtain ⟨exchange, channel, _, result⟩ :=
        Connection.step_synchronous connection delivery sends
      cases result.symm.trans returned
      cases operation with
      | store call =>
          obtain ⟨set, sent, _⟩ := Option.map_eq_some_iff.mp sends
          refine ⟨session.serve set (!exchange.reply.isError), ?_,
            Session.serve_context _ _, Session.serve_contexts _ _⟩
          simp [operationStep, Session.store, sent,
            Session.storeValue_of_live pointer live, delivering,
            Operation.conclude, mapResult]
      | isKeyExist key =>
          refine ⟨session, ?_, rfl, rfl⟩
          cases reply : exchange.reply <;>
            simp [operationStep, Session.isKeyExist, used, delivering,
              Operation.conclude, mapResult, reply]
      | get key =>
          refine ⟨session, ?_, rfl, rfl⟩
          simp [operationStep, Session.fetch, used, delivering,
            Operation.conclude, mapResult]
      | storeBinaryForPipline key data | processSetRedisReply key => cases sends
  | none =>
      refine ⟨session, ?_, rfl, rfl⟩
      cases operation with
      | storeBinaryForPipline key data =>
          cases appended : delivery.appended <;>
            simp only [Connection.step, appended, if_true, if_false,
              Bool.false_eq_true] at returned <;>
            cases returned <;>
            simp [operationStep, Session.storeBinaryForPipline, used,
              delivering, mapResult]
      | processSetRedisReply key =>
          cases delivered : connection.channel.deliver? with
          | none => simp [Connection.step, delivered] at returned
          | some pair =>
              obtain ⟨exchange, channel⟩ := pair
              simp only [Connection.step, delivered, Except.ok.injEq,
                Prod.mk.injEq] at returned
              obtain ⟨_, same, concluded⟩ := returned
              subst same concluded
              cases reply : exchange.reply <;>
                simp [operationStep, Session.processSetRedisReply, used,
                  delivering, Operation.conclude, mapResult, reply]
      | store call =>
          have rejected : call.command? = none := by
            simpa [Operation.command?] using sends
          cases (Connection.step_rejected connection delivery
            rejected).symm.trans returned
          simp [operationStep, Session.store, rejected, mapResult]
      | isKeyExist key | get key => cases sends

end DataGateway.Redis
