import DataGateway.Foundation.Interleaving
import DataGateway.Iec61850.Polling
import DataGateway.Modbus.Coalescing
import DataGateway.Redis.Acknowledgement
import DataGateway.Redis.RoundTrip
import DataGateway.RedisKeys

/-!
# One Redis for all threads

Every polling thread makes `DRDSDataRedis` objects of its own, but all of them
write to one server.  A run is any interleaving of what the threads do with
their objects, with every answer of hiredis and of the server left open.
-/

namespace DataGateway

open Config Foundation Iec61850 Modbus Redis

inductive Thread
  | modbus (deviceId : String)
  | iec61850 (deviceId : String)
  deriving DecidableEq

def Source.thread : Source → Thread
  | .modbus deviceId _ => .modbus deviceId
  | .iec61850 deviceId _ => .iec61850 deviceId

/-- What a thread does with the object of its scope. -/
inductive RedisOperation
  | construct (constructor : Redis.Constructor)
      (environment : Redis.Environment)
  | store (call : StoreCall) (environment : Redis.Environment)
  | destruct

/-- A fault of the object, or an operation where no object is in scope. -/
inductive ThreadFault
  | handle (fault : HandleFault)
  | outOfScope
  deriving DecidableEq

/-- One operation of a thread, with the `SET`s that Redis executes for it. -/
def redisStep :
    Option Session → RedisOperation →
      Except ThreadFault (Option Session × List SetCommand)
  | none, .construct constructor environment =>
      match Redis.construct constructor environment with
      | .error fault => .error (.handle fault)
      | .ok (session, _) => .ok (some session, [])
  | some session, .store call environment =>
      match Session.store { session with executed := [] } call environment with
      | .error fault => .error (.handle fault)
      | .ok (next, _) => .ok (some next, next.executed)
  | some session, .destruct =>
      match Redis.destruct session with
      | .error fault => .error (.handle fault)
      | .ok _ => .ok (none, [])
  | _, _ => .error .outOfScope

/-- No thread has an object yet, and Redis is empty. -/
def noObjects : System Thread (Option Session) SetCommand :=
  { states := fun _ => none
    log := [] }

/-- The value that a server holds after the commands, newest first. -/
def heldValue (executed : List SetCommand) (key : String) : Option FormatArg :=
  (executed.find? (·.key = key)).map SetCommand.argument

section Conditions

variable (parseIcd : String → List DataNode) (data : ConfigData)

/-- A thread stores under the keys of its own sources. -/
def RedisOperation.StoresFor (thread : Thread) : RedisOperation → Prop
  | .store call _ => ∀ command, call.command? = some command →
      ∃ (source : Source) (key : String), source.thread = thread ∧
        source.key? parseIcd data = some key ∧ command.key = cStr key
  | .construct _ _ | .destruct => True

/-- No two threads have sources that are stored under the same C string. -/
def ThreadsApart : Prop :=
  ∀ (first second : Source) key other, first.key? parseIcd data = some key →
    second.key? parseIcd data = some other → cStr key = cStr other →
    first.thread = second.thread

/-- No key is cut short by a NUL. -/
def KeysWhole : Prop :=
  ∀ (source : Source) key, source.key? parseIcd data = some key →
    cStr key = key

end Conditions

section Separation

variable {parseIcd : String → List DataNode} {data : ConfigData}

/-- Of the conditions for distinct keys, the one about the names of one device
is not needed to keep the threads apart. -/
theorem threadsApart_of_conditions (keyed : KeyedById data)
    (whole : KeysWhole parseIcd data) (ids : NoNestedIds data)
    (paths : PathsDistinct parseIcd data) (foreign : NoModbusPath parseIcd data) :
    ThreadsApart parseIcd data := by
  intro first second key other firstKey secondKey same
  rw [whole first key firstKey, whole second other secondKey] at same
  subst same
  cases first with
  | modbus firstId firstIndex =>
      cases second with
      | modbus secondId secondIndex =>
          obtain ⟨device, point, found, atIndex, rfl⟩ :=
            (key?_modbus_iff keyed).mp firstKey
          obtain ⟨further, furtherPoint, furtherFound, furtherAt, same⟩ :=
            (key?_modbus_iff keyed).mp secondKey
          have member := List.mem_of_getElem? atIndex
          have furtherMember := List.mem_of_getElem? furtherAt
          rcases redisKey_eq_iff.mp same with equal | forward | backward
          · exact congrArg Thread.modbus equal.1
          · obtain ⟨middle, nested, name⟩ := forward
            exact (ids firstId device secondId further middle found furtherFound
              nested point member furtherPoint furtherMember name).elim
          · obtain ⟨middle, nested, name⟩ := backward
            exact (ids secondId further firstId device middle furtherFound found
              nested furtherPoint furtherMember point member name).elim
      | iec61850 secondId path =>
          exact (modbus_key_ne_iec61850_key keyed foreign firstKey secondKey).elim
  | iec61850 firstId path =>
      cases second with
      | modbus secondId secondIndex =>
          exact (modbus_key_ne_iec61850_key keyed foreign secondKey firstKey).elim
      | iec61850 secondId further =>
          obtain ⟨device, found, polled, rfl⟩ := key?_iec61850_iff.mp firstKey
          obtain ⟨second, otherFound, otherPolled, rfl⟩ :=
            key?_iec61850_iff.mp secondKey
          exact congrArg Thread.iec61850
            (paths firstId device secondId second key found otherFound polled
              otherPolled)

private theorem decodePoint_key {key : String} {dataBuffer : List UInt16}
    {uOffset : Nat} {type : ConfigDataModbus.DataType} {write : UserWrite} {step : Nat}
    (decoded : decodePoint key dataBuffer uOffset type = some (write, step)) :
    write.key = key ∧ ∀ call, write.call = some call →
      ∃ argument, call.command? = some ⟨cStr key, argument⟩ := by
  cases type with
  | int16 | uint16 | int32 | uint32 =>
      cases decoded
      refine ⟨rfl, ?_⟩
      intro call made
      obtain ⟨word, _, rfl⟩ := Option.map_eq_some_iff.mp made
      exact ⟨_, rfl⟩
  | float32 =>
      cases decoded
      refine ⟨rfl, ?_⟩
      intro call made
      obtain ⟨low, _, rest⟩ := Option.bind_eq_some_iff.mp made
      obtain ⟨high, _, rfl⟩ := Option.map_eq_some_iff.mp rest
      exact ⟨_, rfl⟩
  | unknown | string => cases decoded

theorem processUserData_key {deviceId : String} {dataBuffer : List UInt16}
    {uOffset : Nat} {points : List ConfigDataModbus.DataPoint} {write : UserWrite}
    (member : write ∈ processUserData deviceId dataBuffer uOffset points) :
    (∃ point ∈ points, write.key = redisKey deviceId point.name) ∧
      ∀ call, write.call = some call →
        ∃ argument, call.command? = some ⟨cStr write.key, argument⟩ := by
  induction points generalizing uOffset with
  | nil => cases member
  | cons point points induction =>
      simp only [processUserData] at member
      cases decoded : decodePoint (redisKey deviceId point.name) dataBuffer
          uOffset point.dataType with
      | none =>
          rw [decoded] at member
          obtain ⟨⟨other, inside, same⟩, sent⟩ := induction member
          exact ⟨⟨other, List.mem_cons_of_mem point inside, same⟩, sent⟩
      | some pair =>
          rw [decoded] at member
          rcases List.mem_cons.mp member with here | later
          · subst here
            obtain ⟨same, sent⟩ := decodePoint_key decoded
            rw [same]
            exact ⟨⟨point, List.mem_cons_self, rfl⟩, sent⟩
          · obtain ⟨⟨other, inside, same⟩, sent⟩ := induction later
            exact ⟨⟨other, List.mem_cons_of_mem point inside, same⟩, sent⟩

/-- The store calls of a node are under its path, and only nodes that pass the
filter have any. -/
theorem readNode_key {VarSpec : Type*} {library : MmsLibrary VarSpec}
    {outcome : ReadOutcome} {node : DataNode} {call : StoreCall}
    (member : call ∈ readNode library outcome node) :
    node.polled = true ∧
      ∃ argument, call.command? = some ⟨cStr node.path, argument⟩ := by
  by_cases polled : node.polled = true
  · refine ⟨polled, ?_⟩
    rw [readNode, if_pos polled] at member
    cases read : outcome.read? with
    | none => simp [read] at member
    | some value =>
        rw [read, contains_of_polled polled] at member
        cases value with
        | unsupported type => simp at member
        | struct elements => simp [parseStructure_eq_nil] at member
        | scalar scalar =>
            simp only [if_true, List.mem_singleton] at member
            subst member
            cases scalar <;> exact ⟨_, rfl⟩
  · simp [readNode, polled] at member

private theorem pollLoop_writes {σ : Type*}
    (readRegisters : σ → UInt16 → Nat → σ × Option (List UInt16))
    (deviceId : String) (points : List ConfigDataModbus.DataPoint) (i : Nat)
    (state : σ) :
    ∀ polled ∈ (pollLoop readRegisters deviceId points i state).1,
      ∀ write ∈ polled.writes,
        ∃ words, write ∈ processUserData deviceId words 0 points := by
  induction i using Modbus.ranges.induct points generalizing state with
  | case1 i inside range induction =>
      rw [pollLoop, dif_pos inside]
      intro polled turn write written
      rcases List.mem_cons.mp turn with here | later
      · subst here
        cases read : (readRegisters state range.startAddr range.count).2 with
        | none =>
            simp only [range] at read
            simp [read] at written
        | some words =>
            simp only [range] at read
            simp only [read] at written
            exact ⟨words, written⟩
      · exact induction _ polled later write written
  | case2 i outside =>
      rw [pollLoop, dif_neg outside]
      intro polled turn
      cases turn

/-- What a poll of a Modbus device writes is stored for that device. -/
theorem modbus_writes_storesFor {σ : Type*} {deviceId : String}
    {config : ConfigDataModbus} (found : data.modbus deviceId = some config)
    (sorter : AddressSort)
    (readRegisters : σ → UInt16 → Nat → σ × Option (List UInt16)) (state : σ)
    {polled : Polled} {write : UserWrite} {call : StoreCall}
    (turn : polled ∈
      (processContinuousRegisters sorter readRegisters config state).1)
    (written : write ∈ polled.writes) (made : write.call = some call)
    (environment : Redis.Environment) :
    (RedisOperation.store call environment).StoresFor parseIcd data
      (.modbus deviceId) := by
  unfold processContinuousRegisters at turn
  by_cases empty : config.dataPoints.isEmpty = true
  · simp [empty] at turn
  · rw [if_neg empty] at turn
    obtain ⟨words, member⟩ := pollLoop_writes readRegisters config.deviceId
      (sorter.sort config.dataPoints) 0 state polled turn write written
    obtain ⟨⟨point, inSorted, key⟩, sends⟩ := processUserData_key member
    obtain ⟨index, atIndex⟩ := List.mem_iff_getElem?.mp
      ((sorter.perm config.dataPoints).mem_iff.mp inSorted)
    intro command sent
    obtain ⟨argument, same⟩ := sends call made
    cases sent.symm.trans same
    refine ⟨.modbus deviceId index, write.key, rfl, ?_, rfl⟩
    simp [Source.key?, found, atIndex, key]

/-- What a pass over the nodes of a device stores is stored for that device. -/
theorem iec61850_pass_storesFor {VarSpec : Type*} {deviceId : String}
    {device : ConfigDataIEC61850} (found : data.iec61850 deviceId = some device)
    (library : MmsLibrary VarSpec) (reads : Nat → ReadOutcome)
    {call : StoreCall}
    (member : call ∈ readPass library reads 0 (parseIcd device.icdFilePath))
    (environment : Redis.Environment) :
    (RedisOperation.store call environment).StoresFor parseIcd data
      (.iec61850 deviceId) := by
  rw [readPass_eq_flatMap] at member
  obtain ⟨⟨node, outcome⟩, taken, made⟩ := List.mem_flatMap.mp member
  obtain ⟨listed, _⟩ := mem_of_passReads taken
  obtain ⟨polled, argument, same⟩ := readNode_key made
  intro command sent
  cases sent.symm.trans same
  refine ⟨.iec61850 deviceId node.path, node.path, rfl, ?_, rfl⟩
  apply key?_iec61850_iff.mpr
  refine ⟨device, found, ?_, rfl⟩
  exact List.any_eq_true.mpr ⟨node, listed, by simp [polled]⟩

end Separation

/-- The `SET` of an operation, if it has one that is executed. -/
def RedisOperation.executed? : RedisOperation → Option SetCommand
  | .store call environment =>
      call.command?.filter fun command => (environment.set command).executed
  | .construct _ _ | .destruct => none

/-- A store that returns has sent its `SET` once, whatever became of the
connection. -/
theorem Session.store_returned {session next : Session} {call : StoreCall}
    {environment : Redis.Environment} {accepted : Bool}
    (stored : session.store call environment = .ok (next, accepted)) :
    next.executed =
      ((RedisOperation.store call environment).executed?).toList ++
        session.executed := by
  simp only [Redis.Session.store] at stored
  simp only [RedisOperation.executed?]
  cases sent : call.command? with
  | none =>
      rw [sent] at stored
      cases stored
      rfl
  | some command =>
      rw [sent] at stored
      cases used : session.contexts.use session.context with
      | error fault => simp [Redis.Session.storeValue, used] at stored
      | ok _ =>
          obtain ⟨handle, pointer, live⟩ := HandleTable.use_eq_ok_iff.mp used
          obtain ⟨after, returned, served⟩ :=
            Redis.Session.storeValue_returns pointer live command environment
          cases stored.symm.trans returned
          rw [served, Option.filter_some]
          cases (environment.set command).executed <;> rfl

private theorem redisStep_entries {object next : Option Session}
    {operation : RedisOperation} {entries : List SetCommand}
    (stepped : redisStep object operation = .ok (next, entries)) :
    entries = operation.executed?.toList := by
  cases operation with
  | construct constructor environment =>
      cases object with
      | some session => cases stepped
      | none =>
          simp only [redisStep] at stepped
          cases made : Redis.construct constructor environment with
          | error fault => simp [made] at stepped
          | ok pair =>
              simp only [made] at stepped
              cases stepped
              rfl
  | store call environment =>
      cases object with
      | none => cases stepped
      | some session =>
          simp only [redisStep] at stepped
          cases stored : Redis.Session.store { session with executed := [] }
              call environment with
          | error fault => simp [stored] at stepped
          | ok pair =>
              have returned := Session.store_returned stored
              simp only [stored] at stepped
              cases stepped
              simpa using returned
  | destruct =>
      cases object with
      | none => cases stepped
      | some session =>
          simp only [redisStep] at stepped
          cases freed : Redis.destruct session with
          | error fault => simp [freed] at stepped
          | ok table =>
              simp only [freed] at stepped
              cases stepped
              rfl

section Runs

variable {parseIcd : String → List DataNode} {data : ConfigData}
  {inputs : List (Thread × RedisOperation)}
  {final : System Thread (Option Session) SetCommand}

theorem log_keys
    (issued : ∀ input ∈ inputs, input.2.StoresFor parseIcd data input.1)
    (reached : run (System.step redisStep) noObjects inputs = .ok final)
    {item : Thread × SetCommand} (member : item ∈ final.log) :
    ∃ (source : Source) (key : String), source.thread = item.1 ∧
      source.key? parseIcd data = some key ∧ item.2.key = cStr key := by
  rcases System.mem_log_of_run reached member with before | added
  · cases before
  · obtain ⟨operation, object, next, entries, listed, stepped, inside⟩ := added
    rw [redisStep_entries stepped] at inside
    cases operation with
    | construct constructor environment => cases inside
    | destruct => cases inside
    | store call environment =>
        have sent : call.command? = some item.2 := by
          have kept := Option.mem_toList.mp inside
          exact (Option.filter_eq_some_iff.mp kept).1
        exact issued _ listed item.2 sent

/-- Redis holds under the key of a source what the thread of the source would
have left there alone. -/
theorem heldValue_alone (apart : ThreadsApart parseIcd data)
    (issued : ∀ input ∈ inputs, input.2.StoresFor parseIcd data input.1)
    (reached : run (System.step redisStep) noObjects inputs = .ok final)
    {source : Source} {key : String}
    (keyed : source.key? parseIcd data = some key) :
    heldValue (final.log.map Prod.snd) (cStr key) =
      heldValue (ofComponent source.thread final.log) (cStr key) := by
  have owned : ∀ item ∈ final.log, item.2.key = cStr key →
      item.1 = source.thread := by
    intro item member same
    obtain ⟨other, otherKey, thread, found, under⟩ :=
      log_keys issued reached member
    rw [← thread]
    exact apart other source otherKey key found keyed (under.symm.trans same)
  have newest := find?_ofComponent SetCommand.key owned
  unfold heldValue
  rw [← newest, List.find?_map, Option.map_map, Option.map_map]
  rfl

theorem alone_executed {object : Option Session} {log : List SetCommand}
    {operations : List RedisOperation} {last : Option Session × List SetCommand}
    (reached : run (System.aloneStep redisStep) (object, log) operations =
      .ok last) :
    last.2 = (operations.filterMap RedisOperation.executed?).reverse ++ log := by
  induction operations generalizing object log with
  | nil =>
      cases reached
      rfl
  | cons operation operations induction =>
      simp only [run, System.aloneStep] at reached
      cases stepped : redisStep object operation with
      | error fault => simp [stepped] at reached
      | ok pair =>
          obtain ⟨next, entries⟩ := pair
          simp only [stepped] at reached
          rw [induction reached, redisStep_entries stepped]
          cases sent : operation.executed? with
          | none => simp [sent]
          | some command => simp [sent]

theorem thread_log
    (reached : run (System.step redisStep) noObjects inputs = .ok final)
    (thread : Thread) :
    ofComponent thread final.log =
      ((ofComponent thread inputs).filterMap RedisOperation.executed?).reverse := by
  have own := alone_executed (System.run_component reached thread)
  simpa [System.view, noObjects] using own

end Runs

/-- In any interleaving of the threads of a loaded configuration, Redis holds
for every source what the thread of the source stored last, as if the thread
were alone; and the run completes exactly if each thread alone does. -/
theorem threads_as_if_alone (decoder : ScalarDecoder)
    (files : List (Except YamlException Yaml))
    (parseIcd : String → List DataNode)
    (apart : ThreadsApart parseIcd (configAfter decoder files))
    (inputs : List (Thread × RedisOperation))
    (issued : ∀ input ∈ inputs,
      input.2.StoresFor parseIcd (configAfter decoder files) input.1) :
    ((∃ final, run (System.step redisStep) noObjects inputs = .ok final) ↔
      ∀ thread, ∃ last, run (System.aloneStep redisStep) (none, [])
        (ofComponent thread inputs) = .ok last) ∧
    ∀ final, run (System.step redisStep) noObjects inputs = .ok final →
      ∀ (source : Source) (key : String),
        source.key? parseIcd (configAfter decoder files) = some key →
        heldValue (final.log.map Prod.snd) (cStr key) =
          heldValue ((ofComponent source.thread inputs).filterMap
            RedisOperation.executed?).reverse (cStr key) := by
  refine ⟨System.run_completes_iff, ?_⟩
  intro final reached source key found
  rw [heldValue_alone apart issued reached found, thread_log reached]

/-- Point `p` of device `a` and point `q` of device `b`. -/
def twoDevices : List (Except YamlException Yaml) :=
  [.ok (modbusDocument [modbusNodeOf "a" "p", modbusNodeOf "b" "q"])]

private theorem twoDevices_modbus :
    ∃ first second, (configAfter sampleDecoder twoDevices).modbus =
        Function.update (Function.update (fun _ => none) "a" (some first)) "b"
          (some second) ∧
      first.deviceId = "a" ∧ first.dataPoints.map (·.name) = ["p"] ∧
      second.deviceId = "b" ∧ second.dataPoints.map (·.name) = ["q"] :=
  ⟨_, _, rfl, rfl, by decide, rfl, by decide⟩

theorem twoDevices_points {deviceId : String} {device : ConfigDataModbus}
    (found : (configAfter sampleDecoder twoDevices).modbus deviceId = some device) :
    deviceId = "a" ∧ device.dataPoints.map (·.name) = ["p"] ∨
      deviceId = "b" ∧ device.dataPoints.map (·.name) = ["q"] := by
  obtain ⟨first, second, table, _, names, _, otherNames⟩ := twoDevices_modbus
  rw [table] at found
  by_cases last : deviceId = "b"
  · subst last
    rw [Function.update_self] at found
    cases found
    exact Or.inr ⟨rfl, otherNames⟩
  · rw [Function.update_of_ne last] at found
    by_cases here : deviceId = "a"
    · subst here
      rw [Function.update_self] at found
      cases found
      exact Or.inl ⟨rfl, names⟩
    · rw [Function.update_of_ne here] at found
      cases found

theorem twoDevices_iec61850 :
    (configAfter sampleDecoder twoDevices).iec61850 = fun _ => none := rfl

private theorem twoDevices_key {source : Source} {key : String}
    (found : source.key? (fun _ => []) (configAfter sampleDecoder twoDevices) =
      some key) :
    source = .modbus "a" 0 ∧ key = "modbus_data:a:p" ∨
      source = .modbus "b" 0 ∧ key = "modbus_data:b:q" := by
  cases source with
  | iec61850 deviceId path => simp [Source.key?, twoDevices_iec61850] at found
  | modbus deviceId index =>
      obtain ⟨device, point, present, atIndex, rfl⟩ :=
        (key?_modbus_iff (configAfter_keyed _ _)).mp found
      have nameAt : (device.dataPoints.map (·.name))[index]? = some point.name := by
        rw [List.getElem?_map, atIndex]
        rfl
      rcases twoDevices_points present with ⟨rfl, names⟩ | ⟨rfl, names⟩
      · rw [names] at nameAt
        cases index with
        | zero =>
            have name : "p" = point.name := Option.some.inj nameAt
            rw [← name]
            exact Or.inl ⟨rfl, by decide⟩
        | succ index => cases nameAt
      · rw [names] at nameAt
        cases index with
        | zero =>
            have name : "q" = point.name := Option.some.inj nameAt
            rw [← name]
            exact Or.inr ⟨rfl, by decide⟩
        | succ index => cases nameAt

/-- The two threads take turns, each with an object of its own. -/
def turnsTaken : List (Thread × RedisOperation) :=
  [(.modbus "a", .construct (.unix "redis.sock") executing),
    (.modbus "b", .construct (.unix "redis.sock") executing),
    (.modbus "a", .store (.storeInt "modbus_data:a:p" 1) executing),
    (.modbus "b", .store (.storeInt "modbus_data:b:q" 2) executing),
    (.modbus "a", .destruct), (.modbus "b", .destruct)]

theorem turnsTaken_issued : ∀ input ∈ turnsTaken,
    input.2.StoresFor (fun _ => []) (configAfter sampleDecoder twoDevices)
      input.1 := by
  simp only [turnsTaken, List.forall_mem_cons]
  refine ⟨trivial, trivial, ?_, ?_, trivial, trivial, by simp⟩
  · intro command sent
    cases sent
    exact ⟨.modbus "a" 0, "modbus_data:a:p", rfl, by decide, rfl⟩
  · intro command sent
    cases sent
    exact ⟨.modbus "b" 0, "modbus_data:b:q", rfl, by decide, rfl⟩

theorem twoDevices_whole :
    KeysWhole (fun _ => []) (configAfter sampleDecoder twoDevices) := by
  intro source key found
  rcases twoDevices_key found with ⟨_, rfl⟩ | ⟨_, rfl⟩ <;> decide

private theorem twoDevices_ids : NoNestedIds (configAfter sampleDecoder twoDevices) := by
  intro shorter device longer other middle found otherFound nested
  have lengths := congrArg String.length nested
  have colon : (":" : String).length = 1 := rfl
  have first : ("a" : String).length = 1 := rfl
  have second : ("b" : String).length = 1 := rfl
  rw [String.length_append, String.length_append] at lengths
  rcases twoDevices_points found with ⟨rfl, _⟩ | ⟨rfl, _⟩ <;>
    rcases twoDevices_points otherFound with ⟨rfl, _⟩ | ⟨rfl, _⟩ <;> omega

private theorem twoDevices_paths :
    PathsDistinct (fun _ => []) (configAfter sampleDecoder twoDevices) := by
  intro firstId first secondId second path found
  rw [twoDevices_iec61850] at found
  cases found

private theorem twoDevices_foreign :
    NoModbusPath (fun _ => []) (configAfter sampleDecoder twoDevices) := by
  intro deviceId device modbusId modbus path found
  rw [twoDevices_iec61850] at found
  cases found

theorem twoDevices_apart :
    ThreadsApart (fun _ => []) (configAfter sampleDecoder twoDevices) :=
  threadsApart_of_conditions (configAfter_keyed _ _) twoDevices_whole
    twoDevices_ids twoDevices_paths twoDevices_foreign

theorem threads_as_if_alone_turns : ∃ final,
    run (System.step redisStep) noObjects turnsTaken = .ok final ∧
      heldValue (final.log.map Prod.snd) (cStr "modbus_data:a:p") = some (.d 1) ∧
      heldValue (final.log.map Prod.snd) (cStr "modbus_data:b:q") =
        some (.d 2) := by
  obtain ⟨_, alone⟩ := threads_as_if_alone sampleDecoder twoDevices (fun _ => [])
    twoDevices_apart turnsTaken turnsTaken_issued
  refine ⟨_, rfl, ?_, ?_⟩
  · rw [alone _ rfl (.modbus "a" 0) "modbus_data:a:p" (by decide)]
    rfl
  · rw [alone _ rfl (.modbus "b" 0) "modbus_data:b:q" (by decide)]
    rfl

end DataGateway
