import DataGateway.Config.DeviceGrammar
import DataGateway.Modbus.Requests
import DataGateway.SharedRedis

/-!
# From the registers of a device to Redis

One pass over a Modbus device whose points fill a block of registers, seen at
the other end: whatever the other threads do meanwhile, Redis holds for every
point the value that its own registers had.
-/

namespace DataGateway

open Config Foundation Iec61850 Modbus Redis

/-- What `processUserData` does with the writes of a range: it makes an object,
stores with it and leaves its scope. -/
def IsVisit (polled : Polled) (operations : List RedisOperation) : Prop :=
  ∃ constructor environment, ∃ stores : List (StoreCall × Redis.Environment),
    operations = .construct constructor environment ::
      stores.map (fun store => .store store.1 store.2) ++ [.destruct] ∧
    stores.map Prod.fst = polled.writes.filterMap UserWrite.call

/-- Redis executes the `SET` of the operation, if it has one. -/
def RedisOperation.Executed : RedisOperation → Prop
  | .store _ environment => ∀ command, (environment.set command).executed = true
  | .construct _ _ | .destruct => True

theorem stores_commands {stores : List (StoreCall × Redis.Environment)}
    (executed : ∀ store ∈ stores, ∀ command,
      (store.2.set command).executed = true) :
    (stores.map fun store => RedisOperation.store store.1 store.2).filterMap
        RedisOperation.executed? =
      (stores.map Prod.fst).filterMap StoreCall.command? := by
  rw [List.filterMap_map, List.filterMap_map]
  apply List.filterMap_congr
  intro store member
  simp only [Function.comp, RedisOperation.executed?]
  cases sent : store.1.command? with
  | none => rfl
  | some command =>
      rw [Option.filter_some, if_pos (executed store member command)]

private theorem visit_commands {polled : Polled} {operations : List RedisOperation}
    (visit : IsVisit polled operations)
    (executed : ∀ operation ∈ operations, operation.Executed) :
    operations.filterMap RedisOperation.executed? =
      (polled.writes.filterMap UserWrite.call).filterMap StoreCall.command? := by
  obtain ⟨constructor, environment, stores, rfl, calls⟩ := visit
  have stored : ∀ store ∈ stores, ∀ command,
      (store.2.set command).executed = true := by
    intro store member
    apply executed (.store store.1 store.2)
    apply List.mem_append_left
    exact List.mem_cons_of_mem _ (List.mem_map.mpr ⟨store, member, rfl⟩)
  have scope : List.filterMap RedisOperation.executed? [.destruct] = [] := rfl
  rw [← calls, ← stores_commands stored, List.filterMap_append, scope,
    List.append_nil]
  rfl

theorem heldValue_of_unique {recent earlier : List SetCommand}
    {command : SetCommand} (member : command ∈ recent)
    (unique : ∀ other ∈ recent, other.key = command.key → other = command) :
    heldValue (recent ++ earlier) command.key = some command.argument := by
  have found : (recent ++ earlier).find? (·.key = command.key) = some command := by
    rw [List.find?_append]
    cases first : recent.find? (·.key = command.key) with
    | none =>
        have absent := List.find?_eq_none.mp first command member
        simp at absent
    | some other =>
        have same := List.find?_some first
        have inside := List.mem_of_find?_eq_some first
        rw [unique other inside (by simpa using same)]
        rfl
  simp [heldValue, found]

section Block

variable {deviceId : String} {image : Nat → UInt16}
  {head : ConfigDataModbus.DataPoint} {rest : List ConfigDataModbus.DataPoint}

/-- The store call that the own registers of a point amount to. -/
def ownCall (image : Nat → UInt16) (deviceId : String)
    (point : ConfigDataModbus.DataPoint) : Option StoreCall :=
  (decodePoint (redisKey deviceId point.name) ((ownAddresses point).map image) 0
    point.dataType).bind (·.1.call)

private theorem ownCall_isSome (image : Nat → UInt16) (deviceId : String)
    {point : ConfigDataModbus.DataPoint} (known : (cells? point).isSome) :
    (ownCall image deviceId point).isSome := by
  unfold ownCall ownAddresses
  unfold cells? at known ⊢
  cases type : point.dataType <;> rw [type] at known <;> cases known <;> rfl

/-- In a block of registers the writes hold the own call of every point, and no
other write has its key. -/
theorem block_writes (image : Nat → UInt16) (known : KnownTypes (head :: rest))
    (consecutive : Consecutive address cells? (head :: rest))
    (distinct : ((head :: rest).map fun point =>
      redisKey deviceId point.name).Nodup)
    (narrow : NoWideInteger (head :: rest))
    {point : ConfigDataModbus.DataPoint} (member : point ∈ head :: rest) :
    ∃ write ∈ (firstPolled image deviceId head rest).writes,
      write.key = redisKey deviceId point.name ∧
      write.call = ownCall image deviceId point ∧
      ∀ other ∈ (firstPolled image deviceId head rest).writes,
        other.key = write.key → other = write := by
  have own : WrittenFromOwnWords image deviceId
      [firstPolled image deviceId head rest] point :=
    (writtenFromOwnWords_iff known consecutive distinct member).mpr
      (narrow point member)
  obtain ⟨range, write, last, _, call⟩ := own
  have inside := List.mem_filter.mp (List.mem_of_getLast? last)
  obtain ⟨written, _⟩ : write ∈ (firstPolled image deviceId head rest).writes ∧
      (firstPolled image deviceId head rest).range = range := by
    simpa using inside.1
  have key : write.key = redisKey deviceId point.name := by
    simpa using inside.2
  refine ⟨write, written, key, call, ?_⟩
  have keys : ((firstPolled image deviceId head rest).writes.map
      UserWrite.key).Nodup := by
    have all := processUserData_keys deviceId
      (imageWords image (address head) (firstCount head rest)) 0 (head :: rest)
      known
    exact all ▸ distinct
  intro other listed same
  exact List.inj_on_of_nodup_map keys listed written same

theorem visit_heldValue {polled : Polled} {operations : List RedisOperation}
    (visit : IsVisit polled operations)
    (executed : ∀ operation ∈ operations, operation.Executed)
    (sends : ∀ write ∈ polled.writes, ∀ call, write.call = some call →
      ∃ argument, call.command? = some ⟨write.key, argument⟩)
    {write : UserWrite} (member : write ∈ polled.writes)
    (unique : ∀ other ∈ polled.writes, other.key = write.key → other = write)
    {call : StoreCall} (made : write.call = some call)
    (earlier : List SetCommand) :
    ∃ argument, call.command? = some ⟨write.key, argument⟩ ∧
      heldValue ((operations.filterMap RedisOperation.executed?).reverse ++
        earlier) write.key = some argument := by
  obtain ⟨argument, sent⟩ := sends write member call made
  refine ⟨argument, sent, ?_⟩
  rw [visit_commands visit executed]
  let commands := (polled.writes.filterMap UserWrite.call).filterMap
    StoreCall.command?
  have listed : (⟨write.key, argument⟩ : SetCommand) ∈ commands :=
    List.mem_filterMap.mpr
      ⟨call, List.mem_filterMap.mpr ⟨write, member, made⟩, sent⟩
  have alone : ∀ other ∈ commands.reverse, other.key = write.key →
      other = ⟨write.key, argument⟩ := by
    intro other inside same
    obtain ⟨otherCall, otherListed, otherSent⟩ :=
      List.mem_filterMap.mp (List.mem_reverse.mp inside)
    obtain ⟨otherWrite, otherMember, otherMade⟩ := List.mem_filterMap.mp otherListed
    obtain ⟨value, printed⟩ := sends otherWrite otherMember otherCall otherMade
    cases otherSent.symm.trans printed
    have equal := unique otherWrite otherMember same
    subst equal
    cases otherMade.symm.trans made
    exact Option.some.inj (otherSent.symm.trans sent)
  exact heldValue_of_unique (List.mem_reverse.mpr listed) alone

section Pass

variable {σ : Type*} {config : ConfigDataModbus} {sorter : AddressSort}
  {readRegisters : σ → UInt16 → Nat → σ × Option (List UInt16)} {state : σ}

theorem block_trace (known : KnownTypes config.dataPoints)
    (block : OneBlock config.dataPoints)
    (arranged : sorter.sort config.dataPoints = head :: rest)
    (answered : AnsweredFrom image
      (processContinuousRegisters sorter readRegisters config state).1) :
    (processContinuousRegisters sorter readRegisters config state).1 =
      [firstPolled image config.deviceId head rest] := by
  have sortedKnown : KnownTypes (head :: rest) :=
    arranged ▸ sorter.forall_mem_iff.mpr known
  have nonempty : config.dataPoints.isEmpty = false := by
    rw [← (sorter.perm config.dataPoints).isEmpty_eq, arranged]
    rfl
  have polls : processContinuousRegisters sorter readRegisters config state =
      pollLoop readRegisters config.deviceId (head :: rest) 0 state := by
    simp [processContinuousRegisters, nonempty, arranged]
  rw [polls] at answered ⊢
  obtain ⟨more, trace, alone⟩ := pollLoop_first sortedKnown state answered
  rw [trace, alone (arranged ▸ (oneBlock_iff_sorted sorter known).mp block)]

/-- A thread that ends with a whole pass leaves the values of the points' own
registers on a server of its own. -/
theorem block_pass_heldValue
    (names : (config.dataPoints.map (·.name)).Nodup)
    (known : KnownTypes config.dataPoints) (block : OneBlock config.dataPoints)
    (narrow : NoWideInteger config.dataPoints)
    (uncut : ∀ point ∈ config.dataPoints,
      cStr (redisKey config.deviceId point.name) =
        redisKey config.deviceId point.name)
    (answered : AnsweredFrom image
      (processContinuousRegisters sorter readRegisters config state).1)
    (earlier : List RedisOperation) {visits : List (List RedisOperation)}
    (visited : List.Forall₂ IsVisit
      (processContinuousRegisters sorter readRegisters config state).1 visits)
    (executed : ∀ operations ∈ visits, ∀ operation ∈ operations,
      operation.Executed)
    {point : ConfigDataModbus.DataPoint} (member : point ∈ config.dataPoints) :
    ∃ call argument, ownCall image config.deviceId point = some call ∧
      call.command? = some ⟨redisKey config.deviceId point.name, argument⟩ ∧
      heldValue (((earlier ++ visits.flatten).filterMap
          RedisOperation.executed?).reverse) (redisKey config.deviceId point.name) =
        some argument := by
  have permutation := sorter.perm config.dataPoints
  cases arranged : sorter.sort config.dataPoints with
  | nil =>
      have inSorted := permutation.mem_iff.mpr member
      rw [arranged] at inSorted
      cases inSorted
  | cons head rest =>
      have sortedKnown : KnownTypes (head :: rest) :=
        arranged ▸ sorter.forall_mem_iff.mpr known
      have sortedNarrow : NoWideInteger (head :: rest) :=
        arranged ▸ sorter.forall_mem_iff.mpr narrow
      have sortedUncut : ∀ other ∈ head :: rest,
          cStr (redisKey config.deviceId other.name) =
            redisKey config.deviceId other.name :=
        arranged ▸ sorter.forall_mem_iff.mpr uncut
      have consecutive : Consecutive address cells? (head :: rest) :=
        arranged ▸ (oneBlock_iff_sorted sorter known).mp block
      have distinct : ((head :: rest).map fun other =>
          redisKey config.deviceId other.name).Nodup :=
        arranged ▸ (permutation.map _).nodup_iff.mpr
          (redisKey_nodup config.deviceId names)
      have inSorted : point ∈ head :: rest :=
        arranged ▸ permutation.mem_iff.mpr member
      rw [block_trace known block arranged answered] at visited
      obtain ⟨operations, others, visit, last, rfl⟩ :=
        List.forall₂_cons_left_iff.mp visited
      cases last
      obtain ⟨write, written, key, call, unique⟩ := block_writes image
        sortedKnown consecutive distinct sortedNarrow inSorted
      obtain ⟨own, made⟩ := Option.isSome_iff_exists.mp
        (ownCall_isSome image config.deviceId (known point member))
      have sends : ∀ other ∈ (firstPolled image config.deviceId head rest).writes,
          ∀ sent, other.call = some sent →
          ∃ argument, sent.command? = some ⟨other.key, argument⟩ := by
        intro other listed sent otherMade
        obtain ⟨⟨further, inside, same⟩, prints⟩ := processUserData_key listed
        obtain ⟨argument, printed⟩ := prints sent otherMade
        rw [same, sortedUncut further inside, ← same] at printed
        exact ⟨argument, printed⟩
      obtain ⟨argument, sent, held⟩ := visit_heldValue visit
        (executed operations (by simp)) sends written unique (call.trans made)
        (earlier.filterMap RedisOperation.executed?).reverse
      rw [key] at sent held
      exact ⟨own, argument, made, sent, by simpa using held⟩

end Pass

end Block

/-- In any interleaving of the threads, once a Modbus thread has completed a
pass over a block of registers and Redis has executed its `SET`s, Redis holds
for every point of the device the value of the point's own registers. -/
theorem block_device_delivered (decoder : ScalarDecoder)
    (files : List (Except YamlException Yaml))
    (parseIcd : String → List DataNode)
    (apart : ThreadsApart parseIcd (configAfter decoder files))
    (whole : KeysWhole parseIcd (configAfter decoder files))
    {deviceId : String} {config : ConfigDataModbus}
    (found : (configAfter decoder files).modbus deviceId = some config)
    (names : (config.dataPoints.map (·.name)).Nodup)
    (block : OneBlock config.dataPoints) (narrow : NoWideInteger config.dataPoints)
    {σ : Type*} (sorter : AddressSort) (image : Nat → UInt16)
    (readRegisters : σ → UInt16 → Nat → σ × Option (List UInt16)) (state : σ)
    (answered : AnsweredFrom image
      (processContinuousRegisters sorter readRegisters config state).1)
    {inputs : List (Thread × RedisOperation)}
    {final : System Thread (Option Session) SetCommand}
    (issued : ∀ input ∈ inputs,
      input.2.StoresFor parseIcd (configAfter decoder files) input.1)
    (reached : run (System.step redisStep) noObjects inputs = .ok final)
    {earlier : List RedisOperation} {visits : List (List RedisOperation)}
    (pass : ofComponent (.modbus deviceId) inputs = earlier ++ visits.flatten)
    (visited : List.Forall₂ IsVisit
      (processContinuousRegisters sorter readRegisters config state).1 visits)
    (executed : ∀ operations ∈ visits, ∀ operation ∈ operations,
      operation.Executed) :
    ∀ point ∈ config.dataPoints, ∃ call argument,
      ownCall image deviceId point = some call ∧
      call.command? = some ⟨redisKey deviceId point.name, argument⟩ ∧
      heldValue (final.log.map Prod.snd) (redisKey deviceId point.name) =
        some argument := by
  have keyed := configAfter_keyed decoder files
  have sameId : config.deviceId = deviceId := keyed.modbus deviceId config found
  subst sameId
  obtain ⟨node, parsed⟩ := configAfter_modbusParsed decoder files _ config found
  have known : KnownTypes config.dataPoints := parseModbusDevice_knownTypes parsed
  intro point member
  have pointKey : ∀ point ∈ config.dataPoints, ∃ index,
      (Source.modbus config.deviceId index).key? parseIcd
        (configAfter decoder files) =
          some (redisKey config.deviceId point.name) := by
    intro point member
    obtain ⟨index, atIndex⟩ := List.mem_iff_getElem?.mp member
    exact ⟨index, (key?_modbus_iff keyed).mpr
      ⟨config, point, found, atIndex, rfl⟩⟩
  have uncut : ∀ point ∈ config.dataPoints,
      cStr (redisKey config.deviceId point.name) =
        redisKey config.deviceId point.name := by
    intro point member
    obtain ⟨index, source⟩ := pointKey point member
    exact whole _ _ source
  obtain ⟨call, argument, made, sent, held⟩ := block_pass_heldValue names known
    block narrow uncut answered earlier visited executed member
  refine ⟨call, argument, made, sent, ?_⟩
  obtain ⟨index, source⟩ := pointKey point member
  have value := heldValue_alone apart issued reached source
  rw [uncut point member, Source.thread, thread_log reached, pass] at value
  exact value.trans held

section Nodes

variable {VarSpec : Type*} {reads : Nat → ReadOutcome} {nodes : List DataNode}
  {node : DataNode} {outcome : ReadOutcome} {scalar : MmsScalar}

theorem readPass_scalar (library : MmsLibrary VarSpec)
    (taken : (node, outcome) ∈ passReads reads 0 nodes)
    (read : outcome.read? = some (.scalar scalar))
    (unique : ∀ other ∈ passReads reads 0 nodes,
      cStr other.1.path = cStr node.path → other = (node, outcome)) :
    ∃ argument, (scalar.storeCall node.path).command? =
        some ⟨cStr node.path, argument⟩ ∧
      ⟨cStr node.path, argument⟩ ∈
        (readPass library reads 0 nodes).filterMap StoreCall.command? ∧
      ∀ command ∈ (readPass library reads 0 nodes).filterMap
        StoreCall.command?, command.key = cStr node.path →
          command = ⟨cStr node.path, argument⟩ := by
  have polled : node.polled = true := (mem_of_passReads taken).2
  have own : readNode library outcome node = [scalar.storeCall node.path] := by
    simp [readNode, polled, read, contains_of_polled polled]
  obtain ⟨_, argument, sent⟩ := readNode_key
    (own ▸ List.mem_singleton_self _ :
      scalar.storeCall node.path ∈ readNode library outcome node)
  rw [readPass_eq_flatMap]
  refine ⟨argument, sent, ?_, ?_⟩
  · apply List.mem_filterMap.mpr
    refine ⟨scalar.storeCall node.path, ?_, sent⟩
    exact List.mem_flatMap.mpr
      ⟨(node, outcome), taken, own ▸ List.mem_singleton_self _⟩
  · intro command inside same
    obtain ⟨call, member, made⟩ := List.mem_filterMap.mp inside
    obtain ⟨other, otherTaken, otherMade⟩ := List.mem_flatMap.mp member
    obtain ⟨_, value, printed⟩ := readNode_key otherMade
    cases made.symm.trans printed
    rw [unique other otherTaken same, own] at otherMade
    cases List.mem_singleton.mp otherMade
    exact Option.some.inj (made.symm.trans sent)

end Nodes

/-- In any interleaving of the threads, once an IEC 61850 thread has completed a
pass and Redis has executed its `SET`s, Redis holds the scalar that was read at
every polled node, as long as the polled paths of the device are different. -/
theorem polled_node_delivered (decoder : ScalarDecoder)
    (files : List (Except YamlException Yaml))
    (parseIcd : String → List DataNode)
    (apart : ThreadsApart parseIcd (configAfter decoder files))
    (whole : KeysWhole parseIcd (configAfter decoder files))
    {deviceId : String} {device : ConfigDataIEC61850}
    (found : (configAfter decoder files).iec61850 deviceId = some device)
    {VarSpec : Type*} (library : MmsLibrary VarSpec)
    (reads : Nat → ReadOutcome) {inputs : List (Thread × RedisOperation)}
    {final : System Thread (Option Session) SetCommand}
    (issued : ∀ input ∈ inputs,
      input.2.StoresFor parseIcd (configAfter decoder files) input.1)
    (reached : run (System.step redisStep) noObjects inputs = .ok final)
    {earlier : List RedisOperation}
    {stores : List (StoreCall × Redis.Environment)}
    (pass : ofComponent (.iec61850 deviceId) inputs =
      earlier ++ stores.map fun store => .store store.1 store.2)
    (calls : stores.map Prod.fst =
      readPass library reads 0 (parseIcd device.icdFilePath))
    (executed : ∀ store ∈ stores, ∀ command,
      (store.2.set command).executed = true)
    {node : DataNode} {outcome : ReadOutcome}
    (taken : (node, outcome) ∈ passReads reads 0 (parseIcd device.icdFilePath))
    (unique : ∀ other ∈ passReads reads 0 (parseIcd device.icdFilePath),
      other.1.path = node.path → other = (node, outcome))
    {scalar : MmsScalar} (read : outcome.read? = some (.scalar scalar)) :
    ∃ argument, (scalar.storeCall node.path).command? =
        some ⟨node.path, argument⟩ ∧
      heldValue (final.log.map Prod.snd) node.path = some argument := by
  have pathKey : ∀ other ∈ passReads reads 0 (parseIcd device.icdFilePath),
      (Source.iec61850 deviceId other.1.path).key? parseIcd
        (configAfter decoder files) = some other.1.path := by
    intro other otherTaken
    obtain ⟨listed, polled⟩ := mem_of_passReads otherTaken
    refine key?_iec61850_iff.mpr ⟨device, found, ?_, rfl⟩
    exact List.any_eq_true.mpr ⟨other.1, listed, by simp [polled]⟩
  have uncut : ∀ other ∈ passReads reads 0 (parseIcd device.icdFilePath),
      cStr other.1.path = other.1.path := fun other otherTaken =>
    whole _ _ (pathKey other otherTaken)
  have ownUncut : cStr node.path = node.path := uncut (node, outcome) taken
  obtain ⟨argument, sent, member, alone⟩ := readPass_scalar library taken read (by
    intro other otherTaken same
    rw [uncut other otherTaken, ownUncut] at same
    exact unique other otherTaken same)
  rw [ownUncut] at sent member alone
  refine ⟨argument, sent, ?_⟩
  have value := heldValue_alone apart issued reached
    (pathKey (node, outcome) taken)
  rw [ownUncut, Source.thread, thread_log reached, pass,
    List.filterMap_append, stores_commands executed, calls,
    List.reverse_append] at value
  rw [value]
  apply heldValue_of_unique (List.mem_reverse.mpr member)
  intro other inside same
  exact alone other (List.mem_reverse.mp inside) same

/-- Point `p` as the loader reads it. -/
def pointP : ConfigDataModbus.DataPoint :=
  { name := "p"
    address := 1
    type := "holding"
    dataType := .int16
    scale := 1
    offset := 1 }

private theorem twoDevices_first : ∃ config,
    (configAfter sampleDecoder twoDevices).modbus "a" = some config ∧
      config.deviceId = "a" ∧ config.dataPoints = [pointP] :=
  ⟨_, rfl, rfl, rfl⟩

def traceOfP : List Polled :=
  [{ range := { startAddr := 1, count := 1, endIndex := 0 }
     buffer := some [1]
     writes :=
       [⟨"modbus_data:a:p", [0], some (.storeInt "modbus_data:a:p" 1)⟩] }]

private theorem pollLoop_pointP :
    (pollLoop countingDevice "a" [pointP] 0 ()).1 = traceOfP := by
  have range : findContinuousRegisters [pointP] 0 =
      { startAddr := 1, count := 1, endIndex := 0 } := rfl
  rw [pollLoop, dif_pos (by decide)]
  simp only [range]
  rw [pollLoop, dif_neg (by decide)]
  rfl

theorem block_device_delivered_turns : ∃ final,
    run (System.step redisStep) noObjects turnsTaken = .ok final ∧
      heldValue (final.log.map Prod.snd) (redisKey "a" "p") = some (.d 1) := by
  obtain ⟨config, found, sameId, points⟩ := twoDevices_first
  have narrow : NoWideInteger config.dataPoints := by
    rw [points]
    unfold NoWideInteger
    decide
  have trace : (processContinuousRegisters insertionSorter countingDevice config
      ()).1 = traceOfP := by
    simp only [processContinuousRegisters, sameId, points]
    exact pollLoop_pointP
  have answered : AnsweredFrom UInt16.ofNat (processContinuousRegisters
      insertionSorter countingDevice config ()).1 := by
    rw [trace]
    intro polled member
    cases List.mem_singleton.mp member
    rfl
  let visit : List RedisOperation :=
    [.construct (.unix "redis.sock") executing,
      .store (.storeInt "modbus_data:a:p" 1) executing, .destruct]
  have visited : List.Forall₂ IsVisit (processContinuousRegisters
      insertionSorter countingDevice config ()).1 [visit] := by
    rw [trace]
    refine .cons ?_ .nil
    exact ⟨.unix "redis.sock", executing,
      [(.storeInt "modbus_data:a:p" 1, executing)], rfl, rfl⟩
  have executed : ∀ operations ∈ [visit], ∀ operation ∈ operations,
      operation.Executed := by
    simp [visit, RedisOperation.Executed, executing]
  have issued : ∀ input ∈ turnsTaken, input.2.StoresFor (fun _ => [])
      (configAfter sampleDecoder twoDevices) input.1 := by
    have others := turnsTaken_issued
    simp only [turnsTaken, List.forall_mem_cons] at others ⊢
    obtain ⟨first, second, _, rest⟩ := others
    refine ⟨first, second, ?_, rest⟩
    have turn : traceOfP.head (by decide) ∈ (processContinuousRegisters
        insertionSorter countingDevice config ()).1 := by
      rw [trace]
      exact List.head_mem _
    exact modbus_writes_storesFor found insertionSorter countingDevice () turn
      (List.mem_singleton_self _) rfl executing
  have pass : ofComponent (.modbus "a") turnsTaken = [] ++ [visit].flatten := rfl
  obtain ⟨call, argument, made, sent, held⟩ := block_device_delivered
    sampleDecoder twoDevices (fun _ => []) twoDevices_apart twoDevices_whole found
    (by rw [points]; decide)
    ⟨_, .refl _, by rw [points]; rfl⟩ narrow insertionSorter UInt16.ofNat
    countingDevice () answered issued rfl pass visited executed pointP
    (by simp [points])
  refine ⟨_, rfl, ?_⟩
  cases made
  cases sent
  exact held

/-- A file with one IEC 61850 device. -/
def oneServer : List (Except YamlException Yaml) :=
  [.ok (iec61850Document fullNode)]

private theorem oneServer_iec61850 : ∃ device,
    (configAfter sampleDecoder oneServer).iec61850 =
      Function.update (fun _ => none) "ied" (some device) :=
  ⟨_, rfl⟩

private theorem oneServer_device {deviceId : String} {device : ConfigDataIEC61850}
    (found : (configAfter sampleDecoder oneServer).iec61850 deviceId = some device) :
    deviceId = "ied" := by
  obtain ⟨only, table⟩ := oneServer_iec61850
  rw [table] at found
  by_contra other
  rw [Function.update_of_ne other] at found
  cases found

theorem oneServer_modbus (deviceId : String) :
    (configAfter sampleDecoder oneServer).modbus deviceId = none := rfl

private theorem oneServer_polls {path : String} {device : ConfigDataIEC61850}
    (polled : pollsPath (fun _ => [supDevRun]) device path) :
    path = supDevRun.path := by
  obtain ⟨node, listed, same⟩ := List.any_eq_true.mp polled
  cases List.mem_singleton.mp listed
  exact (beq_iff_eq.mp (Bool.and_eq_true_iff.mp same).2).symm

private theorem oneServer_source {source : Source} {key : String}
    (keyed : source.key? (fun _ => [supDevRun]) (configAfter sampleDecoder oneServer) =
      some key) : source.thread = .iec61850 "ied" ∧ key = supDevRun.path := by
  cases source with
  | modbus deviceId index => simp [Source.key?, oneServer_modbus] at keyed
  | iec61850 deviceId path =>
      obtain ⟨device, found, polled, rfl⟩ := key?_iec61850_iff.mp keyed
      exact ⟨congrArg Thread.iec61850 (oneServer_device found), oneServer_polls polled⟩

private theorem oneServer_apart :
    ThreadsApart (fun _ => [supDevRun]) (configAfter sampleDecoder oneServer) := by
  intro first second key other firstKey secondKey _
  exact (oneServer_source firstKey).1.trans (oneServer_source secondKey).1.symm

private theorem oneServer_whole :
    KeysWhole (fun _ => [supDevRun]) (configAfter sampleDecoder oneServer) := by
  intro source key keyed
  rw [(oneServer_source keyed).2]
  decide

/-- One pass in which the only node holds a boolean. -/
def booleanPass : List (Thread × RedisOperation) :=
  [(.iec61850 "ied", .construct (.unix "redis.sock") executing),
    (.iec61850 "ied",
      .store (.storeBool supDevRun.path true) executing)]

theorem polled_node_delivered_boolean : ∃ final,
    run (System.step redisStep) noObjects booleanPass = .ok final ∧
      heldValue (final.log.map Prod.snd) supDevRun.path =
        some (.d 1) := by
  let parseIcd : String → List DataNode := fun _ => [supDevRun]
  let outcome : ReadOutcome :=
    { ok := true
      value := some (.scalar (.boolean true)) }
  obtain ⟨device, table⟩ := oneServer_iec61850
  have found : (configAfter sampleDecoder oneServer).iec61850 "ied" =
      some device := by
    rw [table, Function.update_self]
  have polled : supDevRun.polled = true := by decide
  have calls : [(StoreCall.storeBool supDevRun.path true,
      executing)].map Prod.fst =
        readPass noSubElements (fun _ => outcome) 0
          (parseIcd device.icdFilePath) := by
    simp [readPass, readNode, parseIcd, polled, contains_of_polled polled,
      outcome, ReadOutcome.read?, MmsScalar.storeCall]
  have issued : ∀ input ∈ booleanPass, input.2.StoresFor parseIcd
      (configAfter sampleDecoder oneServer) input.1 := by
    simp only [booleanPass, List.forall_mem_cons]
    refine ⟨trivial, ?_, by simp⟩
    exact iec61850_pass_storesFor found noSubElements (fun _ => outcome)
      (calls ▸ List.mem_singleton_self _) executing
  have pass : ofComponent (.iec61850 "ied") booleanPass =
      [.construct (.unix "redis.sock") executing] ++
        [(StoreCall.storeBool supDevRun.path true, executing)].map
          (fun store => .store store.1 store.2) := rfl
  have reads : passReads (fun _ => outcome) 0 (parseIcd device.icdFilePath) =
      [(supDevRun, outcome)] := by
    simp [passReads, parseIcd, polled]
  obtain ⟨argument, sent, held⟩ := polled_node_delivered sampleDecoder oneServer
    parseIcd oneServer_apart oneServer_whole found noSubElements (fun _ => outcome) issued rfl pass
    calls (by simp [executing]) (reads ▸ List.mem_singleton_self _)
    (by simp [reads]) rfl
  refine ⟨_, rfl, ?_⟩
  cases sent
  exact held

end DataGateway
