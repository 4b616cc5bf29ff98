import DataGateway.Config.Loader

/-!
# What a load leaves behind

`init` returns `false` only after an exception, and everything read before the
exception stays in the maps.  It returns `true` also when a section parser gave
up with `return false`, and then the devices from the rejected one on are
missing.
-/

namespace DataGateway.Config

open Foundation

/-- Some section parser throws. -/
def Raises (decoder : ScalarDecoder) (document : Yaml) : Prop :=
  (modbusSection decoder).Raises document ∨
    (iec61850Section decoder).Raises document ∨
    (iec104Section decoder).Raises document

/-- All sections of a document laid over the earlier maps. -/
def loadedOver (decoder : ScalarDecoder) (document : Yaml) (data : ConfigData) :
    ConfigData :=
  { modbus := (modbusSection decoder).applied document data.modbus
    iec61850 := (iec61850Section decoder).applied document data.iec61850
    iec104 := (iec104Section decoder).applied document data.iec104 }

/-- What a load that ended with an exception leaves: the maps of the sections
parsed so far hold the devices accepted before the exception over the earlier
entries, and the maps of the later sections are as before. -/
def KeepsReadDevices (decoder : ScalarDecoder) (document : Yaml)
    (data after : ConfigData) : Prop :=
  let loaded := loadedOver decoder document data
  (modbusSection decoder).Raises document ∧
      after = { data with modbus := loaded.modbus } ∨
    ¬(modbusSection decoder).Raises document ∧
      (iec61850Section decoder).Raises document ∧
      after = { loaded with iec104 := data.iec104 } ∨
    ¬(modbusSection decoder).Raises document ∧
      ¬(iec61850Section decoder).Raises document ∧
      (iec104Section decoder).Raises document ∧
      after = loaded

/-- A readable document is loaded completely if no section parser throws, and
up to the exception if one does. -/
theorem init_spec (decoder : ScalarDecoder) (document : Yaml)
    (before : Option ConfigData) :
    ¬Raises decoder document ∧
        init decoder (.ok document) before =
          (some (loadedOver decoder document (before.getD .empty)), true) ∨
      Raises decoder document ∧ ∃ after,
        KeepsReadDevices decoder document (before.getD .empty) after ∧
        init decoder (.ok document) before = (some after, false) := by
  simp only [init, loadConfig, parseModbusConfig, parse61850Config,
    parse104Config, Section.parse_eq, Raises, KeepsReadDevices, loadedOver,
    Section.Raises]
  cases (modbusSection decoder).outcome document with
  | error exception => simp
  | ok _ =>
      cases (iec61850Section decoder).outcome document with
      | error exception => simp
      | ok _ =>
          cases (iec104Section decoder).outcome document with
          | error exception => simp
          | ok _ => simp

section

variable {decoder : ScalarDecoder}

theorem ok_of_bind {α β : Type} {first : Except Stop α}
    {next : α → Except Stop β} {result : β}
    (done : first >>= next = .ok result) :
    ∃ value, first = .ok value ∧ next value = .ok result := by
  cases first with
  | error stop => cases done
  | ok value => exact ⟨value, rfl, done⟩

/-- The `device_id` of a device node. -/
def nodeId (node : Node) : Option String :=
  match node.get "device_id" with
  | .error _ => none
  | .ok member => member.asString.toOption

theorem nodeId_of_read {Device : Type} {node : Node} {device : Device}
    {id : Device → String} {rest : String → Except Stop Device}
    (parsed : ((liftM (node.get "device_id") : Except Stop Node) >>= fun member =>
      (liftM member.asString : Except Stop String) >>= rest) = .ok device)
    (keeps : ∀ deviceId, rest deviceId = .ok device → deviceId = id device) :
    nodeId node = some (id device) := by
  obtain ⟨member, found, parsed⟩ := ok_of_bind parsed
  obtain ⟨deviceId, text, parsed⟩ := ok_of_bind parsed
  unfold nodeId
  cases read : node.get "device_id" with
  | error exception =>
      rw [read] at found
      cases found
  | ok _ =>
      rw [read] at found
      cases found
      cases value : member.asString with
      | error exception =>
          rw [value] at text
          cases text
      | ok _ =>
          rw [value] at text
          cases text
          simp [value, Except.toOption, keeps deviceId parsed]

theorem parseModbusDevice_id (node : Node) (device : ConfigDataModbus)
    (parsed : parseModbusDevice decoder node = .ok device) :
    nodeId node = some device.deviceId := by
  unfold parseModbusDevice at parsed
  apply nodeId_of_read parsed
  intro deviceId rest
  repeat obtain ⟨_, _, rest⟩ := ok_of_bind rest
  cases rest
  rfl

theorem parse61850Device_id (node : Node) (device : ConfigDataIEC61850)
    (parsed : parse61850Device decoder node = .ok device) :
    nodeId node = some device.deviceId := by
  unfold parse61850Device at parsed
  apply nodeId_of_read parsed
  intro deviceId rest
  repeat obtain ⟨_, _, rest⟩ := ok_of_bind rest
  cases rest
  rfl

theorem parse104Device_id (node : Node) (device : ConfigDataIEC104)
    (parsed : parse104Device decoder node = .ok device) :
    nodeId node = some device.deviceId := by
  unfold parse104Device at parsed
  apply nodeId_of_read parsed
  intro deviceId rest
  repeat obtain ⟨_, _, rest⟩ := ok_of_bind rest
  cases rest
  rfl

end

section Samples

def textField (key text : String) : Yaml × Yaml := (.scalar key, .scalar text)

/-- The conversions on the few texts of the samples. -/
def sampleDecoder : ScalarDecoder :=
  { int := fun text => if text = "1" then some 1 else none
    uint16 := fun text => if text = "1" then some 1 else none
    float := fun text => if text = "1" then some 1 else none
    bool := fun text => if text = "true" then some true else none }

def modbusNode (type : String) : Yaml :=
  .map [textField "device_id" "plc", textField "type" type,
    textField "slave_addr" "1", textField "cmd_interval" "1",
    textField "max_retries" "1", textField "retry_interval" "1",
    textField "byte_order" "ABCD",
    (.scalar "TCP", .map [textField "ip" "10.0.0.1", textField "port" "1"]),
    (.scalar "data_points", .sequence [])]

def modbusDocument (devices : List Yaml) : Yaml :=
  .map [(.scalar "ModbusDevices", .sequence devices)]

end Samples

theorem rejected_load_keeps (decoder : ScalarDecoder)
    (file : Except YamlException Yaml) (before : Option ConfigData)
    (rejected : (init decoder file before).2 = false) :
    (∃ exception, file = .error exception) ∧
        (init decoder file before).1 = before ∨
      ∃ document after, file = .ok document ∧
        (init decoder file before).1 = some after ∧
        KeepsReadDevices decoder document (before.getD .empty) after := by
  cases file with
  | error exception => exact Or.inl ⟨⟨exception, rfl⟩, rfl⟩
  | ok document =>
      apply Or.inr
      rcases init_spec decoder document before with quiet | raised
      · rw [quiet.2] at rejected
        cases rejected
      · obtain ⟨_, after, keeps, result⟩ := raised
        exact ⟨document, after, rfl, by rw [result], keeps⟩

theorem rejected_load_keeps_device : ∃ after,
    (init sampleDecoder (.ok (modbusDocument [modbusNode "TCP", .null])) none).1 =
      some after ∧
    KeepsReadDevices sampleDecoder (modbusDocument [modbusNode "TCP", .null])
      .empty after := by
  rcases rejected_load_keeps sampleDecoder
    (.ok (modbusDocument [modbusNode "TCP", .null])) none (by decide)
    with unreadable | read
  · obtain ⟨⟨_, absurd⟩, _⟩ := unreadable
    cases absurd
  · obtain ⟨_, after, same, result, keeps⟩ := read
    cases same
    exact ⟨after, result, keeps⟩

/-- The second node of the document is null: the load is reported as failed,
and the first device is in the configuration. -/
theorem rejected_device_added :
    (init sampleDecoder (.ok (modbusDocument [modbusNode "TCP", .null]))
        (some .empty)).2 = false ∧
      (init sampleDecoder (.ok (modbusDocument [modbusNode "TCP", .null]))
        (some .empty)).1 ≠ some .empty := by
  refine ⟨by decide, ?_⟩
  intro unchanged
  have added : ((init sampleDecoder
      (.ok (modbusDocument [modbusNode "TCP", .null])) (some .empty)).1.bind
        fun data => data.modbus "plc").isSome = true := by
    decide
  rw [unchanged] at added
  cases added

/-- Every device node of the section is in the table as the last node with its
id describes it. -/
def Section.LoadedInFull {Device : Type} (parser : Section Device)
    (document : Yaml) (table : String → Option Device) : Prop :=
  Reflects parser.parseDevice nodeId table (parser.nodes document)

/-- The nodes from the first one that the parser stops at only repeat devices
that were accepted before it; there may be none. -/
def Section.OnlyRepeats {Device : Type} (parser : Section Device)
    (document : Yaml) : Prop :=
  RepeatsAccepted parser.parseDevice parser.deviceId nodeId (parser.nodes document)

def LoadedInFull (decoder : ScalarDecoder) (document : Yaml) (data : ConfigData) :
    Prop :=
  (modbusSection decoder).LoadedInFull document data.modbus ∧
    (iec61850Section decoder).LoadedInFull document data.iec61850 ∧
    (iec104Section decoder).LoadedInFull document data.iec104

theorem Section.loadedInFull_iff {Device : Type} (parser : Section Device)
    (identified : ∀ node device, parser.parseDevice node = .ok device →
      nodeId node = some (parser.deviceId device))
    (document : Yaml) :
    (∀ table, parser.LoadedInFull document (parser.applied document table)) ↔
      parser.OnlyRepeats document := by
  have loaded := reflects_ingest_iff nodeId identified (parser.nodes document)
  simp only [ingest_eq] at loaded
  exact loaded

/-- A load that reports success holds every device of the document if and only
if an exception prevents the success or no section drops a device: what follows
the first rejected node of a section only repeats devices read before it. -/
theorem success_loads_in_full_iff (decoder : ScalarDecoder) (document : Yaml) :
    (∀ before after, init decoder (.ok document) before = (some after, true) →
        LoadedInFull decoder document after) ↔
      Raises decoder document ∨
        (modbusSection decoder).OnlyRepeats document ∧
          (iec61850Section decoder).OnlyRepeats document ∧
          (iec104Section decoder).OnlyRepeats document := by
  have modbus := (modbusSection decoder).loadedInFull_iff
    parseModbusDevice_id document
  have iec61850 := (iec61850Section decoder).loadedInFull_iff
    parse61850Device_id document
  have iec104 := (iec104Section decoder).loadedInFull_iff
    parse104Device_id document
  constructor
  · intro loads
    by_cases raises : Raises decoder document
    · exact Or.inl raises
    · apply Or.inr
      have full : ∀ data, LoadedInFull decoder document
          (loadedOver decoder document data) := by
        intro data
        rcases init_spec decoder document (some data) with quiet | raised
        · exact loads (some data) _ quiet.2
        · exact (raises raised.1).elim
      refine ⟨modbus.mp ?_, iec61850.mp ?_, iec104.mp ?_⟩
      · intro table
        exact (full { ConfigData.empty with modbus := table }).1
      · intro table
        exact (full { ConfigData.empty with iec61850 := table }).2.1
      · intro table
        exact (full { ConfigData.empty with iec104 := table }).2.2
  · intro condition before after result
    rcases init_spec decoder document before with quiet | raised
    · rw [quiet.2] at result
      cases result
      rcases condition with raises | repeats
      · exact (quiet.1 raises).elim
      · exact ⟨modbus.mpr repeats.1 _, iec61850.mpr repeats.2.1 _,
          iec104.mpr repeats.2.2 _⟩
    · obtain ⟨_, other, _, failed⟩ := raised
      rw [failed] at result
      cases result

/-- A device of an unknown type is dropped, and the load is reported as
successful. -/
theorem rejected_device_missing : ∃ after,
    init sampleDecoder (.ok (modbusDocument [modbusNode "UDP"])) none =
      (some after, true) ∧
    ¬LoadedInFull sampleDecoder (modbusDocument [modbusNode "UDP"]) after := by
  rcases init_spec sampleDecoder (modbusDocument [modbusNode "UDP"]) none
    with quiet | raised
  · refine ⟨_, quiet.2, ?_⟩
    intro full
    obtain ⟨wanted, last, item, _, found, parsed, _⟩ := full.1
      (Node.valid (modbusNode "UDP")) List.mem_cons_self
    cases List.mem_singleton.mp (lastWith?_some found).1
    have rejected : parseModbusDevice sampleDecoder (.valid (modbusNode "UDP")) =
        .error .returnsFalse := rfl
    cases rejected.symm.trans parsed
  · obtain ⟨_, after, _, failed⟩ := raised
    have succeeded : (init sampleDecoder
        (.ok (modbusDocument [modbusNode "UDP"])) none).2 = true := by
      decide
    rw [failed] at succeeded
    cases succeeded

end DataGateway.Config
