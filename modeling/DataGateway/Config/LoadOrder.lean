import DataGateway.Config.SectionIsolation

/-!
# Loading several documents

What a load adds to the maps depends on its document alone: how far the
sections are parsed is the same whatever was loaded before.  Loads of documents
without common ids may therefore be exchanged, and a second load of the same
document changes nothing.
-/

namespace DataGateway.Config

open Foundation

/-- The devices that a load puts into the three maps, in order. -/
structure Contribution where
  modbus : List ConfigDataModbus
  iec61850 : List ConfigDataIEC61850
  iec104 : List ConfigDataIEC104

namespace Contribution

def addedTo (contribution : Contribution) (data : ConfigData) : ConfigData :=
  { modbus := overlay ConfigDataModbus.deviceId data.modbus contribution.modbus
    iec61850 :=
      overlay ConfigDataIEC61850.deviceId data.iec61850 contribution.iec61850
    iec104 := overlay ConfigDataIEC104.deviceId data.iec104 contribution.iec104 }

/-- No device of one has the id of a device of the other in the same map. -/
structure Disjoint (first second : Contribution) : Prop where
  modbus : ∀ device ∈ first.modbus, ∀ other ∈ second.modbus,
    device.deviceId ≠ other.deviceId
  iec61850 : ∀ device ∈ first.iec61850, ∀ other ∈ second.iec61850,
    device.deviceId ≠ other.deviceId
  iec104 : ∀ device ∈ first.iec104, ∀ other ∈ second.iec104,
    device.deviceId ≠ other.deviceId

private theorem addedTo_comm {first second : Contribution}
    (disjoint : first.Disjoint second) (data : ConfigData) :
    second.addedTo (first.addedTo data) =
      first.addedTo (second.addedTo data) := by
  simp only [addedTo, ConfigData.mk.injEq]
  exact ⟨overlay_comm disjoint.modbus _, overlay_comm disjoint.iec61850 _,
    overlay_comm disjoint.iec104 _⟩

private theorem addedTo_idem (contribution : Contribution) (data : ConfigData) :
    contribution.addedTo (contribution.addedTo data) =
      contribution.addedTo data := by
  simp only [addedTo, ConfigData.mk.injEq]
  exact ⟨overlay_idem _ _, overlay_idem _ _, overlay_idem _ _⟩

end Contribution

section

variable {Device : Type}

/-- The ids in a section of a file, those of rejected nodes included. -/
def Section.HasId (parser : Section Device) (file : Except YamlException Yaml)
    (deviceId : String) : Prop :=
  ∃ document, file = .ok document ∧
    ∃ node ∈ parser.nodes document, nodeId node = some deviceId

def Section.SeparateIds (parser : Section Device)
    (first second : Except YamlException Yaml) : Prop :=
  ∀ deviceId, parser.HasId first deviceId → ¬parser.HasId second deviceId

/-- The device ids of two files are disjoint section by section. -/
structure SeparateIds (decoder : ScalarDecoder)
    (first second : Except YamlException Yaml) : Prop where
  modbus : (modbusSection decoder).SeparateIds first second
  iec61850 : (iec61850Section decoder).SeparateIds first second
  iec104 : (iec104Section decoder).SeparateIds first second

/-- The configuration after a call of `init`. -/
def reload (decoder : ScalarDecoder) (file : Except YamlException Yaml)
    (data : Option ConfigData) : Option ConfigData :=
  (init decoder file data).1

/-- A section parser that throws keeps the later sections from being parsed. -/
def contribution (decoder : ScalarDecoder) (document : Yaml) : Contribution :=
  match (modbusSection decoder).outcome document,
      (iec61850Section decoder).outcome document with
  | .error _, _ =>
      { modbus := (modbusSection decoder).accepted document
        iec61850 := []
        iec104 := [] }
  | .ok _, .error _ =>
      { modbus := (modbusSection decoder).accepted document
        iec61850 := (iec61850Section decoder).accepted document
        iec104 := [] }
  | .ok _, .ok _ =>
      { modbus := (modbusSection decoder).accepted document
        iec61850 := (iec61850Section decoder).accepted document
        iec104 := (iec104Section decoder).accepted document }

theorem hasId_of_accepted {parser : Section Device}
    (identified : ∀ node device, parser.parseDevice node = .ok device →
      nodeId node = some (parser.deviceId device))
    {document : Yaml} {device : Device}
    (member : device ∈ parser.accepted document) :
    parser.HasId (.ok document) (parser.deviceId device) := by
  obtain ⟨before, split, accepted⟩ :=
    accepted_split parser.parseDevice (parser.nodes document)
  obtain ⟨index, inside, same⟩ := List.getElem_of_mem member
  have inBefore : index < before.length := by
    rw [accepted.length_eq]
    exact inside
  have parsed := List.forall₂_iff_get.mp accepted |>.2 index inBefore inside
  refine ⟨document, rfl, before[index], ?_, ?_⟩
  · rw [split]
    exact List.mem_append_left _ (List.getElem_mem inBefore)
  · subst same
    exact identified _ _ parsed

theorem deviceId_ne_of_separateIds {parser : Section Device}
    (identified : ∀ node device, parser.parseDevice node = .ok device →
      nodeId node = some (parser.deviceId device))
    {first second : Yaml}
    (separate : parser.SeparateIds (.ok first) (.ok second))
    {device other : Device} (member : device ∈ parser.accepted first)
    (otherMember : other ∈ parser.accepted second) :
    parser.deviceId device ≠ parser.deviceId other := by
  intro same
  apply separate (parser.deviceId device) (hasId_of_accepted identified member)
  rw [same]
  exact hasId_of_accepted identified otherMember

end

theorem contribution_subset (decoder : ScalarDecoder) (document : Yaml) :
    (∀ device ∈ (contribution decoder document).modbus,
        device ∈ (modbusSection decoder).accepted document) ∧
      (∀ device ∈ (contribution decoder document).iec61850,
        device ∈ (iec61850Section decoder).accepted document) ∧
      ∀ device ∈ (contribution decoder document).iec104,
        device ∈ (iec104Section decoder).accepted document := by
  unfold contribution
  split <;> simp

private theorem contribution_disjoint {decoder : ScalarDecoder} {first second : Yaml}
    (separate : SeparateIds decoder (.ok first) (.ok second)) :
    (contribution decoder first).Disjoint (contribution decoder second) := by
  obtain ⟨modbus, iec61850, iec104⟩ := contribution_subset decoder first
  obtain ⟨otherModbus, other61850, other104⟩ := contribution_subset decoder second
  constructor
  · intro device member other otherMember
    exact deviceId_ne_of_separateIds parseModbusDevice_id separate.modbus
      (modbus device member) (otherModbus other otherMember)
  · intro device member other otherMember
    exact deviceId_ne_of_separateIds parse61850Device_id separate.iec61850
      (iec61850 device member) (other61850 other otherMember)
  · intro device member other otherMember
    exact deviceId_ne_of_separateIds parse104Device_id separate.iec104
      (iec104 device member) (other104 other otherMember)

/-- A readable document adds its contribution, whatever was loaded before. -/
theorem reload_ok (decoder : ScalarDecoder) (document : Yaml)
    (data : Option ConfigData) :
    reload decoder (.ok document) data =
      some ((contribution decoder document).addedTo (data.getD .empty)) := by
  simp only [reload, init, loadConfig, parseModbusConfig, parse61850Config,
    parse104Config, Section.parse_eq, contribution]
  cases (modbusSection decoder).outcome document with
  | error exception => rfl
  | ok _ =>
      cases (iec61850Section decoder).outcome document with
      | error exception => rfl
      | ok _ =>
          cases (iec104Section decoder).outcome document with
          | error exception => rfl
          | ok _ => rfl

/-- Loads of files without common ids may be exchanged, and a second load of a
file changes nothing, from any configuration. -/
theorem loads_exchange_and_repeat (decoder : ScalarDecoder)
    (first second : Except YamlException Yaml) (data : Option ConfigData)
    (separate : SeparateIds decoder first second) :
    reload decoder second (reload decoder first data) =
        reload decoder first (reload decoder second data) ∧
      reload decoder first (reload decoder first data) =
        reload decoder first data := by
  cases first with
  | error exception => exact ⟨rfl, rfl⟩
  | ok document =>
      constructor
      · cases second with
        | error exception => rfl
        | ok other =>
            simp only [reload_ok, Option.getD_some]
            rw [Contribution.addedTo_comm (contribution_disjoint separate)]
      · simp only [reload_ok, Option.getD_some]
        rw [Contribution.addedTo_idem]

def iec104Document : Yaml :=
  .map [(.scalar "IEC104Devices", .sequence [iec104Node])]

/-- A load that ends with an exception and a complete one. -/
theorem loads_exchange_and_repeat_mixed :
    reload sampleDecoder (.ok iec104Document)
        (reload sampleDecoder (.ok (modbusDocument [modbusNode "TCP", .null]))
          none) =
      reload sampleDecoder (.ok (modbusDocument [modbusNode "TCP", .null]))
        (reload sampleDecoder (.ok iec104Document) none) := by
  have separate : SeparateIds sampleDecoder
      (.ok (modbusDocument [modbusNode "TCP", .null])) (.ok iec104Document) := by
    constructor
    · intro deviceId _ inSecond
      obtain ⟨document, same, node, member, _⟩ := inSecond
      cases same
      cases member
    · intro deviceId inFirst
      obtain ⟨document, same, node, member, _⟩ := inFirst
      cases same
      cases member
    · intro deviceId inFirst
      obtain ⟨document, same, node, member, _⟩ := inFirst
      cases same
      cases member
  exact (loads_exchange_and_repeat sampleDecoder _ _ none separate).1

end DataGateway.Config
