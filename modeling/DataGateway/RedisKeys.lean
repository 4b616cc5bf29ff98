import DataGateway.Config.LoadOutcome
import DataGateway.Foundation.Separator
import DataGateway.Iec61850.Nodes
import DataGateway.Modbus.Polling

/-!
# The keys of the data sources

A Modbus point is stored under `modbus_data:`, its device id, a colon and its
name; a polled IEC 61850 node is stored under its path.  Nothing in the loader
keeps two of these texts apart, so the exact conditions for that are stated
over the configurations that loads can produce.
-/

namespace DataGateway

open Config Foundation Iec61850 Modbus

/-- The configuration after a sequence of loads. -/
def configAfter (decoder : ScalarDecoder)
    (files : List (Except YamlException Yaml)) : ConfigData :=
  (files.foldl (fun data file => (init decoder file data).1) none).getD .empty

/-- A data point by its place in a Modbus device, or a path of an IEC 61850
device. -/
inductive Source
  | modbus (deviceId : String) (index : Nat)
  | iec61850 (deviceId path : String)
  deriving DecidableEq

/-- The path is one of those that are polled for the device. -/
def pollsPath (parseIcd : String → List DataNode) (device : ConfigDataIEC61850)
    (path : String) : Bool :=
  (parseIcd device.icdFilePath).any fun node => node.polled && node.path == path

/-- The key a source is stored under, if the configuration has the source. -/
def Source.key? (parseIcd : String → List DataNode) (data : ConfigData) :
    Source → Option String
  | .modbus deviceId index =>
      (data.modbus deviceId).bind fun device =>
        device.dataPoints[index]?.map fun point =>
          redisKey device.deviceId point.name
  | .iec61850 deviceId path =>
      (data.iec61850 deviceId).bind fun device =>
        if pollsPath parseIcd device path then some path else none

def KeysDistinct (parseIcd : String → List DataNode) (data : ConfigData) : Prop :=
  ∀ (first second : Source) key, first.key? parseIcd data = some key →
    second.key? parseIcd data = some key → first = second

section Conditions

variable (parseIcd : String → List DataNode) (data : ConfigData)

def NamesDistinct : Prop :=
  ∀ deviceId device, data.modbus deviceId = some device →
    (device.dataPoints.map (·.name)).Nodup

/-- Where one device id continues another one after a colon, no point name of
the shorter id makes up for the difference. -/
def NoNestedIds : Prop :=
  ∀ shorter device longer other middle, data.modbus shorter = some device →
    data.modbus longer = some other →
    longer = shorter ++ ":" ++ middle →
    ∀ point ∈ device.dataPoints, ∀ further ∈ other.dataPoints,
      point.name ≠ middle ++ ":" ++ further.name

def PathsDistinct : Prop :=
  ∀ firstId first secondId second path, data.iec61850 firstId = some first →
    data.iec61850 secondId = some second →
    pollsPath parseIcd first path → pollsPath parseIcd second path →
    firstId = secondId

def NoModbusPath : Prop :=
  ∀ deviceId device modbusId modbus path, data.iec61850 deviceId = some device →
    data.modbus modbusId = some modbus → pollsPath parseIcd device path →
    ∀ point ∈ modbus.dataPoints, path ≠ redisKey modbusId point.name

end Conditions

structure KeyedById (data : ConfigData) : Prop where
  modbus : Keyed ConfigDataModbus.deviceId data.modbus
  iec61850 : Keyed ConfigDataIEC61850.deviceId data.iec61850
  iec104 : Keyed ConfigDataIEC104.deviceId data.iec104

private theorem keyedById_empty : KeyedById .empty := by
  constructor
  · intro _ _ entry
    cases entry
  · intro _ _ entry
    cases entry
  · intro _ _ entry
    cases entry

theorem KeyedById.loadedOver {data : ConfigData} (keyed : KeyedById data)
    (decoder : ScalarDecoder) (document : Yaml) :
    KeyedById (loadedOver decoder document data) :=
  { modbus := keyed.modbus.overlay _
    iec61850 := keyed.iec61850.overlay _
    iec104 := keyed.iec104.overlay _ }

/-- A load keeps every device under its own id, whatever its result is. -/
theorem KeyedById.init {decoder : ScalarDecoder} {before : Option ConfigData}
    (keyed : KeyedById (before.getD .empty)) (file : Except YamlException Yaml) :
    KeyedById ((init decoder file before).1.getD .empty) := by
  cases file with
  | error exception => exact keyed
  | ok document =>
      have loaded := keyed.loadedOver decoder document
      rcases init_spec decoder document before with quiet | raised
      · rw [quiet.2]
        exact loaded
      · obtain ⟨_, after, keeps, result⟩ := raised
        rw [result]
        rcases keeps with modbus | iec61850 | iec104
        · rw [modbus.2]
          exact { keyed with modbus := loaded.modbus }
        · rw [iec61850.2.2]
          exact { loaded with iec104 := keyed.iec104 }
        · rw [iec104.2.2.2]
          exact loaded

/-- What every load keeps holds after all of them. -/
theorem configAfter_invariant {decoder : ScalarDecoder} {Kept : ConfigData → Prop}
    (start : Kept .empty)
    (step : ∀ before file, Kept (Option.getD before .empty) →
      Kept ((init decoder file before).1.getD .empty))
    (files : List (Except YamlException Yaml)) : Kept (configAfter decoder files) := by
  unfold configAfter
  have first : Kept ((none : Option ConfigData).getD .empty) := start
  revert first
  generalize (none : Option ConfigData) = before
  induction files generalizing before with
  | nil => exact fun first => first
  | cons file files induction =>
      intro first
      exact induction _ (step before file first)

theorem configAfter_keyed (decoder : ScalarDecoder)
    (files : List (Except YamlException Yaml)) :
    KeyedById (configAfter decoder files) :=
  configAfter_invariant keyedById_empty (fun _ file keyed => keyed.init file) files

/-- Every Modbus device has been accepted by its parser. -/
def ModbusParsed (decoder : ScalarDecoder) (data : ConfigData) : Prop :=
  ∀ deviceId config, data.modbus deviceId = some config →
    ∃ node, parseModbusDevice decoder node = .ok config

private theorem modbusParsed_init {decoder : ScalarDecoder}
    {before : Option ConfigData}
    (parsed : ModbusParsed decoder (before.getD .empty))
    (file : Except YamlException Yaml) :
    ModbusParsed decoder ((init decoder file before).1.getD .empty) := by
  cases file with
  | error exception => exact parsed
  | ok document =>
      intro deviceId config found
      have applied : (modbusSection decoder).applied document
          (before.getD .empty).modbus deviceId = some config := by
        rcases init_spec decoder document before with quiet | raised
        · rw [quiet.2] at found
          exact found
        · obtain ⟨_, after, keeps, result⟩ := raised
          rw [result] at found
          rcases keeps with modbus | iec61850 | iec104
          · rw [modbus.2] at found
            exact found
          · rw [iec61850.2.2] at found
            exact found
          · rw [iec104.2.2.2] at found
            exact found
      rw [Section.applied_apply] at applied
      rcases Option.or_eq_some_iff.mp applied with accepted | kept
      · obtain ⟨node, _, read⟩ := exists_parsed_of_mem (lastWith?_some accepted).1
        exact ⟨node, read⟩
      · exact parsed deviceId config kept.2

theorem configAfter_modbusParsed (decoder : ScalarDecoder)
    (files : List (Except YamlException Yaml)) :
    ModbusParsed decoder (configAfter decoder files) := by
  apply configAfter_invariant ?_ (fun _ file parsed => modbusParsed_init parsed file)
  intro _ _ entry
  cases entry

theorem redisKey_eq_iff {first name second other : String} :
    redisKey first name = redisKey second other ↔
      first = second ∧ name = other ∨
        (∃ middle, second = first ++ ":" ++ middle ∧
          name = middle ++ ":" ++ other) ∨
        ∃ middle, first = second ++ ":" ++ middle ∧
          other = middle ++ ":" ++ name := by
  have colon : ":" = String.singleton ':' := by decide
  unfold redisKey
  rw [String.append_assoc, String.append_assoc, String.append_assoc,
    String.append_assoc, String.append_right_inj, ← String.append_assoc,
    ← String.append_assoc, colon]
  exact string_joined_eq_iff ':'

section Sources

variable {parseIcd : String → List DataNode} {data : ConfigData}

theorem key?_modbus_iff (keyed : KeyedById data) {deviceId : String}
    {index : Nat} {key : String} :
    (Source.modbus deviceId index).key? parseIcd data = some key ↔
      ∃ device point, data.modbus deviceId = some device ∧
        device.dataPoints[index]? = some point ∧
        key = redisKey deviceId point.name := by
  simp only [Source.key?, Option.bind_eq_some_iff, Option.map_eq_some_iff]
  constructor
  · intro stored
    obtain ⟨device, found, point, atIndex, same⟩ := stored
    refine ⟨device, point, found, atIndex, ?_⟩
    rw [← same, keyed.modbus deviceId device found]
  · intro stored
    obtain ⟨device, point, found, atIndex, same⟩ := stored
    refine ⟨device, found, point, atIndex, ?_⟩
    rw [same, keyed.modbus deviceId device found]

theorem key?_iec61850_iff {deviceId path key : String} :
    (Source.iec61850 deviceId path).key? parseIcd data = some key ↔
      ∃ device, data.iec61850 deviceId = some device ∧
        pollsPath parseIcd device path ∧ key = path := by
  simp only [Source.key?, Option.bind_eq_some_iff]
  constructor
  · intro stored
    obtain ⟨device, found, same⟩ := stored
    by_cases polled : pollsPath parseIcd device path
    · rw [if_pos polled] at same
      cases same
      exact ⟨device, found, polled, rfl⟩
    · rw [if_neg polled] at same
      cases same
  · intro stored
    obtain ⟨device, found, polled, same⟩ := stored
    exact ⟨device, found, by rw [if_pos polled, same]⟩

/-- Equal keys of two Modbus points are those of one point, as a key can be read
as another device id and point name only at another colon. -/
theorem modbusSources_eq (keyed : KeyedById data) (names : NamesDistinct data)
    (ids : NoNestedIds data) {firstId secondId : String}
    {firstIndex secondIndex : Nat} {key : String}
    (firstKey : (Source.modbus firstId firstIndex).key? parseIcd data = some key)
    (secondKey : (Source.modbus secondId secondIndex).key? parseIcd data =
      some key) :
    Source.modbus firstId firstIndex = .modbus secondId secondIndex := by
  obtain ⟨device, point, found, atIndex, same⟩ :=
    (key?_modbus_iff keyed).mp firstKey
  subst same
  obtain ⟨other, further, otherFound, otherAtIndex, same⟩ :=
    (key?_modbus_iff keyed).mp secondKey
  have member := List.mem_of_getElem? atIndex
  have otherMember := List.mem_of_getElem? otherAtIndex
  rcases redisKey_eq_iff.mp same with equal | forward | backward
  · obtain ⟨sameId, sameName⟩ := equal
    subst sameId
    cases found.symm.trans otherFound
    have nameAt : (device.dataPoints.map (·.name))[firstIndex]? =
        some point.name := by
      rw [List.getElem?_map, atIndex]
      rfl
    have otherNameAt : (device.dataPoints.map (·.name))[secondIndex]? =
        some point.name := by
      rw [List.getElem?_map, otherAtIndex, sameName]
      rfl
    have inside := (List.getElem?_eq_some_iff.mp nameAt).1
    have sameIndex := (List.getElem?_inj inside
      (names firstId device found)).mp (nameAt.trans otherNameAt.symm)
    rw [sameIndex]
  · obtain ⟨middle, nested, name⟩ := forward
    exact (ids firstId device secondId other middle found otherFound
      nested point member further otherMember name).elim
  · obtain ⟨middle, nested, name⟩ := backward
    exact (ids secondId other firstId device middle otherFound found
      nested further otherMember point member name).elim

theorem modbus_key_ne_iec61850_key (keyed : KeyedById data)
    (foreign : NoModbusPath parseIcd data) {modbusId deviceId path key : String}
    {index : Nat}
    (modbusKey : (Source.modbus modbusId index).key? parseIcd data = some key)
    (pathKey : (Source.iec61850 deviceId path).key? parseIcd data = some key) :
    False := by
  obtain ⟨modbus, point, found, atIndex, same⟩ :=
    (key?_modbus_iff keyed).mp modbusKey
  obtain ⟨device, deviceFound, polled, samePath⟩ := key?_iec61850_iff.mp pathKey
  exact foreign deviceId device modbusId modbus path deviceFound found polled
    point (List.mem_of_getElem? atIndex) (samePath.symm.trans same)

private theorem keysDistinct_of_conditions (keyed : KeyedById data)
    (names : NamesDistinct data) (ids : NoNestedIds data)
    (paths : PathsDistinct parseIcd data) (foreign : NoModbusPath parseIcd data) :
    KeysDistinct parseIcd data := by
  intro first second key firstKey secondKey
  cases first with
  | modbus firstId firstIndex =>
      cases second with
      | modbus secondId secondIndex =>
          exact modbusSources_eq keyed names ids firstKey secondKey
      | iec61850 secondId path =>
          exact (modbus_key_ne_iec61850_key keyed foreign firstKey secondKey).elim
  | iec61850 firstId path =>
      cases second with
      | modbus secondId secondIndex =>
          exact (modbus_key_ne_iec61850_key keyed foreign secondKey firstKey).elim
      | iec61850 secondId other =>
          obtain ⟨device, found, polled, same⟩ := key?_iec61850_iff.mp firstKey
          obtain ⟨second, otherFound, otherPolled, otherSame⟩ :=
            key?_iec61850_iff.mp secondKey
          subst same
          subst otherSame
          rw [paths firstId device secondId second key found otherFound polled
            otherPolled]

section

variable (keyed : KeyedById data) (distinct : KeysDistinct parseIcd data)

include keyed distinct

private theorem namesDistinct_of_keysDistinct : NamesDistinct data := by
  intro deviceId device found
  apply List.nodup_iff_getElem?_ne_getElem?.mpr
  intro index later less inside same
  rw [List.length_map] at inside
  have atLater := List.getElem?_eq_getElem inside
  have atIndex := List.getElem?_eq_getElem (Nat.lt_trans less inside)
  rw [List.getElem?_map, List.getElem?_map, atIndex, atLater] at same
  have sameName := Option.some.inj same
  have equal := distinct (.modbus deviceId index) (.modbus deviceId later) _
    ((key?_modbus_iff keyed).mpr ⟨device, _, found, atIndex, rfl⟩)
    ((key?_modbus_iff keyed).mpr
      ⟨device, _, found, atLater, congrArg (redisKey deviceId) sameName⟩)
  cases equal
  exact Nat.lt_irrefl index less

private theorem noNestedIds_of_keysDistinct : NoNestedIds data := by
  intro shorter device longer other middle found otherFound nested point member
    further otherMember name
  obtain ⟨index, atIndex⟩ := List.mem_iff_getElem?.mp member
  obtain ⟨otherIndex, otherAtIndex⟩ := List.mem_iff_getElem?.mp otherMember
  have same : redisKey shorter point.name = redisKey longer further.name :=
    redisKey_eq_iff.mpr (Or.inr (Or.inl ⟨middle, nested, name⟩))
  have equal := distinct (.modbus shorter index) (.modbus longer otherIndex) _
    ((key?_modbus_iff keyed).mpr ⟨device, point, found, atIndex, rfl⟩)
    ((key?_modbus_iff keyed).mpr
      ⟨other, further, otherFound, otherAtIndex, same⟩)
  cases equal
  have lengths := congrArg String.length nested
  rw [String.length_append, String.length_append] at lengths
  have colon : (":" : String).length = 1 := rfl
  omega

private theorem noModbusPath_of_keysDistinct : NoModbusPath parseIcd data := by
  intro deviceId device modbusId modbus path found otherFound polled point
    member same
  obtain ⟨index, atIndex⟩ := List.mem_iff_getElem?.mp member
  have equal := distinct (.iec61850 deviceId path) (.modbus modbusId index) path
    (key?_iec61850_iff.mpr ⟨device, found, polled, rfl⟩)
    ((key?_modbus_iff keyed).mpr ⟨modbus, point, otherFound, atIndex, same⟩)
  cases equal

end

private theorem pathsDistinct_of_keysDistinct (distinct : KeysDistinct parseIcd data) :
    PathsDistinct parseIcd data := by
  intro firstId first secondId second path found otherFound polled otherPolled
  have equal := distinct (.iec61850 firstId path) (.iec61850 secondId path) path
    (key?_iec61850_iff.mpr ⟨first, found, polled, rfl⟩)
    (key?_iec61850_iff.mpr ⟨second, otherFound, otherPolled, rfl⟩)
  cases equal
  rfl

end Sources

/-- The keys of all sources of a configuration are different if and only if
point names are unique in their device, no device id and point name can be read
as another pair, no path is polled for two devices, and no path is the key of a
Modbus point. -/
theorem keysDistinct_iff (decoder : ScalarDecoder)
    (files : List (Except YamlException Yaml))
    (parseIcd : String → List DataNode) :
    KeysDistinct parseIcd (configAfter decoder files) ↔
      NamesDistinct (configAfter decoder files) ∧
        NoNestedIds (configAfter decoder files) ∧
        PathsDistinct parseIcd (configAfter decoder files) ∧
        NoModbusPath parseIcd (configAfter decoder files) := by
  have keyed := configAfter_keyed decoder files
  constructor
  · intro distinct
    exact ⟨namesDistinct_of_keysDistinct keyed distinct,
      noNestedIds_of_keysDistinct keyed distinct,
      pathsDistinct_of_keysDistinct distinct,
      noModbusPath_of_keysDistinct keyed distinct⟩
  · intro conditions
    obtain ⟨names, ids, paths, foreign⟩ := conditions
    exact keysDistinct_of_conditions keyed names ids paths foreign

def modbusNodeOf (deviceId pointName : String) : Yaml :=
  .map [textField "device_id" deviceId, textField "type" "TCP",
    textField "slave_addr" "1", textField "cmd_interval" "1",
    textField "max_retries" "1", textField "retry_interval" "1",
    textField "byte_order" "ABCD",
    (.scalar "TCP", .map [textField "ip" "10.0.0.1", textField "port" "1"]),
    (.scalar "data_points", .sequence [.map [textField "name" pointName,
      textField "address" "1", textField "type" "holding",
      textField "data_type" "int16", textField "scale" "1",
      textField "offset" "1"]])]

/-- Point `b:c` of device `a` and point `c` of device `a:b`. -/
theorem colon_shares_key : ¬KeysDistinct (fun _ => []) (configAfter sampleDecoder
    [.ok (modbusDocument [modbusNodeOf "a" "b:c", modbusNodeOf "a:b" "c"])]) := by
  intro distinct
  have equal := distinct (.modbus "a" 0) (.modbus "a:b" 0) "modbus_data:a:b:c"
    (by decide) (by decide)
  exact absurd equal (by decide)

end DataGateway
