import DataGateway.Config.Data
import DataGateway.Config.Yaml
import DataGateway.Foundation.Ingest

/-!
# The configuration loader

`Config::init`, `loadConfig` and the three section parsers
(`common/config/config.cc`).  A parser can end in the middle of a device in two
ways: by an early `return false`, which `loadConfig` only logs, and by an
exception of yaml-cpp, which ends the whole load and makes `init` return
`false`.
-/

namespace DataGateway.Config

open Foundation

inductive Stop
  | returnsFalse
  | throws (exception : YamlException)
  deriving DecidableEq, Repr

instance : MonadLift (Except YamlException) (Except Stop) :=
  ⟨fun action => action.mapError Stop.throws⟩

/-- `return false` when the test holds. -/
def rejectIf (test : Bool) : Except Stop Unit :=
  if test then .error .returnsFalse else .ok ()

section Modbus

open ConfigDataModbus

def parseTCP (decoder : ScalarDecoder) (deviceNode : Node) :
    Except Stop (TCP × RTU) := do
  let tcp ← deviceNode.get "TCP"
  rejectIf !tcp.isDefined
  rejectIf (← (← tcp.get "ip").isNull)
  rejectIf (← (← tcp.get "port").isNull)
  let ip ← (← tcp.get "ip").asString
  let port ← (← tcp.get "port").as decoder.int
  return ({ ip, port }, { portName := "", baudrate := 0, parity := "" })

def parseRTU (decoder : ScalarDecoder) (deviceNode : Node) :
    Except Stop (TCP × RTU) := do
  let rtu ← deviceNode.get "RTU"
  rejectIf !rtu.isDefined
  rejectIf (← (← rtu.get "port_name").isNull)
  rejectIf (← (← rtu.get "baudrate").isNull)
  rejectIf (← (← rtu.get "parity").isNull)
  let portName ← (← rtu.get "port_name").asString
  let baudrate ← (← rtu.get "baudrate").as decoder.int
  let parity ← (← rtu.get "parity").asString
  return ({ ip := "0.0.0.0", port := 0 }, { portName, baudrate, parity })

/-- The branches on `modbus.Type`. -/
def parseTransport (decoder : ScalarDecoder) (deviceNode : Node) (type : String) :
    Except Stop (TCP × RTU) :=
  if type = "TCP" then parseTCP decoder deviceNode
  else if type = "RTU" then parseRTU decoder deviceNode
  else .error .returnsFalse

def parseModbusPoint (decoder : ScalarDecoder) (point : Node) :
    Except Stop DataPoint := do
  let name ← (← point.get "name").asString
  let address ← (← point.get "address").as decoder.uint16
  let type ← (← point.get "type").asString
  let scale ← (← point.get "scale").as decoder.float
  let offset ← (← point.get "offset").as decoder.float
  let dataType := getDataType (← (← point.get "data_type").asString)
  rejectIf (dataType = .unknown)
  return { name, address, type, dataType, scale, offset }

/-- The body of the device loop of `parseModbusConfig`. -/
def parseModbusDevice (decoder : ScalarDecoder) (deviceNode : Node) :
    Except Stop ConfigDataModbus := do
  let deviceId ← (← deviceNode.get "device_id").asString
  let type ← (← deviceNode.get "type").asString
  let slaveAddr ← (← deviceNode.get "slave_addr").as decoder.int
  let cmdInterval ← (← deviceNode.get "cmd_interval").as decoder.int
  let maxRetries ← (← deviceNode.get "max_retries").as decoder.int
  let retryInterval ← (← deviceNode.get "retry_interval").as decoder.int
  let byteOrder ← (← deviceNode.get "byte_order").asString
  let transport ← parseTransport decoder deviceNode type
  let points ← deviceNode.get "data_points"
  rejectIf !points.isDefined
  rejectIf !(← points.isSequence)
  let dataPoints ← points.items.mapM (parseModbusPoint decoder)
  return { deviceId, type, slaveAddr, cmdInterval, maxRetries, retryInterval,
           byteOrder, dataPoints, tcp := transport.1, rtu := transport.2 }

end Modbus

section IEC61850

/-- A field that must not be null, then is converted. -/
def optionalField {α : Type} (decode : String → Option α) (node : Node)
    (key : String) : Except Stop α := do
  rejectIf (← (← node.get key).isNull)
  (← node.get key).as decode

def parseFilter (item : Node) : Except Stop String := do
  rejectIf !(← item.isScalar)
  let filter ← item.asString
  rejectIf filter.isEmpty
  return filter

/-- The body of the device loop of `parse61850Config`. -/
def parse61850Device (decoder : ScalarDecoder) (node : Node) :
    Except Stop ConfigDataIEC61850 := do
  let deviceId ← (← node.get "device_id").asString
  let ip ← (← node.get "ip").asString
  let icdFilePath ← (← node.get "icd_file").asString
  let accessPoint ← (← node.get "access_point").asString
  let logicalDevice ← (← node.get "logical_device").asString
  let clientMmsName ← (← node.get "client_mms_name").asString
  let port ← optionalField decoder.int node "port"
  let pollInterval ← optionalField decoder.int node "poll_interval"
  let maxRetries ← optionalField decoder.int node "max_retries"
  let retryInterval ← optionalField decoder.int node "retry_interval"
  let reportEnabled ← optionalField decoder.bool node "report_enabled"
  let gooseEnabled ← optionalField decoder.bool node "goose_enabled"
  let tlsEnabled ← optionalField decoder.bool node "tls_enabled"
  rejectIf (← (← node.get "description").isNull)
  rejectIf !(← (← node.get "description").isScalar)
  let description ← (← node.get "description").asString
  rejectIf description.isEmpty
  let filters ← node.get "data_point_filters"
  rejectIf (← filters.isNull)
  rejectIf !(← filters.isSequence)
  let dataPointFilters ← filters.items.mapM parseFilter
  return { deviceId, ip, icdFilePath, accessPoint, logicalDevice, clientMmsName,
           port, pollInterval, maxRetries, retryInterval, reportEnabled,
           gooseEnabled, tlsEnabled, description, dataPointFilters }

end IEC61850

section IEC104

open ConfigDataIEC104

/-- A text that must be neither null nor empty. -/
def requiredText (node : Node) (key : String) : Except Stop String := do
  rejectIf (← (← node.get key).isNull)
  let text ← (← node.get key).asString
  rejectIf text.isEmpty
  return text

def parseReport (decoder : ScalarDecoder) (reportNode : Node) :
    Except Stop Report := do
  let ioa ← (← reportNode.get "ioa").as decoder.int
  let reportId ← requiredText reportNode "report_id"
  return { ioa, reportId }

def parse104Point (decoder : ScalarDecoder) (dpNode : Node) :
    Except Stop DataPoint := do
  let ioa ← (← dpNode.get "ioa").as decoder.int
  let type ← (← dpNode.get "type").asString
  let description ← requiredText dpNode "description"
  let iec61850Path ← requiredText dpNode "iec61850_path"
  return { ioa, type, description, iec61850Path }

/-- The points are skipped when there is no sequence of them. -/
def parse104Points (decoder : ScalarDecoder) (node : Node) :
    Except Stop (List DataPoint) := do
  let pointNodes ← node.get "data_points"
  if !pointNodes.isDefined then return []
  if !(← pointNodes.isSequence) then return []
  pointNodes.items.mapM (parse104Point decoder)

/-- The body of the device loop of `parse104Config`. -/
def parse104Device (decoder : ScalarDecoder) (node : Node) :
    Except Stop ConfigDataIEC104 := do
  let deviceId ← (← node.get "device_id").asString
  let type ← (← node.get "type").asString
  let tcpNode ← node.get "TCP"
  let tcpIp ← (← tcpNode.get "ip").asString
  let tcpPort ← (← tcpNode.get "port").as decoder.int
  let localNode ← node.get "local_address"
  rejectIf (← (← localNode.get "ip").isNull)
  rejectIf !(← (← localNode.get "ip").isScalar)
  let localIp ← (← localNode.get "ip").asString
  let localPort ← optionalField decoder.int localNode "port"
  let apciNode ← (← node.get "protocol").get "apci"
  let t0 ← (← apciNode.get "t0").as decoder.int
  let t1 ← (← apciNode.get "t1").as decoder.int
  let t2 ← (← apciNode.get "t2").as decoder.int
  let t3 ← (← apciNode.get "t3").as decoder.int
  let k ← (← apciNode.get "k").as decoder.int
  let w ← (← apciNode.get "w").as decoder.int
  let appNode ← (← node.get "protocol").get "application_layer"
  let originatorAddress ← (← appNode.get "originator_address").as decoder.int
  let commonAddress ← (← appNode.get "common_address").as decoder.int
  let asduSize ← (← appNode.get "asdu_size").as decoder.int
  let commNode ← node.get "communication"
  let giIntervalMs ← (← commNode.get "gi_interval_ms").as decoder.int
  let reportEnabled ← (← commNode.get "report_enabled").as decoder.bool
  let reportNodes ← commNode.get "reports"
  rejectIf (← reportNodes.isNull)
  rejectIf !(← reportNodes.isSequence)
  let reports ← reportNodes.items.mapM (parseReport decoder)
  let errNode ← node.get "error_handling"
  let reconnectIntervalMs ←
    (← errNode.get "reconnect_interval_ms").as decoder.int
  let maxReconnectAttempts ←
    (← errNode.get "max_reconnect_attempts").as decoder.int
  let dataPoints ← parse104Points decoder node
  return { deviceId, type
           tcp := { ip := tcpIp, port := tcpPort }
           localAddress := { ip := localIp, port := localPort }
           protocol :=
             { apci := { t0, t1, t2, t3, k, w }
               applicationLayer := { originatorAddress, commonAddress, asduSize } }
           communication := { giIntervalMs, reportEnabled, reports }
           errorHandling := { reconnectIntervalMs, maxReconnectAttempts }
           dataPoints }

end IEC104

/-- What distinguishes the three section parsers. -/
structure Section (Device : Type) where
  key : String
  parseDevice : Node → Except Stop Device
  deviceId : Device → String

namespace Section

variable {Device : Type} (parser : Section Device)

/-- How the device loop ends: it returns a `bool` or an exception leaves it. -/
def ending : Option Stop → Except YamlException Bool
  | none => .ok true
  | some .returnsFalse => .ok false
  | some (.throws exception) => .error exception

/-- The common body of the section parsers.  A device goes into the table as
soon as it is read, so the table is left as it is when the parser stops. -/
def parse (config : Node) (table : String → Option Device) :
    (String → Option Device) × Except YamlException Bool :=
  match config.get parser.key with
  | .error exception => (table, .error exception)
  | .ok devicesNode =>
      if !devicesNode.isDefined then (table, .ok true)
      else
        match devicesNode.isSequence with
        | .error exception => (table, .error exception)
        | .ok false => (table, .ok false)
        | .ok true =>
            match ingest parser.parseDevice parser.deviceId table
                devicesNode.items with
            | (after, stop) => (after, ending stop)

end Section

def modbusSection (decoder : ScalarDecoder) : Section ConfigDataModbus :=
  { key := "ModbusDevices"
    parseDevice := parseModbusDevice decoder
    deviceId := ConfigDataModbus.deviceId }

def iec61850Section (decoder : ScalarDecoder) : Section ConfigDataIEC61850 :=
  { key := "IEC61850Devices"
    parseDevice := parse61850Device decoder
    deviceId := ConfigDataIEC61850.deviceId }

def iec104Section (decoder : ScalarDecoder) : Section ConfigDataIEC104 :=
  { key := "IEC104Devices"
    parseDevice := parse104Device decoder
    deviceId := ConfigDataIEC104.deviceId }

def parseModbusConfig (decoder : ScalarDecoder) (config : Node)
    (modbus : String → Option ConfigDataModbus) :
    (String → Option ConfigDataModbus) × Except YamlException Bool :=
  (modbusSection decoder).parse config modbus

def parse61850Config (decoder : ScalarDecoder) (config : Node)
    (iec61850 : String → Option ConfigDataIEC61850) :
    (String → Option ConfigDataIEC61850) × Except YamlException Bool :=
  (iec61850Section decoder).parse config iec61850

def parse104Config (decoder : ScalarDecoder) (config : Node)
    (iec104 : String → Option ConfigDataIEC104) :
    (String → Option ConfigDataIEC104) × Except YamlException Bool :=
  (iec104Section decoder).parse config iec104

/-- `loadConfig` on what `YAML::LoadFile` gives.  The `bool` that a section
parser returns is only logged. -/
def loadConfig (decoder : ScalarDecoder) (file : Except YamlException Yaml)
    (data : Option ConfigData) : Option ConfigData × Except YamlException Unit :=
  match file with
  | .error exception => (data, .error exception)
  | .ok document =>
      let config := Node.valid document
      let data := data.getD .empty
      match parseModbusConfig decoder config data.modbus with
      | (modbus, .error exception) =>
          (some { data with modbus }, .error exception)
      | (modbus, .ok _) =>
          match parse61850Config decoder config data.iec61850 with
          | (iec61850, .error exception) =>
              (some { data with modbus, iec61850 }, .error exception)
          | (iec61850, .ok _) =>
              match parse104Config decoder config data.iec104 with
              | (iec104, .error exception) =>
                  (some { modbus, iec61850, iec104 }, .error exception)
              | (iec104, .ok _) => (some { modbus, iec61850, iec104 }, .ok ())

/-- `Config::init`, with what `getConfig` shows after it. -/
def init (decoder : ScalarDecoder) (file : Except YamlException Yaml)
    (data : Option ConfigData) : Option ConfigData × Bool :=
  match loadConfig decoder file data with
  | (after, .error _) => (after, false)
  | (after, .ok ()) => (after, true)

namespace Section

variable {Device : Type} (parser : Section Device)

/-- The section of a document. -/
def member? (document : Yaml) : Option Yaml :=
  match document.get parser.key with
  | .error _ => none
  | .ok member => member

def nodes (document : Yaml) : List Node :=
  match parser.member? document with
  | none => []
  | some devicesNode => (Node.valid devicesNode).items

/-- The devices that the section contributes. -/
def accepted (document : Yaml) : List Device :=
  acceptedItems parser.parseDevice (parser.nodes document)

/-- What the section parser does apart from the table. -/
def outcome (document : Yaml) : Except YamlException Bool :=
  match document.get parser.key with
  | .error exception => .error exception
  | .ok none => .ok true
  | .ok (some (.sequence items)) =>
      ending (firstStop parser.parseDevice (items.map Node.valid))
  | .ok (some _) => .ok false

def Raises (document : Yaml) : Prop :=
  ∃ exception, parser.outcome document = .error exception

/-- The section laid over a table. -/
def applied (document : Yaml) (table : String → Option Device) :
    String → Option Device :=
  overlay parser.deviceId table (parser.accepted document)

theorem parse_eq (document : Yaml) (table : String → Option Device) :
    parser.parse (.valid document) table =
      (parser.applied document table, parser.outcome document) := by
  cases member : document.get parser.key with
  | error exception =>
      simp [parse, Node.get, applied, accepted, nodes, member?, outcome, member,
        acceptedItems, overlay]
  | ok found =>
      cases found with
      | none =>
          simp [parse, Node.get, applied, accepted, nodes, member?, outcome,
            member, Node.isDefined, acceptedItems, overlay]
      | some devicesNode =>
          cases devicesNode with
          | sequence items =>
              simp [parse, Node.get, applied, accepted, nodes, member?, outcome,
                member, Node.isDefined, Node.isSequence, Node.items, ingest_eq]
          | null | scalar text | map entries =>
              simp [parse, Node.get, applied, accepted, nodes, member?, outcome,
                member, Node.isDefined, Node.isSequence, Node.items,
                acceptedItems, overlay]

theorem applied_apply (document : Yaml) (table : String → Option Device)
    (deviceId : String) :
    parser.applied document table deviceId =
      (lastWith? parser.deviceId deviceId (parser.accepted document)).or
        (table deviceId) :=
  overlay_apply table (parser.accepted document) deviceId

end Section

end DataGateway.Config
