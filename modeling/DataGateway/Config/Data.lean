import Mathlib.Init

/-!
# Configuration data

The records of `common/config/config.h`.  The maps of `ConfigData` are looked
up by device id; a map is the function that a lookup computes.
-/

namespace DataGateway

namespace ConfigDataModbus

inductive DataType
  | unknown
  | int16
  | uint16
  | int32
  | uint32
  | float32
  | string
  deriving DecidableEq, Repr

def getDataType (type : String) : DataType :=
  if type = "int16" then .int16
  else if type = "uint16" then .uint16
  else if type = "int32" then .int32
  else if type = "uint32" then .uint32
  else if type = "float32" then .float32
  else .unknown

structure TCP where
  ip : String
  port : Int32

structure RTU where
  portName : String
  baudrate : Int32
  parity : String

/-- `data_points_t`. -/
structure DataPoint where
  name : String
  address : UInt16
  type : String
  dataType : DataType
  scale : Float32
  offset : Float32

end ConfigDataModbus

structure ConfigDataModbus where
  deviceId : String
  type : String
  tcp : ConfigDataModbus.TCP
  rtu : ConfigDataModbus.RTU
  slaveAddr : Int32
  cmdInterval : Int32
  maxRetries : Int32
  retryInterval : Int32
  byteOrder : String
  dataPoints : List ConfigDataModbus.DataPoint

structure ConfigDataIEC61850 where
  deviceId : String
  ip : String
  icdFilePath : String
  accessPoint : String
  logicalDevice : String
  clientMmsName : String
  port : Int32
  pollInterval : Int32
  maxRetries : Int32
  retryInterval : Int32
  reportEnabled : Bool
  gooseEnabled : Bool
  tlsEnabled : Bool
  description : String
  dataPointFilters : List String

namespace ConfigDataIEC104

structure TCP where
  ip : String
  port : Int32

structure LocalAddress where
  ip : String
  port : Int32

structure APCI where
  t0 : Int32
  t1 : Int32
  t2 : Int32
  t3 : Int32
  k : Int32
  w : Int32

structure ApplicationLayer where
  originatorAddress : Int32
  commonAddress : Int32
  asduSize : Int32

structure Protocol where
  apci : APCI
  applicationLayer : ApplicationLayer

structure Report where
  ioa : Int32
  reportId : String

structure Communication where
  giIntervalMs : Int32
  reportEnabled : Bool
  reports : List Report

structure ErrorHandling where
  reconnectIntervalMs : Int32
  maxReconnectAttempts : Int32

structure DataPoint where
  ioa : Int32
  type : String
  description : String
  iec61850Path : String

end ConfigDataIEC104

structure ConfigDataIEC104 where
  deviceId : String
  type : String
  tcp : ConfigDataIEC104.TCP
  localAddress : ConfigDataIEC104.LocalAddress
  protocol : ConfigDataIEC104.Protocol
  communication : ConfigDataIEC104.Communication
  errorHandling : ConfigDataIEC104.ErrorHandling
  dataPoints : List ConfigDataIEC104.DataPoint

structure ConfigData where
  modbus : String → Option ConfigDataModbus
  iec61850 : String → Option ConfigDataIEC61850
  iec104 : String → Option ConfigDataIEC104

/-- `std::make_unique<ConfigData>()`. -/
def ConfigData.empty : ConfigData :=
  { modbus := fun _ => none
    iec61850 := fun _ => none
    iec104 := fun _ => none }

end DataGateway
