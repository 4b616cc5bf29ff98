import DataGateway.Config.LoadOutcome
import DataGateway.Modbus.AppModbus
import DataGateway.Redis.Client
import Mathlib.Data.List.TakeWhile

/-!
# Connection parameters

What the gateway hands to lib60870 and libmodbus for the devices of its
configuration: `IEC104ClientManger::initClients` with the constructor of
`IEC104Client` (`core/iec104`), and `AppModbus::run` with
`ModbusApi::createModbusContext` (`core/modbus`).
-/

namespace DataGateway

open Redis (cStr)

namespace Iec104

open ConfigDataIEC104

/-- The parameters in force on a `CS104_Connection`, with the common address of
the interrogation commands sent on it. -/
structure ConnectionParameters where
  hostname : String
  tcpPort : Int
  localAddress : Option (String × Int32)
  apci : APCI
  originatorAddress : Int32
  commonAddress : Int32

/-- The constructor of `IEC104Client`, on a connection that lib60870 creates
with its own APCI parameters; `sendInterrogationCommand` passes 1. -/
def connect (library : APCI) (serverIp : String) (serverPort : UInt16)
    (localIp : String) (localPort t0 originatorAddress : Int32) :
    ConnectionParameters :=
  { hostname := cStr serverIp
    tcpPort := serverPort.toNat
    localAddress :=
      if localIp = "" then none else some (cStr localIp, localPort)
    apci := { library with t0 := t0 }
    originatorAddress := originatorAddress
    commonAddress := 1 }

/-- The client that `initClients` makes of an entry. -/
def initClient (library : APCI) (config : ConfigDataIEC104) :
    ConnectionParameters :=
  connect library config.tcp.ip (UInt16.ofInt config.tcp.port.toInt)
    config.localAddress.ip config.localAddress.port config.protocol.apci.t0
    config.protocol.applicationLayer.originatorAddress

/-- The parameters of an entry; an empty local address stands for none. -/
def configured (config : ConfigDataIEC104) : ConnectionParameters :=
  { hostname := config.tcp.ip
    tcpPort := config.tcp.port.toInt
    localAddress :=
      if config.localAddress.ip = "" then none
      else some (config.localAddress.ip, config.localAddress.port)
    apci := config.protocol.apci
    originatorAddress := config.protocol.applicationLayer.originatorAddress
    commonAddress := config.protocol.applicationLayer.commonAddress }

/-- The port is one, the texts are C strings, and where the code has a
constant or leaves the library's own value the entry has the same. -/
structure Fits (library : APCI) (config : ConfigDataIEC104) : Prop where
  port : 0 ≤ config.tcp.port.toInt ∧ config.tcp.port.toInt < 65536
  ip : '\x00' ∉ config.tcp.ip.toList
  localIp : '\x00' ∉ config.localAddress.ip.toList
  apci : config.protocol.apci =
    { library with t0 := config.protocol.apci.t0 }
  commonAddress : config.protocol.applicationLayer.commonAddress = 1

end Iec104

namespace Modbus

/-- The arguments of `modbus_new_tcp` or `modbus_new_rtu`, and of
`modbus_set_slave`. -/
inductive ConnectionParameters
  | tcp (ip : String) (port slave : Int32)
  | rtu (device : String) (baud : Int32) (parity : Char) (slave : Int32)
  deriving DecidableEq

/-- `static_cast<char>` of the enumerator. -/
def Parity.cast : Parity → Char
  | .NONE => '\x00'
  | .EVEN => '\x01'
  | .ODD => '\x02'

/-- What `createModbusContext` asks for. -/
def connect (settings : Settings) : ConnectionParameters :=
  match settings.type with
  | .TCP => .tcp (cStr settings.ip) settings.port settings.slaveAddr
  | .RTU =>
      .rtu (cStr settings.portName) settings.baudrate settings.parity.cast
        settings.slaveAddr

/-- The letter of libmodbus for a configured parity; the configuration files
use the letters, the code compares with "NONE". -/
def parityLetter? (parity : String) : Option Char :=
  if parity = "N" ∨ parity = "NONE" then some 'N'
  else if parity = "E" ∨ parity = "EVEN" then some 'E'
  else if parity = "O" ∨ parity = "ODD" then some 'O'
  else none

/-- The parameters of an entry, unless its parity is none that exists. -/
def configured? (config : ConfigDataModbus) :
    ModbusType → Option ConnectionParameters
  | .TCP => some (.tcp config.tcp.ip config.tcp.port config.slaveAddr)
  | .RTU =>
      (parityLetter? config.rtu.parity).map fun parity =>
        .rtu config.rtu.portName config.rtu.baudrate parity config.slaveAddr

end Modbus

/-- Every connection that the gateway opens from the configuration has the
parameters of its entry. -/
def ParametersUnchanged (library : ConfigDataIEC104.APCI) (data : ConfigData) :
    Prop :=
  (∀ deviceId config, data.iec104 deviceId = some config →
    Iec104.initClient library config = Iec104.configured config) ∧
  ∀ deviceId config, data.modbus deviceId = some config →
    ∀ settings, Modbus.settingsOf? config = some settings →
      some (Modbus.connect settings) = Modbus.configured? config settings.type

/-- Every IEC 104 entry fits, and every Modbus entry that `run` accepts is a
TCP one. -/
def ParametersFit (library : ConfigDataIEC104.APCI) (data : ConfigData) : Prop :=
  (∀ deviceId config, data.iec104 deviceId = some config →
    Iec104.Fits library config) ∧
  ∀ deviceId config, data.modbus deviceId = some config →
    Modbus.settingsOf? config ≠ none →
      config.type = "TCP" ∧ '\x00' ∉ config.tcp.ip.toList

theorem cStr_eq_self_iff (text : String) :
    cStr text = text ↔ '\x00' ∉ text.toList := by
  unfold cStr
  rw [← String.toList_inj, String.toList_ofList, List.takeWhile_eq_self_iff]
  constructor
  · intro all member
    simpa using all '\x00' member
  · intro absent character member
    simp only [decide_eq_true_eq]
    intro same
    exact absent (same ▸ member)

/-- A port survives the conversion to 16 bits when it is one. -/
theorem toNat_ofInt_eq_iff (port : Int) :
    ((UInt16.ofInt port).toNat : Int) = port ↔ 0 ≤ port ∧ port < 65536 := by
  have converted : (UInt16.ofInt port).toNat = (port % 65536).toNat % 65536 :=
    UInt16.toNat_ofNat
  rw [converted]
  omega

section

variable {library : ConfigDataIEC104.APCI} {config : ConfigDataIEC104}

theorem Iec104.Fits.unchanged (fits : Iec104.Fits library config) :
    Iec104.initClient library config = Iec104.configured config := by
  have hostname := (cStr_eq_self_iff config.tcp.ip).mpr fits.ip
  have localIp := (cStr_eq_self_iff config.localAddress.ip).mpr fits.localIp
  have port := (toNat_ofInt_eq_iff config.tcp.port.toInt).mpr fits.port
  simp only [Iec104.initClient, Iec104.connect, Iec104.configured, hostname,
    localIp, port, ← fits.apci, fits.commonAddress]

theorem Iec104.fits_of_unchanged
    (unchanged : Iec104.initClient library config = Iec104.configured config) :
    Iec104.Fits library config := by
  have hostname := congrArg Iec104.ConnectionParameters.hostname unchanged
  have port := congrArg Iec104.ConnectionParameters.tcpPort unchanged
  have bound := congrArg Iec104.ConnectionParameters.localAddress unchanged
  have apci := congrArg Iec104.ConnectionParameters.apci unchanged
  have common := congrArg Iec104.ConnectionParameters.commonAddress unchanged
  refine ⟨(toNat_ofInt_eq_iff _).mp port, (cStr_eq_self_iff _).mp hostname, ?_,
    apci.symm, common.symm⟩
  simp only [Iec104.initClient, Iec104.connect, Iec104.configured] at bound
  by_cases empty : config.localAddress.ip = ""
  · rw [empty]
    decide
  · rw [if_neg empty, if_neg empty] at bound
    injection bound with same
    apply (cStr_eq_self_iff _).mp
    exact (Prod.mk.injEq _ _ _ _ ▸ same).1

end

/-- Entries that differ in t1, t2, t3, k, w or the common address alone lead to
the same connection. -/
theorem Iec104.initClient_congr (library : ConfigDataIEC104.APCI)
    {first second : ConfigDataIEC104} (tcp : first.tcp = second.tcp)
    (localAddress : first.localAddress = second.localAddress)
    (t0 : first.protocol.apci.t0 = second.protocol.apci.t0)
    (originatorAddress : first.protocol.applicationLayer.originatorAddress =
      second.protocol.applicationLayer.originatorAddress) :
    Iec104.initClient library first = Iec104.initClient library second := by
  unfold Iec104.initClient
  rw [tcp, localAddress, t0, originatorAddress]

namespace Modbus

variable {config : ConfigDataModbus} {settings : Settings}

private theorem modbusType?_eq_some_iff {type : String} {found : ModbusType} :
    modbusType? type = some found ↔
      type = (match found with | .TCP => "TCP" | .RTU => "RTU") := by
  unfold modbusType?
  constructor
  · intro result
    split at result
    · next same =>
        cases result
        exact same
    · split at result
      · next same =>
          cases result
          exact same
      · cases result
  · intro same
    subst same
    cases found <;> rfl

theorem parityLetter?_ne_cast (configured : String) (parity : Parity) :
    parityLetter? configured ≠ some parity.cast := by
  unfold parityLetter?
  cases parity <;> split_ifs <;> decide

private theorem connect_eq_configured_iff (passes : settingsOf? config = some settings) :
    some (connect settings) = configured? config settings.type ↔
      config.type = "TCP" ∧ '\x00' ∉ config.tcp.ip.toList := by
  obtain ⟨type, slave, portName, baudrate, ip, port⟩ :=
    settingsOf?_eq_some passes
  rw [modbusType?_eq_some_iff] at type
  unfold connect configured?
  cases found : settings.type with
  | TCP =>
      rw [found] at type
      simp only [ip, port, slave, type, Option.some.injEq,
        ConnectionParameters.tcp.injEq, and_true, true_and]
      exact cStr_eq_self_iff config.tcp.ip
  | RTU =>
      rw [found] at type
      have serial : config.type ≠ "TCP" := by
        rw [type]
        decide
      refine iff_of_false ?_ (fun tcp => serial tcp.1)
      intro same
      obtain ⟨letter, known, same⟩ := Option.map_eq_some_iff.mp same.symm
      injection same with _ _ parity _
      apply parityLetter?_ne_cast config.rtu.parity settings.parity
      rw [known, parity]

end Modbus

/-- The parameters of every entry reach the libraries unchanged if and only if
each IEC 104 entry has a 16-bit port, the library's own t1, t2, t3, k and w and
the common address 1, and no serial Modbus device is opened. -/
theorem parametersUnchanged_iff (library : ConfigDataIEC104.APCI)
    (data : ConfigData) :
    ParametersUnchanged library data ↔ ParametersFit library data := by
  constructor
  · intro unchanged
    refine ⟨?_, ?_⟩
    · intro deviceId config entry
      exact Iec104.fits_of_unchanged (unchanged.1 deviceId config entry)
    · intro deviceId config entry opened
      obtain ⟨settings, passes⟩ := Option.ne_none_iff_exists'.mp opened
      exact (Modbus.connect_eq_configured_iff passes).mp
        (unchanged.2 deviceId config entry settings passes)
  · intro fit
    refine ⟨?_, ?_⟩
    · intro deviceId config entry
      exact (fit.1 deviceId config entry).unchanged
    · intro deviceId config entry settings passes
      apply (Modbus.connect_eq_configured_iff passes).mpr
      apply fit.2 deviceId config entry
      rw [passes]
      exact Option.some_ne_none settings

section Samples

open Config

/-- The values that lib60870 begins with. -/
def sampleLibrary : ConfigDataIEC104.APCI :=
  { t0 := 10, t1 := 15, t2 := 10, t3 := 20, k := 12, w := 8 }

def gatewayDecoder : ScalarDecoder :=
  { int := fun text =>
      if text = "1" then some 1
      else if text = "10" then some 10
      else if text = "2404" then some 2404
      else none
    uint16 := fun _ => none
    float := fun _ => none
    bool := fun text => if text = "true" then some true else none }

def iec104Node (k commonAddress : String) : Yaml :=
  .map [textField "device_id" "substation", textField "type" "TCP",
    (.scalar "TCP", .map [textField "ip" "127.0.0.1", textField "port" "2404"]),
    (.scalar "local_address", .map [textField "ip" "", textField "port" "1"]),
    (.scalar "protocol", .map
      [(.scalar "apci", .map [textField "t0" "10", textField "t1" "10",
          textField "t2" "10", textField "t3" "10", textField "k" k,
          textField "w" "1"]),
        (.scalar "application_layer", .map
          [textField "originator_address" "1",
            textField "common_address" commonAddress,
            textField "asdu_size" "1"])]),
    (.scalar "communication", .map [textField "gi_interval_ms" "10",
      textField "report_enabled" "true", (.scalar "reports", .sequence [])]),
    (.scalar "error_handling", .map [textField "reconnect_interval_ms" "10",
      textField "max_reconnect_attempts" "1"])]

def serialNode : Yaml :=
  .map [textField "device_id" "plc", textField "type" "RTU",
    textField "slave_addr" "1", textField "cmd_interval" "1",
    textField "max_retries" "1", textField "retry_interval" "1",
    textField "byte_order" "ABCD",
    (.scalar "RTU", .map [textField "port_name" "/dev/ttyUSB0",
      textField "baudrate" "2404", textField "parity" "N"]),
    (.scalar "data_points", .sequence [])]

def gatewayDocument (k commonAddress : String) : Yaml :=
  .map [(.scalar "ModbusDevices", .sequence [serialNode]),
    (.scalar "IEC104Devices", .sequence [iec104Node k commonAddress])]

end Samples

/-- Two configurations that differ in k and the common address, both accepted
by the loader, lead to the same connection; and the parity "N" of the serial
device is passed on as the byte 2. -/
theorem parameters_dropped :
    ∃ first second entry other serial settings,
      Config.init gatewayDecoder (.ok (gatewayDocument "10" "10")) none =
          (some first, true) ∧
        Config.init gatewayDecoder (.ok (gatewayDocument "1" "1")) none =
          (some second, true) ∧
        first.iec104 "substation" = some entry ∧
        second.iec104 "substation" = some other ∧
        Iec104.configured entry ≠ Iec104.configured other ∧
        Iec104.initClient sampleLibrary entry = Iec104.initClient sampleLibrary other ∧
        first.modbus "plc" = some serial ∧
        Modbus.settingsOf? serial = some settings ∧
        Modbus.connect settings =
          .rtu "/dev/ttyUSB0" 2404 (Char.ofNat 2) 1 ∧
        ¬ParametersUnchanged sampleLibrary first := by
  refine ⟨_, _, _, _, _, _, rfl, rfl, rfl, rfl, ?_, ?_, rfl, rfl, rfl, ?_⟩
  · intro same
    have k := congrArg (fun parameters => parameters.apci.k) same
    revert k
    decide
  · rfl
  · intro unchanged
    have common := congrArg Iec104.ConnectionParameters.commonAddress
      (unchanged.1 "substation" _ rfl)
    revert common
    decide

end DataGateway
