import DataGateway.Config.Loader
import DataGateway.Modbus.Coalescing
import DataGateway.Modbus.ReconnectThread
import Mathlib.Data.List.AList

/-!
# The Modbus application

`AppModbus` (`core/modbus/app_modbus_client.cc`).  `run` constructs a
`ModbusApi` for each entry of the configuration that passes its checks, and
detaches `runTask`, which detaches a polling task for each device.  The tasks
run on a pool, the threads of the devices beside it.
-/

namespace DataGateway.Modbus

open Foundation Config

def modbusType? (type : String) : Option ModbusType :=
  if type = "TCP" then some .TCP
  else if type = "RTU" then some .RTU
  else none

/-- The checks of `run` on an entry, and the arguments of the constructor for
an entry that passes them. -/
def settingsOf? (config : ConfigDataModbus) : Option Settings :=
  if config.type = "" ∨ config.deviceId = "" then none
  else
    match modbusType? config.type with
    | none => none
    | some type =>
        if type = .RTU ∧ (config.rtu.portName = "" ∨ config.rtu.baudrate ≤ 0)
        then none
        else if type = .TCP ∧ (config.tcp.ip = "" ∨ config.tcp.port ≤ 0)
        then none
        else
          some
            { slaveAddr := config.slaveAddr
              type := type
              portName := config.rtu.portName
              baudrate := config.rtu.baudrate
              parity := if config.rtu.parity = "NONE" then .NONE else .ODD
              ip := config.tcp.ip
              port := config.tcp.port
              maxRetries := config.maxRetries }

theorem settingsOf?_eq_some {config : ConfigDataModbus} {settings : Settings}
    (passes : settingsOf? config = some settings) :
    modbusType? config.type = some settings.type ∧
      settings.slaveAddr = config.slaveAddr ∧
      settings.portName = config.rtu.portName ∧
      settings.baudrate = config.rtu.baudrate ∧
      settings.ip = config.tcp.ip ∧ settings.port = config.tcp.port := by
  unfold settingsOf? at passes
  split at passes
  · cases passes
  · cases type : modbusType? config.type with
    | none =>
        rw [type] at passes
        cases passes
    | some found =>
        simp only [type] at passes
        split at passes
        · cases passes
        · split at passes
          · cases passes
          · cases passes
            exact ⟨rfl, rfl, rfl, rfl, rfl, rfl⟩

/-- The table `modbus` of the loaded configuration, in the order of its
iteration. -/
structure Configuration where
  table : AList fun _ : String => ConfigDataModbus
  keyed : Keyed ConfigDataModbus.deviceId table.lookup

/-- Loading stores entries and erases none. -/
def Configuration.Extends (loaded earlier : Configuration) : Prop :=
  ∀ deviceId ∈ earlier.table.keys, deviceId ∈ loaded.table

instance (loaded earlier : Configuration) :
    Decidable (loaded.Extends earlier) :=
  inferInstanceAs (Decidable (∀ _ ∈ _, _))

/-- A task in the queue of the pool: `runTask`, or the polling of a device. -/
inductive PoolTask
  | runTask
  | poll (deviceId : String)
  deriving DecidableEq, Repr

/-- A polling task under way, with the ranges that `processContinuousRegisters`
has not yet read; without any it is about to test `running_`. -/
structure PollingLoop where
  deviceId : String
  pending : List RegisterRange

/-- What the caller does next: `stop` stops the devices one by one and then
waits for the pool. -/
inductive CallerAt
  | idle
  | stops (remaining : List String)
  | waits
  deriving DecidableEq, Repr

/-- What may be expected since the last call that returned: after `run` that it
polls the devices of the configuration it found, after `stop` that all rest. -/
inductive Expectation
  | nothing
  | polls (config : Configuration)
  | rests

/-- An `AppModbus` with its pool and the threads of its devices, which
`devices_` holds under their ids. -/
structure AppModbus where
  running : Bool
  devices : AList fun _ : String => Threaded
  queue : List PoolTask
  loops : List PollingLoop
  config : Configuration
  caller : CallerAt
  expects : Expectation

inductive AppMove
  | load (config : Configuration)
  | run (environment : String → Environment)
  | stop
  | caller
  | schedule
  | loop (index : Nat) (environment : Environment)
  | reconnect (deviceId : String) (environment : Environment)

/-- The loop of `run` on the entries of the configuration.  An entry is skipped
whichever of its checks fails. -/
def addDevices (environment : String → Environment)
    (devices : AList fun _ : String => Threaded) :
    List (Sigma fun _ : String => ConfigDataModbus) →
      Except HandleFault (AList fun _ : String => Threaded)
  | [] => .ok devices
  | ⟨deviceId, config⟩ :: rest =>
      match settingsOf? config with
      | none => addDevices environment devices rest
      | some settings =>
          if deviceId ∈ devices then addDevices environment devices rest
          else
            match ModbusApi.construct settings (environment deviceId) with
            | .error fault => .error fault
            | .ok api =>
                addDevices environment
                  (devices.insert config.deviceId ⟨api, .testsRuning⟩) rest

/-- The threads of `thread_pool_`. -/
def poolSize : Nat := 1024

namespace AppModbus

def construct (config : Configuration) : AppModbus :=
  { running := true
    devices := ∅
    queue := []
    loops := []
    config := config
    caller := .idle
    expects := .nothing }

section Operations

variable (app : AppModbus)

def setApi (deviceId : String) (threaded : Threaded) (api : ModbusApi) :
    AppModbus :=
  { app with devices := app.devices.insert deviceId { threaded with api := api } }

def run (environment : String → Environment) :
    Except HandleFault (AppModbus × Bool) :=
  if app.config.table.entries.isEmpty then .ok (app, false)
  else
    match addDevices environment app.devices app.config.table.entries with
    | .error fault => .error fault
    | .ok devices =>
        .ok ({ app with
          devices := devices
          queue := app.queue ++ [.runTask]
          expects := .polls app.config }, true)

/-- `stop` begins. -/
def stop : AppModbus :=
  { app with
    caller := .stops app.devices.keys
    expects := match app.expects with
      | .polls _ => .nothing
      | expects => expects }

/-- The `stop` under way goes on; `wait` blocks while the pool has tasks. -/
def proceed : AppModbus :=
  match app.caller with
  | .idle => app
  | .stops [] => { app with running := false, caller := .waits }
  | .stops (deviceId :: remaining) =>
      { app with
        devices := match app.devices.lookup deviceId with
          | none => app.devices
          | some threaded =>
              app.devices.insert deviceId
                { threaded with api := threaded.api.stop }
        caller := .stops remaining }
  | .waits =>
      if app.queue.isEmpty && app.loops.isEmpty then
        { app with caller := .idle, expects := .rests }
      else app

/-- The polling task up to its loop. -/
def startLoop (deviceId : String) : Except HandleFault AppModbus :=
  match app.devices.lookup deviceId with
  | none => .error .nullUse
  | some threaded =>
      match threaded.api.set_debug with
      | .error fault => .error fault
      | .ok api =>
          let app := app.setApi deviceId threaded api
          .ok (if deviceId ∈ app.config.table then
              { app with loops := app.loops ++ [⟨deviceId, []⟩] }
            else app)

/-- A thread of the pool takes the next task. -/
def schedule : Except HandleFault AppModbus :=
  match app.queue with
  | [] => .ok app
  | task :: queue =>
      if app.loops.length < poolSize then
        match task with
        | .runTask =>
            .ok { app with queue := queue ++ app.devices.keys.map .poll }
        | .poll deviceId => startLoop { app with queue := queue } deviceId
      else .ok app

/-- A polling loop tests `running_` and takes the points of the device, or it
reads the next range. -/
def turn (sorter : AddressSort) (index : Nat) (environment : Environment) :
    Except HandleFault AppModbus :=
  match app.loops[index]? with
  | none => .ok app
  | some ⟨deviceId, []⟩ =>
      .ok (if app.running then
          let points := match app.config.table.lookup deviceId with
            | none => []
            | some config => sorter.sort config.dataPoints
          { app with loops := app.loops.set index ⟨deviceId, ranges points 0⟩ }
        else { app with loops := app.loops.eraseIdx index })
  | some ⟨deviceId, range :: pending⟩ =>
      match app.devices.lookup deviceId with
      | none => .error .nullUse
      | some threaded =>
          match threaded.api.readRegisters environment range.startAddr
              (Int32.ofNat range.count) with
          | .error fault => .error fault
          | .ok (api, _) =>
              .ok { app.setApi deviceId threaded api with
                loops := app.loops.set index ⟨deviceId, pending⟩ }

/-- The thread of a device goes on. -/
def reconnect (deviceId : String) (environment : Environment) :
    Except HandleFault AppModbus :=
  match app.devices.lookup deviceId with
  | none => .ok app
  | some threaded =>
      match threaded.advance environment with
      | .error fault => .error fault
      | .ok next =>
          .ok { app with devices := app.devices.insert deviceId next }

end Operations

/-- Calls of `run` and `stop` come one after the other, so one that comes too
early is none; the configuration may be loaded at any time. -/
def step (sorter : AddressSort) (app : AppModbus) (move : AppMove) :
    Except HandleFault (AppModbus × Unit) :=
  match move with
  | .load config =>
      .ok (if config.Extends app.config then { app with config := config }
        else app, ())
  | .run environment =>
      if app.caller = .idle then
        (app.run environment).map fun (next, _) => (next, ())
      else .ok (app, ())
  | .stop => .ok (if app.caller = .idle then app.stop else app, ())
  | .caller => .ok (app.proceed, ())
  | .schedule => app.schedule.map (·, ())
  | .loop index environment =>
      (app.turn sorter index environment).map (·, ())
  | .reconnect deviceId environment =>
      (app.reconnect deviceId environment).map (·, ())

end AppModbus

end DataGateway.Modbus
