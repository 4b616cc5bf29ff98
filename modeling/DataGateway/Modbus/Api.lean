import DataGateway.Foundation.Handles

/-!
# The Modbus connection

`ModbusApi` (`core/modbus/modbus_api.cc`) together with the libmodbus contexts
it has obtained.  What libmodbus answers is an `Environment` of each call.
-/

namespace DataGateway.Modbus

open Foundation

inductive ModbusType
  | TCP
  | RTU
  deriving DecidableEq, Repr

inductive Parity
  | NONE
  | EVEN
  | ODD
  deriving DecidableEq, Repr

/-- The members that the constructor sets for good. -/
structure Settings where
  slaveAddr : Int32
  type : ModbusType
  portName : String
  baudrate : Int32
  parity : Parity
  ip : String
  port : Int32
  maxRetries : Int32

/-- Which calls of libmodbus succeed; a read answers with its words. -/
structure Environment where
  newTcp : String → Int32 → Bool
  newRtu : String → Int32 → Parity → Bool
  setSlave : Int32 → Bool
  connect : Bool
  readRegisters : UInt16 → Int32 → Option (List UInt16)
  writeRegister : UInt16 → UInt16 → Option Unit
  writeRegisters : UInt16 → List UInt16 → Option Unit

/-- A `ModbusApi` object with the contexts that libmodbus has issued and those
that are connected.  `retries` and `looping` belong to `reconnectLoop`. -/
structure ModbusApi where
  settings : Settings
  ctx : Option Nat
  runing : Bool
  retries : Nat
  looping : Bool
  contexts : HandleTable
  connected : List Nat

namespace ModbusApi

/-- `modbus_close` and `modbus_free` of `ctx_`, if there is one. -/
def destroy (api : ModbusApi) : Except HandleFault ModbusApi :=
  match api.ctx with
  | none => .ok api
  | some handle =>
      match api.contexts.release? handle with
      | .error fault => .error fault
      | .ok contexts =>
          .ok { api with
            ctx := none
            contexts := contexts
            connected := api.connected.erase handle }

/-- `modbus_new_tcp` or `modbus_new_rtu`. -/
def obtains (settings : Settings) (environment : Environment) : Bool :=
  match settings.type with
  | .TCP => environment.newTcp settings.ip settings.port
  | .RTU =>
      environment.newRtu settings.portName settings.baudrate settings.parity

/-- The two failure exits call `destroy`, which is about `ctx_` and not about
the new context. -/
def createModbusContext (api : ModbusApi) (environment : Environment) :
    Except HandleFault (ModbusApi × Option Nat) :=
  if obtains api.settings environment then
    let ctx := api.contexts.issued
    let api := { api with contexts := api.contexts.acquire }
    if environment.setSlave api.settings.slaveAddr then
      if environment.connect then
        .ok ({ api with connected := ctx :: api.connected }, some ctx)
      else
        match api.destroy with
        | .error fault => .error fault
        | .ok api => .ok (api, none)
    else
      match api.destroy with
      | .error fault => .error fault
      | .ok api => .ok (api, none)
  else .ok (api, none)

/-- The members before the constructor's body. -/
def blank (settings : Settings) : ModbusApi :=
  { settings := settings
    ctx := none
    runing := true
    retries := 0
    looping := true
    contexts := .empty
    connected := [] }

/-- The constructor, which also starts the thread of `reconnectLoop`. -/
def construct (settings : Settings) (environment : Environment) :
    Except HandleFault ModbusApi :=
  match (blank settings).createModbusContext environment with
  | .error fault => .error fault
  | .ok (api, ctx) => .ok { api with ctx := ctx }

/-- The common body of a read or write with this answer, `none` for -1. -/
def request (api : ModbusApi) (answer : Option α) :
    Except HandleFault (ModbusApi × Option α) :=
  match api.ctx with
  | none => .ok (api, none)
  | some _ =>
      match api.contexts.use api.ctx with
      | .error fault => .error fault
      | .ok _ =>
          match answer with
          | some value => .ok (api, some value)
          | none =>
              match api.destroy with
              | .error fault => .error fault
              | .ok api => .ok (api, none)

def readRegisters (api : ModbusApi) (environment : Environment)
    (startAddr : UInt16) (nbRegs : Int32) :
    Except HandleFault (ModbusApi × Option (List UInt16)) :=
  api.request (environment.readRegisters startAddr nbRegs)

def writeRegister (api : ModbusApi) (environment : Environment)
    (addr value : UInt16) : Except HandleFault (ModbusApi × Option Unit) :=
  api.request (environment.writeRegister addr value)

def writeRegisters (api : ModbusApi) (environment : Environment)
    (startAddr : UInt16) (src : List UInt16) :
    Except HandleFault (ModbusApi × Option Unit) :=
  api.request (environment.writeRegisters startAddr src)

def set_debug (api : ModbusApi) : Except HandleFault ModbusApi :=
  match api.ctx with
  | none => .ok api
  | some _ =>
      match api.contexts.use api.ctx with
      | .error fault => .error fault
      | .ok _ => .ok api

def stop (api : ModbusApi) : ModbusApi := { api with runing := false }

/-- The loop is past its last attempt. -/
def exhausted (api : ModbusApi) : Bool :=
  decide (0 < api.settings.maxRetries) &&
    decide (api.settings.maxRetries.toInt ≤ (api.retries : Int))

/-- The assignment to `ctx_` in `reconnectLoop`, and its counter. -/
def assign (api : ModbusApi) (ctx : Option Nat) : ModbusApi :=
  { api with
    ctx := ctx
    retries := if ctx.isSome then 0 else api.retries + 1 }

/-- One iteration of `reconnectLoop`. -/
def reconnectLoop (api : ModbusApi) (environment : Environment) :
    Except HandleFault ModbusApi :=
  if api.looping then
    if api.runing then
      match api.ctx with
      | some _ => .ok api
      | none =>
          if api.exhausted then .ok { api with looping := false }
          else
            match api.createModbusContext environment with
            | .error fault => .error fault
            | .ok (api, ctx) => .ok (api.assign ctx)
    else .ok { api with looping := false }
  else .ok api

/-- The destructor leaves the contexts only. -/
def destruct (api : ModbusApi) : Except HandleFault HandleTable :=
  match api.destroy with
  | .error fault => .error fault
  | .ok closed => .ok closed.contexts

end ModbusApi

end DataGateway.Modbus
