import DataGateway.Foundation.Runs
import DataGateway.Modbus.Api

/-!
# Accounting for the Modbus contexts

A `ModbusApi` object is the sole owner of its context as long as every attempt
to create one either gets none from libmodbus or succeeds.  The failure exits
of `createModbusContext` drop the pointer to a context that nobody frees.
-/

namespace DataGateway.Modbus

open Foundation

inductive Operation
  | readRegisters (startAddr : UInt16) (nbRegs : Int32)
  | writeRegister (addr value : UInt16)
  | writeRegisters (startAddr : UInt16) (src : List UInt16)
  | set_debug
  | stop
  | reconnectLoop

/-- The results of the operations are left out. -/
def operationStep (api : ModbusApi) (input : Operation × Environment) :
    Except HandleFault (ModbusApi × Unit) :=
  match input.1 with
  | .readRegisters startAddr nbRegs =>
      (api.readRegisters input.2 startAddr nbRegs).map fun (next, _) => (next, ())
  | .writeRegister addr value =>
      (api.writeRegister input.2 addr value).map fun (next, _) => (next, ())
  | .writeRegisters startAddr src =>
      (api.writeRegisters input.2 startAddr src).map fun (next, _) => (next, ())
  | .set_debug => api.set_debug.map (·, ())
  | .stop => .ok (api.stop, ())
  | .reconnectLoop => (api.reconnectLoop input.2).map (·, ())

namespace ModbusApi

/-- One context is outstanding when `ctx_` is set and none otherwise, and
`ctx_` is live and connected. -/
def AccountsFor (api : ModbusApi) : Prop :=
  api.contexts.outstanding = (if api.ctx.isSome then 1 else 0) ∧
    ∀ handle, api.ctx = some handle →
      api.contexts.Live handle ∧ handle ∈ api.connected

/-- The destructor finds nothing wrong, and after it every context ever issued
has been freed exactly once. -/
def DestructsClean (api : ModbusApi) : Prop :=
  ∃ table, api.destruct = .ok table ∧ table.ReleasedExactlyOnce

/-- The operation frees no context twice and uses none that is dead (it does
not fault), and afterwards all contexts are accounted for. -/
def KeepsAccount (_ : ModbusApi) (_ : Operation × Environment)
    (result : Except HandleFault (ModbusApi × Unit)) : Prop :=
  ∃ next, result = .ok (next, ()) ∧ next.AccountsFor ∧ next.DestructsClean

end ModbusApi

open ModbusApi

def ContextsAccounted (settings : Settings) (environment : Environment)
    (operations : List (Operation × Environment)) : Prop :=
  ∃ api, construct settings environment = .ok api ∧
    api.AccountsFor ∧ api.DestructsClean ∧
    EachStep operationStep KeepsAccount api operations

/-- libmodbus provides a context that cannot be set up. -/
def Environment.failsSetup (environment : Environment) (settings : Settings) :
    Bool :=
  obtains settings environment &&
    !(environment.setSlave settings.slaveAddr && environment.connect)

namespace ModbusApi

/-- The iteration of `reconnectLoop` calls `createModbusContext`. -/
def attempts (api : ModbusApi) : Bool :=
  api.looping && api.runing && api.ctx.isNone && !api.exhausted

def SetsUp (api : ModbusApi) (input : Operation × Environment)
    (_ : Except HandleFault (ModbusApi × Unit)) : Prop :=
  input.1 = .reconnectLoop → api.attempts = true →
    input.2.failsSetup api.settings = false

structure OwnsContext (api : ModbusApi) : Prop where
  sole : SoleOwner api.contexts api.ctx
  connected : ∀ handle, api.ctx = some handle → handle ∈ api.connected

section

variable {api : ModbusApi} {environment : Environment}

theorem OwnsContext.accountsFor (owner : OwnsContext api) :
    api.AccountsFor := by
  refine ⟨owner.sole.outstanding, ?_⟩
  intro handle pointer
  exact ⟨(owner.sole handle).mpr pointer, owner.connected handle pointer⟩

theorem destroy_of_null (null : api.ctx = none) : api.destroy = .ok api := by
  simp [destroy, null]

theorem OwnsContext.destroy (owner : OwnsContext api) :
    ∃ closed, api.destroy = .ok closed ∧ OwnsContext closed ∧
      closed.ctx = none := by
  cases pointer : api.ctx with
  | none => exact ⟨api, destroy_of_null pointer, owner, pointer⟩
  | some handle =>
      have sole := owner.sole
      rw [pointer] at sole
      have released := HandleTable.release?_of_live sole.live
      refine ⟨_, by simp [ModbusApi.destroy, pointer, released]; rfl, ?_, rfl⟩
      refine ⟨sole.release, ?_⟩
      intro other null
      cases null

theorem OwnsContext.destructsClean (owner : OwnsContext api) :
    api.DestructsClean := by
  obtain ⟨closed, result, closedOwner, null⟩ := owner.destroy
  have empty := closedOwner.sole
  rw [null] at empty
  exact ⟨closed.contexts, by simp [destruct, result], empty.releasedExactlyOnce⟩

/-- `destroy` does nothing for the new context: `ctx_` is null. -/
theorem createModbusContext_fails (null : api.ctx = none)
    (fails : environment.failsSetup api.settings = true) :
    api.createModbusContext environment =
      .ok ({ api with contexts := api.contexts.acquire }, none) := by
  have closed : { api with contexts := api.contexts.acquire }.destroy =
      .ok { api with contexts := api.contexts.acquire } :=
    destroy_of_null null
  simp only [Environment.failsSetup, Bool.and_eq_true, Bool.not_eq_true',
    Bool.and_eq_false_iff] at fails
  obtain ⟨obtained, slave | connection⟩ := fails
  · simp [createModbusContext, obtained, slave, closed]
  · simp [createModbusContext, obtained, connection, closed]

theorem OwnsContext.createModbusContext (owner : OwnsContext api)
    (null : api.ctx = none)
    (whole : environment.failsSetup api.settings = false) :
    ∃ next ctx, api.createModbusContext environment = .ok (next, ctx) ∧
      SoleOwner next.contexts ctx ∧
      ∀ handle, ctx = some handle → handle ∈ next.connected := by
  have empty := owner.sole
  rw [null] at empty
  by_cases obtained : obtains api.settings environment = true
  · have both : environment.setSlave api.settings.slaveAddr = true ∧
        environment.connect = true := by
      simpa [Environment.failsSetup, obtained] using whole
    refine ⟨_, _, by
      simp [ModbusApi.createModbusContext, obtained, both]; exact ⟨rfl, rfl⟩,
      empty.acquire, ?_⟩
    intro handle pointer
    cases pointer
    exact List.mem_cons_self
  · refine ⟨api, none, by simp [ModbusApi.createModbusContext, obtained],
      empty, ?_⟩
    intro handle pointer
    cases pointer

/-- A read or write that fails closes the connection; one that succeeds, or
finds no context, changes nothing. -/
theorem OwnsContext.request (owner : OwnsContext api) (answer : Option α) :
    ∃ next result, api.request answer = .ok (next, result) ∧
      OwnsContext next := by
  cases pointer : api.ctx with
  | none =>
      exact ⟨api, none, by simp [ModbusApi.request, pointer], owner⟩
  | some handle =>
      have live := (owner.sole handle).mpr pointer
      have used := HandleTable.use_of_live live
      obtain ⟨closed, result, closedOwner, _⟩ := owner.destroy
      cases answer with
      | some value =>
          exact ⟨api, some value, by simp [ModbusApi.request, pointer, used],
            owner⟩
      | none =>
          exact ⟨closed, none,
            by simp [ModbusApi.request, pointer, used, result], closedOwner⟩

theorem OwnsContext.request_step (owner : OwnsContext api)
    (answer : Option α) :
    ∃ next, (api.request answer).map (fun (next, _) => (next, ())) =
        .ok (next, ()) ∧
      OwnsContext next := by
  obtain ⟨next, result, requested, owned⟩ := owner.request answer
  exact ⟨next, by rw [requested]; rfl, owned⟩

theorem OwnsContext.set_debug (owner : OwnsContext api) :
    api.set_debug = .ok api := by
  cases pointer : api.ctx with
  | none => simp [ModbusApi.set_debug, pointer]
  | some handle =>
      have live := (owner.sole handle).mpr pointer
      simp [ModbusApi.set_debug, pointer, HandleTable.use_of_live live]

theorem attempts_iff :
    api.attempts = true ↔ api.looping = true ∧ api.runing = true ∧
      api.ctx = none ∧ api.exhausted = false := by
  simp [attempts, and_assoc]

theorem OwnsContext.reconnectLoop_idle (owner : OwnsContext api)
    (idle : api.attempts = false) :
    ∃ next, api.reconnectLoop environment = .ok next ∧ OwnsContext next := by
  unfold ModbusApi.reconnectLoop
  split
  · next looping =>
      split
      · next runing =>
          split
          · exact ⟨_, rfl, owner⟩
          · next null =>
              have exhausted : api.exhausted = true := by
                by_contra more
                rw [attempts_iff.mpr ⟨looping, runing, null,
                  by simpa using more⟩] at idle
                cases idle
              rw [if_pos exhausted]
              exact ⟨_, rfl, owner.sole, owner.connected⟩
      · exact ⟨_, rfl, owner.sole, owner.connected⟩
  · exact ⟨_, rfl, owner⟩

theorem reconnectLoop_attempts (attempt : api.attempts = true)
    {next : ModbusApi} {ctx : Option Nat}
    (created : api.createModbusContext environment = .ok (next, ctx)) :
    api.reconnectLoop environment = .ok (next.assign ctx) := by
  obtain ⟨looping, runing, null, more⟩ := attempts_iff.mp attempt
  simp [ModbusApi.reconnectLoop, looping, runing, null, more, created]

theorem OwnsContext.reconnectLoop (owner : OwnsContext api)
    (setsUp : api.attempts = true →
      environment.failsSetup api.settings = false) :
    ∃ next, api.reconnectLoop environment = .ok next ∧ OwnsContext next := by
  cases attempt : api.attempts with
  | false => exact owner.reconnectLoop_idle attempt
  | true =>
      have null := (attempts_iff.mp attempt).2.2.1
      obtain ⟨next, ctx, created, sole, connected⟩ :=
        owner.createModbusContext null (setsUp attempt)
      exact ⟨next.assign ctx, reconnectLoop_attempts attempt created, sole,
        connected⟩

theorem not_accountsFor_of_dropped (null : api.ctx = none)
    (live : ∃ handle, api.contexts.Live handle) : ¬api.AccountsFor := by
  intro accounts
  obtain ⟨handle, live⟩ := live
  have none := accounts.1
  rw [null] at none
  exact HandleTable.outstanding_eq_zero_iff.mp none handle live

private theorem live_issued (table : HandleTable) :
    ∃ handle, table.acquire.Live handle :=
  ⟨table.issued, HandleTable.live_acquire_iff.mpr (.inl rfl)⟩

theorem OwnsContext.step (owner : OwnsContext api) {operation : Operation}
    (setsUp : SetsUp api (operation, environment)
      (operationStep api (operation, environment))) :
    ∃ next, operationStep api (operation, environment) = .ok (next, ()) ∧
      OwnsContext next := by
  cases operation with
  | readRegisters startAddr nbRegs => exact owner.request_step _
  | writeRegister addr value => exact owner.request_step _
  | writeRegisters startAddr src => exact owner.request_step _
  | set_debug =>
      exact ⟨api, by simp [operationStep, owner.set_debug, Except.map], owner⟩
  | stop => exact ⟨api.stop, rfl, owner.sole, owner.connected⟩
  | reconnectLoop =>
      obtain ⟨next, result, owned⟩ :
          ∃ next, api.reconnectLoop environment = .ok next ∧
            OwnsContext next := owner.reconnectLoop (setsUp rfl)
      exact ⟨next, by simp [operationStep, result, Except.map], owned⟩

theorem OwnsContext.keepsAccount_iff (owner : OwnsContext api)
    (input : Operation × Environment) :
    SetsUp api input (operationStep api input) ↔
      KeepsAccount api input (operationStep api input) := by
  constructor
  · intro setsUp
    obtain ⟨next, result, owned⟩ := owner.step setsUp
    exact ⟨next, result, owned.accountsFor, owned.destructsClean⟩
  · intro kept operation attempt
    by_contra failing
    obtain ⟨next, result, accounts, _⟩ := kept
    obtain ⟨_, _, null, _⟩ := attempts_iff.mp attempt
    have fails : input.2.failsSetup api.settings = true := by
      simpa using failing
    have created := createModbusContext_fails null fails
    simp only [operationStep, operation,
      reconnectLoop_attempts attempt created, Except.map] at result
    cases result
    exact not_accountsFor_of_dropped rfl (live_issued api.contexts) accounts

end

private theorem ownsContext_blank (settings : Settings) :
    OwnsContext (blank settings) := by
  refine ⟨SoleOwner.empty, ?_⟩
  intro handle pointer
  cases pointer

theorem construct_owns {settings : Settings} {environment : Environment}
    (whole : environment.failsSetup settings = false) :
    ∃ api, construct settings environment = .ok api ∧ OwnsContext api := by
  obtain ⟨next, ctx, created, sole, connected⟩ :=
    (ownsContext_blank settings).createModbusContext rfl whole
  exact ⟨{ next with ctx := ctx }, by simp [construct, created], sole,
    connected⟩

private theorem construct_fails {settings : Settings} {environment : Environment}
    (fails : environment.failsSetup settings = true) :
    ∃ api, construct settings environment = .ok api ∧ ¬api.AccountsFor := by
  have null : (blank settings).ctx = none := rfl
  refine ⟨{ blank settings with
    contexts := (blank settings).contexts.acquire }, ?_, ?_⟩
  · simp only [construct, createModbusContext_fails null fails, null]
  · exact not_accountsFor_of_dropped rfl (live_issued _)

end ModbusApi

/-- Every context is accounted for throughout a run, from the constructor to
the destructor, if and only if every context that libmodbus provides can also
be set up. -/
theorem contextsAccounted_iff (settings : Settings) (environment : Environment)
    (operations : List (Operation × Environment)) :
    ContextsAccounted settings environment operations ↔
      environment.failsSetup settings = false ∧
        ∀ api, construct settings environment = .ok api →
          EachStep operationStep SetsUp api operations := by
  cases outcome : environment.failsSetup settings with
  | true =>
      obtain ⟨failed, constructed, lost⟩ := construct_fails outcome
      constructor
      · rintro ⟨api, again, accounts, _⟩
        cases constructed.symm.trans again
        exact (lost accounts).elim
      · intro whole
        cases whole.1
  | false =>
      obtain ⟨api, constructed, owner⟩ := construct_owns outcome
      have runs : EachStep operationStep SetsUp api operations ↔
          EachStep operationStep KeepsAccount api operations := by
        apply eachStep_congr OwnsContext
        · intro state input next output owned setsUp result
          obtain ⟨kept, same, keptOwner⟩ := owned.step setsUp
          cases result.symm.trans same
          exact keptOwner
        · intro state input owned
          exact owned.keepsAccount_iff input
        · exact owner
      constructor
      · rintro ⟨first, firstConstructed, _, _, each⟩
        cases constructed.symm.trans firstConstructed
        refine ⟨rfl, ?_⟩
        intro other again
        cases constructed.symm.trans again
        exact runs.mpr each
      · intro setsUp
        refine ⟨api, constructed, owner.accountsFor, owner.destructsClean, ?_⟩
        exact runs.mp (setsUp.2 api constructed)

/-- A device that does not answer: libmodbus provides a context and cannot
connect it. -/
def unreachable : Environment :=
  { newTcp := fun _ _ => true
    newRtu := fun _ _ _ => true
    setSlave := fun _ => true
    connect := false
    readRegisters := fun _ _ => none
    writeRegister := fun _ _ => none
    writeRegisters := fun _ _ => none }

/-- A device that is there and answers every read with zeros. -/
def answering : Environment :=
  { unreachable with
    connect := true
    readRegisters := fun _ count => some (List.replicate count.toNatClampNeg 0) }

def tcpSettings : Settings :=
  { slaveAddr := 1
    type := .TCP
    portName := ""
    baudrate := 9600
    parity := .NONE
    ip := "192.168.1.10"
    port := 502
    maxRetries := 3 }

/-- Every failed attempt to reach the device leaks a context. -/
theorem not_contextsAccounted_unreachable :
    ¬ContextsAccounted tcpSettings unreachable [] ∧
      ∃ api final, construct tcpSettings unreachable = .ok api ∧
        run operationStep api
            (List.replicate 2 (.reconnectLoop, unreachable)) = .ok final ∧
        final.ctx = none ∧ final.contexts.outstanding = 3 := by
  constructor
  · rintro ⟨api, constructed, accounts, _⟩
    cases constructed
    exact absurd accounts.1 (by decide)
  · exact ⟨_, _, rfl, rfl, rfl, rfl⟩

end DataGateway.Modbus
