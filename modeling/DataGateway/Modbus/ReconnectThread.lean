import DataGateway.Modbus.Contexts

/-!
# The thread of `reconnectLoop`

The constructor of `ModbusApi` starts a detached thread.  Here it moves from
one access to the members to the next, so that calls on the object and the
destructor can come in between.  An iteration nobody interrupts is that of
`ModbusApi.reconnectLoop`.
-/

namespace DataGateway.Modbus

open Foundation

/-- What the thread does next: the tests of `runing_`, `ctx_` and the retries,
the calls of `createModbusContext` with the new context where there is one,
the assignment to `ctx_`, the reading of `retryInterval_`, or the sleep. -/
inductive ThreadAt
  | testsRuning
  | testsCtx
  | testsRetries
  | obtains
  | setsSlave (ctx : Nat)
  | connects (ctx : Nat)
  | destroys
  | assigns (ctx : Option Nat)
  | pauses
  | sleeps
  | returned
  deriving DecidableEq, Repr

/-- The step reads or writes a member: all but `modbus_connect`, which has the
new context only, and the sleep. -/
def ThreadAt.touches : ThreadAt → Bool
  | .connects _ | .sleeps | .returned => false
  | _ => true

/-- The thread is between its test of `ctx_` and the assignment. -/
def ThreadAt.attempts : ThreadAt → Bool
  | .testsRetries | .obtains | .setsSlave _ | .connects _ | .destroys
  | .assigns _ => true
  | _ => false

/-- The context that the thread has and `ctx_` has not yet. -/
def ThreadAt.pending? : ThreadAt → Option Nat
  | .setsSlave ctx | .connects ctx => some ctx
  | .assigns ctx => ctx
  | _ => none

/-- A `ModbusApi` object and the thread its constructor has started. -/
structure Threaded where
  api : ModbusApi
  thread : ThreadAt

namespace Threaded

/-- One step of the thread. -/
def advance (threaded : Threaded) (environment : Environment) :
    Except HandleFault Threaded :=
  let api := threaded.api
  match threaded.thread with
  | .testsRuning =>
      .ok (if api.runing then { threaded with thread := .testsCtx }
        else ⟨{ api with looping := false }, .returned⟩)
  | .testsCtx =>
      .ok { threaded with
        thread := if api.ctx.isNone then .testsRetries else .pauses }
  | .testsRetries =>
      .ok (if api.exhausted then ⟨{ api with looping := false }, .returned⟩
        else { threaded with thread := .obtains })
  | .obtains =>
      .ok (if ModbusApi.obtains api.settings environment then
          ⟨{ api with contexts := api.contexts.acquire },
            .setsSlave api.contexts.issued⟩
        else { threaded with thread := .assigns none })
  | .setsSlave ctx =>
      .ok { threaded with
        thread := if environment.setSlave api.settings.slaveAddr then
          .connects ctx else .destroys }
  | .connects ctx =>
      .ok (if environment.connect then
          ⟨{ api with connected := ctx :: api.connected }, .assigns (some ctx)⟩
        else { threaded with thread := .destroys })
  | .destroys =>
      match api.destroy with
      | .error fault => .error fault
      | .ok api => .ok ⟨api, .assigns none⟩
  | .assigns ctx =>
      .ok ⟨api.assign ctx, if ctx.isSome then .testsRuning else .pauses⟩
  | .pauses => .ok { threaded with thread := .sleeps }
  | .sleeps => .ok { threaded with thread := .testsRuning }
  | .returned => .ok threaded

/-- `ctx_` is null or live.  Only the thread sets it, so it stays null during
an attempt. -/
structure Sound (threaded : Threaded) : Prop where
  live : ∀ handle, threaded.api.ctx = some handle →
    threaded.api.contexts.Live handle
  null : threaded.thread.attempts = true → threaded.api.ctx = none
  pending : ∀ handle, threaded.thread.pending? = some handle →
    threaded.api.contexts.Live handle

section

variable {threaded : Threaded} {environment : Environment}

/-- A thread that is not in an attempt has no context of its own. -/
theorem Sound.of_idle {api : ModbusApi} {thread : ThreadAt}
    (live : ∀ handle, api.ctx = some handle → api.contexts.Live handle)
    (idle : thread.attempts = false) (none : thread.pending? = none) :
    Sound ⟨api, thread⟩ := by
  refine ⟨live, ?_, ?_⟩
  · intro attempts
    rw [idle] at attempts
    cases attempts
  · intro handle pending
    rw [none] at pending
    cases pending

theorem Sound.advance (sound : Sound threaded) (environment : Environment) :
    ∃ next, threaded.advance environment = .ok next ∧ Sound next := by
  obtain ⟨api, thread⟩ := threaded
  obtain ⟨live, null, pending⟩ := sound
  cases thread with
  | testsRuning =>
      refine ⟨_, rfl, ?_⟩
      split <;> exact .of_idle live rfl rfl
  | testsCtx =>
      refine ⟨_, rfl, ?_⟩
      cases pointer : api.ctx with
      | none => exact ⟨live, fun _ => pointer, by intro handle none; cases none⟩
      | some handle => exact .of_idle live rfl rfl
  | testsRetries =>
      refine ⟨_, rfl, ?_⟩
      split
      · exact .of_idle live rfl rfl
      · exact ⟨live, fun _ => null rfl, by intro handle none; cases none⟩
  | obtains =>
      refine ⟨_, rfl, ?_⟩
      split
      · refine ⟨?_, fun _ => null rfl, ?_⟩
        · intro handle pointer
          exact HandleTable.live_acquire_iff.mpr (.inr (live handle pointer))
        · intro handle new
          cases new
          exact HandleTable.live_acquire_iff.mpr (.inl rfl)
      · exact ⟨live, fun _ => null rfl, by intro handle none; cases none⟩
  | setsSlave ctx =>
      refine ⟨_, rfl, ?_⟩
      by_cases set : environment.setSlave api.settings.slaveAddr = true
      · simp only [set, if_true]
        exact ⟨live, fun _ => null rfl, pending⟩
      · simp only [set]
        exact ⟨live, fun _ => null rfl, by intro handle none; cases none⟩
  | connects ctx =>
      refine ⟨_, rfl, ?_⟩
      split
      · exact ⟨live, fun _ => null rfl, pending⟩
      · exact ⟨live, fun _ => null rfl, by intro handle none; cases none⟩
  | destroys =>
      have closed := ModbusApi.destroy_of_null (null rfl)
      refine ⟨⟨api, .assigns none⟩, by simp [Threaded.advance, closed], ?_⟩
      exact ⟨live, fun _ => null rfl, by intro handle none; cases none⟩
  | assigns ctx =>
      refine ⟨_, rfl, ?_⟩
      cases ctx <;> exact .of_idle pending rfl rfl
  | pauses | sleeps | returned =>
      exact ⟨_, rfl, .of_idle live rfl rfl⟩

end

/-- The thread alone, in a device that behaves the same all the time. -/
def advances (environment : Environment) :
    Nat → Threaded → Except HandleFault Threaded
  | 0, threaded => .ok threaded
  | steps + 1, threaded =>
      match threaded.advance environment with
      | .error fault => .error fault
      | .ok next => advances environment steps next

/-- The thread is between two iterations, or it has ended. -/
def AtRest (threaded : Threaded) : Prop :=
  threaded.thread = .testsRuning ∨ threaded.thread = .sleeps ∨
    threaded.thread = .returned

/-- Steps of the thread that nobody interrupts make one iteration of
`reconnectLoop`. -/
def Iterates (api : ModbusApi) (environment : Environment) : Prop :=
  ∃ steps final, advances environment steps ⟨api, .testsRuning⟩ = .ok final ∧
    final.AtRest ∧ api.reconnectLoop environment = .ok final.api

section

variable {api : ModbusApi} {environment : Environment}

theorem iterates_of_failsSetup (attempts : api.attempts = true)
    (fails : environment.failsSetup api.settings = true) :
    Iterates api environment := by
  obtain ⟨_, runing, pointer, more⟩ := ModbusApi.attempts_iff.mp attempts
  have created := ModbusApi.createModbusContext_fails pointer fails
  have iteration := ModbusApi.reconnectLoop_attempts attempts created
  obtain ⟨obtained, refused⟩ :
      ModbusApi.obtains api.settings environment = true ∧
        (environment.setSlave api.settings.slaveAddr = false ∨
          environment.connect = false) := by
    simpa [Environment.failsSetup] using fails
  let dropped := { api with contexts := api.contexts.acquire }
  cases slave : environment.setSlave api.settings.slaveAddr with
  | false =>
      refine ⟨8, ⟨dropped.assign none, .sleeps⟩, ?_, .inr (.inl rfl),
        iteration⟩
      simp [advances, advance, runing, pointer, more, obtained, slave, dropped,
        ModbusApi.destroy]
  | true =>
      have connection : environment.connect = false := by
        simpa [slave] using refused
      refine ⟨9, ⟨dropped.assign none, .sleeps⟩, ?_, .inr (.inl rfl),
        iteration⟩
      simp [advances, advance, runing, pointer, more, obtained, slave,
        connection, dropped, ModbusApi.destroy]

theorem iterates_of_obtained (attempts : api.attempts = true)
    (obtained : ModbusApi.obtains api.settings environment = true)
    (slave : environment.setSlave api.settings.slaveAddr = true)
    (connection : environment.connect = true) : Iterates api environment := by
  obtain ⟨_, runing, pointer, more⟩ := ModbusApi.attempts_iff.mp attempts
  have created : api.createModbusContext environment = .ok
      ({ api with
        contexts := api.contexts.acquire
        connected := api.contexts.issued :: api.connected },
        some api.contexts.issued) := by
    simp [ModbusApi.createModbusContext, obtained, slave, connection]
  refine ⟨7, ⟨_, .testsRuning⟩, ?_, .inl rfl,
    ModbusApi.reconnectLoop_attempts attempts created⟩
  simp [advances, advance, runing, pointer, more, obtained, slave, connection]
  rfl

theorem iterates_of_not_obtained (attempts : api.attempts = true)
    (missing : ModbusApi.obtains api.settings environment = false) :
    Iterates api environment := by
  obtain ⟨_, runing, pointer, more⟩ := ModbusApi.attempts_iff.mp attempts
  have created : api.createModbusContext environment = .ok (api, none) := by
    simp [ModbusApi.createModbusContext, missing]
  refine ⟨6, ⟨api.assign none, .sleeps⟩, ?_, .inr (.inl rfl),
    ModbusApi.reconnectLoop_attempts attempts created⟩
  simp [advances, advance, runing, pointer, more, missing]

private theorem iterates_of_attempts (attempts : api.attempts = true) :
    Iterates api environment := by
  by_cases fails : environment.failsSetup api.settings = true
  · exact iterates_of_failsSetup attempts fails
  · cases obtained : ModbusApi.obtains api.settings environment with
    | false => exact iterates_of_not_obtained attempts obtained
    | true =>
        have both : environment.setSlave api.settings.slaveAddr = true ∧
            environment.connect = true := by
          simpa [Environment.failsSetup, obtained] using fails
        exact iterates_of_obtained attempts obtained both.1 both.2

end

/-- The thread refines the function that makes one iteration at once. -/
theorem advances_iteration (api : ModbusApi) (environment : Environment)
    (looping : api.looping = true) : Iterates api environment := by
  cases runing : api.runing with
  | false =>
      refine ⟨1, ⟨{ api with looping := false }, .returned⟩, ?_,
        .inr (.inr rfl), ?_⟩
      · simp [advances, advance, runing]
      · simp [ModbusApi.reconnectLoop, looping, runing]
  | true =>
      cases pointer : api.ctx with
      | some handle =>
          refine ⟨3, ⟨api, .sleeps⟩, ?_, .inr (.inl rfl), ?_⟩
          · simp [advances, advance, runing, pointer]
          · simp [ModbusApi.reconnectLoop, looping, runing, pointer]
      | none =>
          cases exhausted : api.exhausted with
          | true =>
              refine ⟨3, ⟨{ api with looping := false }, .returned⟩, ?_,
                .inr (.inr rfl), ?_⟩
              · simp [advances, advance, runing, pointer, exhausted]
              · simp [ModbusApi.reconnectLoop, looping, runing, pointer,
                  exhausted]
          | false =>
              apply iterates_of_attempts
              exact ModbusApi.attempts_iff.mpr
                ⟨looping, runing, pointer, exhausted⟩

end Threaded

end DataGateway.Modbus
