import DataGateway.Modbus.Contexts

/-!
# The retry budget of `reconnectLoop`

The counter is local to the thread, while failed reads and writes null `ctx_`
at any moment.  In every run without `stop` it equals the number of attempts
that have failed in a row, so an outage gets its whole budget and no more.
-/

namespace DataGateway.Modbus

open Foundation

/-- The failures at the end of a history of connection attempts. -/
def consecutiveFailures (outcomes : List Bool) : Nat :=
  (outcomes.reverse.takeWhile fun connected => !connected).length

@[simp] theorem consecutiveFailures_nil : consecutiveFailures [] = 0 := rfl

@[simp] theorem consecutiveFailures_success (outcomes : List Bool) :
    consecutiveFailures (outcomes ++ [true]) = 0 := by
  simp [consecutiveFailures]

@[simp] theorem consecutiveFailures_failure (outcomes : List Bool) :
    consecutiveFailures (outcomes ++ [false]) =
      consecutiveFailures outcomes + 1 := by
  simp [consecutiveFailures]

namespace ModbusApi

/-- The connection attempt that the operation makes: it has succeeded or not. -/
def attempt? (api : ModbusApi) (input : Operation × Environment) :
    Option Bool :=
  match input.1 with
  | .reconnectLoop =>
      if api.attempts then
        match api.createModbusContext input.2 with
        | .ok (_, ctx) => some ctx.isSome
        | .error _ => none
      else none
  | _ => none

/-- The outcomes of the attempts along a run, in order. -/
def attemptOutcomes : ModbusApi → List (Operation × Environment) → List Bool
  | _, [] => []
  | api, input :: inputs =>
      (api.attempt? input).toList ++
        match operationStep api input with
        | .ok (next, _) => attemptOutcomes next inputs
        | .error _ => []

/-- The thread leaves its loop in this operation. -/
def GivesUp (api : ModbusApi) (input : Operation × Environment) : Prop :=
  api.looping = true ∧
    ∃ next, operationStep api input = .ok (next, ()) ∧ next.looping = false

/-- After a history of attempts the thread has given up only if the budget is
spent, tries whenever there is no context and the budget is not spent, gives up
in its next iteration when it is, and never tries again afterwards. -/
structure HonoursBudget (settings : Settings) (api : ModbusApi)
    (outcomes : List Bool) : Prop where
  spent : api.looping = false → 0 < settings.maxRetries ∧
    (consecutiveFailures outcomes : Int) = settings.maxRetries.toInt
  tries : ∀ input, (api.attempt? input).isSome = true ↔
    input.1 = .reconnectLoop ∧ api.ctx = none ∧
      (0 < settings.maxRetries →
        (consecutiveFailures outcomes : Int) < settings.maxRetries.toInt)
  givesUp : ∀ input, input.1 ≠ .stop →
    (api.GivesUp input ↔ input.1 = .reconnectLoop ∧ api.looping = true ∧
      0 < settings.maxRetries ∧
      (consecutiveFailures outcomes : Int) = settings.maxRetries.toInt)
  silent : api.looping = false → ∀ later, api.attemptOutcomes later = []

/-- What every operation but `stop` preserves: the counter is the number of
failures in a row, and it stays within the budget. -/
structure Budgeted (settings : Settings) (api : ModbusApi)
    (outcomes : List Bool) : Prop where
  same : api.settings = settings
  runing : api.runing = true
  live : ∀ handle, api.ctx = some handle → api.contexts.Live handle
  counts : api.retries = consecutiveFailures outcomes
  bounded : 0 < settings.maxRetries →
    (api.retries : Int) ≤ settings.maxRetries.toInt
  spent : api.looping = false → api.exhausted = true
  null : 0 < api.retries → api.ctx = none

section

variable {settings : Settings} {api : ModbusApi} {environment : Environment}
  {outcomes : List Bool}

theorem exhausted_iff : api.exhausted = true ↔
    0 < api.settings.maxRetries ∧
      api.settings.maxRetries.toInt ≤ (api.retries : Int) := by
  simp [exhausted]

/-- The members that an attempt to create a context leaves alone. -/
structure Untouched (api next : ModbusApi) : Prop where
  settings : next.settings = api.settings
  runing : next.runing = api.runing
  retries : next.retries = api.retries
  looping : next.looping = api.looping

theorem createModbusContext_of_null (null : api.ctx = none)
    (environment : Environment) :
    ∃ next ctx, api.createModbusContext environment = .ok (next, ctx) ∧
      Untouched api next ∧
      ∀ handle, ctx = some handle → next.contexts.Live handle := by
  by_cases fails : environment.failsSetup api.settings = true
  · refine ⟨_, _, createModbusContext_fails null fails, ⟨rfl, rfl, rfl, rfl⟩, ?_⟩
    intro handle pointer
    cases pointer
  · by_cases obtained : obtains api.settings environment = true
    · have both : environment.setSlave api.settings.slaveAddr = true ∧
          environment.connect = true := by
        simpa [Environment.failsSetup, obtained] using fails
      refine ⟨{ api with
          contexts := api.contexts.acquire
          connected := api.contexts.issued :: api.connected },
        some api.contexts.issued,
        by simp [createModbusContext, obtained, both],
        ⟨rfl, rfl, rfl, rfl⟩, ?_⟩
      intro handle pointer
      cases pointer
      exact HandleTable.live_acquire_iff.mpr (.inl rfl)
    · refine ⟨api, none, by simp [createModbusContext, obtained],
        ⟨rfl, rfl, rfl, rfl⟩, ?_⟩
      intro handle pointer
      cases pointer

theorem destroy_of_live
    (live : ∀ handle, api.ctx = some handle → api.contexts.Live handle) :
    ∃ next, api.destroy = .ok next ∧ Untouched api next ∧ next.ctx = none := by
  cases pointer : api.ctx with
  | none =>
      exact ⟨api, destroy_of_null pointer, ⟨rfl, rfl, rfl, rfl⟩, pointer⟩
  | some handle =>
      have released := HandleTable.release?_of_live (live handle pointer)
      refine ⟨_, by simp [destroy, pointer, released]; rfl, ?_, rfl⟩
      exact ⟨rfl, rfl, rfl, rfl⟩

/-- A read or write can only null `ctx_`. -/
theorem request_of_live
    (live : ∀ handle, api.ctx = some handle → api.contexts.Live handle)
    (answer : Option α) :
    ∃ next result, api.request answer = .ok (next, result) ∧
      Untouched api next ∧ (next = api ∨ next.ctx = none) := by
  cases pointer : api.ctx with
  | none =>
      exact ⟨api, none, by simp [request, pointer], ⟨rfl, rfl, rfl, rfl⟩,
        .inl rfl⟩
  | some handle =>
      have used := HandleTable.use_of_live (live handle pointer)
      cases answer with
      | some value =>
          exact ⟨api, some value, by simp [request, pointer, used],
            ⟨rfl, rfl, rfl, rfl⟩, .inl rfl⟩
      | none =>
          obtain ⟨next, closed, untouched, null⟩ := destroy_of_live live
          exact ⟨next, none, by simp [request, pointer, used, closed],
            untouched, .inr null⟩

theorem Budgeted.attempts_iff (budgeted : Budgeted settings api outcomes) :
    api.attempts = true ↔ api.ctx = none ∧ api.exhausted = false := by
  constructor
  · intro attempt
    obtain ⟨_, _, null, more⟩ := ModbusApi.attempts_iff.mp attempt
    exact ⟨null, more⟩
  · rintro ⟨null, more⟩
    refine ModbusApi.attempts_iff.mpr ⟨?_, budgeted.runing, null, more⟩
    by_contra ended
    have spent := budgeted.spent (by simpa using ended)
    rw [more] at spent
    cases spent

theorem Budgeted.exhausted_iff (budgeted : Budgeted settings api outcomes) :
    api.exhausted = true ↔ 0 < settings.maxRetries ∧
      (consecutiveFailures outcomes : Int) = settings.maxRetries.toInt := by
  rw [ModbusApi.exhausted_iff, budgeted.same, ← budgeted.counts]
  constructor
  · rintro ⟨limited, reached⟩
    exact ⟨limited, Int.le_antisymm (budgeted.bounded limited) reached⟩
  · rintro ⟨limited, same⟩
    exact ⟨limited, Int.le_of_eq same.symm⟩

/-- Only the thread sets `ctx_`, so it is null when the budget is spent. -/
theorem Budgeted.null_of_exhausted (budgeted : Budgeted settings api outcomes)
    (exhausted : api.exhausted = true) : api.ctx = none := by
  obtain ⟨limited, reached⟩ := ModbusApi.exhausted_iff.mp exhausted
  have positive : 0 < api.settings.maxRetries.toInt :=
    Int32.lt_iff_toInt_lt.mp limited
  exact budgeted.null (by omega)

theorem Budgeted.of_untouched (budgeted : Budgeted settings api outcomes)
    {next : ModbusApi} (untouched : Untouched api next)
    (kept : next = api ∨ next.ctx = none) :
    Budgeted settings next outcomes := by
  obtain rfl | null := kept
  · exact budgeted
  · have same : next.exhausted = api.exhausted := by
      simp [exhausted, untouched.settings, untouched.retries]
    refine ⟨untouched.settings.trans budgeted.same,
      untouched.runing.trans budgeted.runing, ?_,
      untouched.retries.trans budgeted.counts, ?_, ?_, fun _ => null⟩
    · intro handle pointer
      rw [null] at pointer
      cases pointer
    · rw [untouched.retries]
      exact budgeted.bounded
    · rw [untouched.looping, same]
      exact budgeted.spent

theorem Budgeted.assign (budgeted : Budgeted settings api outcomes)
    (attempt : api.attempts = true) {next : ModbusApi} {ctx : Option Nat}
    (untouched : Untouched api next)
    (live : ∀ handle, ctx = some handle → next.contexts.Live handle) :
    Budgeted settings (next.assign ctx) (outcomes ++ [ctx.isSome]) := by
  obtain ⟨looping, _, _, more⟩ := ModbusApi.attempts_iff.mp attempt
  have runs : (next.assign ctx).looping = true :=
    untouched.looping.trans looping
  have room : 0 < settings.maxRetries →
      (api.retries : Int) < settings.maxRetries.toInt := by
    intro limited
    by_contra spent
    rw [ModbusApi.exhausted_iff.mpr
      ⟨by rw [budgeted.same]; exact limited,
        by rw [budgeted.same]; omega⟩] at more
    cases more
  refine ⟨untouched.settings.trans budgeted.same,
    untouched.runing.trans budgeted.runing, live, ?_, ?_, ?_, ?_⟩
  · cases ctx with
    | none => simp [ModbusApi.assign, untouched.retries, budgeted.counts]
    | some handle => simp [ModbusApi.assign]
  · intro limited
    have before := room limited
    cases ctx with
    | none => simp only [ModbusApi.assign, untouched.retries]; simp; omega
    | some handle => simp only [ModbusApi.assign]; simp; omega
  · intro ended
    rw [runs] at ended
    cases ended
  · intro counted
    cases ctx with
    | none => rfl
    | some handle => simp [ModbusApi.assign] at counted

/-- The three things that an iteration of the thread can do. -/
theorem Budgeted.reconnectLoop (budgeted : Budgeted settings api outcomes)
    (environment : Environment) :
    ∃ next, api.reconnectLoop environment = .ok next ∧
      Budgeted settings next
        (outcomes ++ (api.attempt? (.reconnectLoop, environment)).toList) ∧
      (next.looping = false ↔ api.looping = false ∨ api.exhausted = true) := by
  cases attempt : api.attempts with
  | true =>
      obtain ⟨looping, _, null, more⟩ := ModbusApi.attempts_iff.mp attempt
      obtain ⟨next, ctx, created, untouched, live⟩ :=
        createModbusContext_of_null null environment
      have outcome : api.attempt? (.reconnectLoop, environment) =
          some ctx.isSome := by
        simp [attempt?, attempt, created]
      refine ⟨next.assign ctx, reconnectLoop_attempts attempt created, ?_, ?_⟩
      · rw [outcome]
        exact budgeted.assign attempt untouched live
      · simp [ModbusApi.assign, untouched.looping, looping, more]
  | false =>
      have outcome : api.attempt? (.reconnectLoop, environment) = none := by
        simp [attempt?, attempt]
      rw [outcome, Option.toList_none, List.append_nil]
      cases looping : api.looping with
      | false =>
          exact ⟨api, by simp [ModbusApi.reconnectLoop, looping], budgeted,
            by simp [looping]⟩
      | true =>
          cases exhausted : api.exhausted with
          | true =>
              have null := budgeted.null_of_exhausted exhausted
              refine ⟨{ api with looping := false },
                by simp [ModbusApi.reconnectLoop, looping, budgeted.runing, null,
                  exhausted], ?_, by simp⟩
              exact ⟨budgeted.same, budgeted.runing, budgeted.live,
                budgeted.counts, budgeted.bounded, fun _ => exhausted,
                budgeted.null⟩
          | false =>
              cases pointer : api.ctx with
              | none =>
                  rw [budgeted.attempts_iff.mpr ⟨pointer, exhausted⟩] at attempt
                  cases attempt
              | some handle =>
                  exact ⟨api, by simp [ModbusApi.reconnectLoop, looping,
                    budgeted.runing, pointer], budgeted, by simp [looping]⟩

theorem Budgeted.request (budgeted : Budgeted settings api outcomes)
    (answer : Option α) :
    ∃ next, (api.request answer).map (fun (next, _) => (next, ())) =
        .ok (next, ()) ∧
      Budgeted settings next outcomes ∧ next.looping = api.looping := by
  obtain ⟨next, result, requested, untouched, kept⟩ :=
    request_of_live budgeted.live answer
  exact ⟨next, by rw [requested]; rfl, budgeted.of_untouched untouched kept,
    untouched.looping⟩

/-- One operation: it cannot fault, it keeps the budget, and the thread stops
only in an iteration with the budget spent. -/
theorem Budgeted.step (budgeted : Budgeted settings api outcomes)
    {input : Operation × Environment} (running : input.1 ≠ .stop) :
    ∃ next, operationStep api input = .ok (next, ()) ∧
      Budgeted settings next (outcomes ++ (api.attempt? input).toList) ∧
      (next.looping = false ↔ api.looping = false ∨
        input.1 = .reconnectLoop ∧ api.exhausted = true) := by
  obtain ⟨operation, environment⟩ := input
  cases operation with
  | readRegisters startAddr nbRegs =>
      obtain ⟨next, stepped, kept, same⟩ := budgeted.request
        (environment.readRegisters startAddr nbRegs)
      exact ⟨next, stepped, by simpa [attempt?] using kept, by simp [same]⟩
  | writeRegister addr value =>
      obtain ⟨next, stepped, kept, same⟩ := budgeted.request
        (environment.writeRegister addr value)
      exact ⟨next, stepped, by simpa [attempt?] using kept, by simp [same]⟩
  | writeRegisters startAddr src =>
      obtain ⟨next, stepped, kept, same⟩ := budgeted.request
        (environment.writeRegisters startAddr src)
      exact ⟨next, stepped, by simpa [attempt?] using kept, by simp [same]⟩
  | set_debug =>
      have unchanged : api.set_debug = .ok api := by
        cases pointer : api.ctx with
        | none => simp [ModbusApi.set_debug, pointer]
        | some handle =>
            simp [ModbusApi.set_debug, pointer,
              HandleTable.use_of_live (budgeted.live handle pointer)]
      exact ⟨api, by simp [operationStep, unchanged, Except.map],
        by simpa [attempt?] using budgeted, by simp⟩
  | stop => exact absurd rfl running
  | reconnectLoop =>
      obtain ⟨next, stepped, kept, stops⟩ := budgeted.reconnectLoop environment
      exact ⟨next, by simp [operationStep, stepped, Except.map], kept,
        by simpa using stops⟩

theorem Budgeted.run (budgeted : Budgeted settings api outcomes)
    {operations : List (Operation × Environment)}
    (running : ∀ input ∈ operations, input.1 ≠ .stop) :
    ∃ final, Foundation.run operationStep api operations = .ok final ∧
      Budgeted settings final (outcomes ++ api.attemptOutcomes operations) := by
  induction operations generalizing api outcomes with
  | nil => exact ⟨api, rfl, by simpa [attemptOutcomes] using budgeted⟩
  | cons input inputs induction =>
      obtain ⟨next, stepped, kept, _⟩ :=
        budgeted.step (running input List.mem_cons_self)
      obtain ⟨final, completed, keptFinal⟩ := induction kept (by
        intro later member
        exact running later (List.mem_cons_of_mem input member))
      refine ⟨final, by simp [Foundation.run, stepped, completed], ?_⟩
      simpa [attemptOutcomes, stepped, List.append_assoc] using keptFinal

private theorem attempt?_of_ended (ended : api.looping = false)
    (input : Operation × Environment) : api.attempt? input = none := by
  obtain ⟨operation, environment⟩ := input
  cases operation <;> simp [attempt?, attempts, ended]

private theorem destroy_looping {next : ModbusApi} (closed : api.destroy = .ok next) :
    next.looping = api.looping := by
  unfold destroy at closed
  split at closed
  · cases closed
    rfl
  · split at closed
    · cases closed
    · cases closed
      rfl

theorem request_looping {answer : Option α} {next : ModbusApi}
    (requested : (api.request answer).map (fun (next, _) => (next, ())) =
      .ok (next, ())) : next.looping = api.looping := by
  cases pointer : api.ctx with
  | none =>
      simp only [request, pointer] at requested
      cases requested
      rfl
  | some handle =>
      cases used : api.contexts.use (some handle) with
      | error fault =>
          simp only [request, pointer, used] at requested
          cases requested
      | ok _ =>
          cases answer with
          | some value =>
              simp only [request, pointer, used] at requested
              cases requested
              rfl
          | none =>
              cases closed : api.destroy with
              | error fault =>
                  simp only [request, pointer, used, closed] at requested
                  cases requested
              | ok closedApi =>
                  simp only [request, pointer, used, closed] at requested
                  cases requested
                  exact destroy_looping closed

/-- The thread does not come back, whatever is called afterwards. -/
theorem operationStep_of_ended (ended : api.looping = false)
    {input : Operation × Environment} {next : ModbusApi}
    (stepped : operationStep api input = .ok (next, ())) :
    next.looping = false := by
  obtain ⟨operation, environment⟩ := input
  cases operation with
  | readRegisters startAddr nbRegs =>
      exact (request_looping stepped).trans ended
  | writeRegister addr value => exact (request_looping stepped).trans ended
  | writeRegisters startAddr src => exact (request_looping stepped).trans ended
  | set_debug =>
      simp only [operationStep, ModbusApi.set_debug] at stepped
      split at stepped
      · cases stepped
        exact ended
      · split at stepped
        · cases stepped
        · cases stepped
          exact ended
  | stop =>
      cases stepped
      exact ended
  | reconnectLoop =>
      simp only [operationStep, ModbusApi.reconnectLoop, ended] at stepped
      cases stepped
      exact ended

private theorem attemptOutcomes_of_ended (ended : api.looping = false)
    (later : List (Operation × Environment)) :
    api.attemptOutcomes later = [] := by
  induction later generalizing api with
  | nil => rfl
  | cons input inputs induction =>
      rw [attemptOutcomes, attempt?_of_ended ended]
      cases stepped : operationStep api input with
      | error fault => rfl
      | ok result =>
          exact induction (operationStep_of_ended ended stepped)

private theorem attempt?_isSome_iff (api : ModbusApi)
    (input : Operation × Environment) :
    (api.attempt? input).isSome = true ↔
      input.1 = .reconnectLoop ∧ api.attempts = true := by
  obtain ⟨operation, environment⟩ := input
  cases operation with
  | reconnectLoop =>
      cases attempt : api.attempts with
      | false => simp [attempt?, attempt]
      | true =>
          obtain ⟨_, _, null, _⟩ := ModbusApi.attempts_iff.mp attempt
          obtain ⟨next, ctx, created, _, _⟩ :=
            createModbusContext_of_null null environment
          simp [attempt?, attempt, created]
  | _ => simp [attempt?]

theorem Budgeted.honoursBudget (budgeted : Budgeted settings api outcomes) :
    HonoursBudget settings api outcomes := by
  constructor
  · intro ended
    exact budgeted.exhausted_iff.mp (budgeted.spent ended)
  · intro input
    rw [attempt?_isSome_iff, budgeted.attempts_iff]
    constructor
    · rintro ⟨operation, null, more⟩
      refine ⟨operation, null, ?_⟩
      intro limited
      have bounded := budgeted.bounded limited
      rw [budgeted.counts] at bounded
      by_contra spent
      rw [budgeted.exhausted_iff.mpr ⟨limited, by omega⟩] at more
      cases more
    · rintro ⟨operation, null, room⟩
      refine ⟨operation, null, ?_⟩
      by_contra spent
      obtain ⟨limited, same⟩ := budgeted.exhausted_iff.mp (by simpa using spent)
      have below := room limited
      omega
  · intro input running
    obtain ⟨next, stepped, _, stops⟩ := budgeted.step running
    rw [← budgeted.exhausted_iff]
    constructor
    · rintro ⟨looping, other, again, ended⟩
      cases stepped.symm.trans again
      obtain already | ⟨operation, exhausted⟩ := stops.mp ended
      · rw [looping] at already
        cases already
      · exact ⟨operation, looping, exhausted⟩
    · rintro ⟨operation, looping, exhausted⟩
      exact ⟨looping, next, stepped, stops.mpr (.inr ⟨operation, exhausted⟩)⟩
  · exact attemptOutcomes_of_ended

theorem construct_budgeted (settings : Settings) (environment : Environment) :
    ∃ api, construct settings environment = .ok api ∧
      Budgeted settings api [] := by
  have null : (blank settings).ctx = none := rfl
  obtain ⟨next, ctx, created, untouched, live⟩ :=
    createModbusContext_of_null null environment
  refine ⟨{ next with ctx := ctx }, by simp [construct, created], ?_⟩
  have none : next.retries = 0 := untouched.retries
  refine ⟨untouched.settings, untouched.runing, live, none, ?_, ?_, ?_⟩
  · intro limited
    have positive := Int32.lt_iff_toInt_lt.mp limited
    simp only [none]
    exact Int.le_of_lt positive
  · intro ended
    rw [untouched.looping] at ended
    cases ended
  · intro counted
    rw [none] at counted
    cases counted

end

end ModbusApi

open ModbusApi

/-- Every run without `stop` completes, and it honours the budget with respect
to the attempts that the thread has made in it. -/
theorem reconnectLoop_honoursBudget (settings : Settings)
    (environment : Environment) (operations : List (Operation × Environment))
    (running : ∀ input ∈ operations, input.1 ≠ .stop) :
    ∃ api final, construct settings environment = .ok api ∧
      run operationStep api operations = .ok final ∧
      HonoursBudget settings final (api.attemptOutcomes operations) := by
  obtain ⟨api, constructed, budgeted⟩ := construct_budgeted settings environment
  obtain ⟨final, completed, kept⟩ := budgeted.run running
  exact ⟨api, final, constructed, completed, kept.honoursBudget⟩

/-- A device that goes away after the second attempt: three more attempts fail
before the thread gives up. -/
theorem reconnectLoop_honoursBudget_outage :
    ∃ api final, construct tcpSettings unreachable = .ok api ∧
      run operationStep api
        [(.reconnectLoop, unreachable), (.reconnectLoop, answering),
          (.writeRegister 0 1, unreachable), (.reconnectLoop, unreachable),
          (.reconnectLoop, unreachable), (.reconnectLoop, unreachable),
          (.reconnectLoop, unreachable)] = .ok final ∧
      HonoursBudget tcpSettings final (api.attemptOutcomes
        [(.reconnectLoop, unreachable), (.reconnectLoop, answering),
          (.writeRegister 0 1, unreachable), (.reconnectLoop, unreachable),
          (.reconnectLoop, unreachable), (.reconnectLoop, unreachable),
          (.reconnectLoop, unreachable)]) := by
  apply reconnectLoop_honoursBudget
  simp

end DataGateway.Modbus
