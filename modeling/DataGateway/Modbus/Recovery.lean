import DataGateway.Modbus.RangeFailures
import DataGateway.Modbus.ReconnectThread
import DataGateway.Modbus.RetryBudget

/-!
# Coming back after an outage

What the history of attempts decides about the polls to come: before the
budget is spent one iteration of `reconnectLoop` on a device that answers is
enough for a whole poll, and after it no poll reads anything any more.
-/

namespace DataGateway.Modbus

open Foundation

/-- The device can be connected to and answers every range of a poll. -/
structure Environment.Serves (environment : Environment) (sorter : AddressSort)
    (config : ConfigDataModbus) (settings : Settings) : Prop where
  obtained : ModbusApi.obtains settings environment = true
  slave : environment.setSlave settings.slaveAddr = true
  connects : environment.connect = true
  answers : ∀ range ∈ ranges (sorter.sort config.dataPoints) 0,
    (environment.readRegisters range.startAddr (Int32.ofNat range.count)).isSome

section Polls

variable (sorter : AddressSort) (config : ConfigDataModbus)

/-- Every turn of a poll reads what the device answers to its range. -/
def ReadsEveryRange (environment : Environment) (api : ModbusApi) : Prop :=
  ∀ turn range, (ranges (sorter.sort config.dataPoints) 0)[turn]? = some range →
    ∃ words, environment.readRegisters range.startAddr
        (Int32.ofNat range.count) = some words ∧
      wordsRead (pollThrough sorter environment (fun _ => false) config api)
        turn = some words

/-- No poll reads anything, whatever is called before it and whatever the
device would answer. -/
def OutOfService (api : ModbusApi) : Prop :=
  ∀ later final, run operationStep api later = .ok final →
    ∀ environment turn,
      wordsRead (pollThrough sorter environment (fun _ => false) config final)
        turn = none

end Polls

/-- As many attempts as the budget allows have failed in a row. -/
def SpentBudget (settings : Settings) (outcomes : List Bool) : Prop :=
  0 < settings.maxRetries ∧
    (consecutiveFailures outcomes : Int) = settings.maxRetries.toInt

namespace ModbusApi

section

variable {sorter : AddressSort} {config : ConfigDataModbus}
  {environment : Environment} {settings : Settings} {api next : ModbusApi}
  {outcomes : List Bool}

theorem Usable.readsEveryRange (usable : api.Usable)
    (serves : environment.Serves sorter config settings) :
    ReadsEveryRange sorter config environment api := by
  intro turn range atTurn
  obtain ⟨words, answered⟩ := Option.isSome_iff_exists.mp
    (serves.answers range (List.mem_of_getElem? atTurn))
  refine ⟨words, answered, ?_⟩
  apply (wordsRead_pollThrough environment (fun _ => false) sorter config api turn
    words).mpr
  refine ⟨usable, untilFailure_getElem?.mpr ⟨?_, ?_⟩⟩
  · rw [answers_getElem?, atTurn]
    simpa using answered
  · intro earlier before refused
    rw [answers_getElem?] at refused
    cases atEarlier : (ranges (sorter.sort config.dataPoints) 0)[earlier]? with
    | none => simp [atEarlier] at refused
    | some other =>
        have heard := serves.answers other (List.mem_of_getElem? atEarlier)
        simp only [atEarlier, Option.map_some, Option.some.injEq,
          Bool.false_eq_true, if_false] at refused
        rw [refused] at heard
        cases heard

/-- Without a context and with the budget spent, no operation brings a context
back. -/
structure GivenUp (api : ModbusApi) : Prop where
  null : api.ctx = none
  exhausted : api.exhausted = true

theorem GivenUp.of_same (givenUp : GivenUp api) (same : next.ctx = api.ctx)
    (settings : next.settings = api.settings)
    (retries : next.retries = api.retries) : GivenUp next := by
  refine ⟨same.trans givenUp.null, ?_⟩
  rw [ModbusApi.exhausted, settings, retries]
  exact givenUp.exhausted

theorem GivenUp.request (givenUp : GivenUp api) (answer : Option α) :
    api.request answer = .ok (api, none) := by
  simp [ModbusApi.request, givenUp.null]

theorem GivenUp.step (givenUp : GivenUp api) (input : Operation × Environment)
    (stepped : operationStep api input = .ok (next, ())) : GivenUp next := by
  obtain ⟨operation, environment⟩ := input
  cases operation with
  | readRegisters startAddr nbRegs =>
      simp only [operationStep, ModbusApi.readRegisters, givenUp.request] at stepped
      cases stepped
      exact givenUp
  | writeRegister addr value =>
      simp only [operationStep, ModbusApi.writeRegister, givenUp.request] at stepped
      cases stepped
      exact givenUp
  | writeRegisters startAddr src =>
      simp only [operationStep, ModbusApi.writeRegisters, givenUp.request] at stepped
      cases stepped
      exact givenUp
  | set_debug =>
      simp only [operationStep, ModbusApi.set_debug, givenUp.null] at stepped
      cases stepped
      exact givenUp
  | stop =>
      simp only [operationStep, ModbusApi.stop] at stepped
      cases stepped
      exact givenUp.of_same rfl rfl rfl
  | reconnectLoop =>
      simp only [operationStep, ModbusApi.reconnectLoop, givenUp.null,
        givenUp.exhausted, if_true] at stepped
      cases looping : api.looping with
      | false =>
          simp only [looping, Bool.false_eq_true, if_false] at stepped
          cases stepped
          exact givenUp
      | true =>
          simp only [looping, if_true, ite_self] at stepped
          cases stepped
          exact givenUp.of_same givenUp.null.symm rfl rfl

theorem GivenUp.outOfService (givenUp : GivenUp api) :
    OutOfService sorter config api := by
  intro later final reached environment turn
  have last : GivenUp final := by
    apply run_invariant GivenUp _ givenUp reached
    intro state input next output kept stepped
    exact kept.step input stepped
  by_contra read
  obtain ⟨words, found⟩ := Option.ne_none_iff_exists'.mp read
  obtain ⟨usable, _⟩ := (wordsRead_pollThrough environment (fun _ => false) sorter
    config final turn words).mp found
  obtain ⟨handle, pointer, _⟩ := usable
  rw [last.null] at pointer
  cases pointer

theorem Budgeted.looping_of_left (budgeted : Budgeted settings api outcomes)
    (left : api.exhausted = false) : api.looping = true := by
  by_contra ended
  rw [budgeted.spent (by simpa using ended)] at left
  cases left

/-- Before the budget is spent one iteration leaves a context to read over. -/
theorem Budgeted.reconnects (budgeted : Budgeted settings api outcomes)
    (left : api.exhausted = false)
    (serves : environment.Serves sorter config settings) :
    ∃ next, api.reconnectLoop environment = .ok next ∧ next.Usable := by
  have looping := budgeted.looping_of_left left
  cases pointer : api.ctx with
  | some handle =>
      refine ⟨api, ?_, handle, pointer, budgeted.live handle pointer⟩
      simp [ModbusApi.reconnectLoop, looping, budgeted.runing, pointer]
  | none =>
      have attempt := budgeted.attempts_iff.mpr ⟨pointer, left⟩
      have created : api.createModbusContext environment =
          .ok ({ api with
            contexts := api.contexts.acquire
            connected := api.contexts.issued :: api.connected },
            some api.contexts.issued) := by
        have same := budgeted.same
        simp [createModbusContext, same, serves.obtained, serves.slave,
          serves.connects]
      refine ⟨_, reconnectLoop_attempts attempt created, api.contexts.issued, rfl,
        ?_⟩
      exact HandleTable.live_acquire_iff.mpr (.inl rfl)

end

end ModbusApi

open ModbusApi

/-- After any run without `stop`, the attempts so far decide: if the budget is
not spent, one iteration of the thread on a device that answers, which it makes step
by step, is enough to read every range of a poll; if it is, nothing is ever read
again. -/
theorem recovers_or_out_of_service (sorter : AddressSort)
    (config : ConfigDataModbus) (settings : Settings) (first : Environment)
    (operations : List (Operation × Environment))
    (running : ∀ input ∈ operations, input.1 ≠ .stop) :
    ∃ api final, construct settings first = .ok api ∧
      run operationStep api operations = .ok final ∧
      (SpentBudget settings (api.attemptOutcomes operations) →
        OutOfService sorter config final) ∧
      (¬SpentBudget settings (api.attemptOutcomes operations) →
        ∀ environment : Environment, environment.Serves sorter config settings →
          Threaded.Iterates final environment ∧
            ∃ next, final.reconnectLoop environment = .ok next ∧
              ReadsEveryRange sorter config environment next) := by
  obtain ⟨api, constructed, budgeted⟩ := construct_budgeted settings first
  obtain ⟨final, completed, kept⟩ := budgeted.run running
  refine ⟨api, final, constructed, completed, ?_, ?_⟩
  · intro spent
    have exhausted := kept.exhausted_iff.mpr spent
    exact GivenUp.outOfService ⟨kept.null_of_exhausted exhausted, exhausted⟩
  · intro left environment serves
    have more : final.exhausted = false := by
      by_contra exhausted
      exact left (kept.exhausted_iff.mp (by simpa using exhausted))
    obtain ⟨next, iterated, usable⟩ := kept.reconnects more serves
    exact ⟨Threaded.advances_iteration final environment (kept.looping_of_left more),
      next, iterated, usable.readsEveryRange serves⟩

/-- Two of three attempts have failed when the device comes back. -/
theorem recovers_or_out_of_service_twice :
    ∃ api final next, construct tcpSettings unreachable = .ok api ∧
      run operationStep api [(.reconnectLoop, unreachable),
        (.reconnectLoop, unreachable)] = .ok final ∧
      final.reconnectLoop answering = .ok next ∧
      ReadsEveryRange insertionSorter blockDevice answering next := by
  obtain ⟨api, final, constructed, reached, _, recovers⟩ :=
    recovers_or_out_of_service insertionSorter blockDevice tcpSettings unreachable
      [(.reconnectLoop, unreachable), (.reconnectLoop, unreachable)] (by simp)
  have outcomes : api.attemptOutcomes [(.reconnectLoop, unreachable),
      (.reconnectLoop, unreachable)] = [false, false] := by
    cases constructed
    rfl
  have left : ¬SpentBudget tcpSettings [false, false] := by
    rintro ⟨_, same⟩
    exact absurd same (by decide)
  rw [outcomes] at recovers
  obtain ⟨_, next, iterated, reads⟩ := recovers left answering
    ⟨rfl, rfl, rfl, fun _ _ => rfl⟩
  exact ⟨api, final, next, constructed, reached, iterated, reads⟩

end DataGateway.Modbus
