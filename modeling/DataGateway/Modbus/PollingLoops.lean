import DataGateway.Foundation.Runs
import DataGateway.Modbus.AppModbus
import DataGateway.Modbus.Lifetime
import DataGateway.Modbus.Placement
import Mathlib.Data.List.Count

/-!
# One polling loop for each device

`run` leaves every device with one polling loop, and `stop` leaves it with
none and with a reconnection thread that only returns, when `run` succeeds once
only and no reconnection is under way as `stop` returns.
-/

namespace DataGateway.Modbus

open Foundation

/-- The step calls libmodbus or sets `ctx_`. -/
def ThreadAt.works : ThreadAt → Bool
  | .obtains | .setsSlave _ | .connects _ | .destroys | .assigns _ => true
  | _ => false

namespace Threaded

/-- Once `runing_` is false the thread ends without any work. -/
def Settled (threaded : Threaded) : Prop :=
  match threaded.thread with
  | .testsRuning | .pauses | .sleeps | .returned => True
  | .testsCtx => threaded.api.ctx ≠ none ∨ threaded.api.exhausted = true
  | .testsRetries => threaded.api.exhausted = true
  | .obtains | .setsSlave _ | .connects _ | .destroys | .assigns _ => False

structure Resting (threaded : Threaded) : Prop where
  stopped : threaded.api.runing = false
  settled : threaded.Settled

variable {threaded next : Threaded} {environment : Environment}

theorem Resting.idle (resting : threaded.Resting) :
    threaded.thread.works = false := by
  have settled := resting.settled
  unfold Settled at settled
  cases position : threaded.thread <;> simp only [position] at settled <;> rfl

theorem Resting.advance (resting : threaded.Resting)
    (advanced : threaded.advance environment = .ok next) : next.Resting := by
  obtain ⟨api, thread⟩ := threaded
  obtain ⟨stopped, settled⟩ := resting
  cases thread with
  | testsRuning =>
      change api.runing = false at stopped
      simp only [Threaded.advance, stopped, Bool.false_eq_true, if_false]
        at advanced
      cases advanced
      exact ⟨rfl, trivial⟩
  | testsCtx =>
      cases advanced
      refine ⟨stopped, ?_⟩
      cases pointer : api.ctx with
      | none =>
          rcases settled with set | exhausted
          · exact (set pointer).elim
          · exact exhausted
      | some handle => trivial
  | testsRetries =>
      have exhausted : api.exhausted = true := settled
      simp only [Threaded.advance, exhausted, if_true] at advanced
      cases advanced
      exact ⟨stopped, trivial⟩
  | pauses | sleeps | returned =>
      cases advanced
      exact ⟨stopped, trivial⟩
  | obtains | setsSlave ctx | connects ctx | destroys | assigns ctx =>
      exact settled.elim

theorem Resting.of_stop (settled : threaded.Settled) :
    Resting { threaded with api := threaded.api.stop } :=
  ⟨rfl, settled⟩

end Threaded

namespace AppModbus

/-- The devices that a polling loop is active for. -/
def polled (app : AppModbus) : List String :=
  app.loops.map PollingLoop.deviceId

/-- `run` succeeds on an `AppModbus` without devices only.  If it finds any,
`stop` has not been called and no task is left.  `stop` returns when no
reconnection is under way. -/
structure Careful (app : AppModbus) (move : AppMove)
    (_ : Except HandleFault (AppModbus × Unit)) : Prop where
  runsOnce : ∀ environment, move = .run environment → app.caller = .idle →
    app.config.table.entries ≠ [] → app.devices = ∅ ∧
      ((∃ entry ∈ app.config.table.entries, (settingsOf? entry.2).isSome) →
        app.running = true ∧ app.queue = [])
  returnsSettled : move = .caller → app.caller = .waits → app.queue = [] →
    app.loops = [] → ∀ deviceId threaded,
      app.devices.lookup deviceId = some threaded → threaded.Settled

/-- The loops that are active for the device or will be. -/
def loopsOf (app : AppModbus) (deviceId : String) : Nat :=
  app.polled.count deviceId + app.queue.count (.poll deviceId) +
    app.queue.count .runTask

/-- What the rest of the state owes to the last call. -/
def Promised (app : AppModbus) : Expectation → Prop
  | .nothing => True
  | .polls config => app.caller = .idle ∧
      (∀ entry ∈ config.table.entries, (settingsOf? entry.2).isSome →
        entry.1 ∈ app.devices) ∧
      ∀ deviceId ∈ app.devices,
        app.running = true ∧ app.loopsOf deviceId = 1
  | .rests => app.queue = [] ∧ app.polled = [] ∧ ∀ deviceId threaded,
      app.devices.lookup deviceId = some threaded → threaded.Resting

/-- The devices that `stop` has come to are stopped. -/
def Stopping (app : AppModbus) : CallerAt → Prop
  | .idle => True
  | .stops remaining => ∀ deviceId threaded,
      app.devices.lookup deviceId = some threaded →
      deviceId ∉ remaining → threaded.api.runing = false
  | .waits => ∀ deviceId threaded,
      app.devices.lookup deviceId = some threaded →
      threaded.api.runing = false

structure Kept (app : AppModbus) : Prop where
  sound : ∀ deviceId threaded,
    app.devices.lookup deviceId = some threaded → threaded.Sound
  polled : ∀ deviceId ∈ app.polled, deviceId ∈ app.devices
  queued : ∀ deviceId, .poll deviceId ∈ app.queue → deviceId ∈ app.devices
  configured : ∀ deviceId ∈ app.devices, deviceId ∈ app.config.table
  stopping : app.Stopping app.caller
  promised : app.Promised app.expects

section

variable {app next : AppModbus} {deviceId : String}
  {threaded changed : Threaded} {environment : Environment}

theorem Kept.expected (kept : Kept app) {expects : Expectation}
    (same : app.expects = expects) : app.Promised expects := by
  rw [← same]
  exact kept.promised

theorem Kept.promised_of (kept : Kept app) (same : next.expects = app.expects)
    (polls : ∀ config, app.Promised (.polls config) →
      next.Promised (.polls config))
    (rests : app.expects = .rests → app.Promised .rests →
      next.Promised .rests) : next.Promised next.expects := by
  rw [same]
  cases expects : app.expects with
  | nothing => trivial
  | polls config => exact polls config (kept.expected expects)
  | rests => exact rests expects (kept.expected expects)

theorem forall_lookup_insert {devices : AList fun _ : String => Threaded}
    {property : String → Threaded → Prop}
    (every : ∀ other found, devices.lookup other = some found →
      property other found)
    (here : property deviceId threaded) (other : String) (found : Threaded)
    (present : (devices.insert deviceId threaded).lookup other = some found) :
    property other found := by
  by_cases same : other = deviceId
  · subst same
    rw [AList.lookup_insert] at present
    cases present
    exact here
  · rw [AList.lookup_insert_ne same] at present
    exact every other found present

theorem mem_insert_iff {devices : AList fun _ : String => Threaded}
    (member : deviceId ∈ devices) {other : String} :
    other ∈ devices.insert deviceId threaded ↔ other ∈ devices := by
  rw [AList.mem_insert]
  constructor
  · intro either
    rcases either with same | present
    · rw [same]
      exact member
    · exact present
  · exact Or.inr

private theorem mem_of_lookup {devices : AList fun _ : String => Threaded}
    (present : devices.lookup deviceId = some threaded) : deviceId ∈ devices := by
  apply AList.lookup_isSome.mp
  rw [present]
  rfl

theorem Kept.changeDevice (kept : Kept app)
    (present : app.devices.lookup deviceId = some threaded)
    (sound : changed.Sound)
    (runing : threaded.api.runing = false → changed.api.runing = false)
    (resting : app.expects = .rests → changed.Resting) :
    Kept { app with devices := app.devices.insert deviceId changed } := by
  have member := mem_of_lookup present
  refine ⟨forall_lookup_insert kept.sound sound, ?_, ?_, ?_, ?_, ?_⟩
  · intro other active
    exact (mem_insert_iff member).mpr (kept.polled other active)
  · intro other waiting
    exact (mem_insert_iff member).mpr (kept.queued other waiting)
  · intro other held
    exact kept.configured other ((mem_insert_iff member).mp held)
  · have stopping := kept.stopping
    change Stopping { app with devices := _ } app.caller
    cases caller : app.caller with
    | idle => trivial
    | stops remaining =>
        rw [caller] at stopping
        apply forall_lookup_insert stopping
        intro absent
        exact runing (stopping deviceId threaded present absent)
    | waits =>
        rw [caller] at stopping
        apply forall_lookup_insert stopping
        exact runing (stopping deviceId threaded present)
  · refine kept.promised_of (by rfl) ?_ ?_
    · intro config polls
      obtain ⟨idle, holds, once⟩ := polls
      refine ⟨idle, ?_, ?_⟩
      · intro entry listed passes
        exact (mem_insert_iff member).mpr (holds entry listed passes)
      · intro other held
        exact once other ((mem_insert_iff member).mp held)
    · intro expects rests
      obtain ⟨queue, polled, rest⟩ := rests
      exact ⟨queue, polled, forall_lookup_insert rest (resting expects)⟩

theorem Kept.changeLoops (kept : Kept app) {loops : List PollingLoop}
    (same : loops.map PollingLoop.deviceId = app.polled) :
    Kept { app with loops := loops } := by
  refine ⟨kept.sound, ?_, kept.queued, kept.configured, kept.stopping, ?_⟩
  · intro other active
    exact kept.polled other (same ▸ active)
  · refine kept.promised_of (by rfl) ?_ ?_
    · intro config polls
      obtain ⟨idle, holds, each⟩ := polls
      refine ⟨idle, holds, ?_⟩
      intro other held
      obtain ⟨running, once⟩ := each other held
      refine ⟨running, ?_⟩
      rw [← once]
      simp only [loopsOf, AppModbus.polled, same]
    · intro _ rests
      obtain ⟨queue, polled, rest⟩ := rests
      exact ⟨queue, same.trans polled, rest⟩

theorem request_kept {α : Type} (sound : threaded.Sound) (answer : Option α) :
    ∃ api result, threaded.api.request answer = .ok (api, result) ∧
      Threaded.Sound { threaded with api := api } ∧
      api.runing = threaded.api.runing := by
  obtain ⟨api, result, requested, runing, effect⟩ :=
    request_of_live sound.live answer
  refine ⟨api, result, requested, ?_, runing⟩
  rcases effect with same | closed
  · rw [same]
    exact sound
  · exact sound.call (.inr closed)

private theorem advance_runing (sound : threaded.Sound) {after : Threaded}
    (advanced : threaded.advance environment = .ok after) :
    after.api.runing = threaded.api.runing := by
  obtain ⟨api, thread⟩ := threaded
  cases thread with
  | testsRuning | testsRetries | obtains | connects ctx =>
      cases advanced
      split <;> rfl
  | testsCtx | setsSlave ctx | assigns ctx | pauses | sleeps | returned =>
      cases advanced
      rfl
  | destroys =>
      have closed := ModbusApi.destroy_of_null (sound.null rfl)
      simp only [Threaded.advance, closed] at advanced
      cases advanced
      rfl

theorem Kept.reconnect (kept : Kept app) (deviceId : String)
    (environment : Environment) :
    ∃ next, app.reconnect deviceId environment = .ok next ∧ Kept next := by
  unfold AppModbus.reconnect
  cases present : app.devices.lookup deviceId with
  | none => exact ⟨app, rfl, kept⟩
  | some threaded =>
      have sound := kept.sound deviceId threaded present
      obtain ⟨after, advanced, soundAfter⟩ := sound.advance environment
      simp only [advanced]
      refine ⟨_, rfl, kept.changeDevice present soundAfter ?_ ?_⟩
      · exact (advance_runing sound advanced).trans
      · intro rests
        obtain ⟨_, _, rest⟩ := kept.expected rests
        exact (rest deviceId threaded present).advance advanced

theorem map_set_of_getElem? {loops : List PollingLoop} {index : Nat}
    {loop changed : PollingLoop} (found : loops[index]? = some loop)
    (same : changed.deviceId = loop.deviceId) :
    (loops.set index changed).map PollingLoop.deviceId =
      loops.map PollingLoop.deviceId := by
  induction loops generalizing index with
  | nil => cases found
  | cons first rest induction =>
      cases index with
      | zero =>
          cases found
          simp [same]
      | succ index => simpa using induction found

private theorem mem_polled {index : Nat} {loop : PollingLoop}
    (found : app.loops[index]? = some loop) : loop.deviceId ∈ app.polled :=
  List.mem_map_of_mem (List.mem_of_getElem? found)

theorem Kept.not_rests (kept : Kept app) (active : deviceId ∈ app.polled) :
    app.expects ≠ .rests := by
  intro rests
  obtain ⟨_, polled, _⟩ := kept.expected rests
  rw [polled] at active
  cases active

theorem Kept.leave (kept : Kept app) {index : Nat} {loop : PollingLoop}
    (found : app.loops[index]? = some loop) (stopped : app.running = false) :
    Kept { app with loops := app.loops.eraseIdx index } := by
  have active := mem_polled found
  refine ⟨kept.sound, ?_, kept.queued, kept.configured, kept.stopping, ?_⟩
  · intro other member
    obtain ⟨loop, stays, same⟩ := List.mem_map.mp member
    rw [← same]
    exact kept.polled loop.deviceId
      (List.mem_map_of_mem (List.mem_of_mem_eraseIdx stays))
  · refine kept.promised_of (by rfl) ?_ ?_
    · intro config polls
      have running := (polls.2.2 _ (kept.polled _ active)).1
      cases stopped.symm.trans running
    · intro expects _
      exact (kept.not_rests active expects).elim

theorem Kept.turn (kept : Kept app) (sorter : AddressSort) (index : Nat)
    (environment : Environment) :
    ∃ next, app.turn sorter index environment = .ok next ∧ Kept next := by
  unfold AppModbus.turn
  cases found : app.loops[index]? with
  | none => exact ⟨app, rfl, kept⟩
  | some loop =>
      obtain ⟨deviceId, pending⟩ := loop
      cases pending with
      | nil =>
          refine ⟨_, rfl, ?_⟩
          split
          · exact kept.changeLoops (map_set_of_getElem? found rfl)
          · next stopped =>
              exact kept.leave found (eq_false_of_ne_true stopped)
      | cons range pending =>
          have active := mem_polled found
          have member := kept.polled deviceId active
          obtain ⟨threaded, present⟩ :=
            Option.isSome_iff_exists.mp (AList.lookup_isSome.mpr member)
          have sound := kept.sound deviceId threaded present
          obtain ⟨api, words, requested, soundAfter, runing⟩ :=
            request_kept sound (environment.readRegisters range.startAddr
              (Int32.ofNat range.count))
          simp only [present, ModbusApi.readRegisters, requested]
          refine ⟨_, rfl, ?_⟩
          have changed : Kept (app.setApi deviceId threaded api) := by
            apply kept.changeDevice present soundAfter runing.trans
            intro rests
            exact (kept.not_rests active rests).elim
          exact changed.changeLoops (map_set_of_getElem? found rfl)

private theorem count_polls (devices : AList fun _ : String => Threaded)
    (member : deviceId ∈ devices) :
    (devices.keys.map PoolTask.poll).count (.poll deviceId) = 1 := by
  rw [List.count_map_of_injective _ _ (fun _ _ same => PoolTask.poll.inj same)]
  exact List.count_eq_one_of_mem devices.keys_nodup member

private theorem count_runTask (devices : AList fun _ : String => Threaded) :
    (devices.keys.map PoolTask.poll).count .runTask = 0 := by
  apply List.count_eq_zero_of_not_mem
  simp

/-- `runTask` turns the loop to come of each device into its polling task. -/
theorem Kept.runTask (kept : Kept app) {queue : List PoolTask}
    (first : app.queue = .runTask :: queue) :
    Kept { app with queue := queue ++ app.devices.keys.map .poll } := by
  refine ⟨kept.sound, kept.polled, ?_, kept.configured, kept.stopping, ?_⟩
  · intro other waiting
    rcases List.mem_append.mp waiting with earlier | detached
    · apply kept.queued other
      rw [first]
      exact List.mem_cons_of_mem _ earlier
    · simpa [AList.mem_keys] using detached
  · refine kept.promised_of (by rfl) ?_ ?_
    · intro config polls
      obtain ⟨idle, holds, each⟩ := polls
      refine ⟨idle, holds, ?_⟩
      intro other held
      obtain ⟨running, once⟩ := each other held
      refine ⟨running, ?_⟩
      rw [← once]
      simp only [loopsOf, AppModbus.polled, first, List.count_append,
        count_polls app.devices held, count_runTask, List.count_cons_self,
        List.count_cons_of_ne (show PoolTask.runTask ≠ .poll other by simp)]
      omega
    · intro _ rests
      cases first.symm.trans rests.1

theorem Kept.startLoop (kept : Kept app) {queue : List PoolTask}
    (first : app.queue = .poll deviceId :: queue) :
    Kept { app with
      queue := queue
      loops := app.loops ++ [⟨deviceId, []⟩] } := by
  have held : deviceId ∈ app.devices := by
    apply kept.queued
    rw [first]
    exact List.mem_cons_self
  refine ⟨kept.sound, ?_, ?_, kept.configured, kept.stopping, ?_⟩
  · intro other active
    simp only [AppModbus.polled, List.map_append, List.mem_append] at active
    rcases active with earlier | new
    · exact kept.polled other earlier
    · rw [List.mem_singleton.mp new]
      exact held
  · intro other waiting
    apply kept.queued other
    rw [first]
    exact List.mem_cons_of_mem _ waiting
  · refine kept.promised_of (by rfl) ?_ ?_
    · intro config polls
      obtain ⟨idle, holds, each⟩ := polls
      refine ⟨idle, holds, ?_⟩
      intro other present
      obtain ⟨running, once⟩ := each other present
      refine ⟨running, ?_⟩
      rw [← once]
      by_cases same : deviceId = other
      · subst same
        simp [loopsOf, AppModbus.polled, first]
        omega
      · simp [loopsOf, AppModbus.polled, first, same]
    · intro _ rests
      cases first.symm.trans rests.1

theorem Kept.schedule (kept : Kept app) :
    ∃ next, app.schedule = .ok next ∧ Kept next := by
  unfold AppModbus.schedule
  cases first : app.queue with
  | nil => exact ⟨app, rfl, kept⟩
  | cons task queue =>
      by_cases free : app.loops.length < poolSize
      · simp only [free, if_true]
        cases task with
        | runTask => exact ⟨_, rfl, kept.runTask first⟩
        | poll deviceId =>
            have member : deviceId ∈ app.devices := by
              apply kept.queued
              rw [first]
              exact List.mem_cons_self
            obtain ⟨threaded, present⟩ :=
              Option.isSome_iff_exists.mp (AList.lookup_isSome.mpr member)
            have sound := kept.sound deviceId threaded present
            have debugged := set_debug_of_live sound.live
            have configured := kept.configured deviceId member
            refine ⟨{ app with
              devices := app.devices.insert deviceId threaded
              queue := queue
              loops := app.loops ++ [⟨deviceId, []⟩] }, ?_, ?_⟩
            · simp [AppModbus.startLoop, setApi, present, debugged, configured]
            · apply (kept.startLoop first).changeDevice present sound id
              intro rests
              obtain ⟨queue, _, _⟩ := kept.expected rests
              cases first.symm.trans queue
      · simp only [free, if_false]
        exact ⟨app, rfl, kept⟩

theorem Kept.load (kept : Kept app) {config : Configuration}
    (covers : config.Extends app.config) : Kept { app with config := config } := by
  refine ⟨kept.sound, kept.polled, kept.queued, ?_, kept.stopping, ?_⟩
  · intro other held
    exact covers other (kept.configured other held)
  · refine kept.promised_of (by rfl) ?_ ?_
    · intro config polls
      exact polls
    · intro _ rests
      exact rests

theorem Kept.stop (kept : Kept app) : Kept app.stop := by
  refine ⟨kept.sound, kept.polled, kept.queued, kept.configured, ?_, ?_⟩
  · intro other threaded present absent
    exact (absent (mem_of_lookup present)).elim
  · have promised := kept.promised
    unfold AppModbus.stop
    cases expects : app.expects with
    | nothing | polls config => trivial
    | rests =>
        rw [expects] at promised
        exact promised

theorem Kept.goOn (kept : Kept app) (busy : app.caller ≠ .idle)
    (running : Bool) {caller : CallerAt} (stopping : app.Stopping caller) :
    Kept { app with running := running, caller := caller } := by
  refine ⟨kept.sound, kept.polled, kept.queued, kept.configured, stopping, ?_⟩
  refine kept.promised_of (by rfl) ?_ ?_
  · intro config polls
    exact (busy polls.1).elim
  · intro _ rests
    exact rests

theorem Kept.stopDevice (kept : Kept app) {remaining : List String}
    (caller : app.caller = .stops (deviceId :: remaining))
    (present : app.devices.lookup deviceId = some threaded) :
    Kept { app with
      devices := app.devices.insert deviceId
        { threaded with api := threaded.api.stop }
      caller := .stops remaining } := by
  have sound : Threaded.Sound { threaded with api := threaded.api.stop } :=
    (kept.sound deviceId threaded present).call (.inl ⟨rfl, rfl⟩)
  have changed : Kept { app with
      devices := app.devices.insert deviceId
        { threaded with api := threaded.api.stop } } := by
    apply kept.changeDevice present sound
    · intro _
      rfl
    · intro rests
      obtain ⟨_, _, rest⟩ := kept.expected rests
      exact .of_stop (rest deviceId threaded present).settled
  refine changed.goOn (by simp [caller]) app.running ?_
  have stopping := changed.stopping
  simp only [caller] at stopping
  intro other found here absent
  by_cases same : other = deviceId
  · subst same
    rw [AList.lookup_insert] at here
    cases here
    rfl
  · apply stopping other found here
    simp [same, absent]

theorem Kept.returns (kept : Kept app) (caller : app.caller = .waits)
    (queue : app.queue = []) (loops : app.loops = [])
    (settled : ∀ deviceId threaded,
      app.devices.lookup deviceId = some threaded → threaded.Settled) :
    Kept { app with caller := .idle, expects := .rests } := by
  refine ⟨kept.sound, kept.polled, kept.queued, kept.configured, trivial,
    queue, ?_, ?_⟩
  · simp [AppModbus.polled, loops]
  · intro deviceId threaded present
    have stopping := kept.stopping
    rw [caller] at stopping
    exact ⟨stopping deviceId threaded present, settled deviceId threaded present⟩

theorem Kept.proceed (kept : Kept app)
    (settled : app.caller = .waits → app.queue = [] → app.loops = [] →
      ∀ deviceId threaded, app.devices.lookup deviceId = some threaded →
        threaded.Settled) : Kept app.proceed := by
  have stopping := kept.stopping
  unfold AppModbus.proceed
  cases caller : app.caller with
  | idle => exact kept
  | waits =>
      simp only
      split
      · next empty =>
          simp only [Bool.and_eq_true, List.isEmpty_iff] at empty
          exact kept.returns caller empty.1 empty.2
            (settled caller empty.1 empty.2)
      · exact kept
  | stops remaining =>
      have busy : app.caller ≠ .idle := by simp [caller]
      rw [caller] at stopping
      cases remaining with
      | nil =>
          apply kept.goOn busy false
          intro other found present
          exact stopping other found present List.not_mem_nil
      | cons deviceId remaining =>
          cases present : app.devices.lookup deviceId with
          | some threaded =>
              simp only [present]
              exact kept.stopDevice caller present
          | none =>
              simp only [present]
              apply kept.goOn busy app.running
              intro other found here absent
              apply stopping other found here
              intro member
              rcases List.mem_cons.mp member with same | later
              · rw [same, present] at here
                cases here
              · exact absent later

theorem addDevices_spec (environment : String → Environment)
    (entries : List (Sigma fun _ : String => ConfigDataModbus))
    (devices : AList fun _ : String => Threaded)
    (keyed : ∀ entry ∈ entries, entry.2.deviceId = entry.1)
    (sound : ∀ deviceId threaded,
      devices.lookup deviceId = some threaded → threaded.Sound) :
    ∃ next, addDevices environment devices entries = .ok next ∧
      (∀ deviceId threaded,
        next.lookup deviceId = some threaded → threaded.Sound) ∧
      ∀ deviceId, deviceId ∈ next ↔ deviceId ∈ devices ∨
        ∃ entry ∈ entries, entry.1 = deviceId ∧
          (settingsOf? entry.2).isSome := by
  induction entries generalizing devices with
  | nil => exact ⟨devices, rfl, sound, by simp⟩
  | cons entry rest induction =>
      obtain ⟨deviceId, config⟩ := entry
      have keyedRest : ∀ entry ∈ rest, entry.2.deviceId = entry.1 :=
        fun entry member => keyed entry (List.mem_cons_of_mem _ member)
      have own : config.deviceId = deviceId :=
        keyed ⟨deviceId, config⟩ List.mem_cons_self
      cases checked : settingsOf? config with
      | none =>
          obtain ⟨next, added, soundNext, members⟩ :=
            induction devices keyedRest sound
          refine ⟨next, by simp only [addDevices, checked, added], soundNext, ?_⟩
          simpa [checked] using members
      | some settings =>
          by_cases held : deviceId ∈ devices
          · obtain ⟨next, added, soundNext, members⟩ :=
              induction devices keyedRest sound
            refine ⟨next, by simp only [addDevices, checked, held, if_true, added],
              soundNext, ?_⟩
            intro other
            rw [members other]
            constructor
            · intro either
              rcases either with earlier | ⟨entry, listed, passes⟩
              · exact Or.inl earlier
              · exact Or.inr ⟨entry, List.mem_cons_of_mem _ listed, passes⟩
            · intro either
              rcases either with earlier | ⟨entry, listed, same, passes⟩
              · exact Or.inl earlier
              · rcases List.mem_cons.mp listed with first | later
                · subst first
                  rw [← same]
                  exact Or.inl held
                · exact Or.inr ⟨entry, later, same, passes⟩
          · obtain ⟨api, constructed, live⟩ :=
              construct_live settings (environment deviceId)
            have started : ∀ other found,
                (devices.insert deviceId ⟨api, .testsRuning⟩).lookup other =
                  some found → found.Sound :=
              forall_lookup_insert sound (.of_idle live rfl rfl)
            obtain ⟨next, added, soundNext, members⟩ :=
              induction _ keyedRest started
            refine ⟨next, by
              simp only [addDevices, checked, held, if_false, constructed, own,
                added], soundNext, ?_⟩
            intro other
            rw [members other, AList.mem_insert]
            simp only [List.mem_cons, exists_eq_or_imp, checked, Option.isSome_some,
              and_true, @eq_comm _ other]
            exact or_assoc.trans or_left_comm

theorem Kept.run (kept : Kept app) (environment : String → Environment)
    (idle : app.caller = .idle)
    (careful : app.config.table.entries ≠ [] → app.devices = ∅ ∧
      ((∃ entry ∈ app.config.table.entries, (settingsOf? entry.2).isSome) →
        app.running = true ∧ app.queue = [])) :
    ∃ next result, app.run environment = .ok (next, result) ∧ Kept next := by
  unfold AppModbus.run
  cases entries : app.config.table.entries with
  | nil => exact ⟨app, false, rfl, kept⟩
  | cons first rest =>
      have some : app.config.table.entries ≠ [] := by simp [entries]
      obtain ⟨noDevice, fresh⟩ := careful some
      have keyed : ∀ entry ∈ app.config.table.entries,
          entry.2.deviceId = entry.1 := by
        intro entry listed
        exact app.config.keyed _ _ (AList.mem_lookup_iff.mpr listed)
      obtain ⟨devices, added, sound, members⟩ :=
        addDevices_spec environment _ app.devices keyed kept.sound
      have absent : ∀ deviceId, deviceId ∉ app.devices := by
        intro deviceId member
        rw [noDevice] at member
        cases member
      have listed : ∀ deviceId ∈ devices, ∃ entry ∈ app.config.table.entries,
          entry.1 = deviceId ∧ (settingsOf? entry.2).isSome := by
        intro deviceId member
        exact ((members deviceId).mp member).resolve_left (absent deviceId)
      have quiet : app.polled = [] := by
        apply List.eq_nil_iff_forall_not_mem.mpr
        intro deviceId active
        exact absent deviceId (kept.polled deviceId active)
      refine ⟨_, true, by simp only [← entries, added]; simp [entries]; rfl, ?_⟩
      refine ⟨sound, ?_, ?_, ?_, ?_, ?_⟩
      · intro deviceId active
        exact (absent deviceId (kept.polled deviceId active)).elim
      · intro deviceId waiting
        rcases List.mem_append.mp waiting with earlier | new
        · exact (absent deviceId (kept.queued deviceId earlier)).elim
        · simp at new
      · intro deviceId member
        obtain ⟨entry, present, same, _⟩ := listed deviceId member
        rw [← same]
        exact AList.mem_keys.mpr (List.mem_keys_of_mem present)
      · rw [idle]
        trivial
      · refine ⟨idle, ?_, ?_⟩
        · intro entry present passes
          exact (members entry.1).mpr (Or.inr ⟨entry, present, rfl, passes⟩)
        · intro deviceId member
          obtain ⟨entry, present, _, passes⟩ := listed deviceId member
          obtain ⟨running, queue⟩ := fresh ⟨entry, present, passes⟩
          refine ⟨running, ?_⟩
          change app.polled.count deviceId +
            (app.queue ++ [PoolTask.runTask]).count (.poll deviceId) +
              (app.queue ++ [PoolTask.runTask]).count .runTask = 1
          rw [quiet, queue]
          rfl

theorem Kept.step (kept : Kept app) (sorter : AddressSort) {move : AppMove}
    {result : Except HandleFault (AppModbus × Unit)}
    (careful : Careful app move result) :
    ∃ next, AppModbus.step sorter app move = .ok (next, ()) ∧ Kept next := by
  cases move with
  | load config =>
      refine ⟨_, rfl, ?_⟩
      split
      · next covers => exact kept.load covers
      · exact kept
  | run environment =>
      by_cases idle : app.caller = .idle
      · obtain ⟨next, result, ran, keptNext⟩ := kept.run environment idle
          (careful.runsOnce environment rfl idle)
        refine ⟨next, ?_, keptNext⟩
        simp [AppModbus.step, idle, ran, Except.map]
      · refine ⟨app, ?_, kept⟩
        simp [AppModbus.step, idle]
  | stop =>
      refine ⟨_, rfl, ?_⟩
      split
      · exact kept.stop
      · exact kept
  | caller => exact ⟨_, rfl, kept.proceed (careful.returnsSettled rfl)⟩
  | schedule =>
      obtain ⟨next, scheduled, keptNext⟩ := kept.schedule
      refine ⟨next, ?_, keptNext⟩
      simp [AppModbus.step, scheduled, Except.map]
  | loop index environment =>
      obtain ⟨next, turned, keptNext⟩ := kept.turn sorter index environment
      refine ⟨next, ?_, keptNext⟩
      simp [AppModbus.step, turned, Except.map]
  | reconnect deviceId environment =>
      obtain ⟨next, advanced, keptNext⟩ := kept.reconnect deviceId environment
      refine ⟨next, ?_, keptNext⟩
      simp [AppModbus.step, advanced, Except.map]

end

end AppModbus

end DataGateway.Modbus
