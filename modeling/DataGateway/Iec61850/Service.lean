import DataGateway.Foundation.Handles
import DataGateway.Foundation.Runs

/-!
# The IEC 61850 server

The life of `ice61850Service` (`core/iec61850/ice61850Service.cc`): its server
and its SV publisher, `running_` and the two threads.  `init` overwrites both
pointers, `startServer` sets `running_` before it starts the threads, and
`stopServer` destroys only a server that runs.
-/

namespace DataGateway.Iec61850

open Foundation

/-- A thread member is `true` while it is joinable, `model` while `model_`
points to the static model; `serving` holds the servers that run. -/
structure Service where
  server : Option Nat
  model : Bool
  svPublisher : Option Nat
  running : Bool
  dataUpdateThread : Bool
  svThread : Bool
  servers : HandleTable
  publishers : HandleTable
  serving : List Nat

inductive ServiceFault
  | handle (fault : HandleFault)
  /-- A joinable thread is assigned to or destroyed. -/
  | terminated
  deriving DecidableEq, Repr

/-- Where an exception ends `init` early, between two library calls. -/
inductive InitThrow
  | beforePublisher
  | afterPublisher

structure InitOutcome where
  serverCreated : Bool
  publisherCreated : Bool
  throws : Option InitThrow

inductive ThreadOutcome
  | started
  | dataUpdateThreadThrows
  | svThreadThrows
  deriving DecidableEq

structure StartOutcome where
  isRunning : Bool
  threads : ThreadOutcome

namespace Service

def constructed : Service :=
  { server := none
    model := false
    svPublisher := none
    running := false
    dataUpdateThread := false
    svThread := false
    servers := .empty
    publishers := .empty
    serving := [] }

section Operations

variable (service : Service)

def initializeSvPublisher (created : Bool) : Service :=
  if created then
    { service with
      svPublisher := some service.publishers.issued
      publishers := service.publishers.acquire }
  else { service with svPublisher := none }

/-- `server_ = IedServer_create(model_)`. -/
def createServer (created : Bool) : Service :=
  if created then
    { service with
      server := some service.servers.issued
      servers := service.servers.acquire
      model := true }
  else { service with server := none, model := true }

def init (outcome : InitOutcome) : Service × Bool :=
  let created := service.createServer outcome.serverCreated
  if outcome.serverCreated then
    match outcome.throws with
    | some .beforePublisher => (created, false)
    | some .afterPublisher =>
        (created.initializeSvPublisher outcome.publisherCreated, false)
    | none => (created.initializeSvPublisher outcome.publisherCreated, true)
  else (created, false)

/-- The assignments of the two threads, after `running_ = true`. -/
def startThreads (outcome : ThreadOutcome) :
    Except ServiceFault (Service × Bool) :=
  match outcome with
  | .dataUpdateThreadThrows => .ok (service, false)
  | .svThreadThrows =>
      if service.dataUpdateThread then .error .terminated
      else .ok ({ service with dataUpdateThread := true }, false)
  | .started =>
      if service.dataUpdateThread || service.svThread then .error .terminated
      else
        .ok ({ service with dataUpdateThread := true, svThread := true }, true)

/-- A server that fails to start is left not running, as it was. -/
def startServer (outcome : StartOutcome) :
    Except ServiceFault (Service × Bool) :=
  match service.server with
  | none => .ok (service, false)
  | some handle =>
      if service.running then .ok (service, false)
      else
        match service.servers.use (some handle) with
        | .error fault => .error (.handle fault)
        | .ok _ =>
            if outcome.isRunning then
              { service with
                serving := handle :: service.serving
                running := true }.startThreads outcome.threads
            else .ok (service, false)

/-- The branch of `stopServer` for a server that runs; both threads leave their
loops once `running_` is false, so the joins return. -/
def stopRunning : Except ServiceFault Service :=
  match service.server, service.running with
  | some handle, true =>
      match service.servers.release? handle with
      | .error fault => .error (.handle fault)
      | .ok servers =>
          .ok { service with
            server := none
            running := false
            dataUpdateThread := false
            svThread := false
            servers := servers
            serving := service.serving.filter (· != handle) }
  | _, _ => .ok service

def destroyPublisher : Except ServiceFault Service :=
  match service.svPublisher with
  | none => .ok service
  | some handle =>
      match service.publishers.release? handle with
      | .error fault => .error (.handle fault)
      | .ok publishers =>
          .ok { service with
            svPublisher := none
            publishers := publishers }

def stopServer : Except ServiceFault Service :=
  match service.stopRunning with
  | .error fault => .error fault
  | .ok stopped =>
      match stopped.destroyPublisher with
      | .error fault => .error fault
      | .ok destroyed => .ok { destroyed with model := false }

/-- The destructor: `stopServer`, then the destructors of the threads. -/
def destruct : Except ServiceFault Service :=
  match service.stopServer with
  | .error fault => .error fault
  | .ok stopped =>
      if stopped.dataUpdateThread || stopped.svThread then .error .terminated
      else .ok stopped

end Operations

inductive Call
  | init (outcome : InitOutcome)
  | startServer (outcome : StartOutcome)
  | stopServer

/-- `stopServer` returns nothing. -/
def step (service : Service) (call : Call) :
    Except ServiceFault (Service × Option Bool) :=
  match call with
  | .init outcome =>
      .ok ((service.init outcome).1, some (service.init outcome).2)
  | .startServer outcome =>
      match service.startServer outcome with
      | .error fault => .error fault
      | .ok (next, started) => .ok (next, some started)
  | .stopServer =>
      match service.stopServer with
      | .error fault => .error fault
      | .ok next => .ok (next, none)

/-- What is allocated is what the members point to, and `running_` says whether
the server runs with both threads. -/
structure Consistent (service : Service) : Prop where
  server : SoleOwner service.servers service.server
  publisher : SoleOwner service.publishers service.svPublisher
  running : service.running = true ↔
    (∃ handle, service.server = some handle ∧ handle ∈ service.serving) ∧
      service.dataUpdateThread = true ∧ service.svThread = true

/-- Nothing is allocated and no thread is joinable. -/
structure Cleared (service : Service) : Prop where
  servers : ∀ handle, ¬service.servers.Live handle
  publishers : ∀ handle, ¬service.publishers.Live handle
  dataUpdateThread : service.dataUpdateThread = false
  svThread : service.svThread = false

/-- What a call has to do: leave a consistent state behind, leave the state
alone when it is a `startServer` that returns `false`, and leave nothing when
it is `stopServer`. -/
def Kept (service : Service) (call : Call)
    (result : Except ServiceFault (Service × Option Bool)) : Prop :=
  ∃ next output, result = .ok (next, output) ∧ Consistent next ∧
    match call with
    | .init _ => True
    | .startServer _ => output = some false → next = service
    | .stopServer => Cleared next

/-- The object always goes with its destructor. -/
def LifecycleKept (calls : List Call) : Prop :=
  EachStep step Kept constructed calls ∧
    ∀ final, run step constructed calls = .ok final →
      ∃ destructed, final.destruct = .ok destructed ∧ Cleared destructed

/-- `stopServer` misses a server that does not run. -/
def Stoppable (service : Service) : Prop :=
  service.server ≠ none → service.running = true

/-- `init` has no server to overwrite, both threads of a server that runs are
started, and `stopServer` does not find a server that does not run. -/
def Careful (service : Service) (call : Call)
    (_ : Except ServiceFault (Service × Option Bool)) : Prop :=
  match call with
  | .init _ => service.server = none
  | .startServer outcome =>
      service.server ≠ none → service.running = false →
        outcome.isRunning = true → outcome.threads = .started
  | .stopServer => Stoppable service

def LifecycleCareful (calls : List Call) : Prop :=
  EachStep step Careful constructed calls ∧
    ∀ final, run step constructed calls = .ok final → Stoppable final

/-- The invariant of careful runs. -/
structure Tidy (service : Service) : Prop where
  server : SoleOwner service.servers service.server
  publisher : SoleOwner service.publishers service.svPublisher
  published : service.svPublisher ≠ none → service.server ≠ none
  started : service.running = true →
    (∃ handle, service.server = some handle ∧ handle ∈ service.serving) ∧
      service.dataUpdateThread = true ∧ service.svThread = true
  stopped : service.running = false →
    service.dataUpdateThread = false ∧ service.svThread = false

section

variable {service : Service}

@[simp] theorem initializeSvPublisher_server (created : Bool) :
    (service.initializeSvPublisher created).server = service.server := by
  cases created <;> rfl

@[simp] theorem initializeSvPublisher_servers (created : Bool) :
    (service.initializeSvPublisher created).servers = service.servers := by
  cases created <;> rfl

theorem tidy_constructed : Tidy constructed := by
  constructor
  · exact SoleOwner.empty
  · exact SoleOwner.empty
  · intro published
    exact absurd rfl published
  · intro started
    cases started
  · intro _
    exact ⟨rfl, rfl⟩

theorem Tidy.consistent (tidy : Tidy service) : Consistent service := by
  refine ⟨tidy.server, tidy.publisher, tidy.started, ?_⟩
  intro started
  cases running : service.running with
  | true => rfl
  | false =>
      have joined := (tidy.stopped running).1
      rw [started.2.1] at joined
      cases joined

theorem Tidy.running_eq_false (tidy : Tidy service)
    (null : service.server = none) : service.running = false := by
  cases running : service.running with
  | false => rfl
  | true =>
      obtain ⟨⟨handle, pointer, _⟩, _⟩ := tidy.started running
      rw [null] at pointer
      cases pointer

theorem Tidy.svPublisher_eq_none (tidy : Tidy service)
    (null : service.server = none) : service.svPublisher = none := by
  by_contra published
  exact tidy.published published null

theorem Tidy.initializeSvPublisher (tidy : Tidy service)
    (unpublished : service.svPublisher = none)
    (present : service.server ≠ none) (created : Bool) :
    Tidy (service.initializeSvPublisher created) := by
  have owner := tidy.publisher
  rw [unpublished] at owner
  cases created with
  | true => exact ⟨tidy.server, owner.acquire, fun _ => present, tidy.started, tidy.stopped⟩
  | false => exact ⟨tidy.server, owner, fun _ => present, tidy.started, tidy.stopped⟩

theorem Tidy.createServer (tidy : Tidy service)
    (null : service.server = none) (created : Bool) :
    Tidy (service.createServer created) := by
  have owner := tidy.server
  rw [null] at owner
  have stopped := tidy.running_eq_false null
  have unpublished := tidy.svPublisher_eq_none null
  cases created with
  | true =>
      refine ⟨owner.acquire, tidy.publisher, ?_, ?_, tidy.stopped⟩
      · intro _
        exact Option.some_ne_none _
      · intro started
        exact absurd (stopped.symm.trans started) Bool.false_ne_true
  | false =>
      refine ⟨owner, tidy.publisher, ?_, ?_, tidy.stopped⟩
      · intro published
        exact absurd unpublished published
      · intro started
        exact absurd (stopped.symm.trans started) Bool.false_ne_true

private theorem init_eq (service : Service) (outcome : InitOutcome) :
    (service.init outcome).1 = service.createServer outcome.serverCreated ∨
      outcome.serverCreated = true ∧
        (service.init outcome).1 =
          (service.createServer true).initializeSvPublisher
            outcome.publisherCreated := by
  unfold init
  cases created : outcome.serverCreated with
  | false => exact Or.inl rfl
  | true =>
      cases outcome.throws with
      | none => exact Or.inr ⟨rfl, rfl⟩
      | some point =>
          cases point with
          | beforePublisher => exact Or.inl rfl
          | afterPublisher => exact Or.inr ⟨rfl, rfl⟩

theorem Tidy.init (tidy : Tidy service) (null : service.server = none)
    (outcome : InitOutcome) : Tidy (service.init outcome).1 := by
  rcases init_eq service outcome with created | ⟨_, created⟩
  · rw [created]
    exact tidy.createServer null _
  · rw [created]
    apply (tidy.createServer null true).initializeSvPublisher
    · exact tidy.svPublisher_eq_none null
    · exact Option.some_ne_none _

theorem init_loses {handle : Nat} (tidy : Tidy service)
    (pointer : service.server = some handle) (outcome : InitOutcome) :
    ¬Consistent (service.init outcome).1 := by
  intro consistent
  have live : service.servers.Live handle := (tidy.server handle).mpr pointer
  have older : handle ≠ service.servers.issued := Nat.ne_of_lt live.1
  have owner := consistent.server
  have kept : ∀ created, ¬SoleOwner (service.createServer created).servers
      (service.createServer created).server := by
    intro created owner
    cases created with
    | true =>
        have same := (owner handle).mp
          (HandleTable.live_acquire_iff.mpr (Or.inr live))
        exact older (Option.some.inj same).symm
    | false => cases (owner handle).mp live
  rcases init_eq service outcome with created | ⟨_, created⟩
  · rw [created] at owner
    exact kept _ owner
  · rw [created, initializeSvPublisher_servers,
      initializeSvPublisher_server] at owner
    exact kept true owner

private theorem startServer_refused (outcome : StartOutcome)
    (refused : service.server = none ∨ service.running = true) :
    service.startServer outcome = .ok (service, false) := by
  unfold startServer
  cases pointer : service.server with
  | none => rfl
  | some handle =>
      rcases refused with null | running
      · rw [pointer] at null
        cases null
      · simp only [running, if_true]

theorem Tidy.startServer (tidy : Tidy service) (outcome : StartOutcome)
    {handle : Nat} (pointer : service.server = some handle)
    (stopped : service.running = false) :
    service.startServer outcome =
      if outcome.isRunning then
        .ok ({ service with
          running := true
          serving := handle :: service.serving
          dataUpdateThread :=
            decide (outcome.threads ≠ .dataUpdateThreadThrows)
          svThread := decide (outcome.threads = .started) },
          decide (outcome.threads = .started))
      else .ok (service, false) := by
  have live : service.servers.Live handle := (tidy.server handle).mpr pointer
  have used := HandleTable.use_of_live live
  obtain ⟨updates, publishes⟩ := tidy.stopped stopped
  simp only [Service.startServer, pointer, stopped, used, Bool.false_eq_true,
    if_false]
  cases outcome.isRunning with
  | false => rfl
  | true =>
      cases outcome.threads <;>
        simp [startThreads, updates, publishes]

private theorem destroyPublisher_of_owner
    (owner : SoleOwner service.publishers service.svPublisher) :
    ∃ publishers, SoleOwner publishers none ∧
      service.destroyPublisher =
        .ok { service with
          svPublisher := none
          publishers := publishers } := by
  cases pointer : service.svPublisher with
  | none =>
      rw [pointer] at owner
      refine ⟨service.publishers, owner, ?_⟩
      simp only [Service.destroyPublisher, pointer]
      rw [← pointer]
  | some handle =>
      rw [pointer] at owner
      refine ⟨service.publishers.release handle owner.live, owner.release, ?_⟩
      simp only [Service.destroyPublisher, pointer,
        HandleTable.release?_of_live owner.live]

private theorem stopServer_eq {stopped : Service}
    (stops : service.stopRunning = .ok stopped)
    (owner : SoleOwner stopped.publishers stopped.svPublisher) :
    ∃ publishers, SoleOwner publishers none ∧
      service.stopServer =
        .ok { stopped with
          svPublisher := none
          publishers := publishers
          model := false } := by
  obtain ⟨publishers, released, destroyed⟩ := destroyPublisher_of_owner owner
  refine ⟨publishers, released, ?_⟩
  simp only [Service.stopServer, stops, destroyed]

theorem Tidy.stopServer (tidy : Tidy service) (stoppable : Stoppable service) :
    ∃ next, service.stopServer = .ok next ∧ Tidy next ∧ Cleared next := by
  have cleaned : ∃ stopped, service.stopRunning = .ok stopped ∧
      SoleOwner stopped.publishers stopped.svPublisher ∧
      SoleOwner stopped.servers none ∧ stopped.server = none ∧
      stopped.running = false ∧ stopped.dataUpdateThread = false ∧
      stopped.svThread = false := by
    cases pointer : service.server with
    | none =>
        have owner := tidy.server
        rw [pointer] at owner
        have halted := tidy.running_eq_false pointer
        obtain ⟨updates, publishes⟩ := tidy.stopped halted
        refine ⟨service, ?_, tidy.publisher, owner, pointer, halted, updates,
          publishes⟩
        simp only [Service.stopRunning, pointer]
    | some handle =>
        have owner := tidy.server
        rw [pointer] at owner
        have runs := stoppable (by simp [pointer])
        refine ⟨{ service with
          server := none
          running := false
          dataUpdateThread := false
          svThread := false
          servers := service.servers.release handle owner.live
          serving := service.serving.filter (· != handle) },
          ?_, tidy.publisher, owner.release, rfl, rfl, rfl, rfl⟩
        simp only [Service.stopRunning, pointer, runs,
          HandleTable.release?_of_live owner.live]
  obtain ⟨stopped, stops, publisher, server, null, halted, updates,
    publishes⟩ := cleaned
  obtain ⟨publishers, released, result⟩ := stopServer_eq stops publisher
  refine ⟨_, result, ?_, ?_⟩
  · refine ⟨?_, released, fun published => absurd rfl published, ?_, ?_⟩
    · rw [null]
      exact server
    · intro running
      exact absurd (halted.symm.trans running) Bool.false_ne_true
    · intro _
      exact ⟨updates, publishes⟩
  · refine ⟨?_, ?_, updates, publishes⟩
    · intro handle live
      cases (server handle).mp live
    · intro handle live
      cases (released handle).mp live

theorem Tidy.stopServer_misses (tidy : Tidy service)
    (missed : ¬Stoppable service) :
    ∃ next, service.stopServer = .ok next ∧ ¬Cleared next := by
  have present : service.server ≠ none := by
    intro null
    exact missed fun present => absurd null present
  obtain ⟨handle, pointer⟩ := Option.ne_none_iff_exists'.mp present
  have stopped : service.running = false := by
    cases running : service.running with
    | false => rfl
    | true => exact (missed fun _ => running).elim
  have stops : service.stopRunning = .ok service := by
    simp only [Service.stopRunning, pointer, stopped]
  obtain ⟨publishers, _, result⟩ := stopServer_eq stops tidy.publisher
  refine ⟨_, result, ?_⟩
  intro cleared
  exact cleared.servers handle ((tidy.server handle).mpr pointer)

/-- A careful call keeps the invariant and does what it has to do. -/
theorem Tidy.step (tidy : Tidy service) {call : Call}
    (careful : Careful service call (service.step call)) :
    ∃ next output, service.step call = .ok (next, output) ∧ Tidy next ∧
      Kept service call (service.step call) := by
  cases call with
  | init outcome =>
      have kept := tidy.init careful outcome
      exact ⟨_, _, rfl, kept, _, _, rfl, kept.consistent, trivial⟩
  | startServer outcome =>
      by_cases refused : service.server = none ∨ service.running = true
      · have result := startServer_refused outcome refused
        have returned : service.step (.startServer outcome) =
            .ok (service, some false) := by
          simp only [Service.step, result]
        exact ⟨service, _, returned, tidy, service, _, returned,
          tidy.consistent, fun _ => rfl⟩
      · push Not at refused
        obtain ⟨present, stopped⟩ := refused
        have stopped := Bool.eq_false_iff.mpr stopped
        obtain ⟨handle, pointer⟩ := Option.ne_none_iff_exists'.mp present
        have result := tidy.startServer outcome pointer stopped
        cases runs : outcome.isRunning with
        | false =>
            rw [runs] at result
            have returned : service.step (.startServer outcome) =
                .ok (service, some false) := by
              simp [Service.step, result]
            exact ⟨service, _, returned, tidy, service, _, returned,
              tidy.consistent, fun _ => rfl⟩
        | true =>
            have started := careful present stopped runs
            rw [runs, started] at result
            let next : Service :=
              { service with
                running := true
                serving := handle :: service.serving
                dataUpdateThread := true
                svThread := true }
            have returned : service.step (.startServer outcome) =
                .ok (next, some true) := by
              simp [Service.step, result, next]
            have kept : Tidy next := by
              refine ⟨tidy.server, tidy.publisher, tidy.published, ?_, ?_⟩
              · intro _
                exact ⟨⟨handle, pointer, List.mem_cons_self⟩, rfl, rfl⟩
              · intro halted
                cases halted
            refine ⟨next, _, returned, kept, next, _, returned,
              kept.consistent, ?_⟩
            intro failed
            cases failed
  | stopServer =>
      obtain ⟨next, result, kept, cleared⟩ := tidy.stopServer careful
      have returned : service.step .stopServer = .ok (next, none) := by
        simp only [Service.step, result]
      exact ⟨next, none, returned, kept, next, none, returned,
        kept.consistent, cleared⟩

theorem Tidy.step_careless (tidy : Tidy service) {call : Call}
    (careless : ¬Careful service call (service.step call)) :
    ¬Kept service call (service.step call) := by
  intro kept
  obtain ⟨next, output, returned, consistent, required⟩ := kept
  cases call with
  | init outcome =>
      obtain ⟨handle, pointer⟩ := Option.ne_none_iff_exists'.mp careless
      cases returned
      exact init_loses tidy pointer outcome consistent
  | startServer outcome =>
      apply careless
      intro present stopped runs
      by_contra threads
      obtain ⟨handle, pointer⟩ := Option.ne_none_iff_exists'.mp present
      have result := tidy.startServer outcome pointer stopped
      simp only [Service.step, result, runs, threads, if_true, decide_false,
        Except.ok.injEq, Prod.mk.injEq] at returned
      obtain ⟨same, failed⟩ := returned
      have unchanged := required failed.symm
      rw [← same] at unchanged
      have running := congrArg Service.running unchanged
      exact Bool.false_ne_true (stopped.symm.trans running.symm)
  | stopServer =>
      obtain ⟨after, result, uncleared⟩ := tidy.stopServer_misses careless
      simp only [Service.step, result, Except.ok.injEq, Prod.mk.injEq]
        at returned
      obtain ⟨same, _⟩ := returned
      subst same
      exact uncleared required

theorem Tidy.kept_iff (tidy : Tidy service) (call : Call) :
    Careful service call (service.step call) ↔
      Kept service call (service.step call) := by
  constructor
  · intro careful
    obtain ⟨_, _, _, _, kept⟩ := tidy.step careful
    exact kept
  · intro kept
    by_contra careless
    exact tidy.step_careless careless kept

theorem Tidy.preserved (tidy : Tidy service) {call : Call} {next : Service}
    {output : Option Bool}
    (careful : Careful service call (service.step call))
    (returned : service.step call = .ok (next, output)) : Tidy next := by
  obtain ⟨after, value, result, kept, _⟩ := tidy.step careful
  cases result.symm.trans returned
  exact kept

theorem Tidy.destruct_iff (tidy : Tidy service) :
    (∃ destructed, service.destruct = .ok destructed ∧ Cleared destructed) ↔
      Stoppable service := by
  constructor
  · intro clean
    obtain ⟨destructed, result, cleared⟩ := clean
    by_contra missed
    obtain ⟨after, stops, uncleared⟩ := tidy.stopServer_misses missed
    simp only [destruct, stops] at result
    split at result
    · cases result
    · cases result
      exact uncleared cleared
  · intro stoppable
    obtain ⟨next, stops, _, cleared⟩ := tidy.stopServer stoppable
    refine ⟨next, ?_, cleared⟩
    simp [destruct, stops, cleared.dataUpdateThread, cleared.svThread]

end

/-- Over any sequence of calls and up to the destructor, the service keeps its
resources in order if and only if `init` never finds a server to overwrite,
the threads of a server that runs can be started, and neither `stopServer` nor
the destructor finds a server that does not run. -/
theorem lifecycleKept_iff (calls : List Call) :
    LifecycleKept calls ↔ LifecycleCareful calls := by
  have runs : EachStep step Careful constructed calls ↔
      EachStep step Kept constructed calls := by
    apply eachStep_congr Tidy
    · intro service call next output tidy careful returned
      exact tidy.preserved careful returned
    · intro service call tidy
      exact tidy.kept_iff call
    · exact tidy_constructed
  have tidyAtEnd : EachStep step Careful constructed calls → ∀ final,
      run step constructed calls = .ok final → Tidy final := by
    intro each final reached
    apply EachStep.invariant_reached Tidy _ tidy_constructed each reached
    intro service call next output tidy careful returned
    exact tidy.preserved careful returned
  constructor
  · intro kept
    have each := runs.mpr kept.1
    refine ⟨each, ?_⟩
    intro final reached
    exact (tidyAtEnd each final reached).destruct_iff.mp
      (kept.2 final reached)
  · intro careful
    refine ⟨runs.mp careful.1, ?_⟩
    intro final reached
    exact (tidyAtEnd careful.1 final reached).destruct_iff.mpr
      (careful.2 final reached)

/-- A library that creates all it is asked for. -/
def created : InitOutcome :=
  { serverCreated := true
    publisherCreated := true
    throws := none }

/-- The server of an initialized service that was not started outlives
`stopServer`; a second `init` loses the first server; and a start whose second
thread cannot be started leaves a server that runs. -/
theorem lifecycle_broken :
    ¬LifecycleKept [.init created, .stopServer] ∧
      ¬LifecycleKept [.init created, .init created] ∧
      ¬LifecycleKept [.init created, .startServer ⟨true, .svThreadThrows⟩] := by
  refine ⟨?_, ?_, ?_⟩
  · intro kept
    obtain ⟨_, each⟩ := kept.1
    obtain ⟨next, output, result, _, cleared⟩ := (each _ _ rfl).1
    cases result
    exact cleared.servers 0 (by decide)
  · intro kept
    obtain ⟨_, each⟩ := kept.1
    obtain ⟨next, output, result, consistent, _⟩ := (each _ _ rfl).1
    cases result
    have lost := (consistent.server 0).mp (by decide)
    cases lost
  · intro kept
    obtain ⟨_, each⟩ := kept.1
    obtain ⟨next, output, result, _, unchanged⟩ := (each _ _ rfl).1
    cases result
    have same := congrArg Service.running (unchanged rfl)
    cases same

end Service

end DataGateway.Iec61850
