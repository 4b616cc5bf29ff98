import DataGateway.Foundation.Handles
import DataGateway.Foundation.Runs

/-!
# The IEC 61850 client manager

`iec61850ClientManger` and the life of its clients
(`core/iec61850/iec61850ClientManger.cc`, `core/iec61850/lec61850Client.cc`).
A client is named by the number of its `con_`; it lives as long as a
`shared_ptr` to it exists, in `clients_` or elsewhere.  `init` starts a
detached thread that captures the client by its address.
-/

namespace DataGateway.Iec61850

open Foundation

inductive IedClientError
  | ok
  | alreadyConnected
  | other (code : Nat)
  deriving DecidableEq, Repr

/-- `IedConnection_connect`, given what an attempt to connect would report. -/
def iedConnectionConnect (connected : Bool) (attempt : IedClientError) :
    IedClientError :=
  if connected then .alreadyConnected else attempt

structure World where
  /-- `clients_`. -/
  clients : List Nat
  /-- The other `shared_ptr`s. -/
  held : List Nat
  connections : HandleTable
  connected : List Nat
  /-- The client of each thread that has not returned from `readAllValues`. -/
  threads : List Nat

namespace World

def empty : World :=
  { clients := []
    held := []
    connections := .empty
    connected := []
    threads := [] }

/-- The client object exists. -/
def Referenced (world : World) (client : Nat) : Prop :=
  client ∈ world.clients ∨ client ∈ world.held

instance (world : World) (client : Nat) : Decidable (world.Referenced client) :=
  inferInstanceAs (Decidable (_ ∨ _))

section Operations

variable (world : World) (client : Nat)

/-- `make_shared<iec61850Client>`, whose constructor creates `con_`. -/
def create : World :=
  { world with
    held := world.connections.issued :: world.held
    connections := world.connections.acquire }

/-- Another copy of a `shared_ptr`. -/
def share : World := { world with held := client :: world.held }

/-- A `shared_ptr` outside the manager goes; `~iec61850Client` does nothing. -/
def drop : World := { world with held := world.held.erase client }

def addClient : World := { world with clients := world.clients ++ [client] }

def removeClient : World :=
  { world with clients := world.clients.filter (· != client) }

/-- `clients_.clear()`. -/
def clear : World := { world with clients := [] }

def peerCloses : World :=
  { world with connected := world.connected.filter (· != client) }

def connect (attempt : IedClientError) : World × Bool :=
  if iedConnectionConnect (world.connected.contains client) attempt = .ok then
    ({ world with connected := client :: world.connected }, true)
  else (world, false)

/-- `iec61850Client::init`; the result says whether the thread was started. -/
def init (attempt : IedClientError) : World × Bool :=
  match world.connect client attempt with
  | (next, false) => (next, false)
  | (next, true) => ({ next with threads := client :: next.threads }, true)

def disconnect (live : world.connections.Live client) : World :=
  { world with
    connections := world.connections.release client live
    connected := world.connected.filter (· != client) }

end Operations

end World

inductive Event
  | create
  | share (client : Nat)
  | drop (client : Nat)
  | addClient (client : Nat)
  | removeClient (client : Nat)
  | clear
  | init (client : Nat) (attempt : IedClientError)
  | connect (client : Nat) (attempt : IedClientError)
  | disconnect (client : Nat)
  | peerCloses (client : Nat)
  | poll (client : Nat) (returns : Bool)
  deriving DecidableEq

/-- What makes a step undefined. -/
inductive Fault
  | clientDead
  | connectionDestroyed
  | destroyedTwice
  deriving DecidableEq, Repr

/-- One step of the callers, of a polling thread or of a peer.  A caller that
has no `shared_ptr` to the client cannot call it, so nothing happens; a thread
needs none. -/
def step (world : World) : Event → Except Fault (World × Bool)
  | .create => .ok (world.create, true)
  | .share client =>
      if world.Referenced client then .ok (world.share client, true)
      else .ok (world, false)
  | .drop client => .ok (world.drop client, true)
  | .addClient client =>
      if client ∈ world.held then .ok (world.addClient client, true)
      else .ok (world, false)
  | .removeClient client =>
      if client ∈ world.held then .ok (world.removeClient client, true)
      else .ok (world, false)
  | .clear => .ok (world.clear, true)
  | .init client attempt =>
      if world.Referenced client then
        if world.connections.Live client then .ok (world.init client attempt)
        else .error .connectionDestroyed
      else .ok (world, false)
  | .connect client attempt =>
      if world.Referenced client then
        if world.connections.Live client then .ok (world.connect client attempt)
        else .error .connectionDestroyed
      else .ok (world, false)
  | .disconnect client =>
      if world.Referenced client then
        if live : world.connections.Live client then
          .ok (world.disconnect client live, true)
        else .error .destroyedTwice
      else .ok (world, false)
  | .peerCloses client => .ok (world.peerCloses client, true)
  | .poll client returns =>
      if client ∈ world.threads then
        if world.Referenced client then
          if world.connections.Live client then
            if returns then
              .ok ({ world with threads := world.threads.erase client }, true)
            else .ok (world, true)
          else .error .connectionDestroyed
        else .error .clientDead
      else .ok (world, false)

/-- What the network does to one device during `initClients`: the outcomes of
the two attempts to connect, and whether the peer closes in between. -/
structure Attempts where
  first : IedClientError
  lost : Bool
  second : IedClientError
  deriving DecidableEq

/-- The client is made and initialized, and the peer may close after that. -/
def initThenWait (world : World) (device : Attempts) : World × Bool :=
  match world.create.init world.connections.issued device.first with
  | (initialized, started) =>
      (if device.lost then initialized.peerCloses world.connections.issued
        else initialized, started)

/-- The body of the loop of `initClients`, with the client it made and whether
its thread was started. -/
def initDevice (world : World) (device : Attempts) : World × Nat × Bool :=
  let client := world.connections.issued
  match initThenWait world device with
  | (waited, started) =>
      match waited.connect client device.second with
      | (connected, true) =>
          ((connected.addClient client).drop client, client, started)
      | (connected, false) => (connected.drop client, client, started)

def initDevices (world : World) : List Attempts → World × List (Nat × Bool)
  | [] => (world, [])
  | device :: devices =>
      match initDevice world device with
      | (next, entry) =>
          match initDevices next devices with
          | (after, entries) => (after, entry :: entries)

/-- `initClients`; there is one entry for each device of the configuration. -/
def initClients (world : World) (config : Option (List Attempts)) :
    World × List (Nat × Bool) :=
  match config with
  | none => (world, [])
  | some devices => initDevices world devices

/-- `~iec61850ClientManger`. -/
def destruction (world : World) : List Event :=
  world.clients.map Event.disconnect ++ [.clear]

/-- The states that some run of events leads to. -/
def Reachable (world : World) : Prop :=
  ∃ events, run step World.empty events = .ok world

/-- References and connections are to clients that were made. -/
structure WellFormed (world : World) : Prop where
  known : ∀ client, world.Referenced client → client < world.connections.issued
  connected : ∀ client ∈ world.connected, client < world.connections.issued

namespace WellFormed

variable {world : World}

theorem empty : WellFormed World.empty := by
  constructor
  · intro client referenced
    rcases referenced with member | member
    · cases member
    · cases member
  · intro client member
    cases member

theorem references {clients held : List Nat} (wellFormed : WellFormed world)
    (referenced : ∀ client, client ∈ clients ∨ client ∈ held →
      world.Referenced client) :
    WellFormed { world with clients := clients, held := held } :=
  { known := fun client member =>
      wellFormed.known client (referenced client member)
    connected := wellFormed.connected }

private theorem withThreads (wellFormed : WellFormed world) (threads : List Nat) :
    WellFormed { world with threads := threads } :=
  { known := wellFormed.known
    connected := wellFormed.connected }

theorem create (wellFormed : WellFormed world) : WellFormed world.create := by
  constructor
  · intro client referenced
    rcases referenced with member | member
    · exact Nat.lt_succ_of_lt (wellFormed.known client (Or.inl member))
    · rcases List.mem_cons.mp member with same | earlier
      · exact Nat.lt_succ_of_le (Nat.le_of_eq same)
      · exact Nat.lt_succ_of_lt (wellFormed.known client (Or.inr earlier))
  · intro client member
    exact Nat.lt_succ_of_lt (wellFormed.connected client member)

theorem peerCloses (wellFormed : WellFormed world) (client : Nat) :
    WellFormed (world.peerCloses client) :=
  { known := wellFormed.known
    connected := fun other member =>
      wellFormed.connected other (List.mem_filter.mp member).1 }

theorem connect {client : Nat} (wellFormed : WellFormed world)
    (referenced : world.Referenced client) (attempt : IedClientError) :
    WellFormed (world.connect client attempt).1 := by
  unfold World.connect
  split
  · refine { known := wellFormed.known, connected := ?_ }
    intro other member
    rcases List.mem_cons.mp member with same | earlier
    · exact same ▸ wellFormed.known client referenced
    · exact wellFormed.connected other earlier
  · exact wellFormed

theorem init {client : Nat} (wellFormed : WellFormed world)
    (referenced : world.Referenced client) (attempt : IedClientError) :
    WellFormed (world.init client attempt).1 := by
  have connected := wellFormed.connect referenced attempt
  unfold World.init
  cases result : world.connect client attempt with
  | mk next started =>
      rw [result] at connected
      cases started with
      | false => exact connected
      | true => exact connected.withThreads (client :: next.threads)

theorem disconnect {client : Nat} (wellFormed : WellFormed world)
    (live : world.connections.Live client) :
    WellFormed (world.disconnect client live) :=
  { known := wellFormed.known
    connected := fun other member =>
      wellFormed.connected other (List.mem_filter.mp member).1 }

end WellFormed

theorem step_wellFormed {world next : World} {event : Event} {output : Bool}
    (wellFormed : WellFormed world)
    (result : step world event = .ok (next, output)) : WellFormed next := by
  cases event with
  | create =>
      cases result
      exact wellFormed.create
  | share client =>
      simp only [step] at result
      split at result
      · rename_i referenced
        cases result
        apply wellFormed.references
        intro other after
        rcases after with member | member
        · exact Or.inl member
        · rcases List.mem_cons.mp member with same | earlier
          · exact same ▸ referenced
          · exact Or.inr earlier
      · cases result
        exact wellFormed
  | drop client =>
      cases result
      apply wellFormed.references
      intro other after
      exact after.imp_right List.mem_of_mem_erase
  | addClient client =>
      simp only [step] at result
      split at result
      · rename_i held
        cases result
        apply wellFormed.references
        intro other after
        rcases after with member | member
        · rcases List.mem_append.mp member with earlier | added
          · exact Or.inl earlier
          · cases List.mem_singleton.mp added
            exact Or.inr held
        · exact Or.inr member
      · cases result
        exact wellFormed
  | removeClient client =>
      simp only [step] at result
      split at result
      · cases result
        apply wellFormed.references
        intro other after
        exact after.imp_left fun member => (List.mem_filter.mp member).1
      · cases result
        exact wellFormed
  | clear =>
      cases result
      apply wellFormed.references
      intro other after
      exact after.imp_left fun member => (List.not_mem_nil member).elim
  | init client attempt =>
      simp only [step] at result
      split at result
      · rename_i referenced
        split at result
        · have kept := wellFormed.init referenced attempt
          rw [Except.ok.inj result] at kept
          exact kept
        · cases result
      · cases result
        exact wellFormed
  | connect client attempt =>
      simp only [step] at result
      split at result
      · rename_i referenced
        split at result
        · have kept := wellFormed.connect referenced attempt
          rw [Except.ok.inj result] at kept
          exact kept
        · cases result
      · cases result
        exact wellFormed
  | disconnect client =>
      simp only [step] at result
      split at result
      · split at result
        · rename_i live
          cases result
          exact wellFormed.disconnect live
        · cases result
      · cases result
        exact wellFormed
  | peerCloses client =>
      cases result
      exact wellFormed.peerCloses client
  | poll client returns =>
      simp only [step] at result
      split at result
      · split at result
        · split at result
          · split at result
            · cases result
              exact wellFormed.withThreads (world.threads.erase client)
            · cases result
              exact wellFormed
          · cases result
        · cases result
      · cases result
        exact wellFormed

theorem Reachable.wellFormed {world : World} (reachable : Reachable world) :
    WellFormed world := by
  obtain ⟨events, reached⟩ := reachable
  exact run_invariant WellFormed (fun _ _ _ _ => step_wellFormed) .empty reached

theorem Reachable.run {world next : World} (reachable : Reachable world)
    {events : List Event} (reached : run step world events = .ok next) :
    Reachable next := by
  obtain ⟨before, start⟩ := reachable
  refine ⟨before ++ events, ?_⟩
  rw [run_append, start]
  exact reached

end DataGateway.Iec61850
