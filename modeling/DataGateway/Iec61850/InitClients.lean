import DataGateway.Iec61850.ClientManager

/-!
# Which clients the manager keeps

`initClients` calls `init`, which connects and starts the polling thread, and
then connects the same client again and keeps it if this second attempt
succeeds.  While the first connection stands the second attempt is refused.
-/

namespace DataGateway.Iec61850

open Foundation

/-- After `initClients` the clients in `clients_` are those that were there
before it and those that it made and started a polling thread of. -/
def OwnsPolling (world : World) (result : World × List (Nat × Bool)) : Prop :=
  ∀ client, client ∈ result.1.clients ↔
    client ∈ world.clients ∨ (client, true) ∈ result.2

/-- Both attempts fail, or the first one succeeds and its connection is lost
before the second one, which succeeds too. -/
def Attempts.Consistent (device : Attempts) : Prop :=
  (device.first ≠ .ok ∧ device.second ≠ .ok) ∨
    (device.first = .ok ∧ device.lost = true ∧ device.second = .ok)

/-- The second call of `connect` succeeds. -/
def Attempts.kept (device : Attempts) : Bool :=
  device.second == .ok && (device.first != .ok || device.lost)

private theorem consistent_iff (device : Attempts) :
    device.Consistent ↔ (device.kept = true ↔ device.first = .ok) := by
  unfold Attempts.Consistent Attempts.kept
  by_cases first : device.first = .ok
  · by_cases second : device.second = .ok
    · simp [first, second]
    · simp [first, second]
  · by_cases second : device.second = .ok
    · simp [first, second]
    · simp [first, second]

private theorem connect_of_connected {world : World} {client : Nat}
    (connected : client ∈ world.connected) (attempt : IedClientError) :
    world.connect client attempt = (world, false) := by
  simp [World.connect, iedConnectionConnect, connected]

private theorem connect_of_not_connected {world : World} {client : Nat}
    (idle : client ∉ world.connected) (attempt : IedClientError) :
    world.connect client attempt =
      if attempt = .ok then
        ({ world with connected := client :: world.connected }, true)
      else (world, false) := by
  simp [World.connect, iedConnectionConnect, idle]

theorem initThenWait_spec {world : World} (wellFormed : WellFormed world)
    (device : Attempts) :
    (initThenWait world device).2 = (device.first == .ok) ∧
      (initThenWait world device).1.connections = world.connections.acquire ∧
      (initThenWait world device).1.clients = world.clients ∧
      (initThenWait world device).1.held =
        world.connections.issued :: world.held ∧
      (world.connections.issued ∈ (initThenWait world device).1.connected ↔
        device.first = .ok ∧ device.lost = false) := by
  have fresh : world.connections.issued ∉ world.create.connected :=
    fun member => Nat.lt_irrefl _ (wellFormed.connected _ member)
  unfold initThenWait World.init
  rw [connect_of_not_connected fresh]
  by_cases first : device.first = .ok
  · rw [if_pos first]
    cases lost : device.lost with
    | true => exact ⟨by simp [first], rfl, rfl, rfl, by simp [World.peerCloses]⟩
    | false => exact ⟨by simp [first], rfl, rfl, rfl, by simp [first]⟩
  · rw [if_neg first]
    cases device.lost with
    | true =>
        exact ⟨by simp [first], rfl, rfl, rfl, by simp [first, World.peerCloses]⟩
    | false => exact ⟨by simp [first], rfl, rfl, rfl, by simp [first, fresh]⟩

theorem connect_again {world : World} (wellFormed : WellFormed world)
    (device : Attempts) :
    ((initThenWait world device).1.connect world.connections.issued
      device.second).2 = device.kept := by
  obtain ⟨_, _, _, _, standing⟩ := initThenWait_spec wellFormed device
  by_cases connected : world.connections.issued ∈
      (initThenWait world device).1.connected
  · rw [connect_of_connected connected]
    simp [Attempts.kept, standing.mp connected]
  · rw [connect_of_not_connected connected]
    have free : device.first ≠ .ok ∨ device.lost = true := by
      by_contra both
      simp only [not_or, not_not, Bool.not_eq_true] at both
      exact connected (standing.mpr both)
    by_cases second : device.second = .ok
    · rcases free with failed | lost
      · simp [Attempts.kept, second, failed]
      · simp [Attempts.kept, second, lost]
    · simp [Attempts.kept, second]

private theorem connect_frame (world : World) (client : Nat) (attempt : IedClientError) :
    (world.connect client attempt).1.clients = world.clients ∧
      (world.connect client attempt).1.held = world.held ∧
      (world.connect client attempt).1.connections = world.connections := by
  unfold World.connect
  split <;> exact ⟨rfl, rfl, rfl⟩

private theorem initDevice_eq {world : World} (wellFormed : WellFormed world)
    (device : Attempts) :
    initDevice world device =
      let second := ((initThenWait world device).1.connect
        world.connections.issued device.second).1
      ((if device.kept then second.addClient world.connections.issued
          else second).drop world.connections.issued,
        world.connections.issued, device.first == .ok) := by
  have again := connect_again wellFormed device
  obtain ⟨started, _⟩ := initThenWait_spec wellFormed device
  unfold initDevice
  rw [← again, ← started]
  cases result : (initThenWait world device).1.connect
      world.connections.issued device.second with
  | mk next ok =>
      simp only [result]
      cases ok <;> rfl

theorem initDevice_spec {world : World} (wellFormed : WellFormed world)
    (device : Attempts) :
    (initDevice world device).2 =
        (world.connections.issued, device.first == .ok) ∧
      (initDevice world device).1.connections = world.connections.acquire ∧
      (initDevice world device).1.clients = world.clients ++
        (if device.kept then [world.connections.issued] else []) := by
  obtain ⟨_, connections, clients, _, _⟩ := initThenWait_spec wellFormed device
  obtain ⟨sameClients, _, sameConnections⟩ := connect_frame
    (initThenWait world device).1 world.connections.issued device.second
  rw [initDevice_eq wellFormed device]
  cases device.kept with
  | true =>
      refine ⟨rfl, sameConnections.trans connections, ?_⟩
      exact congrArg (· ++ [world.connections.issued]) (sameClients.trans clients)
  | false =>
      refine ⟨rfl, sameConnections.trans connections, ?_⟩
      rw [if_neg Bool.false_ne_true, List.append_nil]
      exact sameClients.trans clients

/-- The events of the first half of one turn of the loop of `initClients`. -/
def waitEvents (world : World) (device : Attempts) : List Event :=
  [.create, .init world.connections.issued device.first] ++
    if device.lost then [.peerCloses world.connections.issued] else []

def keepEvents (world : World) (device : Attempts) : List Event :=
  .connect world.connections.issued device.second ::
    ((if device.kept then [.addClient world.connections.issued] else []) ++
      [.drop world.connections.issued])

private theorem initThenWait_run (world : World) (device : Attempts) :
    run step world (waitEvents world device) =
      .ok (initThenWait world device).1 := by
  have referenced : world.create.Referenced world.connections.issued :=
    Or.inr List.mem_cons_self
  have live : world.create.connections.Live world.connections.issued :=
    HandleTable.live_acquire_iff.mpr (Or.inl rfl)
  have initialized : step world.create
      (.init world.connections.issued device.first) =
        .ok (world.create.init world.connections.issued device.first) := by
    simp only [step]
    rw [if_pos referenced, if_pos live]
  have created : step world .create = .ok (world.create, true) := rfl
  unfold waitEvents initThenWait
  cases device.lost with
  | true =>
      have closes : ∀ before : World,
          step before (.peerCloses world.connections.issued) =
            .ok (before.peerCloses world.connections.issued, true) :=
        fun _ => rfl
      simp [run, created, initialized, closes]
  | false => simp [run, created, initialized]

/-- What `initClients` does for one device is a run of the events. -/
theorem initDevice_run {world : World} (wellFormed : WellFormed world)
    (device : Attempts) :
    run step world (waitEvents world device ++ keepEvents world device) =
      .ok (initDevice world device).1 := by
  obtain ⟨_, connections, _, held, _⟩ := initThenWait_spec wellFormed device
  let waited := (initThenWait world device).1
  let second := (waited.connect world.connections.issued device.second).1
  have referenced : waited.Referenced world.connections.issued :=
    Or.inr (held ▸ List.mem_cons_self)
  have live : waited.connections.Live world.connections.issued := by
    rw [connections]
    exact HandleTable.live_acquire_iff.mpr (Or.inl rfl)
  have connects : step waited
      (.connect world.connections.issued device.second) =
        .ok (waited.connect world.connections.issued device.second) := by
    simp only [step]
    rw [if_pos referenced, if_pos live]
  have heldAfter : world.connections.issued ∈ second.held := by
    rw [(connect_frame waited world.connections.issued device.second).2.1, held]
    exact List.mem_cons_self
  have adds : step second (.addClient world.connections.issued) =
      .ok (second.addClient world.connections.issued, true) := by
    simp only [step]
    rw [if_pos heldAfter]
  have drops : ∀ before : World, step before (.drop world.connections.issued) =
      .ok (before.drop world.connections.issued, true) := fun _ => rfl
  rw [run_append, initThenWait_run, initDevice_eq wellFormed device]
  unfold keepEvents
  cases device.kept with
  | true =>
      change run step waited _ = _
      simp only [second] at adds
      simp [run, connects, adds, drops, waited]
  | false =>
      change run step waited _ = _
      simp [run, connects, drops, waited]

theorem Reachable.initDevice {world : World} (reachable : Reachable world)
    (device : Attempts) : Reachable (initDevice world device).1 :=
  reachable.run (initDevice_run reachable.wellFormed device)

/-- `initClients` is a run of the events, so what holds of all reachable states
holds after it. -/
theorem Reachable.initClients {world : World} (reachable : Reachable world)
    (config : Option (List Attempts)) :
    Reachable (initClients world config).1 := by
  cases config with
  | none => exact reachable
  | some devices =>
      induction devices generalizing world with
      | nil => exact reachable
      | cons device devices induction =>
          exact induction (reachable.initDevice device)

/-- The clients are numbered in the order of the devices.  Those of the devices
whose second attempt succeeds are added, and the thread of a client runs if the
first attempt succeeds. -/
theorem initDevices_spec {world : World} (reachable : Reachable world)
    (devices : List Attempts) :
    (initDevices world devices).2 =
        ((devices.zipIdx world.connections.issued).map fun made =>
          (made.2, made.1.first == .ok)) ∧
      ∀ client, client ∈ (initDevices world devices).1.clients ↔
        client ∈ world.clients ∨
          ∃ device, (device, client) ∈ devices.zipIdx world.connections.issued ∧
            device.kept = true := by
  induction devices generalizing world with
  | nil => simp [initDevices]
  | cons device devices induction =>
      obtain ⟨entry, connections, clients⟩ :=
        initDevice_spec reachable.wellFormed device
      obtain ⟨entries, kept⟩ := induction (reachable.initDevice device)
      rw [connections, HandleTable.acquire_issued] at entries kept
      simp only [initDevices, List.zipIdx_cons, List.map_cons]
      refine ⟨by rw [entry, entries], ?_⟩
      intro client
      rw [kept client, clients, List.mem_append, or_assoc]
      apply or_congr_right
      simp only [List.mem_cons, Prod.mk.injEq]
      constructor
      · intro added
        rcases added with here | later
        · cases keeps : device.kept with
          | true =>
              rw [keeps, if_pos rfl] at here
              exact ⟨device, Or.inl ⟨rfl, List.mem_singleton.mp here⟩, keeps⟩
          | false =>
              rw [keeps] at here
              cases here
        · obtain ⟨other, member, keeps⟩ := later
          exact ⟨other, Or.inr member, keeps⟩
      · intro added
        obtain ⟨other, here | later, keeps⟩ := added
        · obtain ⟨same, number⟩ := here
          subst same
          rw [keeps, if_pos rfl]
          exact Or.inl (List.mem_singleton.mpr number)
        · exact Or.inr ⟨other, later, keeps⟩

private theorem initDevices_owns_iff {world : World} (reachable : Reachable world)
    (devices : List Attempts) :
    OwnsPolling world (initDevices world devices) ↔
      ∀ device ∈ devices, device.Consistent := by
  obtain ⟨entries, kept⟩ := initDevices_spec reachable devices
  have started : ∀ client, (client, true) ∈ (initDevices world devices).2 ↔
      ∃ device, (device, client) ∈ devices.zipIdx world.connections.issued ∧
        device.first = .ok := by
    intro client
    simp [entries]
  simp only [OwnsPolling, kept, started]
  constructor
  · intro owns device member
    obtain ⟨index, atIndex⟩ := List.mem_iff_getElem?.mp member
    let client := world.connections.issued + index
    have numbered : ∀ other,
        (other, client) ∈ devices.zipIdx world.connections.issued ↔
          other = device := by
      intro other
      rw [List.mem_zipIdx_iff_le_and_getElem?_sub]
      simp [client, atIndex, eq_comm]
    have fresh : client ∉ world.clients := by
      intro old
      have bound := reachable.wellFormed.known client (Or.inl old)
      omega
    have here := owns client
    simp only [fresh, false_or, numbered, exists_eq_left] at here
    exact (consistent_iff device).mpr here
  · intro consistent client
    apply or_congr_right
    apply exists_congr
    intro device
    apply and_congr_right
    intro member
    have inDevices := List.mem_of_getElem?
      (List.mem_zipIdx_iff_le_and_getElem?_sub.mp member).2
    exact (consistent_iff device).mp (consistent device inDevices)

/-- From any reachable state the manager keeps exactly the polling clients if
and only if, for every device, both attempts to connect fail, or the first one
succeeds, its connection is lost, and the second one succeeds. -/
theorem initClients_owns_iff {world : World} (reachable : Reachable world)
    (config : Option (List Attempts)) :
    OwnsPolling world (initClients world config) ↔
      ∀ device ∈ config.getD [], device.Consistent := by
  cases config with
  | none => simp [OwnsPolling, initClients]
  | some devices => exact initDevices_owns_iff reachable devices

theorem initClients_owns_unreachable : OwnsPolling World.empty (initClients
    World.empty (some [⟨.other 20, false, .other 20⟩, ⟨.ok, true, .ok⟩])) := by
  apply (initClients_owns_iff ⟨[], rfl⟩ _).mpr
  simp [Attempts.Consistent]

/-- A device that answers: its thread polls, and the manager does not have it. -/
theorem connected_client_not_kept :
    ¬OwnsPolling World.empty
      (initClients World.empty (some [⟨.ok, false, .ok⟩])) := by
  intro owns
  have kept := (owns 0).mpr (Or.inr List.mem_cons_self)
  cases kept

end DataGateway.Iec61850
