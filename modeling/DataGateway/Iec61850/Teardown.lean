import DataGateway.Iec61850.InitClients

/-!
# Polling and teardown

Nothing joins a polling thread and nothing destroys the connection of a client
that is merely dropped.  A run is safe as long as its callers make up for both:
they destroy a connection once, before the last reference goes, and do neither
while a thread of the client is polling.
-/

namespace DataGateway.Iec61850

open Foundation

/-- The step is defined (a polling step finds its client alive and its
connection not destroyed, no connection is destroyed twice), and after it the
connection of every client that is gone has been destroyed exactly once. -/
def Safe (_ : World) (_ : Event) (result : Except Fault (World × Bool)) : Prop :=
  ∃ next output, result = .ok (next, output) ∧
    ∀ client < next.connections.issued, ¬next.Referenced client →
      next.connections.released.count client = 1

/-- The connection is destroyed and no thread of the client is left. -/
def Finished (world : World) (client : Nat) : Prop :=
  client ∈ world.connections.released ∧ client ∉ world.threads

instance (world : World) (client : Nat) : Decidable (Finished world client) :=
  inferInstanceAs (Decidable (_ ∧ _))

/-- What the callers see to. -/
def Careful (world : World) (event : Event)
    (_ : Except Fault (World × Bool)) : Prop :=
  match event with
  | .init client _ =>
      world.Referenced client → world.connections.Live client
  | .connect client _ =>
      world.Referenced client → world.connections.Live client
  | .disconnect client =>
      world.Referenced client →
        world.connections.Live client ∧ client ∉ world.threads
  | .drop client =>
      client ∈ world.held → client ∉ world.held.erase client →
        client ∉ world.clients → Finished world client
  | .clear =>
      ∀ client ∈ world.clients, client ∉ world.held → Finished world client
  | _ => True

/-- The invariant of careful runs. -/
structure Tidy (world : World) : Prop where
  polling : ∀ client ∈ world.threads,
    world.Referenced client ∧ world.connections.Live client
  gone : ∀ client < world.connections.issued, ¬world.Referenced client →
    client ∈ world.connections.released

theorem live_disconnect_iff {world : World} {client other : Nat}
    (live : world.connections.Live client) :
    (world.disconnect client live).connections.Live other ↔
      other ≠ client ∧ world.connections.Live other :=
  HandleTable.live_release_iff live

namespace Tidy

variable {world : World}

theorem empty : Tidy World.empty := by
  constructor
  · intro client member
    cases member
  · intro client bound
    cases bound

theorem references {clients held : List Nat} (tidy : Tidy world)
    (finished : ∀ client, world.Referenced client →
      ¬(client ∈ clients ∨ client ∈ held) → Finished world client) :
    Tidy { world with clients := clients, held := held } := by
  constructor
  · intro client member
    obtain ⟨referenced, live⟩ := tidy.polling client member
    refine ⟨?_, live⟩
    by_contra lost
    exact (finished client referenced lost).2 member
  · intro client bound lost
    by_cases referenced : world.Referenced client
    · exact (finished client referenced lost).1
    · exact tidy.gone client bound referenced

theorem moreReferences {clients held : List Nat} (tidy : Tidy world)
    (kept : ∀ client, world.Referenced client →
      client ∈ clients ∨ client ∈ held) :
    Tidy { world with clients := clients, held := held } := by
  apply tidy.references
  intro client referenced lost
  exact (lost (kept client referenced)).elim

theorem withConnected (tidy : Tidy world) (connected : List Nat) :
    Tidy { world with connected := connected } :=
  { polling := tidy.polling
    gone := tidy.gone }

theorem create (tidy : Tidy world) : Tidy world.create := by
  constructor
  · intro client member
    obtain ⟨referenced, live⟩ := tidy.polling client member
    refine ⟨referenced.imp_right (List.mem_cons_of_mem _), ?_⟩
    exact HandleTable.live_acquire_iff.mpr (Or.inr live)
  · intro client bound lost
    have older : client < world.connections.issued := by
      rcases Nat.lt_succ_iff_lt_or_eq.mp bound with older | newest
      · exact older
      · subst newest
        exact (lost (Or.inr List.mem_cons_self)).elim
    apply tidy.gone client older
    intro referenced
    exact lost (referenced.imp_right (List.mem_cons_of_mem _))

theorem connect (tidy : Tidy world) (client : Nat) (attempt : IedClientError) :
    Tidy (world.connect client attempt).1 := by
  unfold World.connect
  split
  · exact tidy.withConnected _
  · exact tidy

private theorem withThread {client : Nat} (tidy : Tidy world)
    (referenced : world.Referenced client)
    (live : world.connections.Live client) :
    Tidy { world with threads := client :: world.threads } := by
  constructor
  · intro other member
    rcases List.mem_cons.mp member with same | earlier
    · subst same
      exact ⟨referenced, live⟩
    · exact tidy.polling other earlier
  · exact tidy.gone

theorem init {client : Nat} (tidy : Tidy world)
    (referenced : world.Referenced client)
    (live : world.connections.Live client) (attempt : IedClientError) :
    Tidy (world.init client attempt).1 := by
  unfold World.init World.connect
  by_cases ok : iedConnectionConnect (world.connected.contains client) attempt = .ok
  · rw [if_pos ok]
    exact (tidy.withConnected (client :: world.connected)).withThread referenced live
  · rw [if_neg ok]
    exact tidy

theorem disconnect {client : Nat} (tidy : Tidy world)
    (live : world.connections.Live client) (idle : client ∉ world.threads) :
    Tidy (world.disconnect client live) := by
  constructor
  · intro other member
    obtain ⟨referenced, otherLive⟩ := tidy.polling other member
    have different : other ≠ client := fun same => idle (same ▸ member)
    exact ⟨referenced, (live_disconnect_iff live).mpr ⟨different, otherLive⟩⟩
  · intro other bound lost
    exact List.mem_cons_of_mem client (tidy.gone other bound lost)

private theorem threadEnds (tidy : Tidy world) (client : Nat) :
    Tidy { world with threads := world.threads.erase client } :=
  { polling := fun other member =>
      tidy.polling other (List.mem_of_mem_erase member)
    gone := tidy.gone }

end Tidy

theorem step_tidy {world : World} (tidy : Tidy world) (event : Event)
    (careful : Careful world event (step world event)) :
    ∃ next output, step world event = .ok (next, output) ∧ Tidy next := by
  cases event with
  | create => exact ⟨_, _, rfl, tidy.create⟩
  | share client =>
      simp only [step]
      split
      · refine ⟨_, _, rfl, ?_⟩
        apply tidy.moreReferences
        intro other before
        exact before.imp_right (List.mem_cons_of_mem client)
      · exact ⟨_, _, rfl, tidy⟩
  | drop client =>
      refine ⟨_, _, rfl, ?_⟩
      apply tidy.references
      intro other before lost
      -- Only the dropped client can have lost its last reference.
      rcases before with member | member
      · exact (lost (Or.inl member)).elim
      · by_cases same : other = client
        · subst same
          exact careful member (fun kept => lost (Or.inr kept))
            (fun kept => lost (Or.inl kept))
        · have kept := (List.mem_erase_of_ne same).mpr member
          exact (lost (Or.inr kept)).elim
  | addClient client =>
      simp only [step]
      split
      · refine ⟨_, _, rfl, ?_⟩
        apply tidy.moreReferences
        intro other before
        exact before.imp_left (List.mem_append_left [client])
      · exact ⟨_, _, rfl, tidy⟩
  | removeClient client =>
      simp only [step]
      split
      · rename_i held
        refine ⟨_, _, rfl, ?_⟩
        apply tidy.moreReferences
        intro other before
        rcases before with member | member
        · by_cases same : other = client
          · subst same
            exact Or.inr held
          · apply Or.inl
            exact List.mem_filter.mpr ⟨member, by simpa using same⟩
        · exact Or.inr member
      · exact ⟨_, _, rfl, tidy⟩
  | clear =>
      refine ⟨_, _, rfl, ?_⟩
      apply tidy.references
      intro other before lost
      rcases before with member | member
      · exact careful other member fun kept => lost (Or.inr kept)
      · exact (lost (Or.inr member)).elim
  | init client attempt =>
      simp only [step]
      split
      · rename_i referenced
        have live := careful referenced
        rw [if_pos live]
        exact ⟨_, _, rfl, tidy.init referenced live attempt⟩
      · exact ⟨_, _, rfl, tidy⟩
  | connect client attempt =>
      simp only [step]
      split
      · rename_i referenced
        rw [if_pos (careful referenced)]
        exact ⟨_, _, rfl, tidy.connect client attempt⟩
      · exact ⟨_, _, rfl, tidy⟩
  | disconnect client =>
      simp only [step]
      split
      · rename_i referenced
        obtain ⟨live, idle⟩ := careful referenced
        rw [dif_pos live]
        exact ⟨_, _, rfl, tidy.disconnect live idle⟩
      · exact ⟨_, _, rfl, tidy⟩
  | peerCloses client => exact ⟨_, _, rfl, tidy.withConnected _⟩
  | poll client returns =>
      simp only [step]
      split
      · rename_i polling
        obtain ⟨referenced, live⟩ := tidy.polling client polling
        rw [if_pos referenced, if_pos live]
        split
        · exact ⟨_, _, rfl, tidy.threadEnds client⟩
        · exact ⟨_, _, rfl, tidy⟩
      · exact ⟨_, _, rfl, tidy⟩

/-- In every run, from the start on, whose callers are careful at each step,
every step is safe. -/
theorem polling_safe_of_careful (events : List Event)
    (careful : EachStep step Careful World.empty events) :
    EachStep step Safe World.empty events := by
  apply EachStep.of_condition Tidy ?_ ?_ Tidy.empty careful
  · intro world event tidy steps
    obtain ⟨next, output, result, nextTidy⟩ := step_tidy tidy event steps
    refine ⟨next, output, result, ?_⟩
    intro client bound lost
    exact HandleTable.count_released_eq_one (nextTidy.gone client bound lost)
  · intro world event next output tidy steps result
    obtain ⟨other, value, same, nextTidy⟩ := step_tidy tidy event steps
    cases result.symm.trans same
    exact nextTidy

section Destruction

private theorem disconnects_ok_iff {world : World} {clients : List Nat}
    (referenced : ∀ client ∈ clients, world.Referenced client) :
    (∃ after, run step world (clients.map Event.disconnect ++ [.clear]) = .ok after) ↔
      clients.Nodup ∧ ∀ client ∈ clients, world.connections.Live client := by
  induction clients generalizing world with
  | nil => simp [run, step]
  | cons client clients induction =>
      have here := referenced client List.mem_cons_self
      by_cases live : world.connections.Live client
      · have disconnects : step world (.disconnect client) =
            .ok (world.disconnect client live, true) := by
          simp only [step]
          rw [if_pos here, dif_pos live]
        have rest := @induction (world.disconnect client live)
          fun other member => referenced other (List.mem_cons_of_mem client member)
        simp only [List.map_cons, List.cons_append, run, disconnects]
        rw [rest, List.nodup_cons]
        constructor
        · intro later
          obtain ⟨distinct, laterLive⟩ := later
          have apart : ∀ other ∈ clients, other ≠ client ∧
              world.connections.Live other := fun other member =>
            (live_disconnect_iff live).mp (laterLive other member)
          refine ⟨⟨fun member => (apart client member).1 rfl, distinct⟩, ?_⟩
          intro other member
          rcases List.mem_cons.mp member with same | later
          · exact same ▸ live
          · exact (apart other later).2
        · intro whole
          obtain ⟨⟨absent, distinct⟩, allLive⟩ := whole
          refine ⟨distinct, ?_⟩
          intro other member
          apply (live_disconnect_iff live).mpr
          refine ⟨fun same => absent (same ▸ member), ?_⟩
          exact allLive other (List.mem_cons_of_mem client member)
      · have faults : step world (.disconnect client) = .error .destroyedTwice := by
          simp only [step]
          rw [if_pos here, dif_neg live]
        constructor
        · intro completed
          obtain ⟨after, reached⟩ := completed
          simp only [List.map_cons, List.cons_append, run, faults] at reached
          cases reached
        · intro whole
          exact (live (whole.2 client List.mem_cons_self)).elim

/-- Left to itself, the destructor of the manager runs through exactly if no
client is listed twice and none was disconnected before. -/
theorem destruction_ok_iff (world : World) :
    (∃ after, run step world (destruction world) = .ok after) ↔
      world.clients.Nodup ∧
        ∀ client ∈ world.clients, world.connections.Live client :=
  disconnects_ok_iff fun _ member => Or.inl member

end Destruction

/-- The thread of a device has no Redis and returns before its loop; then the
connection is destroyed and the last reference goes. -/
theorem polling_safe_one_device : EachStep step Safe World.empty
    [.create, .init 0 .ok, .poll 0 true, .disconnect 0, .drop 0] := by
  apply polling_safe_of_careful
  refine ⟨trivial, ?_⟩
  intro _ _ created
  cases created
  refine ⟨fun _ => by decide, ?_⟩
  intro _ _ initialized
  cases initialized
  refine ⟨trivial, ?_⟩
  intro _ _ returned
  cases returned
  refine ⟨fun _ => by decide, ?_⟩
  intro _ _ disconnected
  cases disconnected
  refine ⟨fun _ _ _ => by decide, ?_⟩
  intro _ _ dropped
  trivial

/-- `initClients` drops its reference to a client that answers; the next step
of the client's thread finds the object gone. -/
theorem thread_outlives_client :
    run step World.empty (waitEvents World.empty ⟨.ok, false, .ok⟩ ++
        keepEvents World.empty ⟨.ok, false, .ok⟩) =
      .ok (initClients World.empty (some [⟨.ok, false, .ok⟩])).1 ∧
    step (initClients World.empty (some [⟨.ok, false, .ok⟩])).1 (.poll 0 false) =
      .error .clientDead ∧
    ¬EachStep step Safe World.empty (waitEvents World.empty ⟨.ok, false, .ok⟩ ++
      keepEvents World.empty ⟨.ok, false, .ok⟩ ++ [.poll 0 false]) := by
  have reached : run step World.empty (waitEvents World.empty ⟨.ok, false, .ok⟩ ++
        keepEvents World.empty ⟨.ok, false, .ok⟩) =
      .ok (initClients World.empty (some [⟨.ok, false, .ok⟩])).1 :=
    initDevice_run .empty ⟨.ok, false, .ok⟩
  have faults : step (initClients World.empty (some [⟨.ok, false, .ok⟩])).1
      (.poll 0 false) = .error .clientDead := rfl
  refine ⟨reached, faults, ?_⟩
  intro each
  obtain ⟨next, output, result, _⟩ := eachStep_iff_reached.mp each _ (.poll 0 false)
    [] _ rfl reached
  cases faults.symm.trans result

end DataGateway.Iec61850
