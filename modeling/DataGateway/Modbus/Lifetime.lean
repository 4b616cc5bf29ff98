import DataGateway.Modbus.ReconnectThread

/-!
# The reconnect thread and the destructor

Nothing waits for the thread of `reconnectLoop`: it is detached, `stop` only
clears `runing_`, and the destructor runs as soon as the last `shared_ptr` is
released.  The thread is safe exactly when it has ended before that.
-/

namespace DataGateway.Modbus

open Foundation

/-- What the owners of a `ModbusApi` call. -/
inductive Call
  | readRegisters (startAddr : UInt16) (nbRegs : Int32)
  | writeRegister (addr value : UInt16)
  | writeRegisters (startAddr : UInt16) (src : List UInt16)
  | set_debug
  | stop

def Call.operation : Call → Operation
  | .readRegisters startAddr nbRegs => .readRegisters startAddr nbRegs
  | .writeRegister addr value => .writeRegister addr value
  | .writeRegisters startAddr src => .writeRegisters startAddr src
  | .set_debug => .set_debug
  | .stop => .stop

/-- A copy of the `shared_ptr` is made or released, an owner calls an
operation, or the thread goes on. -/
inductive LifetimeMove
  | share
  | drop
  | call (operation : Call) (environment : Environment)
  | thread (environment : Environment)

def LifetimeMove.isThread : LifetimeMove → Bool
  | .thread _ => true
  | _ => false

/-- A `ModbusApi` held by `owners` copies of its `shared_ptr`. -/
structure Lifetime extends Threaded where
  owners : Nat
  destructorBegun : Bool

namespace Lifetime

/-- `std::make_shared<ModbusApi>`, put into `devices_`. -/
def create (settings : Settings) (environment : Environment) :
    Except HandleFault Lifetime :=
  match ModbusApi.construct settings environment with
  | .error fault => .error fault
  | .ok api =>
      .ok { api := api
            thread := .testsRuning
            owners := 1
            destructorBegun := false }

/-- The last owner's release runs the destructor.  What is left of the object
stays in the state, for the thread may go on. -/
def drop (lifetime : Lifetime) : Except HandleFault Lifetime :=
  match lifetime.owners with
  | 0 => .ok lifetime
  | 1 =>
      match lifetime.api.destroy with
      | .error fault => .error fault
      | .ok closed =>
          .ok { lifetime with
            api := closed
            owners := 0
            destructorBegun := true }
  | owners + 2 => .ok { lifetime with owners := owners + 1 }

/-- One step.  Without owners nobody can call or copy. -/
def step (lifetime : Lifetime) (move : LifetimeMove) :
    Except HandleFault (Lifetime × Unit) :=
  match move with
  | .share =>
      .ok (if lifetime.owners = 0 then lifetime
        else { lifetime with owners := lifetime.owners + 1 }, ())
  | .drop => lifetime.drop.map (·, ())
  | .call call environment =>
      if lifetime.owners = 0 then .ok (lifetime, ())
      else
        (operationStep lifetime.api (call.operation, environment)).map
          fun (next, _) => ({ lifetime with api := next }, ())
  | .thread environment =>
      (lifetime.toThreaded.advance environment).map fun next =>
        ({ lifetime with toThreaded := next }, ())

/-- The thread accesses no member once the destructor has begun. -/
def KeepsOff (lifetime : Lifetime) (move : LifetimeMove)
    (_ : Except HandleFault (Lifetime × Unit)) : Prop :=
  move.isThread = true → lifetime.thread.touches = true →
    lifetime.destructorBegun = false

/-- The last owner releases the object after its thread has ended. -/
def DropsAfterThread (lifetime : Lifetime) (move : LifetimeMove)
    (_ : Except HandleFault (Lifetime × Unit)) : Prop :=
  move = .drop → lifetime.owners = 1 → lifetime.thread = .returned

/-- The thread keeps off the dead object however it is scheduled after the
run. -/
def NeverOutlived (lifetime : Lifetime) (moves : List LifetimeMove) : Prop :=
  ∀ more, (∀ move ∈ more, move.isThread = true) →
    EachStep step KeepsOff lifetime (moves ++ more)

structure Wellformed (lifetime : Lifetime) : Prop where
  sound : lifetime.toThreaded.Sound
  unowned : lifetime.destructorBegun = true → lifetime.owners = 0

end Lifetime

section Calls

variable {api : ModbusApi}
  (live : ∀ handle, api.ctx = some handle → api.contexts.Live handle)

include live

theorem destroy_of_live : ∃ closed, api.destroy = .ok closed ∧
    closed.ctx = none ∧ closed.runing = api.runing ∧
      (api.ctx = none → closed = api) := by
  cases pointer : api.ctx with
  | none =>
      exact ⟨api, ModbusApi.destroy_of_null pointer, pointer, rfl, fun _ => rfl⟩
  | some handle =>
      have released := HandleTable.release?_of_live (live handle pointer)
      refine ⟨_, by simp [ModbusApi.destroy, pointer, released]; rfl, ?_⟩
      exact ⟨rfl, rfl, by intro null; cases null⟩

/-- A request leaves the object alone, or it closes the context it had. -/
theorem request_of_live (answer : Option α) :
    ∃ next result, api.request answer = .ok (next, result) ∧
      next.runing = api.runing ∧
      (next = api ∨ api.ctx ≠ none ∧ next.ctx = none) := by
  cases pointer : api.ctx with
  | none =>
      exact ⟨api, none, by simp [ModbusApi.request, pointer], rfl, .inl rfl⟩
  | some handle =>
      have used := HandleTable.use_of_live (live handle pointer)
      obtain ⟨closed, result, null, runing, _⟩ := destroy_of_live live
      cases answer with
      | some value =>
          exact ⟨api, some value, by simp [ModbusApi.request, pointer, used],
            rfl, .inl rfl⟩
      | none =>
          exact ⟨closed, none,
            by simp [ModbusApi.request, pointer, used, result], runing,
            .inr ⟨by simp, null⟩⟩

theorem set_debug_of_live : api.set_debug = .ok api := by
  cases pointer : api.ctx with
  | none => simp [ModbusApi.set_debug, pointer]
  | some handle =>
      have used := HandleTable.use_of_live (live handle pointer)
      simp [ModbusApi.set_debug, pointer, used]

private theorem operationStep_call (call : Call) (environment : Environment) :
    ∃ next, operationStep api (call.operation, environment) = .ok (next, ()) ∧
      (next.ctx = api.ctx ∧ next.contexts = api.contexts ∨
        api.ctx ≠ none ∧ next.ctx = none) := by
  have requests : ∀ {α : Type} (answer : Option α), ∃ next,
      (api.request answer).map (fun (next, _) => (next, ())) =
          .ok (next, ()) ∧
        (next.ctx = api.ctx ∧ next.contexts = api.contexts ∨
          api.ctx ≠ none ∧ next.ctx = none) := by
    intro α answer
    obtain ⟨next, result, requested, _, same | closed⟩ :=
      request_of_live live answer
    · exact ⟨next, by rw [requested]; rfl, .inl (by simp [same])⟩
    · exact ⟨next, by rw [requested]; rfl, .inr closed⟩
  cases call with
  | readRegisters startAddr nbRegs => exact requests _
  | writeRegister addr value => exact requests _
  | writeRegisters startAddr src => exact requests _
  | stop => exact ⟨api.stop, rfl, .inl ⟨rfl, rfl⟩⟩
  | set_debug =>
      refine ⟨api, ?_, .inl ⟨rfl, rfl⟩⟩
      simp [operationStep, Call.operation, set_debug_of_live live, Except.map]

end Calls

theorem construct_live (settings : Settings) (environment : Environment) :
    ∃ api, ModbusApi.construct settings environment = .ok api ∧
      ∀ handle, api.ctx = some handle → api.contexts.Live handle := by
  cases fails : environment.failsSetup settings with
  | false =>
      obtain ⟨api, constructed, owner⟩ := ModbusApi.construct_owns fails
      refine ⟨api, constructed, ?_⟩
      intro handle pointer
      exact (owner.sole handle).mpr pointer
  | true =>
      have null : (ModbusApi.blank settings).ctx = none := rfl
      have created := ModbusApi.createModbusContext_fails null fails
      refine ⟨_, by simp only [ModbusApi.construct, created]; rfl, ?_⟩
      intro handle pointer
      cases pointer

private theorem pending?_of_idle {thread : ThreadAt} (idle : thread.attempts = false) :
    thread.pending? = none := by
  cases thread <;> first | rfl | cases idle

theorem Threaded.Sound.call {api next : ModbusApi} {thread : ThreadAt}
    (sound : Threaded.Sound ⟨api, thread⟩)
    (effect : next.ctx = api.ctx ∧ next.contexts = api.contexts ∨
      api.ctx ≠ none ∧ next.ctx = none) :
    Threaded.Sound ⟨next, thread⟩ := by
  rcases effect with ⟨sameCtx, sameContexts⟩ | ⟨pointer, null⟩
  · have live := sound.live
    have pending := sound.pending
    simp only [← sameCtx, ← sameContexts] at live pending
    refine ⟨live, ?_, pending⟩
    intro attempts
    exact sameCtx.trans (sound.null attempts)
  · have idle : thread.attempts = false := by
      cases attempts : thread.attempts with
      | false => rfl
      | true => exact (pointer (sound.null attempts)).elim
    refine .of_idle ?_ idle (pending?_of_idle idle)
    intro handle pointer
    cases null.symm.trans pointer

namespace Lifetime

section

variable {lifetime : Lifetime} {environment : Environment}

/-- What a step does to the thread and to the destruction. -/
structure StepEffect (lifetime : Lifetime) (move : LifetimeMove)
    (next : Lifetime) : Prop where
  wellformed : Wellformed next
  thread : move.isThread = false → next.thread = lifetime.thread
  stays : lifetime.thread = .returned → next.thread = .returned
  goesOn : lifetime.thread ≠ .returned → lifetime.thread.touches = false →
    next.thread ≠ .returned
  begun : next.destructorBegun = true ↔
    lifetime.destructorBegun = true ∨ move = .drop ∧ lifetime.owners = 1

theorem StepEffect.of_still {move : LifetimeMove} {next : Lifetime}
    (wellformed : Wellformed next) (same : next.thread = lifetime.thread)
    (begun : next.destructorBegun = true ↔
      lifetime.destructorBegun = true ∨ move = .drop ∧ lifetime.owners = 1) :
    StepEffect lifetime move next := by
  refine ⟨wellformed, fun _ => same, ?_, ?_, begun⟩
  · intro ended
    exact same.trans ended
  · intro more _
    rw [same]
    exact more

private theorem advance_returned {threaded next : Threaded}
    (advanced : threaded.advance environment = .ok next)
    (ended : threaded.thread = .returned) : next.thread = .returned := by
  simp only [Threaded.advance, ended] at advanced
  cases advanced
  exact ended

private theorem advance_touches {threaded next : Threaded}
    (advanced : threaded.advance environment = .ok next)
    (more : threaded.thread ≠ .returned)
    (untouched : threaded.thread.touches = false) :
    next.thread.touches = true := by
  obtain ⟨api, thread⟩ := threaded
  cases thread with
  | returned => exact (more rfl).elim
  | sleeps =>
      cases advanced
      rfl
  | connects ctx =>
      cases advanced
      split <;> rfl
  | testsRuning | testsCtx | testsRetries | obtains | setsSlave | destroys
  | assigns | pauses => cases untouched

/-- Every step of a wellformed object is possible. -/
theorem Wellformed.step (wellformed : Wellformed lifetime)
    (move : LifetimeMove) :
    ∃ next, lifetime.step move = .ok (next, ()) ∧
      StepEffect lifetime move next := by
  obtain ⟨⟨api, thread⟩, owners, destructorBegun⟩ := lifetime
  have sound := wellformed.sound
  have unowned := wellformed.unowned
  cases move with
  | share =>
      by_cases none : owners = 0
      · exact ⟨_, by simp [Lifetime.step, none],
          .of_still wellformed rfl (by simp)⟩
      · refine ⟨⟨⟨api, thread⟩, owners + 1, destructorBegun⟩,
          by simp [Lifetime.step, none], .of_still ⟨sound, ?_⟩ rfl (by simp)⟩
        intro begun
        exact (none (unowned begun)).elim
  | drop =>
      match owners with
      | 0 => exact ⟨_, rfl, .of_still wellformed rfl (by simp)⟩
      | 1 =>
          obtain ⟨closed, result, null, _, same⟩ := destroy_of_live sound.live
          refine ⟨⟨⟨closed, thread⟩, 0, true⟩,
            by simp [Lifetime.step, drop, result, Except.map],
            .of_still ⟨?_, fun _ => rfl⟩ rfl (by simp)⟩
          cases pointer : api.ctx with
          | none =>
              rw [same pointer]
              exact sound
          | some handle =>
              exact sound.call (.inr ⟨by simp [pointer], null⟩)
      | owners + 2 =>
          refine ⟨_, rfl, .of_still ⟨sound, ?_⟩ rfl (by simp)⟩
          intro begun
          cases unowned begun
  | call call environment =>
      by_cases none : owners = 0
      · exact ⟨_, by simp [Lifetime.step, none],
          .of_still wellformed rfl (by simp)⟩
      · obtain ⟨next, called, effect⟩ :=
          operationStep_call sound.live call environment
        exact ⟨⟨⟨next, thread⟩, owners, destructorBegun⟩,
          by simp [Lifetime.step, none, called, Except.map],
          .of_still ⟨sound.call effect, unowned⟩ rfl (by simp)⟩
  | thread environment =>
      obtain ⟨next, advanced, nextSound⟩ := sound.advance environment
      refine ⟨⟨next, owners, destructorBegun⟩,
        by simp [Lifetime.step, advanced, Except.map],
        ⟨⟨nextSound, unowned⟩, ?_, advance_returned advanced, ?_, by simp⟩⟩
      · intro other
        cases other
      · intro more untouched ended
        have touches := advance_touches advanced more untouched
        rw [ended] at touches
        cases touches

theorem outlives_of_begun (wellformed : Wellformed lifetime)
    (begun : lifetime.destructorBegun = true)
    (more : lifetime.thread ≠ .returned) (moves : List LifetimeMove) :
    ∃ later, (∀ move ∈ later, move.isThread = true) ∧
      ¬EachStep Lifetime.step KeepsOff lifetime (moves ++ later) := by
  induction moves generalizing lifetime with
  | nil =>
      cases touches : lifetime.thread.touches with
      | true =>
          refine ⟨[.thread unreachable], by simp [LifetimeMove.isThread], ?_⟩
          intro each
          cases begun.symm.trans (each.1 rfl touches)
      | false =>
          refine ⟨[.thread unreachable, .thread unreachable],
            by simp [LifetimeMove.isThread], ?_⟩
          intro each
          obtain ⟨next, advanced, _⟩ := wellformed.sound.advance unreachable
          have second := each.2 { lifetime with toThreaded := next } ()
            (by simp [Lifetime.step, advanced, Except.map])
          have touched := advance_touches advanced more touches
          cases begun.symm.trans (second.1 rfl touched)
  | cons move moves induction =>
      obtain ⟨next, stepped, effect⟩ := wellformed.step move
      by_cases keeps : KeepsOff lifetime move (lifetime.step move)
      · have nextMore : next.thread ≠ .returned := by
          cases kind : move.isThread with
          | false =>
              rw [effect.thread kind]
              exact more
          | true =>
              apply effect.goesOn more
              by_contra touches
              cases begun.symm.trans (keeps kind (by simpa using touches))
        obtain ⟨later, threads, fails⟩ := induction effect.wellformed
          (effect.begun.mpr (.inl begun)) nextMore
        refine ⟨later, threads, ?_⟩
        intro each
        exact fails (each.2 next () stepped)
      · refine ⟨[], by simp, ?_⟩
        intro each
        exact keeps each.1

theorem create_spec (settings : Settings) (environment : Environment) :
    ∃ lifetime, create settings environment = .ok lifetime ∧
      Wellformed lifetime ∧ lifetime.destructorBegun = false := by
  obtain ⟨api, constructed, live⟩ := construct_live settings environment
  exact ⟨⟨⟨api, .testsRuning⟩, 1, false⟩, by simp [create, constructed],
    ⟨.of_idle live rfl rfl, by intro begun; cases begun⟩, rfl⟩

theorem dropsAfterThread_of_threads {moves : List LifetimeMove}
    (threads : ∀ move ∈ moves, move.isThread = true) :
    EachStep Lifetime.step DropsAfterThread lifetime moves := by
  apply eachStep_iff_reached.mpr
  intro before move after middle split _ dropped
  have thread := threads move (by rw [split]; simp)
  rw [dropped] at thread
  cases thread

private theorem keepsOff_of_condition {moves : List LifetimeMove}
    (wellformed : Wellformed lifetime)
    (alive : lifetime.destructorBegun = false)
    (condition : EachStep Lifetime.step DropsAfterThread lifetime moves) :
    EachStep Lifetime.step KeepsOff lifetime moves := by
  apply EachStep.of_condition
    (fun lifetime => Wellformed lifetime ∧
      (lifetime.destructorBegun = true → lifetime.thread = .returned))
    _ _ _ condition
  · intro lifetime move invariant _ _ touches
    by_contra begun
    have ended := invariant.2 (by simpa using begun)
    rw [ended] at touches
    cases touches
  · intro lifetime move next output invariant drops stepped
    obtain ⟨same, again, effect⟩ := invariant.1.step move
    cases stepped.symm.trans again
    refine ⟨effect.wellformed, ?_⟩
    intro begun
    rcases effect.begun.mp begun with earlier | ⟨dropped, last⟩
    · exact effect.stays (invariant.2 earlier)
    · exact effect.stays (drops dropped last)
  · refine ⟨wellformed, ?_⟩
    intro begun
    cases alive.symm.trans begun

/-- However the thread is scheduled, it keeps off the dead object if and only
if the last `shared_ptr` is released after the thread has ended. -/
theorem neverOutlived_iff (settings : Settings) (environment : Environment)
    (moves : List LifetimeMove) :
    (∀ lifetime, create settings environment = .ok lifetime →
        NeverOutlived lifetime moves) ↔
      ∀ lifetime, create settings environment = .ok lifetime →
        EachStep Lifetime.step DropsAfterThread lifetime moves := by
  obtain ⟨lifetime, created, wellformed, alive⟩ :=
    create_spec settings environment
  constructor
  · intro never other again
    cases created.symm.trans again
    apply eachStep_iff_reached.mpr
    intro before move after middle split reached dropped last
    by_contra more
    have middleWellformed : Wellformed middle := by
      apply run_invariant Wellformed _ wellformed reached
      intro state input next output kept stepped
      obtain ⟨same, again, effect⟩ := kept.step input
      cases stepped.symm.trans again
      exact effect.wellformed
    obtain ⟨next, stepped, effect⟩ := middleWellformed.step move
    have nextMore : next.thread ≠ .returned := by
      rw [effect.thread (by rw [dropped]; rfl)]
      exact more
    obtain ⟨later, threads, fails⟩ := outlives_of_begun effect.wellformed
      (effect.begun.mpr (.inr ⟨dropped, last⟩)) nextMore after
    have each := never lifetime created later threads
    rw [split, List.append_assoc, eachStep_append] at each
    exact fails ((each.2 middle reached).2 next () stepped)
  · intro condition other again more threads
    cases created.symm.trans again
    apply keepsOff_of_condition wellformed alive
    apply eachStep_append.mpr
    refine ⟨condition lifetime created, ?_⟩
    intro middle _
    exact dropsAfterThread_of_threads threads

end

/-- The thread sleeps while the object is stopped and released. -/
def releasedAsleep : List LifetimeMove :=
  List.replicate 3 (.thread answering) ++
    [.call .stop answering, .drop, .thread answering]

/-- After its sleep the thread tests `runing_` of the dead object. -/
theorem not_keepsOff_releasedAsleep :
    ∃ lifetime, create tcpSettings answering = .ok lifetime ∧
      ¬EachStep Lifetime.step KeepsOff lifetime
        (releasedAsleep ++ [.thread answering]) := by
  refine ⟨_, rfl, ?_⟩
  apply not_eachStep_of_reached [] (by rfl)
  intro keeps
  cases keeps rfl rfl

end Lifetime

end DataGateway.Modbus
