import DataGateway.Log.LoggerShutdown

/-!
# The logger comes to rest

Left alone, the threads of the logger go on for a bounded number of moves: each
takes a record, a flush or the end of the pool one stage further.  Where none can
go on any more no call is under way, every record has been handled and the queue is
empty, as long as the queue has a place to give.  `Uinit` has to have the logger for
itself: where another call is under way at its `reset`, the move is a fault.
-/

namespace DataGateway.Log

open Foundation

/-- How many moves away the rest of the thread is at most, those of the items that
it still posts included. -/
def Stage.work (poolSize : Nat) : Stage → Nat
  | .idle | .waits | .ended => 0
  | .flushesConsole (some _) | .joins => 1
  | .flushesFile (some _) => 2
  | .logsConsole _ _ => 3
  | .logsFile _ => 4
  | .posts (some _) => 6
  | .terminates left => 2 * left + 2
  | .resets => 2 * poolSize + 3
  | .flushesConsole none => 2 * poolSize + 4
  | .flushesFile none => 2 * poolSize + 5
  | .posts none => 4 * poolSize + 10

/-- A call of `Uinit` before it resets the logger. -/
def Stage.uninits (isAsync : Bool) : Stage → Bool
  | .posts none | .resets => true
  | .flushesFile none | .flushesConsole none => !isAsync
  | _ => false

theorem Stage.inCall_of_uninits {stage : Stage} {isAsync : Bool}
    (uninits : stage.uninits isAsync = true) : stage.inCall isAsync = true := by
  cases stage with
  | flushesFile delivery | flushesConsole delivery =>
      cases delivery with
      | none => exact uninits
      | some delivery => cases uninits
  | posts message => rfl
  | resets => rfl
  | _ => cases uninits

def Item.work (poolSize : Nat) : Item → Nat
  | .log _ => 5
  | .flush => 2 * poolSize + 6
  | .terminate => 1

namespace Progress

def work (progress : Progress) : Nat :=
  gathered (Stage.work progress.poolSize) progress.threads +
    gathered (Item.work progress.poolSize) progress.queue

section

variable {before after : Progress}

theorem work_set {thread : Nat} {old new : Stage}
    (found : before.threads[thread]? = some old)
    (less : new.work before.poolSize < old.work before.poolSize) :
    gathered (Stage.work before.poolSize) (before.threads.set thread new) +
        gathered (Item.work before.poolSize) before.queue < before.work := by
  obtain ⟨rest, whole, set⟩ :=
    exists_gathered_rest (Stage.work before.poolSize) found
  rw [work, set, whole]
  omega

theorem work_enqueue {thread : Nat} {old new : Stage} {item : Item}
    (found : before.threads[thread]? = some old)
    (less : new.work before.poolSize + item.work before.poolSize <
      old.work before.poolSize) :
    gathered (Stage.work before.poolSize) (before.threads.set thread new) +
        gathered (Item.work before.poolSize) (before.queue ++ [item]) <
      before.work := by
  obtain ⟨rest, whole, set⟩ :=
    exists_gathered_rest (Stage.work before.poolSize) found
  have added : gathered (Item.work before.poolSize) (before.queue ++ [item]) =
      gathered (Item.work before.poolSize) before.queue +
        item.work before.poolSize := by
    simp [gathered]
  rw [work, set, whole, added]
  omega

private theorem work_dequeue {thread : Nat} {item : Item} {queue : List Item}
    (found : before.threads[thread]? = some .waits)
    (first : before.queue = item :: queue) :
    gathered (Stage.work before.poolSize) (before.threads.set thread item.stage) +
        gathered (Item.work before.poolSize) queue < before.work := by
  obtain ⟨rest, whole, set⟩ :=
    exists_gathered_rest (Stage.work before.poolSize) found
  have taken : gathered (Item.work before.poolSize) (item :: queue) =
      item.work before.poolSize + gathered (Item.work before.poolSize) queue := by
    simp [gathered]
  have less : item.stage.work before.poolSize < item.work before.poolSize := by
    cases item <;> simp [Item.stage, Item.work, Stage.work]
  rw [work, set, whole, first, taken]
  omega

theorem Advance.work_lt (advance : Advance before after) : after.work < before.work := by
  cases advance with
  | @enqueues thread message found =>
      apply work_enqueue found
      cases message with
      | none =>
          simp only [itemOf, Item.work, Stage.work, Option.isSome_none,
            Bool.false_eq_true, if_false]
          omega
      | some record => simp [itemOf, Item.work, Stage.work]
  | dequeues found first => exact work_dequeue found first
  | visits found visit =>
      apply work_set found
      cases visit with
      | console record took => exact Nat.lt_succ_self _
      | flush record took => exact Nat.lt_succ_self _
      | flushed delivery => cases delivery <;> exact Nat.lt_succ_self _
  | finishes found ends =>
      apply work_set found
      cases before.isAsync <;> cases ends <;> simp [Stage.work]
  | flushed found =>
      apply work_set found
      cases before.isAsync <;> simp [Stage.work]
  | resets found alone =>
      apply work_set found
      cases before.isAsync <;> simp [Stage.work]
  | terminates found =>
      apply work_enqueue found
      simp only [Item.work, Stage.work]
      omega
  | posted found =>
      apply work_set found
      simp [Stage.work]
  | joined found all =>
      apply work_set found
      simp [Stage.work]

/-- Where `Uinit` has not reset the logger yet, no other call is under way. -/
def UninitsAlone (progress : Progress) : Prop :=
  ∀ stage ∈ progress.threads, stage.uninits progress.isAsync = true →
    progress.threads.countP (Stage.inCall progress.isAsync) = 1

theorem uninitsAlone_set {isAsync : Bool} {threads : List Stage} {thread : Nat}
    {old new : Stage}
    (alone : ∀ stage ∈ threads, stage.uninits isAsync = true →
      threads.countP (Stage.inCall isAsync) = 1)
    (found : threads[thread]? = some old)
    (inCall : new.inCall isAsync = true → old.inCall isAsync = true)
    (uninits : new.uninits isAsync = true → old.uninits isAsync = true) :
    ∀ stage ∈ threads.set thread new, stage.uninits isAsync = true →
      (threads.set thread new).countP (Stage.inCall isAsync) = 1 := by
  intro stage member closing
  have one : threads.countP (Stage.inCall isAsync) = 1 := by
    rcases List.mem_or_eq_of_mem_set member with earlier | here
    · exact alone stage earlier closing
    · exact alone old (List.mem_of_getElem? found) (uninits (here ▸ closing))
  have some_ : 0 < (threads.set thread new).countP (Stage.inCall isAsync) :=
    List.countP_pos_iff.mpr ⟨stage, member, Stage.inCall_of_uninits closing⟩
  obtain ⟨inside, here⟩ := List.getElem?_eq_some_iff.mp found
  rw [List.countP_set inside, here] at some_ ⊢
  by_cases busy : new.inCall isAsync = true
  · rw [if_pos busy, if_pos (inCall busy)] at some_ ⊢
    omega
  · rw [if_neg busy] at some_ ⊢
    omega

theorem UninitsAlone.advance (alone : before.UninitsAlone)
    (orderly : before.Orderly) (advance : Advance before after) :
    after.UninitsAlone := by
  cases advance with
  | @enqueues thread message found =>
      cases message with
      | none => exact uninitsAlone_set alone found (fun _ => rfl) (fun _ => rfl)
      | some record => exact uninitsAlone_set alone found (fun _ => rfl) nofun
  | @dequeues thread item queue found first =>
      rcases orderly.kind with unqueued | pooled
      · rw [unqueued.queue] at first
        cases first
      · apply uninitsAlone_set alone found
        · rw [pooled.isAsync]
          cases item <;> exact nofun
        · rw [pooled.isAsync]
          cases item <;> exact nofun
  | visits found visit =>
      cases visit with
      | console record took | flush record took =>
          exact uninitsAlone_set alone found id nofun
      | flushed delivery =>
          refine uninitsAlone_set alone found (fun busy => busy) ?_
          cases delivery <;> exact id
  | finishes found ends =>
      apply uninitsAlone_set alone found
      · cases before.isAsync <;> exact nofun
      · cases before.isAsync <;> exact nofun
  | flushed found =>
      apply uninitsAlone_set alone found
      · cases before.isAsync
        · exact fun _ => rfl
        · exact nofun
      · cases before.isAsync
        · exact fun _ => rfl
        · exact nofun
  | resets found only =>
      apply uninitsAlone_set alone found
      · exact fun _ => rfl
      · cases before.isAsync <;> exact nofun
  | terminates found => exact uninitsAlone_set alone found (fun _ => rfl) nofun
  | posted found => exact uninitsAlone_set alone found (fun _ => rfl) nofun
  | joined found all => exact uninitsAlone_set alone found nofun nofun

end

end Progress

namespace Logger

/-- `Uinit` begins while no call of the logger is under way, and no call begins
before it has reset the logger. -/
def Undisturbed (logger : Logger) (move : LoggerMove)
    (_ : Except LoggerFault (Logger × Unit)) : Prop :=
  logger.live = true →
    match move with
    | .log _ _ => ∀ stage ∈ logger.threads, stage.uninits logger.isAsync = false
    | .uinit _ => ∀ stage ∈ logger.threads, stage.inCall logger.isAsync = false
    | _ => True

/-- No thread can go on. -/
def Settled (logger : Logger) : Prop :=
  ∀ thread now, logger.proceed thread now = .ok logger

/-- No call is under way, the queue is empty, and every record that was logged has
been handled. -/
structure Resting (logger : Logger) : Prop where
  queue : logger.queue.items = []
  threads : ∀ stage ∈ logger.threads, stage = .idle ∨ stage = .waits ∨ stage = .ended
  handled : logger.posted = logger.handled

/-- The move takes a thread on. -/
def GoesOn (logger : Logger) (move : LoggerMove)
    (outcome : Except LoggerFault (Logger × Unit)) : Prop :=
  (∃ thread now, move = .proceed thread now) ∧ outcome ≠ .ok (logger, ())

/-- Left alone the threads go on for a bounded number of moves, none of them a fault,
and they end at rest. -/
def ComesToRest (logger : Logger) : Prop :=
  ∃ bound, ∀ moves, EachStep step GoesOn logger moves →
    moves.length ≤ bound ∧
      ∃ final, run step logger moves = .ok final ∧ (final.Settled → final.Resting)

section

variable {logger next : Logger} {thread items : Nat}

open Progress

/-- The ways of the records, and a `Uinit` that has the logger for itself. -/
structure Undisputed (logger : Logger) (items : Nat) : Prop where
  sound : logger.Sound items
  alone : logger.progress.UninitsAlone

theorem Undisputed.proceed (undisputed : logger.Undisputed items) (thread now : Nat) :
    ∃ next, logger.proceed thread now = .ok next ∧ next.Undisputed items ∧
      (next = logger ∨ Advance logger.progress next.progress) := by
  obtain ⟨sound, alone⟩ := undisputed
  have goes : ∃ next, logger.proceed thread now = .ok next := by
    unfold Logger.proceed
    cases found : logger.threads[thread]? with
    | none => exact ⟨_, rfl⟩
    | some stage =>
        cases stage with
        | resets =>
            have one := alone _ (List.mem_of_getElem? found) rfl
            exact ⟨_, if_pos one⟩
        | posts message => cases message <;> exact ⟨_, rfl⟩
        | terminates left => cases left <;> exact ⟨_, rfl⟩
        | _ => exact ⟨_, rfl⟩
  obtain ⟨next, goes⟩ := goes
  have stepped : logger.step (.proceed thread now) = .ok (next, ()) := by
    simp only [step, goes, Except.map]
  refine ⟨next, goes, ⟨sound.step stepped, ?_⟩, advance_of_proceed sound.enabled goes⟩
  rcases advance_of_proceed sound.enabled goes with same | advance
  · exact same ▸ alone
  · exact alone.advance sound.1 advance

private theorem uninitsAlone_log (thread : Nat) (record : Record)
    (alone : logger.progress.UninitsAlone)
    (none : logger.live = true →
      ∀ stage ∈ logger.threads, stage.uninits logger.isAsync = false) :
    (logger.log thread record).progress.UninitsAlone := by
  unfold Logger.log
  split
  · next open_ =>
      simp only [Bool.and_eq_true] at open_
      intro stage member closing
      rcases List.mem_or_eq_of_mem_set member with earlier | here
      · exact absurd closing (Bool.eq_false_iff.mp (none open_.1 stage earlier))
      · subst here
        cases async : logger.isAsync with
        | true => simp [Stage.uninits, async] at closing
        | false => simp [Stage.uninits, async] at closing
  · exact alone

private theorem uninitsAlone_uinit
    (found : logger.threads[thread]? = some .idle)
    (alone : logger.progress.UninitsAlone)
    (quiet : logger.live = true →
      ∀ stage ∈ logger.threads, stage.inCall logger.isAsync = false) :
    (logger.uinit thread).progress.UninitsAlone := by
  unfold Logger.uinit
  split
  · next live =>
      have noCall : logger.threads.countP (Stage.inCall logger.isAsync) = 0 :=
        List.countP_eq_zero.mpr fun stage member =>
          Bool.eq_false_iff.mp (quiet live stage member)
      have begins : Stage.inCall logger.isAsync
          (if logger.isAsync then .posts none else .flushesFile none) = true := by
        cases logger.isAsync <;> rfl
      obtain ⟨inside, here⟩ := List.getElem?_eq_some_iff.mp found
      intro stage _ _
      change (logger.threads.set thread _).countP (Stage.inCall logger.isAsync) = 1
      rw [List.countP_set inside, noCall, here, if_pos begins]
      rfl
  · exact alone

theorem Undisputed.step {move : LoggerMove} {output : Unit}
    (undisputed : logger.Undisputed items)
    (undisturbed : logger.Undisturbed move (logger.step move))
    (stepped : logger.step move = .ok (next, output)) : next.Undisputed items := by
  refine ⟨undisputed.sound.step stepped, ?_⟩
  have alone := undisputed.alone
  cases move with
  | log thread record =>
      cases stepped
      split
      · exact uninitsAlone_log thread record alone undisturbed
      · exact alone
  | uinit thread =>
      cases stepped
      split
      · next found => exact uninitsAlone_uinit found alone undisturbed
      · exact alone
  | setLogLevel severity =>
      cases stepped
      split
      · exact alone
      · exact alone
  | setLogFileLevel severity | setLogConsoleLevel severity =>
      cases stepped
      exact alone
  | proceed thread now =>
      obtain ⟨after, goes, kept, _⟩ := undisputed.proceed thread now
      simp only [Logger.step, goes, Except.map, Except.ok.injEq, Prod.mk.injEq]
        at stepped
      exact stepped.1 ▸ kept.alone

private theorem undisputed_of_run {machine : Machine} {arguments : InitArguments}
    {result : Initialised} (created : init machine arguments = .ok (some result))
    {flushLevel : LevelEnum} {bufferSize callers : Nat}
    (room : arguments.isAsync = true → items < (bufferSize + 1) % UInt64.size)
    {moves : List LoggerMove} {final : Logger}
    (undisturbed : EachStep step Undisturbed
      (initialised result flushLevel bufferSize callers) moves)
    (reached : run step (initialised result flushLevel bufferSize callers) moves =
      .ok final) : final.Undisputed items := by
  have begun : run step (initialised result flushLevel bufferSize callers) [] =
      .ok (initialised result flushLevel bufferSize callers) := rfl
  refine EachStep.invariant_reached (Undisputed · items)
    (fun _ _ _ _ undisputed undisturbed stepped => undisputed.step undisturbed stepped)
    ⟨sound_of_run created room begun, ?_⟩ undisturbed reached
  intro stage member closing
  rcases List.mem_append.mp member with caller | worker
  · rw [List.eq_of_mem_replicate caller] at closing
    cases closing
  · rw [List.eq_of_mem_replicate worker] at closing
    cases closing

/-- Every move that takes a thread on brings the logger nearer to its rest. -/
theorem run_of_goesOn {moves : List LoggerMove} (undisputed : logger.Undisputed items)
    (goesOn : EachStep step GoesOn logger moves) :
    moves.length ≤ logger.progress.work ∧
      ∃ final, run step logger moves = .ok final ∧ final.Undisputed items := by
  induction moves generalizing logger with
  | nil => exact ⟨Nat.zero_le _, logger, rfl, undisputed⟩
  | cons move moves induction =>
      obtain ⟨⟨⟨thread, now, moves_⟩, changes⟩, rest⟩ := goesOn
      subst moves_
      obtain ⟨next, goes, kept, advances⟩ := undisputed.proceed thread now
      have stepped : logger.step (.proceed thread now) = .ok (next, ()) := by
        simp only [step, goes, Except.map]
      rw [stepped] at changes
      have less : next.progress.work < logger.progress.work := by
        rcases advances with same | advance
        · exact (changes (by rw [same])).elim
        · exact advance.work_lt
      obtain ⟨bound, final, reached, last⟩ := induction kept (rest next () stepped)
      refine ⟨?_, final, ?_, last⟩
      · rw [List.length_cons]
        omega
      · rw [run, stepped]
        exact reached

theorem not_advance {goal : Prop} (same : next = logger)
    (advance : Advance logger.progress next.progress) : goal := by
  have less := advance.work_lt
  rw [same] at less
  exact (Nat.lt_irrefl _ less).elim

/-- Where a thread can be that cannot go on. -/
def Stuck (logger : Logger) : Stage → Prop
  | .idle | .ended => True
  | .waits => logger.queue.empty = true
  | .posts _ | .terminates (_ + 1) => logger.queue.full = true
  | .joins => logger.threads.count .ended ≠ logger.poolSize
  | _ => False

theorem Settled.stuck (settled : logger.Settled) (sound : logger.Sound items)
    {stage : Stage} (found : logger.threads[thread]? = some stage) :
    logger.Stuck stage := by
  have goes := settled thread 0
  unfold proceed at goes
  rw [found] at goes
  cases stage with
  | idle | ended => trivial
  | waits =>
      rcases advance_of_dequeue found with ⟨empty, _⟩ | advance
      · exact empty
      · exact not_advance (Except.ok.inj goes) advance
  | posts message =>
      rcases advance_of_posts sound.enabled found with ⟨full, _⟩ | advance
      · exact full
      · cases message with
        | none => exact not_advance (Except.ok.inj goes) advance
        | some record => exact not_advance (Except.ok.inj goes) advance
  | logsFile record => exact not_advance (Except.ok.inj goes) (advance_of_logFile found)
  | logsConsole record took =>
      exact not_advance (Except.ok.inj goes) (advance_of_logConsole found)
  | flushesFile delivery =>
      exact not_advance (Except.ok.inj goes) (advance_of_flushFile found)
  | flushesConsole delivery =>
      exact not_advance (Except.ok.inj goes) (advance_of_flushConsole found)
  | resets => exact not_advance rfl (advance_of_reset found goes)
  | terminates left =>
      cases left with
      | zero => exact not_advance (Except.ok.inj goes) (.posted found)
      | succ left =>
          rcases advance_of_enqueue sound.enabled found rfl (.terminates found) with
            ⟨full, _⟩ | advance
          · exact full
          · exact not_advance (Except.ok.inj goes) advance
  | joins =>
      intro all
      have same := Except.ok.inj goes
      rw [if_pos all] at same
      exact not_advance same (.joined found all)

theorem items_eq_nil_of_stuck (pooled : logger.progress.Pooled)
    (stuck : ∀ stage ∈ logger.threads, logger.Stuck stage) :
    logger.queue.items = [] := by
  by_contra some_
  have stored : logger.queue.empty = false := by
    rw [← Bool.not_eq_true, CircularQ.empty_iff]
    exact some_
  have worker : gathered Stage.worker logger.threads =
      gathered Stage.gone logger.threads := by
    unfold gathered
    congr 1
    apply List.map_congr_left
    intro stage member
    have where_ := stuck stage member
    cases stage <;> first | rfl | cases where_ | exact (by simp [Stuck, stored] at where_)
  have all : gathered Stage.gone logger.threads = logger.poolSize :=
    worker.symm.trans pooled.workers
  exact some_ (pooled.queue_eq_nil all)

theorem Settled.quiet (settled : logger.Settled) (sound : logger.Sound 1) :
    logger.queue.items = [] ∧ ∀ stage ∈ logger.threads,
      stage = .idle ∨ stage = .waits ∨ stage = .ended := by
  have stuck : ∀ stage ∈ logger.threads, logger.Stuck stage := by
    intro stage member
    obtain ⟨thread, found⟩ := List.mem_iff_getElem?.mp member
    exact settled.stuck sound found
  rcases sound.1.kind with unqueued | pooled
  · refine ⟨unqueued.queue, ?_⟩
    intro stage member
    have queues := unqueued.threads stage member
    have where_ := stuck stage member
    cases stage with
    | idle => exact Or.inl rfl
    | waits => exact Or.inr (Or.inl rfl)
    | ended => exact Or.inr (Or.inr rfl)
    | posts message | terminates left | joins => cases queues
    | _ => cases where_
  · have nothing := items_eq_nil_of_stuck pooled stuck
    have notFull : ¬logger.queue.full = true := by
      intro full
      have length := ((CircularQ.full_iff _).mp full).2
      have places := sound.2 pooled.isAsync
      rw [nothing, CircularQ.capacity, List.length_nil] at length
      omega
    have left : ∀ stage ∈ logger.threads, stage.left = 0 := by
      intro stage member
      have where_ := stuck stage member
      cases stage with
      | terminates left =>
          cases left with
          | zero => rfl
          | succ left => exact (notFull where_).elim
      | _ => rfl
    refine ⟨nothing, ?_⟩
    intro stage member
    have where_ := stuck stage member
    cases stage with
    | idle => exact Or.inl rfl
    | waits => exact Or.inr (Or.inl rfl)
    | ended => exact Or.inr (Or.inr rfl)
    | posts message => exact (notFull where_).elim
    | terminates left =>
        cases left with
        | zero => cases where_
        | succ left => exact (notFull where_).elim
    | joins =>
        have balance := pooled.balance_of_closes member rfl
        rw [show logger.progress.queue = [] from nothing,
          show gathered Stage.left logger.progress.threads = 0 from
            gathered_eq_zero _ left] at balance
        exact (where_ ((gathered_gone _).symm.trans balance)).elim
    | _ => cases where_

/-- Where no thread can go on there is no record that has not been handled. -/
theorem Settled.resting (settled : logger.Settled) (sound : logger.Sound 1) :
    logger.Resting := by
  obtain ⟨nothing, threads⟩ := settled.quiet sound
  refine ⟨nothing, threads, ?_⟩
  have underway : gathered Stage.underway logger.progress.threads = 0 := by
    apply gathered_eq_zero
    intro stage member
    rcases threads stage member with rfl | rfl | rfl <;> rfl
  have accounted := sound.1.accounted
  rw [Progress.Accounted, underway, show logger.progress.queue = [] from nothing,
    add_zero] at accounted
  exact accounted.trans (add_zero _)

theorem Undisputed.comesToRest (undisputed : logger.Undisputed 1) :
    logger.ComesToRest := by
  refine ⟨logger.progress.work, ?_⟩
  intro moves goesOn
  obtain ⟨bound, final, reached, last⟩ := run_of_goesOn undisputed goesOn
  exact ⟨bound, final, reached, fun settled => settled.resting last.sound⟩

private theorem not_comesToRest (settled : logger.Settled) {stage : Stage}
    (member : stage ∈ logger.threads) (inCall : stage.inCall true = true) :
    ¬logger.ComesToRest := by
  rintro ⟨bound, rests⟩
  obtain ⟨_, final, reached, resting⟩ := rests [] trivial
  cases reached
  rcases (resting settled).threads stage member with rfl | rfl | rfl <;> cases inCall

end

/-- An asynchronous logger in which only one thread does anything. -/
def alone (logger : Logger) (others : List Stage) (live : Bool) (stage : Stage) :
    Logger :=
  { logger with
    live := live
    threads := stage :: others }

section

variable {logger : Logger} {others : List Stage} {live : Bool} {stage : Stage}

private theorem settled_alone
    (quiet : ∀ stage ∈ others, stage = .idle ∨ stage = .waits)
    (empty : logger.queue.empty = true)
    (stays : ∀ now, (logger.alone others live stage).proceed 0 now =
      .ok (logger.alone others live stage)) :
    (logger.alone others live stage).Settled := by
  intro thread now
  cases thread with
  | zero => exact stays now
  | succ thread =>
      have at_ : (logger.alone others live stage).threads[thread + 1]? =
          others[thread]? := rfl
      unfold proceed
      rw [at_]
      cases found : others[thread]? with
      | none => rfl
      | some other =>
          rcases quiet other (List.mem_of_getElem? found) with rfl | rfl
          · rfl
          · have none : ¬logger.queue.empty = false := by simp [empty]
            exact congrArg Except.ok (dif_neg none)

theorem enqueue_alone (disabled : logger.queue.maxItems = 0) (item : Item)
    (next : Stage) :
    (logger.alone others live stage).enqueue 0 item next =
      logger.alone others live next := by
  have room : logger.queue.full = false := by simp [CircularQ.full, disabled]
  have same : logger.queue.pushBack item = logger.queue :=
    CircularQ.pushBack_of_disabled disabled
  simp only [enqueue, alone, room, Bool.false_eq_true, if_false, same, setStage,
    List.set_cons_zero]

theorem run_terminates (disabled : logger.queue.maxItems = 0) (left : Nat) :
    run step (logger.alone others live (.terminates left))
        (List.replicate (left + 1) (.proceed 0 0)) =
      .ok (logger.alone others live .joins) := by
  induction left with
  | zero => rfl
  | succ left induction =>
      have posts : (logger.alone others live (.terminates (left + 1))).step
          (.proceed 0 0) = .ok (logger.alone others live (.terminates left), ()) := by
        rw [← enqueue_alone disabled .terminate (.terminates left)]
        rfl
      rw [List.replicate_succ, run, posts]
      exact induction

theorem initialised_eq_alone {result : Initialised} {workers : Nat}
    (threads : result.threads = some workers) (flushLevel : LevelEnum)
    (bufferSize callers : Nat) :
    ∃ others, (∀ stage ∈ others, stage = .idle ∨ stage = .waits) ∧
      (initialised result flushLevel bufferSize (callers + 1)).alone others true .idle =
        initialised result flushLevel bufferSize (callers + 1) := by
  refine ⟨List.replicate callers .idle ++ List.replicate workers .waits, ?_, ?_⟩
  · intro stage member
    exact (List.mem_append.mp member).imp List.eq_of_mem_replicate
      List.eq_of_mem_replicate
  · unfold alone initialised
    rw [threads]
    rfl

private theorem uinit_alone (isAsync : logger.isAsync = true) :
    (logger.alone others true .idle).step (.uinit 0) =
      .ok (logger.alone others true (.posts none), ()) := by
  have posts : (logger.alone others true .idle).uinit 0 =
      logger.alone others true (.posts none) := by
    unfold uinit
    simp only [alone, isAsync, if_true, setStage, List.set_cons_zero]
  rw [← posts]
  rfl

private theorem reset_alone (isAsync : logger.isAsync = true)
    (quiet : ∀ stage ∈ others, stage = .idle ∨ stage = .waits) :
    (logger.alone others true .resets).step (.proceed 0 0) =
      .ok (logger.alone others false (.terminates logger.poolSize), ()) := by
  have one : (Stage.resets :: others).countP (Stage.inCall true) = 1 := by
    rw [List.countP_cons_of_pos rfl, List.countP_eq_zero.mpr]
    intro stage member
    rcases quiet stage member with rfl | rfl <;> simp [Stage.inCall]
  have resets : (logger.alone others true .resets).reset 0 =
      .ok (logger.alone others false (.terminates logger.poolSize)) := by
    unfold reset
    simp only [alone, isAsync, one, if_true, setStage, List.set_cons_zero]
  exact congrArg (Except.map (·, ())) resets

private theorem undisturbed_proceeds (logger : Logger) (count : Nat) :
    EachStep step Undisturbed logger (List.replicate count (.proceed 0 0)) := by
  induction count generalizing logger with
  | zero => trivial
  | succ count induction => exact ⟨fun _ => trivial, fun next _ _ => induction next⟩

theorem undisturbed_uinit
    (quiet : ∀ stage ∈ others, stage = .idle ∨ stage = .waits) (count : Nat) :
    EachStep step Undisturbed (logger.alone others true .idle)
      (.uinit 0 :: List.replicate count (.proceed 0 0)) := by
  refine ⟨?_, fun next _ _ => undisturbed_proceeds next count⟩
  intro _ stage member
  rcases List.mem_cons.mp member with rfl | other
  · rfl
  · rcases quiet stage other with rfl | rfl <;> rfl

/-- A queue without a place lets `Uinit` wait for ever. -/
theorem not_comesToRest_of_full (isAsync : logger.isAsync = true)
    (empty : logger.queue.empty = true) (full : logger.queue.full = true)
    (quiet : ∀ stage ∈ others, stage = .idle ∨ stage = .waits) :
    ∃ final, run step (logger.alone others true .idle) [.uinit 0] = .ok final ∧
      ¬final.ComesToRest := by
  refine ⟨logger.alone others true (.posts none), ?_, ?_⟩
  · rw [run, uinit_alone isAsync]
    rfl
  · apply not_comesToRest (settled_alone quiet empty _) List.mem_cons_self rfl
    intro now
    exact congrArg Except.ok (if_pos full)

/-- A disabled queue lets it wait for the workers, which it never tells to end. -/
theorem not_comesToRest_of_disabled (isAsync : logger.isAsync = true)
    (empty : logger.queue.empty = true) (disabled : logger.queue.maxItems = 0)
    (positive : 0 < logger.poolSize)
    (quiet : ∀ stage ∈ others, stage = .idle ∨ stage = .waits) :
    ∃ final, run step (logger.alone others true .idle)
        (.uinit 0 :: List.replicate (logger.poolSize + 3) (.proceed 0 0)) = .ok final ∧
      ¬final.ComesToRest := by
  refine ⟨logger.alone others false .joins, ?_, ?_⟩
  · have drops : (logger.alone others true (.posts none)).step (.proceed 0 0) =
        .ok (logger.alone others true .resets, ()) := by
      rw [← enqueue_alone disabled .flush .resets]
      rfl
    have first : List.replicate (logger.poolSize + 3) (LoggerMove.proceed 0 0) =
        .proceed 0 0 :: .proceed 0 0 ::
          List.replicate (logger.poolSize + 1) (.proceed 0 0) := rfl
    simp only [first, run, uinit_alone isAsync, drops, reset_alone isAsync quiet]
    exact run_terminates disabled logger.poolSize
  · apply not_comesToRest (settled_alone quiet empty _) List.mem_cons_self rfl
    intro now
    have workers : (Stage.joins :: others).count .ended ≠ logger.poolSize := by
      have none : (Stage.joins :: others).count .ended = 0 := by
        apply List.count_eq_zero.mpr
        intro member
        rcases List.mem_cons.mp member with same | member
        · cases same
        · rcases quiet _ member with same | same <;> cases same
      omega
    exact congrArg Except.ok (if_neg workers)

end

/-- Whatever its threads have done, left alone a logger with a caller comes to rest,
after a bounded number of moves without a fault, with no call under way and every
record handled: if and only if it is synchronous or its queue was asked for at least
one place, and not for so many that the length of its vector wraps to zero. -/
theorem comesToRest_iff (machine : Machine) (arguments : InitArguments)
    {result : Initialised} (created : init machine arguments = .ok (some result))
    (flushLevel : LevelEnum) (bufferSize callers : Nat) :
    (∀ moves final,
        EachStep step Undisturbed
          (initialised result flushLevel bufferSize (callers + 1)) moves →
        run step (initialised result flushLevel bufferSize (callers + 1)) moves =
          .ok final → final.ComesToRest) ↔
      (arguments.isAsync = true → 1 < (bufferSize + 1) % UInt64.size) := by
  constructor
  · intro rests isAsync
    by_contra few
    obtain ⟨workers, threads, positive⟩ := threads_of_isAsync created isAsync
    obtain ⟨others, quiet, same⟩ :=
      initialised_eq_alone threads flushLevel bufferSize callers
    have async : (initialised result flushLevel bufferSize
        (callers + 1)).isAsync = true := by
      simp [initialised, threads]
    have empty : (initialised result flushLevel bufferSize
        (callers + 1)).queue.empty = true :=
      (CircularQ.empty_iff _).mpr (CircularQ.items_construct bufferSize)
    rw [← same] at rests
    rcases Nat.lt_or_ge 0 ((bufferSize + 1) % UInt64.size) with one | none
    · have full : (initialised result flushLevel bufferSize
          (callers + 1)).queue.full = true := by
        refine (CircularQ.full_iff _).mpr ⟨one, ?_⟩
        have capacity :
            (CircularQ.construct bufferSize : CircularQ Item).capacity = 0 := by
          change (bufferSize + 1) % UInt64.size - 1 = 0
          omega
        exact (congrArg List.length (CircularQ.items_construct bufferSize)).trans
          capacity.symm
      obtain ⟨final, reached, hangs⟩ := not_comesToRest_of_full async empty full quiet
      exact hangs (rests _ final (undisturbed_uinit quiet 0) reached)
    · have poolSize : 0 < (initialised result flushLevel bufferSize
          (callers + 1)).poolSize := by
        simpa [initialised, threads] using positive
      obtain ⟨final, reached, hangs⟩ := not_comesToRest_of_disabled async empty
        (Nat.le_zero.mp none) poolSize quiet
      exact hangs (rests _ final (undisturbed_uinit quiet _) reached)
  · intro room moves final undisturbed reached
    exact (undisputed_of_run created room undisturbed reached).comesToRest

/-- A queue of eight places never lets the program hang, one of none can. -/
theorem comesToRest_iff_eight :
    ∃ result, init (freshMachine 4 8) (bothArguments 60) = .ok (some result) ∧
      (∀ moves final, EachStep step Undisturbed (initialised result 2 8 1) moves →
        run step (initialised result 2 8 1) moves = .ok final → final.ComesToRest) ∧
      ¬∀ moves final, EachStep step Undisturbed (initialised result 2 0 1) moves →
        run step (initialised result 2 0 1) moves = .ok final →
        final.ComesToRest := by
  refine ⟨_, rfl, ?_, ?_⟩
  · apply (comesToRest_iff (freshMachine 4 8) (bothArguments 60) rfl 2 8 0).mpr
    intro _
    decide
  · intro rests
    have places := (comesToRest_iff (freshMachine 4 8) (bothArguments 60) rfl 2 0 0).mp
      rests rfl
    exact absurd places (by decide)

end Logger

end DataGateway.Log
