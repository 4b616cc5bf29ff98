import DataGateway.Log.Logger

/-!
# How the logger goes on

What a thread does with its record, the queue and the pool.  An advance takes one
thread from a stage of its call to the next; a call of the logger begins one.
-/

namespace DataGateway.Log

open Foundation

/-- What a caller has to put into the queue. -/
def itemOf : Option Record → Item
  | some record => .log record
  | none => .flush

/-- A call that has to do with the queue or with the workers. -/
def Stage.queues : Stage → Bool
  | .posts _ | .terminates _ | .joins => true
  | _ => false

/-- The part of the logger that the way of a record depends on. -/
structure Progress where
  isAsync : Bool
  poolSize : Nat
  live : Bool
  maxItems : Nat
  queue : List Item
  threads : List Stage
  posted : Multiset Record
  handled : Multiset Record

def Logger.progress (logger : Logger) : Progress :=
  { isAsync := logger.isAsync
    poolSize := logger.poolSize
    live := logger.live
    maxItems := logger.queue.maxItems
    queue := logger.queue.items
    threads := logger.threads
    posted := logger.posted
    handled := logger.handled }

namespace Progress

/-- A delivery before and after a visit of a sink. -/
inductive Visits : Stage → Stage → Prop
  | console (record : Record) (took : Bool) :
      Visits (.logsFile record) (.logsConsole record took)
  | flush (record : Record) (took : Bool) :
      Visits (.logsConsole record took) (.flushesFile (some (record, took)))
  | flushed (delivery : Option (Record × Bool)) :
      Visits (.flushesFile delivery) (.flushesConsole delivery)

/-- The last stage of a delivery. -/
inductive Ends (record : Record) : Stage → Prop
  | unflushed (took : Bool) : Ends record (.logsConsole record took)
  | flushed (took : Bool) : Ends record (.flushesConsole (some (record, took)))

/-- What a thread that goes on can do. -/
inductive Advance (before : Progress) : Progress → Prop
  | enqueues {thread : Nat} {message : Option Record}
      (found : before.threads[thread]? = some (.posts message)) :
      Advance before
        { before with
          threads := before.threads.set thread
            (if message.isSome then .idle else .resets)
          queue := before.queue ++ [itemOf message] }
  | dequeues {thread : Nat} {item : Item} {queue : List Item}
      (found : before.threads[thread]? = some .waits)
      (first : before.queue = item :: queue) :
      Advance before
        { before with
          threads := before.threads.set thread item.stage
          queue := queue }
  | visits {thread : Nat} {old new : Stage}
      (found : before.threads[thread]? = some old) (visit : Visits old new) :
      Advance before { before with threads := before.threads.set thread new }
  | finishes {thread : Nat} {old : Stage} {record : Record}
      (found : before.threads[thread]? = some old) (ends : Ends record old) :
      Advance before
        { before with
          threads := before.threads.set thread (if before.isAsync then .waits else .idle)
          handled := record ::ₘ before.handled }
  | flushed {thread : Nat}
      (found : before.threads[thread]? = some (.flushesConsole none)) :
      Advance before
        { before with
          threads := before.threads.set thread
            (if before.isAsync then .waits else .resets) }
  | resets {thread : Nat} (found : before.threads[thread]? = some .resets)
      (alone : before.threads.countP (Stage.inCall before.isAsync) = 1) :
      Advance before
        { before with
          threads := before.threads.set thread
            (if before.isAsync then .terminates before.poolSize else .idle)
          live := false }
  | terminates {thread left : Nat}
      (found : before.threads[thread]? = some (.terminates (left + 1))) :
      Advance before
        { before with
          threads := before.threads.set thread (.terminates left)
          queue := before.queue ++ [.terminate] }
  | posted {thread : Nat} (found : before.threads[thread]? = some (.terminates 0)) :
      Advance before { before with threads := before.threads.set thread .joins }
  | joined {thread : Nat} (found : before.threads[thread]? = some .joins)
      (all : before.threads.count .ended = before.poolSize) :
      Advance before { before with threads := before.threads.set thread .idle }

/-- What one move can do. -/
inductive Transition (before : Progress) : Progress → Prop
  | still : Transition before before
  | logs {thread : Nat} {record : Record}
      (found : before.threads[thread]? = some .idle) (live : before.live = true) :
      Transition before
        { before with
          threads := before.threads.set thread
            (if before.isAsync then .posts (some record) else .logsFile record)
          posted := record ::ₘ before.posted }
  | uninits {thread : Nat} (found : before.threads[thread]? = some .idle)
      (live : before.live = true) :
      Transition before
        { before with
          threads := before.threads.set thread
            (if before.isAsync then .posts none else .flushesFile none) }
  | advances {after : Progress} (advance : Advance before after) :
      Transition before after

theorem Transition.kept {before after : Progress} (transition : Transition before after) :
    after.isAsync = before.isAsync ∧ after.maxItems = before.maxItems := by
  cases transition with
  | still | logs found live | uninits found live => exact ⟨rfl, rfl⟩
  | advances advance => cases advance <;> exact ⟨rfl, rfl⟩

end Progress

namespace Logger

section

variable {logger next : Logger} {thread now : Nat}

open Progress

/-- The queue drops nothing, or nothing is put into it. -/
def Enabled (logger : Logger) : Prop :=
  0 < logger.queue.maxItems ∨ ∀ stage ∈ logger.threads, stage.queues = false

/-- An item is put into the queue unless it is full. -/
theorem advance_of_enqueue {old new : Stage} {item : Item} (enabled : logger.Enabled)
    (found : logger.threads[thread]? = some old) (queues : old.queues = true)
    (goes : Advance logger.progress
      { logger.progress with
        threads := logger.threads.set thread new
        queue := logger.queue.items ++ [item] }) :
    logger.queue.full = true ∧ logger.enqueue thread item new = logger ∨
      Advance logger.progress (logger.enqueue thread item new).progress := by
  unfold Logger.enqueue
  split
  · next full => exact Or.inl ⟨full, rfl⟩
  · next room =>
      right
      rcases enabled with positive | none
      · have same : ({ logger.setStage thread new with
            queue := logger.queue.pushBack item } : Logger).progress =
            { logger.progress with
              threads := logger.threads.set thread new
              queue := logger.queue.items ++ [item] } := by
          simp only [progress, CircularQ.maxItems_pushBack,
            CircularQ.items_pushBack positive (by simpa using room)]
          rfl
        exact same ▸ goes
      · rw [none old (List.mem_of_getElem? found)] at queues
        cases queues

theorem advance_of_posts {message : Option Record} (enabled : logger.Enabled)
    (found : logger.threads[thread]? = some (.posts message)) :
    logger.queue.full = true ∧ logger.enqueue thread (itemOf message)
        (if message.isSome then .idle else .resets) = logger ∨
      Advance logger.progress (logger.enqueue thread (itemOf message)
        (if message.isSome then .idle else .resets)).progress :=
  advance_of_enqueue enabled found rfl (.enqueues found)

theorem advance_of_dequeue (found : logger.threads[thread]? = some .waits) :
    logger.queue.empty = true ∧ logger.dequeue thread = logger ∨
      Advance logger.progress (logger.dequeue thread).progress := by
  unfold dequeue
  split
  · next stored =>
      exact Or.inr (.dequeues found (CircularQ.items_eq_cons stored))
  · next none => exact Or.inl ⟨by simpa using none, rfl⟩

theorem advance_of_logFile {record : Record}
    (found : logger.threads[thread]? = some (.logsFile record)) :
    Advance logger.progress (logger.logFile thread record now).progress := by
  unfold logFile
  split
  · exact .visits found (.console record false)
  · split
    · exact .visits found (.console record true)
    · exact .visits found (.console record false)

theorem advance_of_logConsole {record : Record} {took : Bool}
    (found : logger.threads[thread]? = some (.logsConsole record took)) :
    Advance logger.progress (logger.logConsole thread record took).progress := by
  unfold logConsole
  split
  · exact .visits found (.flush record took)
  · exact .finishes found (.unflushed took)

theorem advance_of_flushFile {delivery : Option (Record × Bool)}
    (found : logger.threads[thread]? = some (.flushesFile delivery)) :
    Advance logger.progress (logger.flushFile thread delivery).progress :=
  .visits found (.flushed delivery)

theorem advance_of_flushConsole {delivery : Option (Record × Bool)}
    (found : logger.threads[thread]? = some (.flushesConsole delivery)) :
    Advance logger.progress (logger.flushConsole thread delivery).progress := by
  match delivery with
  | none => exact .flushed found
  | some (record, took) => exact .finishes found (.flushed took)

theorem advance_of_reset (found : logger.threads[thread]? = some .resets)
    (stepped : logger.reset thread = .ok next) :
    Advance logger.progress next.progress := by
  unfold reset at stepped
  split at stepped
  · next alone =>
      cases stepped
      exact .resets found alone
  · cases stepped

/-- A thread that goes on advances, or it cannot go on. -/
theorem advance_of_proceed (enabled : logger.Enabled)
    (stepped : logger.proceed thread now = .ok next) :
    next = logger ∨ Advance logger.progress next.progress := by
  unfold proceed at stepped
  cases found : logger.threads[thread]? with
  | none =>
      simp only [found, Except.ok.injEq] at stepped
      exact Or.inl stepped.symm
  | some stage =>
      simp only [found] at stepped
      cases stage with
      | idle | ended =>
          cases stepped
          exact Or.inl rfl
      | waits =>
          cases stepped
          exact (advance_of_dequeue found).imp_left (·.2)
      | posts message =>
          cases message with
          | some record =>
              cases stepped
              exact (advance_of_posts enabled found).imp_left (·.2)
          | none =>
              cases stepped
              exact (advance_of_posts enabled found).imp_left (·.2)
      | logsFile record =>
          cases stepped
          exact Or.inr (advance_of_logFile found)
      | logsConsole record took =>
          cases stepped
          exact Or.inr (advance_of_logConsole found)
      | flushesFile delivery =>
          cases stepped
          exact Or.inr (advance_of_flushFile found)
      | flushesConsole delivery =>
          cases stepped
          exact Or.inr (advance_of_flushConsole found)
      | resets => exact Or.inr (advance_of_reset found stepped)
      | terminates left =>
          cases left with
          | zero =>
              cases stepped
              exact Or.inr (.posted found)
          | succ left =>
              cases stepped
              exact (advance_of_enqueue enabled found rfl (.terminates found)).imp_left
                (·.2)
      | joins =>
          cases stepped
          split
          · next all => exact Or.inr (.joined found all)
          · exact Or.inl rfl

theorem transition_of_step {move : LoggerMove} {output : Unit} (enabled : logger.Enabled)
    (stepped : logger.step move = .ok (next, output)) :
    Transition logger.progress next.progress := by
  cases move with
  | log thread record =>
      cases stepped
      split
      · next found =>
          unfold Logger.log
          split
          · next open_ =>
              simp only [Bool.and_eq_true] at open_
              exact .logs found open_.1
          · exact .still
      · exact .still
  | uinit thread =>
      cases stepped
      split
      · next found =>
          unfold Logger.uinit
          split
          · next live => exact .uninits found live
          · exact .still
      · exact .still
  | setLogLevel severity =>
      cases stepped
      split
      · exact .still
      · exact .still
  | setLogFileLevel severity | setLogConsoleLevel severity =>
      cases stepped
      exact .still
  | proceed thread now =>
      simp only [Logger.step] at stepped
      cases outcome : logger.proceed thread now with
      | error fault => simp [outcome, Except.map] at stepped
      | ok after =>
          simp only [outcome, Except.map, Except.ok.injEq, Prod.mk.injEq] at stepped
          rw [← stepped.1]
          rcases advance_of_proceed enabled outcome with same | advance
          · exact same ▸ .still
          · exact .advances advance

end

end Logger

end DataGateway.Log
