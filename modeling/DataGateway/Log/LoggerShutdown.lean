import DataGateway.Log.LoggerProgress

/-!
# The end of the logger

`Uinit` posts a message to terminate for every worker and joins the workers.
The queue hands out its items in order, so that what was logged before comes
first: once the call has returned, every record that was logged has been handled.
-/

namespace DataGateway.Log

open Foundation

def Item.carried : Item → Multiset Record
  | .log record => {record}
  | .flush | .terminate => 0

namespace Stage

def underway : Stage → Multiset Record
  | .posts (some record) | .logsFile record | .logsConsole record _
  | .flushesFile (some (record, _)) | .flushesConsole (some (record, _)) => {record}
  | _ => 0

/-- One for a worker of the pool. -/
def worker : Stage → Nat
  | .waits | .logsFile _ | .logsConsole _ _ | .flushesFile _ | .flushesConsole _
  | .ended => 1
  | .idle | .posts _ | .resets | .terminates _ | .joins => 0

def gone : Stage → Nat
  | .ended => 1
  | _ => 0

/-- What `Uinit` has still to post. -/
def left : Stage → Nat
  | .terminates left => left
  | _ => 0

/-- A call that began while there was a logger. -/
def opened : Stage → Bool
  | .posts _ | .resets => true
  | _ => false

def closes : Stage → Bool
  | .terminates _ | .joins => true
  | _ => false

private theorem inCall_of_closes {stage : Stage} (closes : stage.closes = true) :
    stage.inCall true = true := by
  cases stage with
  | terminates left => rfl
  | joins => rfl
  | _ => cases closes

theorem underway_of_gone {stage : Stage} (gone : stage.worker - stage.gone = 0)
    (out : stage.inCall true = false) : stage.underway = 0 := by
  cases stage with
  | posts message => cases out
  | logsFile record | logsConsole record took | flushesFile delivery
  | flushesConsole delivery => cases gone
  | _ => rfl

end Stage

namespace Item

variable (item : Item)

private theorem underway_stage : item.stage.underway = item.carried := by
  cases item <;> rfl

private theorem carried_itemOf (message : Option Record) :
    (itemOf message).carried = (Stage.posts message).underway := by
  cases message <;> rfl

private theorem worker_stage : item.stage.worker = 1 := by
  cases item <;> rfl

private theorem gone_stage : item.stage.gone = [item].count .terminate := by
  cases item <;> rfl

private theorem left_stage : item.stage.left = 0 := by
  cases item <;> rfl

private theorem opened_stage : item.stage.opened = false := by
  cases item <;> rfl

end Item

namespace Progress

/-- Every record that was logged is queued, under way or handled. -/
def Accounted (progress : Progress) : Prop :=
  progress.posted = progress.handled + gathered Stage.underway progress.threads +
    gathered Item.carried progress.queue

section

variable {before after : Progress}

theorem Visits.underway {old new : Stage} (visit : Visits old new) :
    new.underway = old.underway := by
  cases visit with
  | console record took => rfl
  | flush record took => rfl
  | flushed delivery => cases delivery <;> rfl

theorem Ends.underway {record : Record} {old : Stage} (ends : Ends record old) :
    old.underway = {record} := by
  cases ends with
  | unflushed took => rfl
  | flushed took => rfl

private theorem gathered_append (queue : List Item) (item : Item) :
    gathered Item.carried (queue ++ [item]) =
      gathered Item.carried queue + item.carried := by
  simp [gathered]

private theorem gathered_cons (queue : List Item) (item : Item) :
    gathered Item.carried (item :: queue) =
      item.carried + gathered Item.carried queue := by
  simp [gathered]

theorem Accounted.advance (accounted : before.Accounted)
    (advance : Advance before after) : after.Accounted := by
  unfold Accounted at accounted ⊢
  cases advance with
  | @enqueues thread message found =>
      have new : (if message.isSome then .idle else .resets : Stage).underway = 0 := by
        cases message <;> rfl
      obtain ⟨rest, whole, set⟩ := exists_gathered_rest Stage.underway found
      simp only [set, new, zero_add, gathered_append, Item.carried_itemOf]
      rw [accounted, whole]
      abel
  | @dequeues thread item queue found first =>
      obtain ⟨rest, whole, set⟩ := exists_gathered_rest Stage.underway found
      rw [show Stage.underway .waits = 0 from rfl, zero_add] at whole
      simp only [set, Item.underway_stage]
      rw [accounted, whole, first, gathered_cons]
      abel
  | visits found visit =>
      simp only [gathered_set _ found visit.underway]
      exact accounted
  | @finishes thread old record found ends =>
      have new : (if before.isAsync then .waits else .idle : Stage).underway = 0 := by
        cases before.isAsync <;> rfl
      obtain ⟨rest, whole, set⟩ := exists_gathered_rest Stage.underway found
      simp only [set, new, zero_add]
      rw [accounted, whole, ends.underway, ← Multiset.singleton_add]
      abel
  | flushed found =>
      have new : (if before.isAsync then .waits else .resets : Stage).underway = 0 := by
        cases before.isAsync <;> rfl
      simp only [gathered_set _ found new]
      exact accounted
  | resets found alone =>
      have new : (if before.isAsync then .terminates before.poolSize
          else .idle : Stage).underway = 0 := by
        cases before.isAsync <;> rfl
      simp only [gathered_set _ found new]
      exact accounted
  | @terminates thread left found =>
      have new : Stage.underway (.terminates left) =
          Stage.underway (.terminates (left + 1)) := rfl
      simp only [gathered_set _ found new, gathered_append, Item.carried, add_zero]
      exact accounted
  | posted found =>
      have new : Stage.underway .joins = Stage.underway (.terminates 0) := rfl
      simp only [gathered_set _ found new]
      exact accounted
  | joined found all =>
      have new : Stage.underway .idle = Stage.underway .joins := rfl
      simp only [gathered_set _ found new]
      exact accounted

theorem Accounted.transition (accounted : before.Accounted)
    (transition : Transition before after) : after.Accounted := by
  cases transition with
  | still => exact accounted
  | advances advance => exact accounted.advance advance
  | @logs thread record found live =>
      unfold Accounted at accounted ⊢
      have new : (if before.isAsync then .posts (some record)
          else .logsFile record : Stage).underway = {record} := by
        cases before.isAsync <;> rfl
      obtain ⟨rest, whole, set⟩ := exists_gathered_rest Stage.underway found
      rw [show Stage.underway .idle = 0 from rfl, zero_add] at whole
      simp only [set, new]
      rw [accounted, whole, ← Multiset.singleton_add]
      abel
  | uninits found live =>
      unfold Accounted at accounted ⊢
      have new : (if before.isAsync then .posts none
          else .flushesFile none : Stage).underway = 0 := by
        cases before.isAsync <;> rfl
      simp only [gathered_set _ found new]
      exact accounted

/-- A synchronous logger has no use for the queue. -/
structure Unqueued (progress : Progress) : Prop where
  sync : progress.isAsync = false
  queue : progress.queue = []
  threads : ∀ stage ∈ progress.threads, stage.queues = false

/-- The items to terminate come last, and once a worker has found one nothing
else is left. -/
structure ClosingQueue (progress : Progress) (work : List Item) (count : Nat) : Prop where
  split : progress.queue = work ++ List.replicate count .terminate
  open_ : .terminate ∉ work
  drained : 0 < gathered Stage.gone progress.threads → work = []

/-- The workers, the items to terminate and those still to be posted. -/
structure Pooled (progress : Progress) : Prop where
  isAsync : progress.isAsync = true
  positive : 0 < progress.poolSize
  workers : gathered Stage.worker progress.threads = progress.poolSize
  balance : gathered Stage.gone progress.threads + progress.queue.count .terminate +
    gathered Stage.left progress.threads = if progress.live then 0 else progress.poolSize
  shut : progress.live = true → ∀ stage ∈ progress.threads, stage.closes = false
  begun : progress.live = false → ∀ stage ∈ progress.threads, stage.opened = false
  closing : progress.live = false →
    (∃ stage ∈ progress.threads, stage.closes = true) ∨
      gathered Stage.gone progress.threads = progress.poolSize
  queue : progress.live = false → ∃ work count, progress.ClosingQueue work count

theorem forall_mem_set {property : Stage → Prop} {threads : List Stage} {thread : Nat}
    {new : Stage} (all : ∀ stage ∈ threads, property stage) (holds : property new) :
    ∀ stage ∈ threads.set thread new, property stage := by
  intro stage member
  rcases List.mem_or_eq_of_mem_set member with earlier | here
  · exact all stage earlier
  · exact here ▸ holds

theorem Unqueued.advance (unqueued : before.Unqueued)
    (advance : Advance before after) : after.Unqueued := by
  obtain ⟨sync, queue, threads⟩ := unqueued
  cases advance with
  | enqueues found | terminates found | posted found | joined found all =>
      cases threads _ (List.mem_of_getElem? found)
  | dequeues found first =>
      rw [queue] at first
      cases first
  | visits found visit =>
      refine ⟨sync, queue, forall_mem_set threads ?_⟩
      cases visit <;> rfl
  | finishes found ends | flushed found | resets found alone =>
      refine ⟨sync, queue, forall_mem_set threads ?_⟩
      rw [sync]
      rfl

theorem Unqueued.transition (unqueued : before.Unqueued)
    (transition : Transition before after) : after.Unqueued := by
  cases transition with
  | still => exact unqueued
  | logs found live | uninits found live =>
      refine ⟨unqueued.sync, unqueued.queue, forall_mem_set unqueued.threads ?_⟩
      rw [unqueued.sync]
      rfl
  | advances advance => exact unqueued.advance advance

theorem gathered_gone (threads : List Stage) :
    gathered Stage.gone threads = threads.count .ended := by
  induction threads with
  | nil => rfl
  | cons stage threads induction =>
      simp only [gathered, List.map_cons, List.sum_cons] at induction ⊢
      rw [induction, List.count_cons, Nat.add_comm]
      cases stage <;> rfl

theorem not_opened_of_alone {threads : List Stage} {thread left : Nat}
    (found : threads[thread]? = some .resets)
    (alone : threads.countP (Stage.inCall true) = 1) :
    ∀ stage ∈ threads.set thread (.terminates left), stage.opened = false := by
  obtain ⟨inside, here⟩ := List.getElem?_eq_some_iff.mp found
  have within : threads.countP Stage.opened ≤ threads.countP (Stage.inCall true) := by
    apply List.countP_mono_left
    intro stage _ opened
    cases stage <;> first | rfl | cases opened
  have none : (threads.set thread (.terminates left)).countP Stage.opened = 0 := by
    rw [List.countP_set inside, here]
    simp only [Stage.opened, if_true, Bool.false_eq_true, if_false]
    omega
  intro stage member
  simpa using List.countP_eq_zero.mp none stage member

theorem exists_closes_set {threads : List Stage} {thread : Nat} {old new : Stage}
    (found : threads[thread]? = some old)
    (some_ : ∃ stage ∈ threads, stage.closes = true)
    (closes : old.closes = true → new.closes = true) :
    ∃ stage ∈ threads.set thread new, stage.closes = true := by
  obtain ⟨stage, member, closing⟩ := some_
  obtain ⟨index, at_⟩ := List.mem_iff_getElem?.mp member
  have inside := (List.getElem?_eq_some_iff.mp found).1
  by_cases same : index = thread
  · subst same
    rw [found, Option.some.injEq] at at_
    exact ⟨new, List.mem_set inside new, closes (at_ ▸ closing)⟩
  · refine ⟨stage, List.mem_iff_getElem?.mpr ⟨index, ?_⟩, closing⟩
    rw [List.getElem?_set_ne (Ne.symm same), at_]

theorem Pooled.shut_set {thread : Nat} {old new : Stage} (pooled : before.Pooled)
    (found : before.threads[thread]? = some old)
    (shut : new.closes = true → old.closes = true) (live : before.live = true) :
    ∀ stage ∈ before.threads.set thread new, stage.closes = false := by
  refine forall_mem_set (pooled.shut live) (Bool.eq_false_iff.mpr ?_)
  intro closes
  have earlier := pooled.shut live old (List.mem_of_getElem? found)
  rw [shut closes] at earlier
  cases earlier

theorem Pooled.set {thread : Nat} {old new : Stage} {posted handled : Multiset Record}
    (pooled : before.Pooled) (found : before.threads[thread]? = some old)
    (worker : new.worker = old.worker) (gone : new.gone = old.gone)
    (left : new.left = old.left) (shut : new.closes = true → old.closes = true)
    (opened : before.live = false → new.opened = false)
    (closes : before.live = false → old.closes = true → new.closes = true ∨
      gathered Stage.gone before.threads = before.poolSize) :
    Pooled { before with
      threads := before.threads.set thread new
      posted := posted
      handled := handled } := by
  have gones := gathered_set Stage.gone found gone
  constructor
  · exact pooled.isAsync
  · exact pooled.positive
  · simp only [gathered_set _ found worker]
    exact pooled.workers
  · simp only [gones, gathered_set _ found left]
    exact pooled.balance
  · exact pooled.shut_set found shut
  · intro closed
    exact forall_mem_set (pooled.begun closed) (opened closed)
  · intro closed
    simp only [gones]
    rcases pooled.closing closed with closing | all
    · by_cases here : old.closes = true
      · rcases closes closed here with still | all
        · exact Or.inl (exists_closes_set found closing fun _ => still)
        · exact Or.inr all
      · exact Or.inl (exists_closes_set found closing fun closes => (here closes).elim)
    · exact Or.inr all
  · intro closed
    obtain ⟨work, count, split, open_, last⟩ := pooled.queue closed
    refine ⟨work, count, split, open_, ?_⟩
    simp only [gones]
    exact last

theorem Pooled.live_of_opened (pooled : before.Pooled) {thread : Nat} {stage : Stage}
    (found : before.threads[thread]? = some stage) (opened : stage.opened = true) :
    before.live = true := by
  cases live : before.live with
  | true => rfl
  | false =>
      have shut := pooled.begun live stage (List.mem_of_getElem? found)
      rw [opened] at shut
      cases shut

theorem not_closed {goal : Prop} (live : before.live = true)
    (closed : before.live = false) : goal := by
  rw [live] at closed
  cases closed

theorem Pooled.enqueues (pooled : before.Pooled) {thread : Nat}
    {message : Option Record} (found : before.threads[thread]? = some (.posts message)) :
    Pooled { before with
      threads := before.threads.set thread (if message.isSome then .idle else .resets)
      queue := before.queue ++ [itemOf message] } := by
  have live := pooled.live_of_opened found rfl
  have kept : Pooled { before with
      threads := before.threads.set thread
        (if message.isSome then .idle else .resets) } := by
    apply pooled.set found
    · cases message <;> rfl
    · cases message <;> rfl
    · cases message <;> rfl
    · cases message <;> exact id
    · exact not_closed live
    · exact not_closed live
  have work : [itemOf message].count .terminate = 0 := by cases message <;> rfl
  refine ⟨kept.isAsync, kept.positive, kept.workers, ?_, kept.shut, kept.begun,
    kept.closing, not_closed live⟩
  simp only [List.count_append, work, add_zero]
  exact kept.balance

theorem Pooled.dequeues (pooled : before.Pooled) {thread : Nat} {item : Item}
    {queue : List Item} (found : before.threads[thread]? = some .waits)
    (first : before.queue = item :: queue) :
    Pooled { before with
      threads := before.threads.set thread item.stage
      queue := queue } := by
  obtain ⟨rest, whole, set⟩ := exists_gathered_rest Stage.gone found
  have waits : Stage.gone .waits = 0 := rfl
  have taken : before.queue.count .terminate =
      item.stage.gone + queue.count .terminate := by
    rw [first, ← List.singleton_append, List.count_append, Item.gone_stage]
  have worker := gathered_set Stage.worker found (Item.worker_stage item)
  have left := gathered_set Stage.left found (Item.left_stage item)
  constructor
  · exact pooled.isAsync
  · exact pooled.positive
  · simp only [worker]
    exact pooled.workers
  · have balance := pooled.balance
    simp only [left, set]
    omega
  · apply pooled.shut_set found
    cases item <;> exact fun closes => by cases closes
  · intro closed
    exact forall_mem_set (pooled.begun closed) (Item.opened_stage item)
  · intro closed
    have balance := pooled.balance
    rw [closed, if_neg (by decide)] at balance
    rcases pooled.closing closed with closing | all
    · refine Or.inl (exists_closes_set found closing ?_)
      intro closes
      cases closes
    · right
      simp only [set]
      omega
  · intro closed
    obtain ⟨work, count, split, open_, last⟩ := pooled.queue closed
    rw [first] at split
    cases work with
    | nil =>
        -- Only items to terminate are left, and this is the first of them.
        cases count with
        | zero => cases split
        | succ count =>
            rw [List.nil_append, List.replicate_succ] at split
            cases split
            exact ⟨[], count, rfl, by simp, fun _ => rfl⟩
    | cons head work =>
        rw [List.cons_append] at split
        cases split
        have none : item.stage.gone = 0 := by
          rw [Item.gone_stage, List.count_eq_zero]
          intro member
          exact open_ (List.mem_cons.mpr (Or.inl (List.mem_singleton.mp member)))
        refine ⟨work, count, rfl, fun member => open_ (List.mem_cons_of_mem _ member), ?_⟩
        intro some_
        simp only [set] at some_
        have impossible := last (by omega)
        cases impossible

theorem Pooled.resets (pooled : before.Pooled) {thread : Nat}
    (found : before.threads[thread]? = some .resets)
    (alone : before.threads.countP (Stage.inCall true) = 1) :
    Pooled { before with
      threads := before.threads.set thread (.terminates before.poolSize)
      live := false } := by
  have balance := pooled.balance
  rw [if_pos (pooled.live_of_opened found rfl)] at balance
  have inside := (List.getElem?_eq_some_iff.mp found).1
  have worker := gathered_set Stage.worker found
    (show Stage.worker (.terminates before.poolSize) = Stage.worker .resets from rfl)
  have gone := gathered_set Stage.gone found
    (show Stage.gone (.terminates before.poolSize) = Stage.gone .resets from rfl)
  obtain ⟨rest, whole, set⟩ := exists_gathered_rest Stage.left found
  have resets : Stage.left .resets = 0 := rfl
  have terminates : Stage.left (.terminates before.poolSize) = before.poolSize := rfl
  constructor
  · exact pooled.isAsync
  · exact pooled.positive
  · simp only [worker]
    exact pooled.workers
  · simp only [gone, set, Bool.false_eq_true, if_false]
    omega
  · intro live
    cases live
  · intro _
    exact not_opened_of_alone found alone
  · intro _
    exact Or.inl ⟨_, List.mem_set inside _, rfl⟩
  · intro _
    refine ⟨before.queue, 0, (List.append_nil _).symm, ?_, ?_⟩
    · apply List.count_eq_zero.mp
      omega
    · intro some_
      simp only [gone] at some_
      omega

theorem Pooled.terminates (pooled : before.Pooled) {thread left : Nat}
    (found : before.threads[thread]? = some (.terminates (left + 1))) :
    Pooled { before with
      threads := before.threads.set thread (.terminates left)
      queue := before.queue ++ [.terminate] } := by
  have worker := gathered_set Stage.worker found
    (show Stage.worker (.terminates left) = Stage.worker (.terminates (left + 1))
      from rfl)
  have gone := gathered_set Stage.gone found
    (show Stage.gone (.terminates left) = Stage.gone (.terminates (left + 1))
      from rfl)
  obtain ⟨rest, whole, set⟩ := exists_gathered_rest Stage.left found
  have more : Stage.left (.terminates (left + 1)) = left + 1 := rfl
  have less : Stage.left (.terminates left) = left := rfl
  have one : [Item.terminate].count .terminate = 1 := rfl
  constructor
  · exact pooled.isAsync
  · exact pooled.positive
  · simp only [worker]
    exact pooled.workers
  · have balance := pooled.balance
    simp only [gone, set, List.count_append, one]
    omega
  · exact pooled.shut_set found fun _ => rfl
  · intro closed
    exact forall_mem_set (pooled.begun closed) rfl
  · intro closed
    simp only [gone]
    exact (pooled.closing closed).imp_left
      fun closing => exists_closes_set found closing fun _ => rfl
  · intro closed
    obtain ⟨work, count, split, open_, last⟩ := pooled.queue closed
    refine ⟨work, count + 1, ?_, open_, ?_⟩
    · simp only [split, List.append_assoc, List.replicate_succ']
    · simp only [gone]
      exact last

theorem Pooled.advance (pooled : before.Pooled)
    (advance : Advance before after) : after.Pooled := by
  cases advance with
  | enqueues found => exact pooled.enqueues found
  | dequeues found first => exact pooled.dequeues found first
  | visits found visit =>
      cases visit <;>
        exact pooled.set found rfl rfl rfl id (fun _ => rfl)
          (fun _ closes => Or.inl closes)
  | finishes found ends =>
      rw [if_pos pooled.isAsync]
      cases ends <;>
        exact pooled.set found rfl rfl rfl id (fun _ => rfl)
          (fun _ closes => Or.inl closes)
  | flushed found =>
      rw [if_pos pooled.isAsync]
      exact pooled.set found rfl rfl rfl id (fun _ => rfl) (fun _ closes => Or.inl closes)
  | resets found alone =>
      rw [pooled.isAsync] at alone
      rw [if_pos pooled.isAsync]
      exact pooled.resets found alone
  | terminates found => exact pooled.terminates found
  | posted found =>
      exact pooled.set found rfl rfl rfl (fun _ => rfl) (fun _ => rfl)
        (fun _ _ => Or.inl rfl)
  | joined found all =>
      refine pooled.set found rfl rfl rfl (fun _ => rfl) (fun _ => rfl) ?_
      intro _ _
      exact Or.inr ((gathered_gone _).trans all)

theorem Pooled.transition (pooled : before.Pooled)
    (transition : Transition before after) : after.Pooled := by
  cases transition with
  | still => exact pooled
  | logs found live | uninits found live =>
      rw [if_pos pooled.isAsync]
      exact pooled.set found rfl rfl rfl id (not_closed live) (not_closed live)
  | advances advance => exact pooled.advance advance

theorem Unqueued.nothingLeft {progress : Progress} (unqueued : progress.Unqueued)
    (quiet : ∀ stage ∈ progress.threads, stage.inCall progress.isAsync = false) :
    gathered Stage.underway progress.threads = 0 ∧
      gathered Item.carried progress.queue = 0 := by
  rw [unqueued.sync] at quiet
  refine ⟨gathered_eq_zero _ ?_, by rw [unqueued.queue]; rfl⟩
  intro stage member
  have out := quiet stage member
  cases stage <;> first | rfl | cases out

theorem Pooled.balance_of_closes {progress : Progress} (pooled : progress.Pooled)
    {stage : Stage} (member : stage ∈ progress.threads) (closes : stage.closes = true) :
    gathered Stage.gone progress.threads + progress.queue.count .terminate +
      gathered Stage.left progress.threads = progress.poolSize := by
  have closed : ¬progress.live = true := by
    intro live
    rw [pooled.shut live stage member] at closes
    cases closes
  have balance := pooled.balance
  rwa [if_neg closed] at balance

/-- The last worker leaves an empty queue. -/
theorem Pooled.queue_eq_nil {progress : Progress} (pooled : progress.Pooled)
    (all : gathered Stage.gone progress.threads = progress.poolSize) :
    progress.queue = [] := by
  have positive := pooled.positive
  have balance := pooled.balance
  cases live : progress.live with
  | true =>
      rw [if_pos live] at balance
      omega
  | false =>
      rw [if_neg (by rw [live]; decide)] at balance
      obtain ⟨work, count, split, _, drained⟩ := pooled.queue live
      have none := drained (all ▸ positive)
      rw [split, none, List.nil_append, List.count_replicate_self] at balance
      have empty : count = 0 := by omega
      rw [split, none, empty]
      rfl

/-- Nothing is on its way when the call that closes the pool is over: all workers
are gone, and the last of them left an empty queue. -/
theorem Pooled.nothingLeft {progress : Progress} (pooled : progress.Pooled)
    (closed : progress.live = false)
    (quiet : ∀ stage ∈ progress.threads, stage.inCall progress.isAsync = false) :
    gathered Stage.underway progress.threads = 0 ∧
      gathered Item.carried progress.queue = 0 := by
  rw [pooled.isAsync] at quiet
  have all : gathered Stage.gone progress.threads = progress.poolSize := by
    rcases pooled.closing closed with ⟨stage, member, closes⟩ | all
    · have out := quiet stage member
      rw [Stage.inCall_of_closes closes] at out
      cases out
    · exact all
  constructor
  · have shares : gathered Stage.worker progress.threads =
        gathered (fun stage => stage.worker - stage.gone) progress.threads +
          gathered Stage.gone progress.threads := by
      unfold gathered
      rw [← List.sum_map_add]
      congr 2
      funext stage
      cases stage <;> rfl
    have workers := pooled.workers
    have active :
        gathered (fun stage => stage.worker - stage.gone) progress.threads = 0 := by
      omega
    apply gathered_eq_zero
    intro stage member
    have gone : stage.worker - stage.gone = 0 :=
      List.sum_eq_zero_iff_forall_eq_nat.mp active _ (List.mem_map_of_mem member)
    exact Stage.underway_of_gone gone (quiet stage member)
  · rw [pooled.queue_eq_nil all]
    rfl

/-- The way of the records and, for either kind of logger, what it rests on. -/
structure Orderly (progress : Progress) : Prop where
  accounted : progress.Accounted
  kind : progress.Unqueued ∨ progress.Pooled

theorem Orderly.transition (orderly : before.Orderly)
    (transition : Transition before after) : after.Orderly :=
  ⟨orderly.accounted.transition transition,
    orderly.kind.imp (·.transition transition) (·.transition transition)⟩

theorem Orderly.nothingLeft {progress : Progress} (orderly : progress.Orderly)
    (closed : progress.live = false)
    (quiet : ∀ stage ∈ progress.threads, stage.inCall progress.isAsync = false) :
    progress.posted = progress.handled := by
  have nothing : gathered Stage.underway progress.threads = 0 ∧
      gathered Item.carried progress.queue = 0 := by
    rcases orderly.kind with unqueued | pooled
    · exact unqueued.nothingLeft quiet
    · exact pooled.nothingLeft closed quiet
  have accounted := orderly.accounted
  unfold Accounted at accounted
  rw [accounted, nothing.1, nothing.2, add_zero, add_zero]

end

end Progress

namespace Logger

section

variable {machine : Machine} {arguments : InitArguments} {result : Initialised}

private theorem createPool_of_init
    (created : init machine arguments = .ok (some result)) :
    createPool machine arguments = .ok result.threads := by
  unfold init at created
  cases made : createSinks machine arguments with
  | error message =>
      rw [made] at created
      cases created
  | ok sinks =>
      cases pool : createPool machine arguments with
      | error message =>
          simp only [made, pool, bind, Except.bind] at created
          split at created <;> cases created
      | ok chosen =>
          simp only [made, pool, bind, Except.bind] at created
          split at created
          · cases created
          · split at created
            · cases created
            · cases created
              rfl

theorem pool_of_threads {workers : Nat}
    (created : init machine arguments = .ok (some result))
    (threads : result.threads = some workers) :
    arguments.isAsync = true ∧ 0 < workers := by
  have pool := createPool_of_init created
  rw [threads] at pool
  unfold createPool at pool
  split at pool
  · next isAsync =>
      cases made : initThreadPool machine machine.logBufferSize
          (poolThreads machine.hardwareThreads) with
      | error message =>
          rw [made] at pool
          cases pool
      | ok workers =>
          rw [made] at pool
          cases pool
          exact ⟨isAsync, pos_of_initThreadPool made⟩
  · cases pool

theorem threads_of_isAsync (created : init machine arguments = .ok (some result))
    (isAsync : arguments.isAsync = true) :
    ∃ workers, result.threads = some workers ∧ 0 < workers := by
  cases threads : result.threads with
  | some workers => exact ⟨workers, rfl, (pool_of_threads created threads).2⟩
  | none =>
      have pool := createPool_of_init created
      rw [threads] at pool
      unfold createPool at pool
      rw [if_pos isAsync] at pool
      cases made : initThreadPool machine machine.logBufferSize
          (poolThreads machine.hardwareThreads) with
      | error message =>
          rw [made] at pool
          cases pool
      | ok workers =>
          rw [made] at pool
          cases pool

theorem orderly_initialised (created : init machine arguments = .ok (some result))
    (flushLevel : LevelEnum) (bufferSize callers : Nat) :
    (initialised result flushLevel bufferSize callers).progress.Orderly := by
  have idle : ∀ stage ∈ (initialised result flushLevel bufferSize callers).threads,
      stage = .idle ∨ stage = .waits := by
    intro stage member
    exact (List.mem_append.mp member).imp List.eq_of_mem_replicate
      List.eq_of_mem_replicate
  constructor
  · unfold Progress.Accounted
    rw [show gathered Stage.underway _ = 0 from gathered_eq_zero _ fun stage member => by
      rcases idle stage member with rfl | rfl <;> rfl]
    rfl
  · cases threads : result.threads with
    | none =>
        left
        refine ⟨by simp [Logger.progress, initialised, threads], rfl, ?_⟩
        intro stage member
        rcases idle stage member with rfl | rfl <;> rfl
    | some workers =>
        right
        have gone : gathered Stage.gone
            (initialised result flushLevel bufferSize callers).threads = 0 :=
          gathered_eq_zero _ fun stage member => by
            rcases idle stage member with rfl | rfl <;> rfl
        have left : gathered Stage.left
            (initialised result flushLevel bufferSize callers).threads = 0 :=
          gathered_eq_zero _ fun stage member => by
            rcases idle stage member with rfl | rfl <;> rfl
        constructor
        · simp [Logger.progress, initialised, threads]
        · simpa [Logger.progress, initialised, threads] using
            (pool_of_threads created threads).2
        · simp [Logger.progress, initialised, threads, gathered, Stage.worker]
        · simp only [Logger.progress, gone, left]
          rfl
        · intro _ stage member
          rcases idle stage member with rfl | rfl <;> rfl
        · intro closed
          cases closed
        · intro closed
          cases closed
        · intro closed
          cases closed

end

/-- The ways of the records, and a vector of the queue that is longer than so many
items; where it has one at all the queue drops nothing. -/
def Sound (items : Nat) (logger : Logger) : Prop :=
  logger.progress.Orderly ∧ (logger.isAsync = true → items < logger.queue.maxItems)

theorem Sound.enabled {logger : Logger} {items : Nat} (sound : logger.Sound items) :
    logger.Enabled := by
  obtain ⟨orderly, room⟩ := sound
  rcases orderly.kind with unqueued | pooled
  · exact Or.inr unqueued.threads
  · exact Or.inl (Nat.zero_lt_of_lt (room pooled.isAsync))

theorem Sound.step {logger next : Logger} {items : Nat} {move : LoggerMove}
    {output : Unit} (sound : logger.Sound items)
    (stepped : logger.step move = .ok (next, output)) : next.Sound items := by
  have transition := transition_of_step sound.enabled stepped
  obtain ⟨isAsync, maxItems⟩ := transition.kept
  refine ⟨sound.1.transition transition, ?_⟩
  intro async
  exact (sound.2 (isAsync.symm.trans async)).trans_eq maxItems.symm

theorem sound_of_run {machine : Machine} {arguments : InitArguments}
    {result : Initialised} (created : init machine arguments = .ok (some result))
    {flushLevel : LevelEnum} {bufferSize callers items : Nat}
    (room : arguments.isAsync = true → items < (bufferSize + 1) % UInt64.size)
    {moves : List LoggerMove} {final : Logger}
    (reached : run step (initialised result flushLevel bufferSize callers) moves =
      .ok final) : final.Sound items := by
  refine run_invariant (Sound items) (fun _ _ _ _ sound stepped => sound.step stepped)
    ⟨orderly_initialised created flushLevel bufferSize callers, ?_⟩ reached
  intro async
  obtain ⟨workers, threads⟩ := Option.isSome_iff_exists.mp async
  exact room (pool_of_threads created threads).1

/-- Whatever the threads do: every record that was logged is handled, on its way
or in the queue, and once `Uinit` and the calls beside it have returned all of
them have been handled. -/
theorem posted_accounted (machine : Machine) (arguments : InitArguments)
    {result : Initialised} (created : init machine arguments = .ok (some result))
    (flushLevel : LevelEnum) (bufferSize callers : Nat)
    (room : arguments.isAsync = true → 0 < (bufferSize + 1) % UInt64.size)
    {moves : List LoggerMove} {final : Logger}
    (reached : run step (initialised result flushLevel bufferSize callers) moves =
      .ok final) :
    final.posted = final.handled + gathered Stage.underway final.threads +
        gathered Item.carried final.queue.items ∧
      (final.live = false →
        (∀ stage ∈ final.threads, stage.inCall final.isAsync = false) →
        final.posted = final.handled) := by
  obtain ⟨orderly, _⟩ := sound_of_run created room reached
  exact ⟨orderly.accounted, fun closed quiet => orderly.nothingLeft closed quiet⟩

/-- A message that is still in the queue when `Uinit` lets the logger go. -/
def lastMessage : List LoggerMove :=
  [.log 0 ⟨.info, [104, 105, 10]⟩, .proceed 0 1, .uinit 0] ++
    (List.range 4).map (fun now => .proceed 0 (now + 2)) ++
    (List.range 9).map (fun now => .proceed 1 (now + 6)) ++ [.proceed 0 15]

theorem posted_accounted_lastMessage :
    ∃ result final, init (freshMachine 4 8) (bothArguments 60) = .ok (some result) ∧
      run step (initialised result 2 8 1) lastMessage = .ok final ∧
      final.live = false ∧ final.posted.card = 1 ∧ final.posted = final.handled := by
  obtain ⟨result, created⟩ :
      ∃ result, init (freshMachine 4 8) (bothArguments 60) = .ok (some result) := ⟨_, rfl⟩
  obtain ⟨final, reached, closed, posted, quiet⟩ :
      ∃ final, run step (initialised result 2 8 1) lastMessage = .ok final ∧
        final.live = false ∧ final.posted.card = 1 ∧
        ∀ stage ∈ final.threads, stage.inCall final.isAsync = false := by
    cases created
    exact ⟨_, rfl, rfl, rfl, by decide⟩
  have all := posted_accounted (freshMachine 4 8) (bothArguments 60) created 2 8 1
    (by decide) reached
  exact ⟨result, final, created, reached, closed, posted, all.2 closed quiet⟩

end Logger

end DataGateway.Log
