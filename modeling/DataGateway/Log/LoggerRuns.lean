import DataGateway.Log.Logger

/-!
# What the logger keeps

A record whose delivery is over is safe if its level demands a flush: it was
written before the flush that its thread made, whoever else wrote or flushed in
between.
-/

namespace DataGateway.Log

open Foundation

/-- The lines of the records. -/
def linesOf (records : Multiset Record) : Multiset Message :=
  records.map Record.line

namespace BufferedSink

/-- The lines that the files hold at first and those of the records are all
there, and the base file ends with those in the buffer. -/
structure Linked (initial : Multiset Message) (file : BufferedSink) : Prop where
  whole : file.sink.Whole
  given : file.sink.given = initial + linesOf (file.stored + file.unflushed)
  last : file.unflushed.map Record.line <:+
    file.sink.directory.linesAt file.sink.settings.baseEntry

/-- The lines of the sink's files after a crash, and those of the files that its
retention removed. -/
def survivors (file : BufferedSink) (reached : Nat) : Multiset Message :=
  ((file.afterCrash reached).restrict file.sink.settings.isOwn).content +
    Directory.linesOf file.sink.removed

section

variable {file : BufferedSink} {initial : Multiset Message} {record : Record}
  {now : Nat}

theorem Linked.flush (linked : Linked initial file) : Linked initial file.flush := by
  refine ⟨linked.whole, ?_, List.nil_suffix⟩
  have given := linked.given
  simp only [BufferedSink.flush, Multiset.coe_nil, add_zero]
  exact given

private theorem linesAt_write (sink : Sink) (message : Message) (newSize : Nat) :
    (sink.write message now newSize).directory.linesAt sink.settings.baseEntry =
      sink.directory.linesAt sink.settings.baseEntry ++ [message] :=
  Directory.linesAt_appendLine _ _ _ _

theorem linesAt_sinkIt (sink : Sink) (message : Message) (now : Nat) :
    ∃ before,
      (sink.sinkIt message now).directory.linesAt sink.settings.baseEntry =
        before ++ [message] ∧
      (¬sink.settings.maxSize < sink.currentSize + message.length →
        before = sink.directory.linesAt sink.settings.baseEntry) := by
  unfold Sink.sinkIt
  cases overflows : sink.overflows message with
  | true =>
      refine ⟨_, linesAt_write (sink.rotate now) message message.length, ?_⟩
      intro fits
      simp [Sink.overflows, fits] at overflows
  | false => exact ⟨_, linesAt_write sink message _, fun _ => rfl⟩

private theorem sinkIt_settings (sink : Sink) (message : Message) (now : Nat) :
    (sink.sinkIt message now).settings = sink.settings := by
  unfold Sink.sinkIt
  split <;> rfl

theorem Linked.sinkIt (linked : Linked initial file)
    (fresh : file.sink.overflows record.line = true → file.sink.FreshName now) :
    Linked initial (file.sinkIt record now) := by
  have keeps : file.sink.Keeps (.sinkIt record.line, now)
      (file.sink.step (.sinkIt record.line, now)) := linked.whole.step fresh
  obtain ⟨next, stepped, whole, given, _⟩ := keeps
  have same : file.sink.sinkIt record.line now = next := by
    simp only [Sink.step, Except.ok.injEq, Prod.mk.injEq] at stepped
    exact stepped.1
  subst same
  obtain ⟨before, lines, continues⟩ := linesAt_sinkIt file.sink record.line now
  have settings := sinkIt_settings file.sink record.line now
  have old := linked.given
  refine ⟨whole, ?_, ?_⟩
  · rw [show (file.sinkIt record now).sink = file.sink.sinkIt record.line now from rfl,
      given, old]
    unfold BufferedSink.sinkIt
    split <;>
      simp only [BufferedSink.flush, Call.lines, linesOf, List.nil_append,
        ← Multiset.coe_add, Multiset.map_add, Multiset.coe_singleton,
        Multiset.map_singleton, add_assoc]
  · unfold BufferedSink.sinkIt
    simp only [settings, lines]
    split
    · next full => exact ⟨before, rfl⟩
    · next fits =>
        rw [continues fits]
        obtain ⟨earlier, last⟩ := linked.last
        exact ⟨earlier, by simp [← last]⟩

/-- A crash costs the lines of the buffer that have not reached the disk. -/
theorem Linked.content_afterCrash (linked : Linked initial file) (reached : Nat) :
    ((file.afterCrash reached).restrict file.sink.settings.isOwn).content +
        linesOf (file.unflushed.drop reached) =
      (file.sink.directory.restrict file.sink.settings.isOwn).content := by
  have own := file.sink.settings.isOwn_baseEntry
  obtain ⟨earlier, last⟩ := linked.last
  unfold afterCrash
  cases found : file.sink.directory.find? file.sink.settings.baseEntry with
  | none =>
      rw [Directory.linesAt_of_find?_eq_none found] at last
      have empty : file.unflushed = [] := by
        simpa using (List.append_eq_nil_iff.mp last).2
      simp [empty, linesOf]
  | some base =>
      obtain ⟨member, name⟩ := Directory.find?_eq_some_iff.mp found
      rw [← name] at own last
      rw [Directory.linesAt_of_mem member] at last
      have stays : base.lines.take
          (base.lines.length - (file.unflushed.drop reached).length) =
          earlier ++ (file.unflushed.take reached).map Record.line := by
        have lines : base.lines =
            (earlier ++ (file.unflushed.take reached).map Record.line) ++
              (file.unflushed.drop reached).map Record.line := by
          rw [← last, List.append_assoc, ← List.map_append, List.take_append_drop]
        rw [lines, List.length_append, List.length_map, Nat.add_sub_cancel]
        exact List.take_left
      have atBase : (file.sink.directory.restrict
          file.sink.settings.isOwn).linesAt base.name = base.lines :=
        Directory.linesAt_of_mem (Directory.mem_restrict_iff.mpr ⟨member, own⟩)
      let cut : LogFile :=
        { base with lines := earlier ++ (file.unflushed.take reached).map Record.line }
      have placed := Directory.content_put
        (file.sink.directory.restrict file.sink.settings.isOwn) cut
      have lines : (base.lines : Multiset Message) =
          (earlier ++ (file.unflushed.take reached).map Record.line : List Message) +
            linesOf (file.unflushed.drop reached) := by
        rw [← last, linesOf, Multiset.map_coe, Multiset.coe_add, List.append_assoc,
          ← List.map_append, List.take_append_drop]
      have moved : (file.sink.directory.put cut).restrict file.sink.settings.isOwn =
          (file.sink.directory.restrict file.sink.settings.isOwn).put cut :=
        Directory.restrict_put own
      simp only [stays]
      change ((file.sink.directory.put cut).restrict _).content + _ = _
      rw [moved]
      rw [show cut.name = base.name from rfl, atBase, lines, ← add_assoc] at placed
      rw [add_right_comm] at placed
      exact add_right_cancel placed

theorem Linked.survivors_eq (linked : Linked initial file) (reached : Nat) :
    file.survivors reached =
      initial + linesOf file.stored + linesOf (file.unflushed.take reached) := by
  have content := linked.content_afterCrash reached
  have whole := linked.whole
  have given := linked.given
  unfold Sink.Whole at whole
  rw [← content, given] at whole
  have parts : (file.unflushed : Multiset Record) =
      file.unflushed.take reached + file.unflushed.drop reached := by
    rw [Multiset.coe_add, List.take_append_drop]
  have split : linesOf (file.stored + file.unflushed) =
      linesOf file.stored + linesOf (file.unflushed.take reached) +
        linesOf (file.unflushed.drop reached) := by
    rw [parts]
    simp only [linesOf, Multiset.map_add, add_assoc]
  rw [split] at whole
  have cancelled : file.survivors reached + linesOf (file.unflushed.drop reached) =
      initial + linesOf file.stored + linesOf (file.unflushed.take reached) +
        linesOf (file.unflushed.drop reached) := by
    unfold survivors
    rw [add_right_comm, whole]
    abel
  exact add_right_cancel cancelled

end

end BufferedSink

namespace Stage

/-- The record that the thread has written to the file and must still flush. -/
def due (flushLevel : LevelEnum) : Stage → Multiset Record
  | .logsConsole record true | .flushesFile (some (record, true)) =>
      if record.passes flushLevel then {record} else 0
  | _ => 0

/-- The record that the thread has written and need not flush any more. -/
def settled (flushLevel : LevelEnum) : Stage → Multiset Record
  | .logsConsole record true | .flushesFile (some (record, true)) =>
      if record.passes flushLevel then 0 else {record}
  | .flushesConsole (some (record, true)) => {record}
  | _ => 0

/-- The file takes every record from the level on. -/
def Judged (low : LevelEnum) : Stage → Prop
  | .logsConsole record took | .flushesFile (some (record, took))
  | .flushesConsole (some (record, took)) => record.passes low = true → took = true
  | _ => True

theorem settled_flushesConsole (flushLevel : LevelEnum)
    (delivery : Option (Record × Bool)) :
    Stage.due flushLevel (.flushesConsole delivery) = 0 ∧
      Stage.settled flushLevel (.flushesConsole delivery) =
        Stage.due flushLevel (.flushesFile delivery) +
          Stage.settled flushLevel (.flushesFile delivery) := by
  match delivery with
  | none => exact ⟨rfl, (add_zero 0).symm⟩
  | some (record, false) => exact ⟨rfl, (add_zero 0).symm⟩
  | some (record, true) =>
      refine ⟨rfl, ?_⟩
      simp only [due, settled]
      split
      · exact (add_zero _).symm
      · exact (zero_add _).symm

end Stage

namespace Logger

def view (logger : Logger) (file : BufferedSink) : WriteBehind Record :=
  { stored := file.stored
    pending := file.unflushed
    due := gathered (Stage.due logger.flushLevel) logger.threads
    settled := gathered (Stage.settled logger.flushLevel) logger.threads
    finished := logger.kept }

/-- The logger has a file, and what its delivered records need is done. -/
structure Safe (initial : Multiset Message) (flushLevel low : LevelEnum)
    (logger : Logger) (file : BufferedSink) : Prop where
  stored : logger.file = some file
  flushes : logger.flushLevel = flushLevel
  linked : file.Linked initial
  level : file.level ≤ low
  sound : WriteBehind.Sound (·.passes flushLevel = true) (logger.view file)
  judged : ∀ stage ∈ logger.threads, stage.Judged low
  taken : logger.handled.filter (·.passes low) ≤ logger.kept

section

variable {initial : Multiset Message} {flushLevel low : LevelEnum}
  {logger next : Logger} {file : BufferedSink} {thread now : Nat}
  {old new : Stage} {record : Record} {took : Bool}

theorem Safe.goesOn (safe : Safe initial flushLevel low logger file)
    (found : logger.threads[thread]? = some old) (new : Stage)
    (due : new.due flushLevel = old.due flushLevel)
    (settled : new.settled flushLevel = old.settled flushLevel)
    (judged : new.Judged low) (threads : next.threads = logger.threads.set thread new)
    (same : next.file = logger.file ∧ next.flushLevel = logger.flushLevel ∧
      next.handled = logger.handled ∧ next.kept = logger.kept) :
    Safe initial flushLevel low next file := by
  obtain ⟨sameFile, sameFlush, sameHandled, sameKept⟩ := same
  have sameView : next.view file = logger.view file := by
    obtain ⟨_, dueWhole, dueSet⟩ := exists_gathered_rest (Stage.due flushLevel) found
    obtain ⟨_, settledWhole, settledSet⟩ :=
      exists_gathered_rest (Stage.settled flushLevel) found
    unfold view
    rw [sameFlush, sameKept, threads, safe.flushes, dueSet, settledSet, due, settled,
      dueWhole, settledWhole]
  refine ⟨sameFile.trans safe.stored, sameFlush.trans safe.flushes, safe.linked,
    safe.level, sameView ▸ safe.sound, ?_, ?_⟩
  · intro stage member
    rw [threads] at member
    rcases List.mem_or_eq_of_mem_set member with earlier | here
    · exact safe.judged stage earlier
    · exact here ▸ judged
  · rw [sameHandled, sameKept]
    exact safe.taken

private theorem rest_cases (logger : Logger) :
    logger.rest = .waits ∨ logger.rest = .idle := by
  unfold rest
  cases logger.isAsync with
  | true => exact Or.inl rfl
  | false => exact Or.inr rfl

theorem Safe.finish (safe : Safe initial flushLevel low logger file)
    (found : logger.threads[thread]? = some old)
    (due : old.due flushLevel = 0)
    (settled : old.settled flushLevel = if took then {record} else 0)
    (judged : record.passes low = true → took = true) :
    Safe initial flushLevel low (logger.finish thread record took) file := by
  have resting : logger.rest.due flushLevel = 0 ∧
      logger.rest.settled flushLevel = 0 ∧ logger.rest.Judged low := by
    rcases logger.rest_cases with rest | rest <;> rw [rest] <;> exact ⟨rfl, rfl, trivial⟩
  obtain ⟨restDue, restSettled, restJudged⟩ := resting
  obtain ⟨dues, dueWhole, dueSet⟩ := exists_gathered_rest (Stage.due flushLevel) found
  obtain ⟨others, settledWhole, settledSet⟩ :=
    exists_gathered_rest (Stage.settled flushLevel) found
  refine ⟨safe.stored, safe.flushes, safe.linked, safe.level, ?_, ?_, ?_⟩
  · have sound := safe.sound
    unfold view at sound ⊢
    simp only [Logger.finish, setStage, safe.flushes] at sound ⊢
    rw [dueSet, settledSet, restDue, restSettled, zero_add, zero_add]
    rw [dueWhole, settledWhole, due, settled, zero_add] at sound
    cases took with
    | true =>
        simp only [if_true, Multiset.singleton_add] at sound ⊢
        exact sound.finish
    | false =>
        simp only [Bool.false_eq_true, if_false, zero_add] at sound ⊢
        exact sound
  · intro stage member
    rcases List.mem_or_eq_of_mem_set member with earlier | here
    · exact safe.judged stage earlier
    · exact here ▸ restJudged
  · simp only [Logger.finish]
    cases took with
    | true =>
        rw [if_pos rfl, Multiset.filter_cons]
        split
        · exact Multiset.cons_le_cons record safe.taken
        · rw [zero_add]
          exact safe.taken.trans (Multiset.le_cons_self _ _)
    | false =>
        have fails : ¬record.passes low = true := by
          intro passes
          cases judged passes
        rw [if_neg (by simp), Multiset.filter_cons, if_neg fails, zero_add]
        exact safe.taken

theorem Safe.writes (safe : Safe initial flushLevel low logger file)
    (found : logger.threads[thread]? = some (.logsFile record))
    (fresh : file.sink.overflows record.line = true → file.sink.FreshName now) :
    Safe initial flushLevel low
      { logger.setStage thread (.logsConsole record true) with
        file := some (file.sinkIt record now) } (file.sinkIt record now) := by
  have level : (file.sinkIt record now).level = file.level := by
    unfold BufferedSink.sinkIt
    split <;> rfl
  refine ⟨rfl, safe.flushes, safe.linked.sinkIt fresh, level ▸ safe.level, ?_, ?_,
    safe.taken⟩
  · obtain ⟨dues, dueWhole, dueSet⟩ := exists_gathered_rest (Stage.due flushLevel) found
    obtain ⟨others, settledWhole, settledSet⟩ :=
      exists_gathered_rest (Stage.settled flushLevel) found
    have sound := safe.sound
    unfold view at sound ⊢
    simp only [setStage, safe.flushes] at sound ⊢
    rw [dueSet, settledSet]
    rw [dueWhole, settledWhole,
      show Stage.due flushLevel (.logsFile record) = 0 from rfl,
      show Stage.settled flushLevel (.logsFile record) = 0 from rfl,
      zero_add, zero_add] at sound
    have ends : ∀ pending : List Record, ((pending ++ [record] : List Record) :
        Multiset Record) = record ::ₘ pending := by
      intro pending
      rw [← Multiset.coe_add, Multiset.coe_singleton, add_comm, Multiset.singleton_add]
    unfold BufferedSink.sinkIt
    split
    · simp only [BufferedSink.flush, ends]
      exact sound.flush_alone.write record
    · simp only [ends]
      exact sound.write record
  · intro stage member
    rcases List.mem_or_eq_of_mem_set member with earlier | here
    · exact safe.judged stage earlier
    · exact here ▸ fun _ => rfl

/-- A thread flushes the file, for itself or for a worker or `Uinit`. -/
theorem Safe.flushFile {delivery : Option (Record × Bool)}
    (safe : Safe initial flushLevel low logger file)
    (found : logger.threads[thread]? = some (.flushesFile delivery)) :
    Safe initial flushLevel low (logger.flushFile thread delivery) file.flush := by
  have member := List.mem_of_getElem? found
  refine ⟨by simp [Logger.flushFile, safe.stored], safe.flushes, safe.linked.flush,
    safe.level, ?_, ?_, safe.taken⟩
  · obtain ⟨dues, dueWhole, dueSet⟩ := exists_gathered_rest (Stage.due flushLevel) found
    obtain ⟨others, settledWhole, settledSet⟩ :=
      exists_gathered_rest (Stage.settled flushLevel) found
    have sound := safe.sound
    unfold view at sound ⊢
    simp only [Logger.flushFile, setStage, safe.flushes, BufferedSink.flush] at sound ⊢
    rw [dueSet, settledSet]
    rw [dueWhole, settledWhole] at sound
    have moves := Stage.settled_flushesConsole flushLevel delivery
    rw [moves.1, moves.2, zero_add, add_assoc, Multiset.coe_nil]
    exact sound.flush
  · intro stage inside
    rcases List.mem_or_eq_of_mem_set inside with earlier | here
    · exact safe.judged stage earlier
    · have judged := safe.judged _ member
      subst here
      cases delivery with
      | none => trivial
      | some pair => exact judged

theorem Safe.enqueue (safe : Safe initial flushLevel low logger file)
    (found : logger.threads[thread]? = some old) (item : Item)
    (due : old.due flushLevel = 0 ∧ new.due flushLevel = 0)
    (settled : old.settled flushLevel = 0 ∧ new.settled flushLevel = 0)
    (judged : new.Judged low) :
    Safe initial flushLevel low (logger.enqueue thread item new) file := by
  unfold Logger.enqueue
  split
  · exact safe
  · exact safe.goesOn found new (due.2.trans due.1.symm) (settled.2.trans settled.1.symm)
      judged rfl ⟨rfl, rfl, rfl, rfl⟩

theorem Safe.dequeue (safe : Safe initial flushLevel low logger file)
    (found : logger.threads[thread]? = some .waits) :
    Safe initial flushLevel low (logger.dequeue thread) file := by
  unfold Logger.dequeue
  split
  · next stored =>
      refine safe.goesOn found (logger.queue.front stored).stage ?_ ?_ ?_ rfl
        ⟨rfl, rfl, rfl, rfl⟩
      · cases logger.queue.front stored <;> rfl
      · cases logger.queue.front stored <;> rfl
      · cases logger.queue.front stored <;> trivial
  · exact safe

theorem passes_mono {level : LevelEnum} (lower : level ≤ low)
    (passes : record.passes low = true) : record.passes level = true := by
  simp only [Record.passes, decide_eq_true_eq] at passes ⊢
  exact Int32.le_trans lower passes

theorem Safe.logFile (safe : Safe initial flushLevel low logger file)
    (found : logger.threads[thread]? = some (.logsFile record))
    (fresh : record.passes file.level = true →
      file.sink.overflows record.line = true → file.sink.FreshName now) :
    ∃ file, Safe initial flushLevel low (logger.logFile thread record now) file := by
  unfold Logger.logFile
  rw [safe.stored]
  by_cases passes : record.passes file.level = true
  · simp only [passes, if_true]
    exact ⟨_, safe.writes found (fresh passes)⟩
  · simp only [passes]
    refine ⟨file, safe.goesOn found (.logsConsole record false) rfl rfl ?_ rfl
      ⟨rfl, rfl, rfl, rfl⟩⟩
    intro low
    exact (passes (passes_mono safe.level low)).elim

theorem Safe.logConsole (safe : Safe initial flushLevel low logger file)
    (found : logger.threads[thread]? = some (.logsConsole record took)) :
    Safe initial flushLevel low (logger.logConsole thread record took) file := by
  have judged : record.passes low = true → took = true :=
    safe.judged _ (List.mem_of_getElem? found)
  have shown : Safe initial flushLevel low
      { logger with console := logger.console.map (·.log record) } file :=
    { safe with }
  unfold Logger.logConsole
  by_cases flushes : record.passes logger.flushLevel = true
  · simp only [flushes, if_true]
    refine shown.goesOn found (.flushesFile (some (record, took))) ?_ ?_ judged rfl
      ⟨rfl, rfl, rfl, rfl⟩
    · cases took <;> rfl
    · cases took <;> rfl
  · simp only [flushes]
    rw [safe.flushes] at flushes
    apply shown.finish found _ _ judged
    · cases took <;> simp [Stage.due, flushes]
    · cases took <;> simp [Stage.settled, flushes]

theorem Safe.flushConsole {delivery : Option (Record × Bool)}
    (safe : Safe initial flushLevel low logger file)
    (found : logger.threads[thread]? = some (.flushesConsole delivery)) :
    Safe initial flushLevel low (logger.flushConsole thread delivery) file := by
  match delivery with
  | none =>
      refine safe.goesOn found _ ?_ ?_ ?_ rfl ⟨rfl, rfl, rfl, rfl⟩
      · cases logger.isAsync <;> rfl
      · cases logger.isAsync <;> rfl
      · cases logger.isAsync <;> trivial
  | some (record, took) =>
      have judged : record.passes low = true → took = true :=
        safe.judged _ (List.mem_of_getElem? found)
      apply safe.finish found rfl _ judged
      cases took <;> rfl

/-- No level of the file rises above `low`, and rotations have fresh names. -/
def Careful (low : LevelEnum) (logger : Logger) (move : LoggerMove)
    (_ : Except LoggerFault (Logger × Unit)) : Prop :=
  (∀ severity, move = .setLogFileLevel severity → severity.level ≤ low) ∧
    ∀ thread now record file, move = .proceed thread now →
      logger.threads[thread]? = some (.logsFile record) → logger.file = some file →
      record.passes file.level = true → file.sink.overflows record.line = true →
      file.sink.FreshName now

theorem Safe.proceed (safe : Safe initial flushLevel low logger file)
    (fresh : ∀ record, logger.threads[thread]? = some (.logsFile record) →
      record.passes file.level = true → file.sink.overflows record.line = true →
      file.sink.FreshName now)
    (stepped : logger.proceed thread now = .ok next) :
    ∃ file, Safe initial flushLevel low next file := by
  unfold Logger.proceed at stepped
  cases found : logger.threads[thread]? with
  | none =>
      simp only [found, Except.ok.injEq] at stepped
      exact ⟨file, stepped ▸ safe⟩
  | some stage =>
      simp only [found] at stepped
      cases stage with
      | idle | ended =>
          cases stepped
          exact ⟨file, safe⟩
      | waits =>
          cases stepped
          exact ⟨file, safe.dequeue found⟩
      | posts message =>
          cases message with
          | some record =>
              cases stepped
              exact ⟨file, safe.enqueue found (.log record) ⟨rfl, rfl⟩ ⟨rfl, rfl⟩ trivial⟩
          | none =>
              cases stepped
              exact ⟨file, safe.enqueue found .flush ⟨rfl, rfl⟩ ⟨rfl, rfl⟩ trivial⟩
      | logsFile record =>
          cases stepped
          exact safe.logFile found (fresh record found)
      | logsConsole record took =>
          cases stepped
          exact ⟨file, safe.logConsole found⟩
      | flushesFile delivery =>
          cases stepped
          exact ⟨file.flush, safe.flushFile found⟩
      | flushesConsole delivery =>
          cases stepped
          exact ⟨file, safe.flushConsole found⟩
      | resets =>
          simp only [Logger.reset] at stepped
          split at stepped
          · cases stepped
            refine ⟨file, safe.goesOn found _ ?_ ?_ ?_ rfl ⟨rfl, rfl, rfl, rfl⟩⟩
            · cases logger.isAsync <;> rfl
            · cases logger.isAsync <;> rfl
            · cases logger.isAsync <;> trivial
          · cases stepped
      | terminates left =>
          cases left with
          | zero =>
              cases stepped
              exact ⟨file, safe.goesOn found .joins rfl rfl trivial rfl
                ⟨rfl, rfl, rfl, rfl⟩⟩
          | succ left =>
              cases stepped
              exact ⟨file, safe.enqueue found .terminate ⟨rfl, rfl⟩ ⟨rfl, rfl⟩ trivial⟩
      | joins =>
          cases stepped
          split
          · exact ⟨file, safe.goesOn found .idle rfl rfl trivial rfl ⟨rfl, rfl, rfl, rfl⟩⟩
          · exact ⟨file, safe⟩

theorem Safe.step {move : LoggerMove} {output : Unit}
    (safe : Safe initial flushLevel low logger file)
    (careful : Careful low logger move (logger.step move))
    (stepped : logger.step move = .ok (next, output)) :
    ∃ file, Safe initial flushLevel low next file := by
  obtain ⟨levels, fresh⟩ := careful
  cases move with
  | log thread record =>
      cases stepped
      split
      · next found =>
          unfold Logger.log
          split
          · refine ⟨file, safe.goesOn found _ ?_ ?_ ?_ rfl ⟨rfl, rfl, rfl, rfl⟩⟩
            · cases logger.isAsync <;> rfl
            · cases logger.isAsync <;> rfl
            · cases logger.isAsync <;> trivial
          · exact ⟨file, safe⟩
      · exact ⟨file, safe⟩
  | uinit thread =>
      cases stepped
      split
      · next found =>
          unfold Logger.uinit
          split
          · refine ⟨file, safe.goesOn found _ ?_ ?_ ?_ rfl ⟨rfl, rfl, rfl, rfl⟩⟩
            · cases logger.isAsync <;> rfl
            · cases logger.isAsync <;> rfl
            · cases logger.isAsync <;> trivial
          · exact ⟨file, safe⟩
      · exact ⟨file, safe⟩
  | setLogLevel severity =>
      cases stepped
      split
      · exact ⟨file, { safe with }⟩
      · exact ⟨file, safe⟩
  | setLogFileLevel severity =>
      cases stepped
      refine ⟨{ file with level := severity.level }, ?_⟩
      exact
        { safe with
          stored := by simp [safe.stored]
          linked := ⟨safe.linked.whole, safe.linked.given, safe.linked.last⟩
          level := levels severity rfl }
  | setLogConsoleLevel severity =>
      cases stepped
      exact ⟨file, { safe with }⟩
  | proceed thread now =>
      simp only [Logger.step] at stepped
      cases outcome : logger.proceed thread now with
      | error fault => simp [outcome, Except.map] at stepped
      | ok after =>
          simp only [outcome, Except.map, Except.ok.injEq, Prod.mk.injEq] at stepped
          rw [← stepped.1]
          apply safe.proceed _ outcome
          intro record found
          exact fresh thread now record file rfl found safe.stored

private theorem exists_safe_of_run {moves : List LoggerMove} {final : Logger}
    (start : ∃ file, Safe initial flushLevel low logger file)
    (careful : EachStep step (Careful low) logger moves)
    (reached : run step logger moves = .ok final) :
    ∃ file, Safe initial flushLevel low final file := by
  refine careful.invariant_reached
    (fun logger => ∃ file, Safe initial flushLevel low logger file) ?_ start reached
  intro logger move next output safe careful stepped
  obtain ⟨file, safe⟩ := safe
  exact safe.step careful stepped

/-- What has been handled and demands a flush is no longer in the buffer. -/
theorem Safe.handled_le (safe : Safe initial flushLevel low logger file)
    (flushes : flushLevel ≤ low) :
    logger.handled.filter (·.passes low) ≤ file.stored := by
  have flushed : (logger.handled.filter (·.passes low)).filter
      (·.passes flushLevel = true) = logger.handled.filter (·.passes low) := by
    apply Multiset.filter_eq_self.mpr
    intro record member
    exact passes_mono flushes (Multiset.mem_filter.mp member).2
  rw [← flushed]
  exact (Multiset.filter_le_filter _ safe.taken).trans safe.sound.finished_le

theorem findSome?_file {machine : Machine} {arguments : InitArguments}
    {result : Initialised} (created : init machine arguments = .ok (some result))
    (writes : WritesFile arguments.type) :
    result.sinks.findSome? SinkPtr.file? =
      some { sink := .openBase (sinkSettings machine arguments) machine.now
               machine.directory
             level := getLogLevelFromEnv machine "LOG_FILE_LEVEL" arguments.level
             unflushed := []
             stored := 0 } := by
  unfold init at created
  cases made : createSinks machine arguments with
  | error message =>
      rw [made] at created
      cases created
  | ok sinks =>
      have same : result.sinks = sinks := by
        simp only [made, bind, Except.bind] at created
        split at created
        · cases created
        · split at created
          · cases created
          · split at created
            · cases created
            · cases created
              rfl
      rw [same]
      unfold createSinks at made
      cases opened : fileSink machine arguments with
      | error message =>
          rcases writes with both | file
          · simp [both, opened, bind, Except.bind] at made
          · simp [file, opened, bind, Except.bind] at made
      | ok pair =>
          obtain ⟨sink, replaced⟩ := pair
          have base : sink = .openBase (sinkSettings machine arguments) machine.now
              machine.directory := by
            rcases Sink.construct_cases opened with ⟨⟨impossible, _⟩, _⟩ | ⟨_, same, _⟩
            · cases impossible
            · exact same
          rcases writes with both | file
          · simp only [both, opened, bind, Except.bind, pure, Except.pure] at made
            cases made
            rw [base]
            rfl
          · simp only [file, opened, bind, Except.bind, pure, Except.pure] at made
            cases made
            rw [base]
            rfl

theorem safe_initialised {machine : Machine} {arguments : InitArguments}
    {result : Initialised} (created : init machine arguments = .ok (some result))
    (writes : WritesFile arguments.type)
    (level : getLogLevelFromEnv machine "LOG_FILE_LEVEL" arguments.level ≤ low)
    (bufferSize callers : Nat) :
    ∃ file, Safe
      (machine.directory.restrict (sinkSettings machine arguments).isOwn).content
      flushLevel low (initialised result flushLevel bufferSize callers) file := by
  have found := findSome?_file created writes
  refine ⟨_, found, rfl, ⟨Sink.openBase_whole _ _ _, ?_, List.nil_suffix⟩, level, ?_, ?_,
    ?_⟩
  · simp [linesOf, Sink.openBase]
  · unfold view
    constructor
    · simp [initialised, gathered, Stage.due, Stage.settled]
    · exact Multiset.zero_le _
  · intro stage member
    rcases List.mem_append.mp member with caller | worker
    · rw [(List.mem_replicate.mp caller).2]
      trivial
    · rw [(List.mem_replicate.mp worker).2]
      trivial
  · simp [initialised]

end

/-- Whatever the threads do, and whatever the program does to the levels: after
a crash at any moment the log holds, beside what it held at first, the line of
every record whose delivery is over and whose severity reaches the flush level and
all levels that the file has had. -/
theorem handled_survive (machine : Machine) (arguments : InitArguments)
    {result : Initialised} (created : init machine arguments = .ok (some result))
    (writes : WritesFile arguments.type) (flushLevel low : LevelEnum)
    (flushes : flushLevel ≤ low)
    (level : getLogLevelFromEnv machine "LOG_FILE_LEVEL" arguments.level ≤ low)
    (bufferSize callers : Nat) {moves : List LoggerMove} {final : Logger}
    (careful : EachStep step (Careful low)
      (initialised result flushLevel bufferSize callers) moves)
    (reached : run step (initialised result flushLevel bufferSize callers) moves =
      .ok final) :
    ∃ file, final.file = some file ∧ ∀ written,
      (machine.directory.restrict (sinkSettings machine arguments).isOwn).content +
          linesOf (final.handled.filter (·.passes low)) ≤ file.survivors written := by
  obtain ⟨file, safe⟩ := exists_safe_of_run
    (safe_initialised created writes level bufferSize callers) careful reached
  refine ⟨file, safe.stored, ?_⟩
  intro written
  rw [safe.linked.survivors_eq written, add_assoc]
  apply add_le_add_right
  exact (Multiset.map_le_map (safe.handled_le flushes)).trans (Multiset.le_add_right _ _)

/-- The first message of a program through the queue and a worker. -/
def firstMessage : List LoggerMove :=
  .log 0 ⟨.info, [104, 105, 10]⟩ :: .proceed 0 1 ::
    (List.range 5).map fun now => .proceed 1 (now + 2)

theorem careful_firstMessage {result : Initialised}
    (created : init (freshMachine 16 8) (bothArguments 60) = .ok (some result)) :
    EachStep step (Careful 2) (initialised result 2 8 1) firstMessage := by
  cases created
  have elsewhere : ∀ {logger : Logger} {move : LoggerMove},
      (∀ severity, move ≠ .setLogFileLevel severity) →
      (∀ thread now record, move = .proceed thread now →
        logger.threads[thread]? ≠ some (.logsFile record)) →
      Careful 2 logger move (logger.step move) := by
    intro logger move levels none
    refine ⟨fun severity same => (levels severity same).elim, ?_⟩
    intro thread now record file same found
    exact (none thread now record same found).elim
  refine .cons (elsewhere (by simp) (by simp)) rfl ?_
  refine .cons (elsewhere (by simp) ?_) rfl ?_
  · intro thread now record same found
    cases same
    cases found
  refine .cons (elsewhere (by simp) ?_) rfl ?_
  · intro thread now record same found
    cases same
    cases found
  refine .cons ?_ rfl ?_
  · refine ⟨by simp, ?_⟩
    intro thread now record file same found stored _ overflows
    cases same
    cases found
    cases stored
    exact absurd overflows (by decide)
  refine .cons (elsewhere (by simp) ?_) rfl ?_
  · intro thread now record same found
    cases same
    cases found
  refine .cons (elsewhere (by simp) ?_) rfl ?_
  · intro thread now record same found
    cases same
    cases found
  refine .cons (elsewhere (by simp) ?_) rfl trivial
  · intro thread now record same found
    cases same
    cases found

theorem handled_survive_firstMessage :
    ∃ result final file, init (freshMachine 16 8) (bothArguments 60) = .ok (some result) ∧
      run step (initialised result 2 8 1) firstMessage = .ok final ∧
      final.file = some file ∧ final.handled.card = 1 ∧ ∀ written,
        ((freshMachine 16 8).directory.restrict
            (sinkSettings (freshMachine 16 8) (bothArguments 60)).isOwn).content +
          linesOf (final.handled.filter (·.passes 2)) ≤ file.survivors written := by
  obtain ⟨file, stored, survive⟩ := handled_survive (freshMachine 16 8) (bothArguments 60)
    rfl (Or.inl rfl) 2 2 (by decide) (by decide) 8 1 (careful_firstMessage rfl) rfl
  exact ⟨_, _, file, rfl, rfl, stored, rfl, survive⟩

end Logger

end DataGateway.Log
