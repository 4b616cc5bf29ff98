import DataGateway.Log.SinkSizes

/-!
# Rotations that fail

`rotate_` closes the base file first and opens it again last.  Of its two
failure exits in between, that of the rename truncates the file and opens it;
that of the retention leaves it closed.  A closed `file_helper` drops what is
written to it and throws when it is asked for its size.
-/

namespace DataGateway.Log

open Foundation

/-- Where a rotation can fail: the rename, the iteration over the directory, a
`last_write_time` of the sort, or the removal that comes after `done` others. -/
inductive RotationFault
  | rename
  | iteration
  | lastWriteTime
  | remove (done : Nat)
  deriving DecidableEq

/-- A sink and whether its `file_helper_` has the base file open. -/
structure FileSink where
  sink : Sink
  isOpen : Bool

/-- A call at a point in time, and the file operation that fails if a rotation
comes to it. -/
structure Attempt where
  call : Call
  now : Nat
  fault : Option RotationFault

namespace Sink

variable (sink : Sink)

/-- `rename_file_`; a base file that is not there cannot be renamed. -/
def renames (fault : Option RotationFault) : Bool :=
  decide (fault ≠ some .rename) &&
    (sink.directory.find? sink.settings.baseEntry).isSome

/-- How many files the retention has deleted when the fault stops it, if it
comes to the operation that fails.  A sort compares from two files on. -/
def stoppedAfter (now : Nat) : Option RotationFault → Option Nat
  | none => none
  | some .rename => none
  | some .iteration => some 0
  | some .lastWriteTime =>
      if 1 < (sink.candidates now).length then some 0 else none
  | some (.remove done) =>
      if done < (sink.candidates now).length - sink.settings.maxFiles then
        some done
      else none

/-- The directory and the deleted files where the retention stops after `done`
deletions. -/
def abandon (now done : Nat) : Sink :=
  let files := sink.candidates now
  let retained := deleteOldest (files.length - done) files (sink.renamed now)
  { sink with
    directory := retained.2
    removed := retained.1 ++ sink.removed }

/-- `file_helper_.reopen(true); current_size_ = 0`. -/
def truncate (now : Nat) : Sink :=
  { sink with
    currentSize := 0
    directory := sink.directory.put
      { name := sink.settings.baseEntry, written := now, lines := [] } }

end Sink

namespace FileSink

section

variable (state : FileSink)

/-- `rotate_`, and whether it throws. -/
def rotate (now : Nat) (fault : Option RotationFault) : FileSink × Bool :=
  if state.sink.renames fault then
    match state.sink.stoppedAfter now fault with
    | some done => ({ sink := state.sink.abandon now done, isOpen := false }, true)
    | none => ({ sink := state.sink.rotate now, isOpen := true }, false)
  else ({ sink := state.sink.truncate now, isOpen := true }, true)

/-- `file_helper_.write(formatted); current_size_ = new_size`. -/
def write (message : Message) (now newSize : Nat) : FileSink :=
  if state.isOpen then
    { state with sink := state.sink.write message now newSize }
  else
    { state with sink :=
        { state.sink with
          currentSize := newSize
          given := state.sink.given + {message} } }

def sinkIt (message : Message) (now : Nat) (fault : Option RotationFault) :
    FileSink × Bool :=
  let newSize := state.sink.currentSize + message.length
  if state.sink.settings.maxSize < newSize then
    -- without an open file `fflush` flushes all streams, and `size()` throws
    if state.isOpen = false then (state, true)
    else if 0 < state.sink.fileSize then
      let rotated := state.rotate now fault
      if rotated.2 then rotated
      else (rotated.1.write message now message.length, false)
    else (state.write message now newSize, false)
  else (state.write message now newSize, false)

/-- A call returns whether it throws. -/
def step (attempt : Attempt) : Except Empty (FileSink × Bool) :=
  .ok
    (match attempt.call with
      | .sinkIt message => state.sinkIt message attempt.now attempt.fault
      | .rotateNow => state.rotate attempt.now attempt.fault)

/-- The messages in the base file and in the rotated files.  A message without
a byte leaves no trace in a file. -/
def messages : Multiset Message :=
  (state.sink.directory.restrict state.sink.settings.isOwn).content.filter
    (· ≠ [])

/-- An exception comes from an operation that failed, and it leaves the file
open, its size known and the earlier messages stored. -/
def Recovers (attempt : Attempt) (next : FileSink) : Prop :=
  attempt.fault ≠ none ∧ next.isOpen = true ∧
    next.sink.currentSize = next.sink.fileSize ∧
    state.messages ≤ next.messages

/-- The message of the call is at the end of the base file. -/
def Wrote (next : FileSink) (message : Message) : Prop :=
  ∃ earlier, next.sink.directory.linesAt next.sink.settings.baseEntry =
    earlier ++ [message]

/-- A call that throws has recovered, and one that returns has written. -/
def CostsNothing (attempt : Attempt)
    (result : Except Empty (FileSink × Bool)) : Prop :=
  ∀ next threw, result = .ok (next, threw) →
    (threw = true → state.Recovers attempt next) ∧
    (threw = false → ∀ message, attempt.call = .sinkIt message →
      next.Wrote message)

/-- A rotation that fails does so at its rename and with an empty base file. -/
def FailsHarmlessly (attempt : Attempt)
    (_ : Except Empty (FileSink × Bool)) : Prop :=
  attempt.call.rotates state.sink = true →
    (attempt.fault = some .rename → state.sink.fileSize = 0) ∧
      state.sink.stoppedAfter attempt.now attempt.fault = none

end

/-- Failed rotations cost the sink nothing in a sequence of calls. -/
def CostNothing (settings : Settings) (rotateOnOpen : Bool) (now : Nat)
    (directory : Directory String Message) (attempts : List Attempt) : Prop :=
  ∀ sink replaced,
    Sink.construct settings rotateOnOpen now directory =
      .ok (sink, replaced) →
    EachStep step CostsNothing { sink := sink, isOpen := true } attempts

def AllHarmless (settings : Settings) (rotateOnOpen : Bool) (now : Nat)
    (directory : Directory String Message) (attempts : List Attempt) : Prop :=
  ∀ sink replaced,
    Sink.construct settings rotateOnOpen now directory =
      .ok (sink, replaced) →
    EachStep step FailsHarmlessly { sink := sink, isOpen := true } attempts

/-- The file is open and there: what a rotation needs to begin with. -/
structure Ready (state : FileSink) : Prop where
  opened : state.isOpen = true
  found : ∃ file, state.sink.directory.find?
    state.sink.settings.baseEntry = some file

section

variable {state : FileSink} {attempt : Attempt}

theorem Ready.rotate_cases (ready : state.Ready) (now : Nat)
    (fault : Option RotationFault) :
    fault = some .rename ∧
        state.rotate now fault = (⟨state.sink.truncate now, true⟩, true) ∨
      (∃ done, state.sink.stoppedAfter now fault = some done ∧
        state.rotate now fault =
          (⟨state.sink.abandon now done, false⟩, true)) ∨
      (fault ≠ some .rename ∧ state.sink.stoppedAfter now fault = none) ∧
        state.rotate now fault = (⟨state.sink.rotate now, true⟩, false) := by
  obtain ⟨file, found⟩ := ready.found
  by_cases fails : fault = some .rename
  · have refused : state.sink.renames fault = false := by
      simp [Sink.renames, fails]
    refine Or.inl ⟨fails, ?_⟩
    simp [rotate, refused]
  · have renames : state.sink.renames fault = true := by
      simp [Sink.renames, fails, found]
    cases stops : state.sink.stoppedAfter now fault with
    | some done =>
        refine Or.inr (Or.inl ⟨done, rfl, ?_⟩)
        simp only [rotate, renames, stops, if_true]
    | none =>
        refine Or.inr (Or.inr ⟨⟨fails, rfl⟩, ?_⟩)
        simp only [rotate, renames, stops, if_true]

private theorem sinkIt_of_overflows (opened : state.isOpen = true) {message : Message}
    (overflows : state.sink.overflows message = true) (now : Nat)
    (fault : Option RotationFault) :
    state.sinkIt message now fault =
      if (state.rotate now fault).2 then state.rotate now fault
      else ((state.rotate now fault).1.write message now message.length,
        false) := by
  simp only [Sink.overflows, Bool.and_eq_true, decide_eq_true_eq] at overflows
  simp [sinkIt, opened, overflows.1, overflows.2]

private theorem sinkIt_of_fits (opened : state.isOpen = true) {message : Message}
    (fits : state.sink.overflows message = false) (now : Nat)
    (fault : Option RotationFault) :
    state.sinkIt message now fault =
      (⟨state.sink.write message now
        (state.sink.currentSize + message.length), true⟩, false) := by
  simp only [Sink.overflows, Bool.and_eq_false_iff, decide_eq_false_iff_not]
    at fits
  rcases fits with fits | empty
  · simp [sinkIt, write, opened, fits]
  · simp [sinkIt, write, opened, empty]

/-- A call does what it does where no operation can fail, or it fails at the
rename, or it fails in the retention. -/
theorem Ready.step_cases (ready : state.Ready) (attempt : Attempt) :
    (∃ next replaced,
        Sink.step state.sink (attempt.call, attempt.now) =
          .ok (next, replaced) ∧
        state.step attempt = .ok (⟨next, true⟩, false) ∧
        (attempt.call.rotates state.sink = true →
          attempt.fault ≠ some .rename ∧
            state.sink.stoppedAfter attempt.now attempt.fault = none)) ∨
      (attempt.call.rotates state.sink = true ∧
        attempt.fault = some .rename ∧
        state.step attempt =
          .ok (⟨state.sink.truncate attempt.now, true⟩, true)) ∨
      attempt.call.rotates state.sink = true ∧
        ∃ done,
          state.sink.stoppedAfter attempt.now attempt.fault = some done ∧
          state.step attempt =
            .ok (⟨state.sink.abandon attempt.now done, false⟩, true) := by
  obtain ⟨call, now, fault⟩ := attempt
  have rotation := ready.rotate_cases now fault
  cases call with
  | rotateNow =>
      rcases rotation with
        ⟨fails, result⟩ | ⟨done, stops, result⟩ | ⟨runs, result⟩
      · exact Or.inr (Or.inl ⟨rfl, fails, congrArg Except.ok result⟩)
      · exact Or.inr (Or.inr ⟨rfl, done, stops, congrArg Except.ok result⟩)
      · exact Or.inl
          ⟨_, _, rfl, congrArg Except.ok result, fun _ => runs⟩
  | sinkIt message =>
      cases overflows : state.sink.overflows message with
      | false =>
          have result := sinkIt_of_fits ready.opened overflows now fault
          refine Or.inl ⟨_, _, rfl, ?_, ?_⟩
          · simp only [step, result, Sink.sinkIt, overflows]
            rfl
          · intro rotates
            exact absurd (overflows.symm.trans rotates) Bool.false_ne_true
      | true =>
          have entered := sinkIt_of_overflows ready.opened overflows now fault
          rcases rotation with
            ⟨fails, result⟩ | ⟨done, stops, result⟩ | ⟨runs, result⟩
          · refine Or.inr (Or.inl ⟨overflows, fails, ?_⟩)
            simp only [step, entered, result, if_true]
          · refine Or.inr (Or.inr ⟨overflows, done, stops, ?_⟩)
            simp only [step, entered, result, if_true]
          · refine Or.inl ⟨_, _, rfl, ?_, fun _ => runs⟩
            simp only [step, entered, result, Sink.sinkIt, overflows, if_true]
            rfl

theorem Ready.of_step {sink next : Sink} {input : Call × Nat}
    {replaced : Option LogFile}
    (stepped : Sink.step sink input = .ok (next, replaced)) :
    Ready ⟨next, true⟩ := by
  refine ⟨rfl, ?_⟩
  obtain ⟨call, now⟩ := input
  cases stepped
  cases call with
  | rotateNow => exact Directory.exists_find?_openFile _ _ _
  | sinkIt message =>
      cases overflows : sink.overflows message with
      | true =>
          simp only [Sink.sinkIt, overflows, if_true]
          exact Directory.exists_find?_appendLine _ _ _ _
      | false =>
          simp only [Sink.sinkIt, overflows]
          exact Directory.exists_find?_appendLine _ _ _ _

theorem Ready.truncate (sink : Sink) (now : Nat) :
    Ready ⟨sink.truncate now, true⟩ :=
  ⟨rfl, _, Directory.find?_put_self⟩

theorem wrote_of_step {sink next : Sink} {message : Message} {now : Nat}
    {replaced : Option LogFile}
    (stepped : Sink.step sink (.sinkIt message, now) = .ok (next, replaced)) :
    Wrote ⟨next, true⟩ message := by
  cases stepped
  cases overflows : sink.overflows message with
  | true =>
      simp only [Sink.sinkIt, overflows, if_true]
      exact ⟨_, Directory.linesAt_appendLine _ _ _ _⟩
  | false =>
      simp only [Sink.sinkIt, overflows]
      exact ⟨_, Directory.linesAt_appendLine _ _ _ _⟩

theorem messages_truncate (state : FileSink) (now : Nat) :
    messages ⟨state.sink.truncate now, true⟩ +
        Multiset.filter (· ≠ []) (state.sink.directory.linesAt
          state.sink.settings.baseEntry : Multiset Message) =
      state.messages := by
  have own := state.sink.settings.isOwn_baseEntry
  have placed := Directory.content_put
    (state.sink.directory.restrict state.sink.settings.isOwn)
    { name := state.sink.settings.baseEntry, written := now, lines := [] }
  rw [← Directory.restrict_put own] at placed
  have seen : (state.sink.directory.restrict
      state.sink.settings.isOwn).linesAt state.sink.settings.baseEntry =
      state.sink.directory.linesAt state.sink.settings.baseEntry := by
    unfold Directory.linesAt
    rw [Directory.find?_restrict own]
  rw [seen, Multiset.coe_nil, add_zero] at placed
  unfold messages
  rw [← placed, Multiset.filter_add]
  rfl

theorem messages_le_truncate_iff (state : FileSink) (now : Nat) :
    state.messages ≤ messages ⟨state.sink.truncate now, true⟩ ↔
      state.sink.fileSize = 0 := by
  have taken := messages_truncate state now
  have size : state.sink.fileSize = 0 ↔
      Multiset.filter (· ≠ []) (state.sink.directory.linesAt
        state.sink.settings.baseEntry : Multiset Message) = 0 := by
    unfold Sink.fileSize
    rw [Multiset.filter_eq_nil, List.sum_eq_zero_iff_forall_eq_nat]
    simp
  rw [size, ← taken]
  constructor
  · intro kept
    have counted := Multiset.card_le_card kept
    rw [Multiset.card_add] at counted
    apply Multiset.card_eq_zero.mp
    omega
  · intro nothing
    rw [nothing, add_zero]

/-- In a sink that is ready a call costs nothing exactly when no rotation fails
that has a message to lose. -/
theorem Ready.costsNothing_iff (ready : state.Ready) (attempt : Attempt) :
    state.CostsNothing attempt (state.step attempt) ↔
      state.FailsHarmlessly attempt (state.step attempt) := by
  rcases ready.step_cases attempt with
    ⟨next, replaced, stepped, result, runs⟩ | ⟨rotates, fails, result⟩ |
      ⟨rotates, done, stops, result⟩
  · rw [result]
    constructor
    · intro _ rotates
      obtain ⟨renames, retains⟩ := runs rotates
      exact ⟨fun fails => absurd fails renames, retains⟩
    · intro _ reached threw returned
      cases returned
      refine ⟨?_, ?_⟩
      · intro threw
        cases threw
      · intro _ message called
        rw [called] at stepped
        exact wrote_of_step stepped
  · rw [result]
    constructor
    · intro costs _
      obtain ⟨_, _, _, kept⟩ := (costs _ _ rfl).1 rfl
      refine ⟨fun _ => (messages_le_truncate_iff state _).mp kept, ?_⟩
      rw [fails]
      rfl
    · intro harmless reached threw returned
      cases returned
      refine ⟨?_, ?_⟩
      · intro _
        have empty := (harmless rotates).1 fails
        refine ⟨?_, rfl, ?_, (messages_le_truncate_iff state _).mpr empty⟩
        · rw [fails]
          exact Option.some_ne_none _
        · have cleared : (state.sink.truncate attempt.now).directory.linesAt
              state.sink.settings.baseEntry = [] :=
            Directory.linesAt_put_self
          rw [Sink.fileSize_eq_length]
          exact congrArg (fun lines => lines.flatten.length) cleared.symm
      · intro returned
        cases returned
  · rw [result]
    constructor
    · intro costs
      obtain ⟨_, opened, _⟩ := (costs _ _ rfl).1 rfl
      cases opened
    · intro harmless
      have runs := (harmless rotates).2
      rw [stops] at runs
      cases runs

theorem Ready.of_costsNothing (ready : state.Ready) {next : FileSink}
    {threw : Bool} (costs : state.CostsNothing attempt (state.step attempt))
    (stepped : state.step attempt = .ok (next, threw)) : next.Ready := by
  rcases ready.step_cases attempt with
    ⟨_, _, returned, result, _⟩ | ⟨_, _, result⟩ | ⟨_, _, _, result⟩
  · rw [stepped] at result
    cases result
    exact Ready.of_step returned
  · rw [stepped] at result
    cases result
    exact Ready.truncate _ _
  · obtain ⟨_, opened, _⟩ := (costs next threw stepped).1 (by
      rw [stepped] at result
      cases result
      rfl)
    rw [stepped] at result
    cases result
    cases opened

end

theorem Ready.of_construct {settings : Settings} {rotateOnOpen : Bool}
    {now : Nat} {directory : Directory String Message} {sink : Sink}
    {replaced : Option LogFile}
    (constructed : Sink.construct settings rotateOnOpen now directory =
      .ok (sink, replaced)) : Ready ⟨sink, true⟩ := by
  refine ⟨rfl, ?_⟩
  rcases Sink.construct_cases constructed with ⟨_, same, _⟩ | ⟨_, same, _⟩
  · rw [same]
    exact Directory.exists_find?_openFile _ _ _
  · rw [same]
    exact Directory.exists_find?_openFile _ _ _

/-- Over any sequence of calls and failing operations, every exception leaves
the sink as it should and every message is written, if and only if rotations
fail at their rename only, and only with an empty base file. -/
theorem costNothing_iff (settings : Settings) (rotateOnOpen : Bool) (now : Nat)
    (directory : Directory String Message) (attempts : List Attempt) :
    CostNothing settings rotateOnOpen now directory attempts ↔
      AllHarmless settings rotateOnOpen now directory attempts := by
  have runs : ∀ state : FileSink, state.Ready →
      (EachStep step CostsNothing state attempts ↔
        EachStep step FailsHarmlessly state attempts) := by
    intro state ready
    apply eachStep_congr Ready
    · intro state attempt next threw ready costs stepped
      exact ready.of_costsNothing costs stepped
    · intro state attempt ready
      exact ready.costsNothing_iff attempt
    · exact ready
  constructor
  · intro costs sink replaced constructed
    exact (runs _ (Ready.of_construct constructed)).mp
      (costs sink replaced constructed)
  · intro harmless sink replaced constructed
    exact (runs _ (Ready.of_construct constructed)).mpr
      (harmless sink replaced constructed)

/-- The directory cannot be read when the second message makes the sink rotate,
and nothing fails after that. -/
def unreadable : List Attempt :=
  [⟨.sinkIt [65, 65], 0, none⟩, ⟨.sinkIt [66, 66], 1, some .iteration⟩,
    ⟨.sinkIt [67], 2, none⟩, ⟨.sinkIt [68], 3, none⟩]

/-- The rename fails when the second message makes the sink rotate. -/
def unrenamable : List Attempt :=
  [⟨.sinkIt [65, 65], 0, none⟩, ⟨.sinkIt [66, 66], 1, some .rename⟩]

/-- After the first failure the file stays closed and the next message is
dropped; the second failure takes the message before it. -/
theorem failedRotations_cost :
    ∃ sink closed cleared,
      Sink.construct Sink.smallSettings false 0 ⟨[], List.nodup_nil⟩ =
        .ok (sink, none) ∧
      run step ⟨sink, true⟩ unreadable = .ok closed ∧
      closed.isOpen = false ∧ closed.messages = {[65, 65]} ∧
      run step ⟨sink, true⟩ unrenamable = .ok cleared ∧
      cleared.messages = 0 ∧
      ¬CostNothing Sink.smallSettings false 0 ⟨[], List.nodup_nil⟩
        unreadable ∧
      ¬CostNothing Sink.smallSettings false 0 ⟨[], List.nodup_nil⟩
        unrenamable := by
  refine ⟨_, _, _, rfl, rfl, rfl, ?_, rfl, ?_, ?_, ?_⟩
  · decide
  · decide
  · intro costs
    obtain ⟨_, each⟩ := costs _ _ rfl
    obtain ⟨second, _⟩ := each _ _ rfl
    obtain ⟨_, opened, _⟩ := (second _ _ rfl).1 rfl
    cases opened
  · intro costs
    obtain ⟨_, each⟩ := costs _ _ rfl
    obtain ⟨second, _⟩ := each _ _ rfl
    obtain ⟨_, _, _, kept⟩ := (second _ _ rfl).1 rfl
    revert kept
    decide

end FileSink

end DataGateway.Log
