import DataGateway.Log.Retention

/-!
# The size that the sink keeps

`current_size_` stands for the length of the base file, so that `sink_it_` need
not ask for it.  A rotation sets it to zero although it opens the base file
without truncating it, as `spdlog`'s own rotating sink does: it relies on the
rename having moved the file away.
-/

namespace DataGateway.Log

open Foundation

namespace Settings

/-- The oldest of the files that the retention recognises, as many as there are
too many. -/
def surplus (settings : Settings) (directory : Directory String Message) :
    List LogFile :=
  (settings.sorter.sort (settings.recognised directory)).take
    ((settings.recognised directory).length - settings.maxFiles)

section

variable {settings : Settings} {directory : Directory String Message}
  {filename : String}

private theorem find?_retain_of_surplus {file : LogFile}
    (surplus : file ∈ settings.surplus directory) :
    (settings.retain directory).2.find? file.name = none := by
  have deleted : file ∈ (settings.retain directory).1 := by
    rw [retain_deleted]
    exact surplus
  apply Directory.find?_eq_none_iff.mpr
  intro other stays
  exact (mem_deleteOldest.mp stays).2 file deleted

private theorem find?_retain_of_kept
    (kept : ∀ file ∈ settings.surplus directory, file.name ≠ filename) :
    (settings.retain directory).2.find? filename =
      directory.find? filename := by
  cases found : directory.find? filename with
  | none =>
      apply Directory.find?_eq_none_iff.mpr
      intro file stays
      exact Directory.find?_eq_none_iff.mp found file (mem_retain.mp stays).1
  | some file =>
      obtain ⟨stored, named⟩ := Directory.find?_eq_some_iff.mp found
      apply Directory.find?_eq_some_iff.mpr
      refine ⟨mem_retain.mpr ⟨stored, ?_⟩, named⟩
      intro deleted
      rw [retain_deleted] at deleted
      exact kept file deleted named

end

end Settings

namespace Sink

section

variable (sink : Sink)

/-- After a message the base file is within the limit, or it is that message. -/
def WithinLimit : Call → Prop
  | .sinkIt message =>
      sink.fileSize ≤ sink.settings.maxSize ∨
        (sink.directory.linesAt sink.settings.baseEntry).flatten = message
  | .rotateNow => True

/-- A call leaves the size exact and the limit observed. -/
def KeepsSize (_ : Sink) (input : Call × Nat)
    (result : Except Empty (Sink × Option LogFile)) : Prop :=
  ∀ next replaced, result = .ok (next, replaced) →
    next.currentSize = next.fileSize ∧ next.WithinLimit input.1

/-- Where a rotation gives the base file its own name, the file is empty or one
of those that the retention deletes. -/
def RotatesAway (now : Nat) : Prop :=
  sink.settings.rotatedFilename now = sink.settings.baseEntry →
    sink.fileSize = 0 ∨
      ∃ file ∈ sink.settings.surplus sink.directory,
        file.name = sink.settings.baseEntry

def CallRotatesAway (input : Call × Nat)
    (_ : Except Empty (Sink × Option LogFile)) : Prop :=
  input.1.rotates sink = true → sink.RotatesAway input.2

end

/-- From the constructor on, every call keeps the size exact and observes the
limit. -/
def SizesExact (settings : Settings) (rotateOnOpen : Bool) (now : Nat)
    (directory : Directory String Message) (calls : List (Call × Nat)) : Prop :=
  ∀ sink replaced,
    construct settings rotateOnOpen now directory = .ok (sink, replaced) →
    sink.currentSize = sink.fileSize ∧ EachStep step KeepsSize sink calls

/-- Every rotation, that of the constructor included, moves the base file away. -/
def RotationsMoveAway (settings : Settings) (rotateOnOpen : Bool) (now : Nat)
    (directory : Directory String Message) (calls : List (Call × Nat)) : Prop :=
  ∀ sink replaced,
    construct settings rotateOnOpen now directory = .ok (sink, replaced) →
    (rotateOnOpen = true →
      0 < (openBase settings now directory).currentSize →
      (openBase settings now directory).RotatesAway now) ∧
    EachStep step CallRotatesAway sink calls

section

variable {sink : Sink} {now : Nat}

theorem fileSize_eq_length (sink : Sink) :
    sink.fileSize = (sink.directory.linesAt
      sink.settings.baseEntry).flatten.length :=
  List.length_flatten.symm

theorem write_fileSize (sink : Sink) (message : Message) (now newSize : Nat) :
    (sink.write message now newSize).fileSize =
      sink.fileSize + message.length := by
  simp [fileSize, write, Directory.linesAt_appendLine]

theorem write_alone (empty : sink.fileSize = 0) (message : Message)
    (now newSize : Nat) :
    ((sink.write message now newSize).directory.linesAt
      sink.settings.baseEntry).flatten = message := by
  rw [fileSize_eq_length, List.length_eq_zero_iff] at empty
  simp only [write, Directory.linesAt_appendLine, List.flatten_append, empty]
  simp

theorem rotate_linesAt_of_ne
    (different :
      sink.settings.rotatedFilename now ≠ sink.settings.baseEntry) :
    (sink.rotate now).directory.linesAt sink.settings.baseEntry = [] := by
  have away : (sink.renamed now).find? sink.settings.baseEntry = none :=
    Directory.find?_rename_source (Ne.symm different)
  have absent : (sink.settings.retain (sink.renamed now)).2.find?
      sink.settings.baseEntry = none := by
    apply Directory.find?_eq_none_iff.mpr
    intro file stays
    exact Directory.find?_eq_none_iff.mp away file
      (Settings.mem_retain.mp stays).1
  rw [(sink.rotate_retains now).1, Directory.linesAt_openFile]
  exact Directory.linesAt_of_find?_eq_none absent

theorem rotate_linesAt_of_surplus {file : LogFile}
    (same : sink.settings.rotatedFilename now = sink.settings.baseEntry)
    (surplus : file ∈ sink.settings.surplus sink.directory)
    (named : file.name = sink.settings.baseEntry) :
    (sink.rotate now).directory.linesAt sink.settings.baseEntry = [] := by
  have absent := Settings.find?_retain_of_surplus surplus
  rw [(sink.rotate_retains now).1, Directory.linesAt_openFile, renamed, same,
    Directory.rename_self, ← named]
  exact Directory.linesAt_of_find?_eq_none absent

private theorem rotate_linesAt_of_kept
    (same : sink.settings.rotatedFilename now = sink.settings.baseEntry)
    (kept : ∀ file ∈ sink.settings.surplus sink.directory,
      file.name ≠ sink.settings.baseEntry) :
    (sink.rotate now).directory.linesAt sink.settings.baseEntry =
      sink.directory.linesAt sink.settings.baseEntry := by
  rw [(sink.rotate_retains now).1, Directory.linesAt_openFile, renamed, same,
    Directory.rename_self]
  unfold Directory.linesAt
  rw [Settings.find?_retain_of_kept kept]

theorem rotate_fileSize_eq_zero_iff :
    (sink.rotate now).fileSize = 0 ↔ sink.RotatesAway now := by
  by_cases same :
      sink.settings.rotatedFilename now = sink.settings.baseEntry
  · by_cases deleted : ∃ file ∈ sink.settings.surplus sink.directory,
        file.name = sink.settings.baseEntry
    · obtain ⟨file, surplus, named⟩ := deleted
      constructor
      · intro _ _
        exact Or.inr ⟨file, surplus, named⟩
      · intro _
        have empty := rotate_linesAt_of_surplus same surplus named
        rw [fileSize_eq_length]
        exact congrArg (fun lines => lines.flatten.length) empty
    · have kept := rotate_linesAt_of_kept same (by
        intro file surplus named
        exact deleted ⟨file, surplus, named⟩)
      have size : (sink.rotate now).fileSize = sink.fileSize := by
        rw [fileSize_eq_length, fileSize_eq_length]
        exact congrArg (fun lines => lines.flatten.length) kept
      rw [size]
      constructor
      · intro empty _
        exact Or.inl empty
      · intro away
        exact (away same).resolve_right deleted
  · constructor
    · intro _ equal
      exact absurd equal same
    · intro _
      have empty := rotate_linesAt_of_ne same
      rw [fileSize_eq_length]
      exact congrArg (fun lines => lines.flatten.length) empty

theorem write_keepsSize (exact : sink.currentSize = sink.fileSize)
    {message : Message} (fits : sink.overflows message = false) :
    (sink.write message now (sink.currentSize + message.length)).currentSize =
        (sink.write message now
          (sink.currentSize + message.length)).fileSize ∧
      (sink.write message now
        (sink.currentSize + message.length)).WithinLimit
          (.sinkIt message) := by
  refine ⟨?_, ?_⟩
  · rw [write_fileSize, ← exact]
    rfl
  · by_cases empty : sink.fileSize = 0
    · exact Or.inr (write_alone empty message now _)
    · apply Or.inl
      rw [write_fileSize, ← exact]
      simp only [overflows, Bool.and_eq_false_iff, decide_eq_false_iff_not]
        at fits
      rcases fits with fits | none
      · exact Nat.not_lt.mp fits
      · omega

/-- From an exact size a call keeps it exact exactly when its rotation, if it
has one, moves the base file away. -/
theorem keepsSize_iff (exact : sink.currentSize = sink.fileSize)
    (input : Call × Nat) :
    sink.KeepsSize input (sink.step input) ↔
      sink.CallRotatesAway input (sink.step input) := by
  obtain ⟨call, now⟩ := input
  cases call with
  | rotateNow =>
      constructor
      · intro keeps _
        apply rotate_fileSize_eq_zero_iff.mp
        exact (keeps _ _ rfl).1.symm
      · intro away next replaced returned
        cases returned
        refine ⟨?_, trivial⟩
        exact (rotate_fileSize_eq_zero_iff.mpr (away rfl)).symm
  | sinkIt message =>
      cases overflows : sink.overflows message with
      | false =>
          constructor
          · intro _ rotates
            exact absurd (overflows.symm.trans rotates) Bool.false_ne_true
          · intro _ next replaced returned
            simp only [step, sinkIt, overflows] at returned
            cases returned
            exact write_keepsSize exact overflows
      | true =>
          constructor
          · intro keeps _
            simp only [KeepsSize, step, sinkIt, overflows, if_true] at keeps
            have size : message.length =
                (sink.rotate now).fileSize + message.length := by
              rw [← write_fileSize]
              exact (keeps _ _ rfl).1
            have empty : (sink.rotate now).fileSize = 0 := by omega
            exact rotate_fileSize_eq_zero_iff.mp empty
          · intro away next replaced returned
            have empty := rotate_fileSize_eq_zero_iff.mpr (away overflows)
            simp only [step, sinkIt, overflows, if_true] at returned
            cases returned
            refine ⟨?_, Or.inr (write_alone empty message now _)⟩
            rw [write_fileSize, empty, Nat.zero_add]
            rfl

end

/-- Over any sequence of calls the sink knows the length of its file and keeps
it within the limit, if and only if every rotation moves the file away. -/
theorem sizesExact_iff (settings : Settings) (rotateOnOpen : Bool) (now : Nat)
    (directory : Directory String Message) (calls : List (Call × Nat)) :
    SizesExact settings rotateOnOpen now directory calls ↔
      RotationsMoveAway settings rotateOnOpen now directory calls := by
  have runs : ∀ sink : Sink, sink.currentSize = sink.fileSize →
      (EachStep step KeepsSize sink calls ↔
        EachStep step CallRotatesAway sink calls) := by
    intro sink exact
    apply eachStep_congr (fun sink => sink.currentSize = sink.fileSize)
    · intro state input next replaced _ keeps returned
      exact (keeps next replaced returned).1
    · intro state input exact
      exact keepsSize_iff exact input
    · exact exact
  have opens : (openBase settings now directory).currentSize =
      (openBase settings now directory).fileSize := rfl
  constructor
  · intro exacts sink replaced constructed
    obtain ⟨exact, each⟩ := exacts sink replaced constructed
    refine ⟨?_, (runs sink exact).mp each⟩
    intro rotates positive
    rcases construct_cases constructed with ⟨_, same, _⟩ | ⟨stays, _, _⟩
    · rw [same] at exact
      exact rotate_fileSize_eq_zero_iff.mp exact.symm
    · exact absurd ⟨rotates, positive⟩ stays
  · intro away sink replaced constructed
    obtain ⟨opening, each⟩ := away sink replaced constructed
    have exact : sink.currentSize = sink.fileSize := by
      rcases construct_cases constructed with
        ⟨rotates, same, _⟩ | ⟨_, same, _⟩
      · have empty := rotate_fileSize_eq_zero_iff.mpr
          (opening rotates.1 rotates.2)
        rw [same]
        exact empty.symm
      · rw [same]
        exact opens
    exact ⟨exact, (runs sink exact).mpr each⟩

/-- A log file named after the process and the second at which it starts. -/
def startSettings : Settings :=
  { baseFilename := "log/gateway_20250608_120000.log"
    maxSize := 3
    maxFiles := 5
    processName := "gateway"
    putTime := Settings.putTimeOfDay
    sorter := insertionSorter }

/-- Two messages within the second of the start. -/
def startCalls : List (Call × Nat) :=
  [(.sinkIt [65, 65], 43200000), (.sinkIt [66, 66], 43200500)]

/-- The rotation leaves the first message in the base file, which is then four
bytes long, over the limit, and by the sink's account only two. -/
theorem startCalls_exceed :
    ∃ sink final,
      construct startSettings false 43200000 ⟨[], List.nodup_nil⟩ =
        .ok (sink, none) ∧
      run step sink startCalls = .ok final ∧
      final.currentSize = 2 ∧ final.fileSize = 4 ∧
      ¬SizesExact startSettings false 43200000 ⟨[], List.nodup_nil⟩
        startCalls := by
  refine ⟨_, _, rfl, rfl, ?_, ?_, ?_⟩
  · decide
  · decide
  · intro exacts
    obtain ⟨_, each⟩ := exacts _ _ rfl
    obtain ⟨_, each⟩ := each
    obtain ⟨last, _⟩ := each _ _ rfl
    have size := (last _ _ rfl).1
    revert size
    decide

end Sink

end DataGateway.Log
