import DataGateway.Foundation.Directory
import DataGateway.Foundation.Runs
import Mathlib.Data.List.Sort

/-!
# The rotating file sink

`custom_rotating_file_sink` (`common/log/custom_rotating_file_sink-inl.h`) on
the directory of its base file.  A rotation renames the base file after the
process and the second at which it happens, so two rotations within one second
have the same target.  The directory is that of `base_path.parent_path()`, or the
current one where this is empty, and its files go by their names in it.
-/

namespace DataGateway.Log

open Foundation

abbrev Message := List UInt8

abbrev LogFile := StoredFile String Message

/-- `std::sort` by `last_write_time`. -/
structure WriteTimeSort where
  sort : List LogFile → List LogFile
  perm : ∀ files, (sort files).Perm files
  sorted : ∀ files,
    (sort files).Pairwise (fun first second => first.written ≤ second.written)

/-- A `std::filesystem::path` as its `parent_path()` and its `filename()`. -/
structure Path where
  parentPath : String
  filename : String
  deriving DecidableEq

/-- The separators before the name do not belong to the directory unless they are
all of it. -/
def Path.ofString (path : String) : Path :=
  let reversed := path.toList.reverse
  let before := reversed.dropWhile (· ≠ '/')
  let directory :=
    if before.all (· == '/') then before.take 1 else before.dropWhile (· = '/')
  { parentPath := String.ofList directory.reverse
    filename := String.ofList (reversed.takeWhile (· ≠ '/')).reverse }

example : Path.ofString "log/myapp.log" = ⟨"log", "myapp.log"⟩ := by decide

/-- The arguments of the constructor, the name of the process and what
`put_time` makes of a local time. -/
structure Settings where
  baseFilename : String
  maxSize : Nat
  maxFiles : Nat
  processName : String
  putTime : Nat → String
  sorter : WriteTimeSort

namespace Settings

variable (settings : Settings)

/-- The clock counts milliseconds, `to_time_t` seconds. -/
def getTimestamp (now : Nat) : String := settings.putTime (now / 1000)

def basePath : Path := .ofString settings.baseFilename

/-- The base file in its directory. -/
def baseEntry : String := settings.basePath.filename

def rotatedFilename (now : Nat) : String :=
  settings.processName ++ "_" ++ settings.getTimestamp now ++ ".log"

/-- `new_filename`: the name alone where the base file has no directory, else in
the directory of the base file. -/
def newFilename (now : Nat) : Path :=
  { parentPath := settings.basePath.parentPath
    filename := settings.rotatedFilename now }

/-- The names that the retention collects.  In a name of three bytes `rfind`
finds no `.log`, and its `npos` equals the wrapped `length() - 4`. -/
def isRotated (filename : String) : Bool :=
  (settings.processName ++ "_").toList.isPrefixOf filename.toList &&
    (".log".toList.isSuffixOf filename.toList || filename.utf8ByteSize == 3)

/-- The names that the sink works with; other files may share its directory. -/
def isOwn (filename : String) : Bool :=
  filename == settings.baseEntry || settings.isRotated filename

end Settings

/-- A sink with its directory.  `removed` are the files that its retention has
deleted, and `given` the lines its files held at first and the messages passed
to it since. -/
structure Sink where
  settings : Settings
  currentSize : Nat
  directory : Directory String Message
  removed : List LogFile
  given : Multiset Message

/-- `while (files.size() > max_files_)`, on the sorted files. -/
def deleteOldest (maxFiles : Nat) :
    List LogFile → Directory String Message →
      List LogFile × Directory String Message
  | [], directory => ([], directory)
  | oldest :: files, directory =>
      if maxFiles < files.length + 1 then
        let rest := deleteOldest maxFiles files (directory.remove oldest.name)
        (oldest :: rest.1, rest.2)
      else ([], directory)

namespace Sink

variable (sink : Sink)

/-- `file_helper_.size()`. -/
def fileSize : Nat :=
  ((sink.directory.linesAt sink.settings.baseEntry).map List.length).sum

/-- The file that the rename of a rotation replaces. -/
def replaced (now : Nat) : Option LogFile :=
  if sink.settings.newFilename now = sink.settings.basePath then none
  else sink.directory.find? (sink.settings.newFilename now).filename

/-- `rotate_`, where every file operation succeeds. -/
def rotate (now : Nat) : Sink :=
  let renamed := sink.directory.rename sink.settings.basePath.filename
    (sink.settings.newFilename now).filename
  let files := renamed.files.filter (sink.settings.isRotated ·.name)
  let retained := deleteOldest sink.settings.maxFiles
    (sink.settings.sorter.sort files) renamed
  { sink with
    currentSize := 0
    directory := retained.2.openFile sink.settings.baseEntry now
    removed := retained.1 ++ sink.removed }

/-- `file_helper_.write(formatted); current_size_ = new_size`. -/
def write (message : Message) (now newSize : Nat) : Sink :=
  { sink with
    currentSize := newSize
    directory :=
      sink.directory.appendLine sink.settings.baseEntry now message
    given := sink.given + {message} }

/-- The message does not fit into a base file that has something in it. -/
def overflows (message : Message) : Bool :=
  sink.settings.maxSize < sink.currentSize + message.length &&
    0 < sink.fileSize

def sinkIt (message : Message) (now : Nat) : Sink :=
  if sink.overflows message then
    (sink.rotate now).write message now message.length
  else sink.write message now (sink.currentSize + message.length)

end Sink

inductive Call
  | sinkIt (message : Message)
  | rotateNow

namespace Call

/-- The lines that a call passes to the sink. -/
def lines : Call → Multiset Message
  | .sinkIt message => {message}
  | .rotateNow => 0

def rotates (sink : Sink) : Call → Bool
  | .sinkIt message => sink.overflows message
  | .rotateNow => true

end Call

namespace Sink

/-- A call at a point in time; it returns the file that a rotation replaced. -/
def step (sink : Sink) (input : Call × Nat) :
    Except Empty (Sink × Option LogFile) :=
  .ok
    (match input.1 with
      | .sinkIt message => sink.sinkIt message input.2
      | .rotateNow => sink.rotate input.2,
    if input.1.rotates sink then sink.replaced input.2 else none)

/-- `file_helper_.open(base_filename_)`, which creates the file if need be. -/
def openBase (settings : Settings) (now : Nat)
    (directory : Directory String Message) : Sink :=
  let opened := directory.openFile settings.baseEntry now
  { settings := settings
    currentSize :=
      ((opened.linesAt settings.baseEntry).map List.length).sum
    directory := opened
    removed := []
    given := (directory.restrict settings.isOwn).content }

def construct (settings : Settings) (rotateOnOpen : Bool) (now : Nat)
    (directory : Directory String Message) :
    Except String (Sink × Option LogFile) :=
  if settings.maxSize = 0 then
    .error "rotating sink constructor: max_size arg cannot be zero"
  else if 200000 < settings.maxFiles then
    .error "rotating sink constructor: max_files arg cannot exceed 200000"
  else
    let opened := openBase settings now directory
    if rotateOnOpen && 0 < opened.currentSize then
      .ok (opened.rotate now, opened.replaced now)
    else .ok (opened, none)

/-- Every line given to the sink is once in the base file, in a rotated file,
or in a file that the retention removed. -/
def Whole (sink : Sink) : Prop :=
  (sink.directory.restrict sink.settings.isOwn).content +
    Directory.linesOf sink.removed = sink.given

/-- The retention removes rotated files only, and none that is younger than one
that it leaves. -/
def RemovesOldest (sink next : Sink) : Prop :=
  ∃ deleted, next.removed = deleted ++ sink.removed ∧
    ∀ file ∈ deleted, sink.settings.isRotated file.name = true ∧
      ∀ other ∈ next.directory.files,
        other.name ≠ sink.settings.baseEntry →
        sink.settings.isRotated other.name = true →
        file.written ≤ other.written

/-- What a call does to the lines: those passed to it join the others, none is
lost except by the retention, and no file is replaced. -/
def Keeps (sink : Sink) (input : Call × Nat)
    (result : Except Empty (Sink × Option LogFile)) : Prop :=
  ∃ next, result = .ok (next, none) ∧ next.Whole ∧
    next.given = sink.given + input.1.lines ∧ sink.RemovesOldest next

def LosesNoLine (settings : Settings) (rotateOnOpen : Bool) (now : Nat)
    (directory : Directory String Message) (calls : List (Call × Nat)) : Prop :=
  ∀ sink replaced,
    construct settings rotateOnOpen now directory = .ok (sink, replaced) →
    replaced = none ∧ sink.Whole ∧
      sink.given = (directory.restrict settings.isOwn).content ∧
      EachStep step Keeps sink calls

/-- No other file has the name that a rotation gives to the base file. -/
def FreshName (sink : Sink) (now : Nat) : Prop :=
  sink.settings.rotatedFilename now ≠ sink.settings.baseEntry →
    ∀ file ∈ sink.directory.files,
      file.name ≠ sink.settings.rotatedFilename now

def RotatesFresh (sink : Sink) (input : Call × Nat)
    (_ : Except Empty (Sink × Option LogFile)) : Prop :=
  input.1.rotates sink = true → sink.FreshName input.2

/-- The rotation that the constructor may begin with has a fresh name too. -/
def FreshNames (settings : Settings) (rotateOnOpen : Bool) (now : Nat)
    (directory : Directory String Message) (calls : List (Call × Nat)) : Prop :=
  ∀ sink replaced,
    construct settings rotateOnOpen now directory = .ok (sink, replaced) →
    (rotateOnOpen = true →
      0 < (openBase settings now directory).currentSize →
      (openBase settings now directory).FreshName now) ∧
    EachStep step RotatesFresh sink calls

end Sink

theorem Settings.newFilename_eq_basePath_iff (settings : Settings) (now : Nat) :
    settings.newFilename now = settings.basePath ↔
      settings.rotatedFilename now = settings.baseEntry := by
  constructor
  · intro same
    exact congrArg Path.filename same
  · intro same
    exact congrArg (Path.mk settings.basePath.parentPath) same

theorem Settings.isOwn_baseEntry (settings : Settings) :
    settings.isOwn settings.baseEntry = true := by
  simp [isOwn]

theorem Settings.isRotated_rotatedFilename (settings : Settings) (now : Nat) :
    settings.isRotated (settings.rotatedFilename now) = true := by
  have prefixed : (settings.processName ++ "_").toList <+:
      (settings.rotatedFilename now).toList := by
    refine ⟨(settings.getTimestamp now ++ ".log").toList, ?_⟩
    simp [rotatedFilename]
  have suffixed : ".log".toList <:+
      (settings.rotatedFilename now).toList := by
    refine ⟨(settings.processName ++ "_" ++
      settings.getTimestamp now).toList, ?_⟩
    simp [rotatedFilename]
  unfold isRotated
  rw [List.isPrefixOf_iff_prefix.mpr prefixed,
    List.isSuffixOf_iff_suffix.mpr suffixed]
  rfl

theorem Settings.isOwn_of_isRotated {settings : Settings} {filename : String}
    (rotated : settings.isRotated filename = true) :
    settings.isOwn filename = true := by
  simp [isOwn, rotated]

section

variable {maxFiles : Nat} {files : List LogFile}
  {directory : Directory String Message}

theorem deleteOldest_append (maxFiles : Nat) (files : List LogFile)
    (directory : Directory String Message) :
    ∃ kept, files = (deleteOldest maxFiles files directory).1 ++ kept ∧
      kept.length ≤ maxFiles := by
  induction files generalizing directory with
  | nil => exact ⟨[], rfl, Nat.zero_le _⟩
  | cons oldest files induction =>
      by_cases exceeds : maxFiles < files.length + 1
      · obtain ⟨kept, split, bound⟩ := induction (directory.remove oldest.name)
        refine ⟨kept, ?_, bound⟩
        rw [deleteOldest, if_pos exceeds, List.cons_append, ← split]
      · refine ⟨oldest :: files, ?_, ?_⟩
        · rw [deleteOldest, if_neg exceeds]
          rfl
        · exact Nat.not_lt.mp exceeds

/-- Of files in the order of their times none is deleted that is younger than
one of those left. -/
theorem deleteOldest_written {file other : LogFile}
    (sorted : files.Pairwise
      (fun first second => first.written ≤ second.written))
    (deleted : file ∈ (deleteOldest maxFiles files directory).1)
    (considered : other ∈ files)
    (left : other ∉ (deleteOldest maxFiles files directory).1) :
    file.written ≤ other.written := by
  obtain ⟨kept, split, _⟩ := deleteOldest_append maxFiles files directory
  rw [split] at sorted considered
  rcases List.mem_append.mp considered with gone | keeps
  · exact absurd gone left
  · exact (List.pairwise_append.mp sorted).2.2 file deleted other keeps

theorem mem_of_deleteOldest {file : LogFile}
    (deleted : file ∈ (deleteOldest maxFiles files directory).1) :
    file ∈ files := by
  obtain ⟨kept, split, _⟩ := deleteOldest_append maxFiles files directory
  rw [split]
  exact List.mem_append_left kept deleted

theorem mem_deleteOldest {other : LogFile} :
    other ∈ (deleteOldest maxFiles files directory).2.files ↔
      other ∈ directory.files ∧
        ∀ file ∈ (deleteOldest maxFiles files directory).1,
          other.name ≠ file.name := by
  induction files generalizing directory with
  | nil => simp [deleteOldest]
  | cons oldest files induction =>
      by_cases exceeds : maxFiles < files.length + 1
      · rw [deleteOldest, if_pos exceeds]
        simp only [induction, Directory.mem_remove_iff, List.mem_cons,
          forall_eq_or_imp]
        tauto
      · simp [deleteOldest, exceeds]

theorem content_deleteOldest (maxFiles : Nat) {condition : String → Bool}
    (stored : ∀ file ∈ files, file ∈ directory.files)
    (distinct : (files.map StoredFile.name).Nodup)
    (holds : ∀ file ∈ files, condition file.name = true) :
    ((deleteOldest maxFiles files directory).2.restrict condition).content +
        Directory.linesOf (deleteOldest maxFiles files directory).1 =
      (directory.restrict condition).content := by
  induction files generalizing directory with
  | nil => simp [deleteOldest]
  | cons oldest files induction =>
      by_cases exceeds : maxFiles < files.length + 1
      · obtain ⟨fresh, distinct⟩ := List.nodup_cons.mp distinct
        have left : ∀ file ∈ files,
            file ∈ (directory.remove oldest.name).files := by
          intro file member
          apply Directory.mem_remove_iff.mpr
          refine ⟨stored file (List.mem_cons_of_mem _ member), ?_⟩
          intro same
          apply fresh
          rw [← same]
          exact List.mem_map_of_mem member
        have rest := induction left distinct
          (fun file member => holds file (List.mem_cons_of_mem _ member))
        have own : oldest ∈ (directory.restrict condition).files :=
          Directory.mem_restrict_iff.mpr
            ⟨stored oldest List.mem_cons_self, holds oldest List.mem_cons_self⟩
        rw [deleteOldest, if_pos exceeds, Directory.linesOf_cons,
          ← Directory.content_remove_of_mem own, ← Directory.restrict_remove,
          ← rest]
        abel
      · simp [deleteOldest, exceeds]

end

namespace Sink

section

variable {sink : Sink} {now : Nat}

theorem replaced_eq_none_iff : sink.replaced now = none ↔ sink.FreshName now := by
  unfold replaced FreshName
  simp only [Settings.newFilename_eq_basePath_iff]
  by_cases same :
      sink.settings.rotatedFilename now = sink.settings.baseEntry
  · simp [same]
  · simp [same, Settings.newFilename, Directory.find?_eq_none_iff]

/-- The directory when the retention of a rotation looks at it. -/
def renamed (sink : Sink) (now : Nat) : Directory String Message :=
  sink.directory.rename sink.settings.baseEntry
    (sink.settings.rotatedFilename now)

/-- The files that the retention of a rotation collects, oldest first. -/
def candidates (sink : Sink) (now : Nat) : List LogFile :=
  sink.settings.sorter.sort
    ((sink.renamed now).files.filter (sink.settings.isRotated ·.name))

theorem rotate_directory :
    (sink.rotate now).directory =
      (deleteOldest sink.settings.maxFiles (sink.candidates now)
        (sink.renamed now)).2.openFile sink.settings.baseEntry now := rfl

private theorem rotate_removed :
    (sink.rotate now).removed =
      (deleteOldest sink.settings.maxFiles (sink.candidates now)
        (sink.renamed now)).1 ++ sink.removed := rfl

theorem mem_candidates {file : LogFile} :
    file ∈ sink.candidates now ↔
      file ∈ (sink.renamed now).files ∧
      sink.settings.isRotated file.name = true := by
  unfold candidates
  rw [(sink.settings.sorter.perm _).mem_iff, List.mem_filter]

private theorem candidates_distinct :
    ((sink.candidates now).map StoredFile.name).Nodup := by
  unfold candidates
  rw [((sink.settings.sorter.perm _).map StoredFile.name).nodup_iff]
  exact (List.filter_sublist.map _).nodup (Directory.distinct _)

/-- A rotation to a fresh name loses nothing but what its retention removes. -/
theorem Whole.rotate (whole : sink.Whole) (fresh : sink.FreshName now) :
    (sink.rotate now).Whole := by
  have base := sink.settings.isOwn_baseEntry
  have target := Settings.isOwn_of_isRotated
    (sink.settings.isRotated_rotatedFilename now)
  have kept : ((sink.renamed now).restrict sink.settings.isOwn).content =
      (sink.directory.restrict sink.settings.isOwn).content := by
    rw [renamed, Directory.restrict_rename base target]
    apply Directory.content_rename
    intro different
    rw [Directory.find?_restrict target]
    exact Directory.find?_eq_none_iff.mpr (fresh different)
  have stored : ∀ file ∈ sink.candidates now,
      file ∈ (sink.renamed now).files :=
    fun file member => (mem_candidates.mp member).1
  have own : ∀ file ∈ sink.candidates now,
      sink.settings.isOwn file.name = true :=
    fun file member =>
      Settings.isOwn_of_isRotated (mem_candidates.mp member).2
  have retained := content_deleteOldest sink.settings.maxFiles stored
    candidates_distinct own
  unfold Whole at whole ⊢
  calc
    ((sink.rotate now).directory.restrict sink.settings.isOwn).content +
        Directory.linesOf (sink.rotate now).removed =
      ((sink.renamed now).restrict sink.settings.isOwn).content +
        Directory.linesOf sink.removed := by
          rw [rotate_directory, rotate_removed,
            Directory.restrict_openFile _ base, Directory.content_openFile,
            Directory.linesOf_append, ← retained, add_assoc]
    _ = sink.given := by rw [kept, whole]

private theorem rotate_removesOldest (sink : Sink) (now : Nat) :
    sink.RemovesOldest (sink.rotate now) := by
  refine ⟨_, rotate_removed, ?_⟩
  intro file deleted
  refine ⟨(mem_candidates.mp (mem_of_deleteOldest deleted)).2, ?_⟩
  intro other member different rotated
  rw [rotate_directory, Directory.mem_openFile different, mem_deleteOldest]
    at member
  obtain ⟨stored, left⟩ := member
  apply deleteOldest_written (sink.settings.sorter.sorted _) deleted
  · exact mem_candidates.mpr ⟨stored, rotated⟩
  · intro gone
    exact left other gone rfl

theorem Whole.write (whole : sink.Whole) (message : Message) (now newSize : Nat) :
    (sink.write message now newSize).Whole := by
  have appended := Directory.restrict_appendLine sink.directory
    sink.settings.isOwn_baseEntry now message
  unfold Whole at whole ⊢
  simp only [Sink.write, appended, Directory.content_appendLine, ← whole]
  abel

theorem RemovesOldest.write {next : Sink} (removes : sink.RemovesOldest next)
    (message : Message) (now newSize : Nat)
    (same : next.settings = sink.settings) :
    sink.RemovesOldest (next.write message now newSize) := by
  obtain ⟨deleted, removed, oldest⟩ := removes
  refine ⟨deleted, removed, ?_⟩
  intro file member
  refine ⟨(oldest file member).1, ?_⟩
  intro other stored different rotated
  apply (oldest file member).2 other ?_ different rotated
  rw [← same] at different
  exact (Directory.mem_appendLine different).mp stored

private theorem removesOldest_refl (sink : Sink) : sink.RemovesOldest sink := by
  refine ⟨[], rfl, ?_⟩
  intro file member
  cases member

theorem Whole.contained (whole : sink.Whole) {message : Message}
    (given : message ∈ sink.given) :
    (∃ file ∈ sink.directory.files, sink.settings.isOwn file.name = true ∧
      message ∈ file.lines) ∨ ∃ file ∈ sink.removed, message ∈ file.lines := by
  rw [← whole] at given
  rcases Multiset.mem_add.mp given with stored | removed
  · obtain ⟨file, member, inside⟩ := Directory.mem_linesOf_iff.mp stored
    obtain ⟨member, own⟩ := Directory.mem_restrict_iff.mp member
    exact Or.inl ⟨file, member, own, inside⟩
  · exact Or.inr (Directory.mem_linesOf_iff.mp removed)

/-- A call keeps every line, once its rotation has a fresh name. -/
theorem Whole.step (whole : sink.Whole) {call : Call}
    (fresh : call.rotates sink = true → sink.FreshName now) :
    sink.Keeps (call, now) (sink.step (call, now)) := by
  cases call with
  | rotateNow =>
      have name := fresh rfl
      refine ⟨sink.rotate now, ?_, whole.rotate name, ?_,
        rotate_removesOldest sink now⟩
      · simp [Sink.step, Call.rotates, replaced_eq_none_iff.mpr name]
      · exact (add_zero sink.given).symm
  | sinkIt message =>
      cases overflows : sink.overflows message with
      | true =>
          have name := fresh overflows
          refine ⟨(sink.rotate now).write message now message.length, ?_,
            (whole.rotate name).write _ _ _, rfl,
            (rotate_removesOldest sink now).write _ _ _ rfl⟩
          simp [Sink.step, Call.rotates, sinkIt, overflows,
            replaced_eq_none_iff.mpr name]
      | false =>
          refine ⟨sink.write message now (sink.currentSize + message.length),
            ?_, whole.write _ _ _, rfl,
            (removesOldest_refl sink).write _ _ _ rfl⟩
          simp [Sink.step, Call.rotates, sinkIt, overflows]

theorem Whole.keeps_iff (whole : sink.Whole) (input : Call × Nat) :
    sink.Keeps input (sink.step input) ↔
      sink.RotatesFresh input (sink.step input) := by
  constructor
  · intro keeps rotates
    obtain ⟨next, returned, _⟩ := keeps
    apply replaced_eq_none_iff.mp
    simp only [Sink.step, rotates, if_true, Except.ok.injEq, Prod.mk.injEq]
      at returned
    exact returned.2
  · intro fresh
    exact whole.step fresh

theorem openBase_whole (settings : Settings) (now : Nat)
    (directory : Directory String Message) :
    (openBase settings now directory).Whole := by
  have opened := Directory.restrict_openFile directory
    settings.isOwn_baseEntry now
  unfold Whole
  simp [openBase, opened, Directory.content_openFile]

end

section

variable {settings : Settings} {rotateOnOpen : Bool} {now : Nat}
  {directory : Directory String Message} {sink : Sink}
  {replaced : Option LogFile}

theorem construct_cases
    (constructed : construct settings rotateOnOpen now directory =
      .ok (sink, replaced)) :
    (rotateOnOpen = true ∧ 0 < (openBase settings now directory).currentSize) ∧
        sink = (openBase settings now directory).rotate now ∧
        replaced = (openBase settings now directory).replaced now ∨
      ¬(rotateOnOpen = true ∧
          0 < (openBase settings now directory).currentSize) ∧
        sink = openBase settings now directory ∧ replaced = none := by
  unfold construct at constructed
  split at constructed
  · cases constructed
  · split at constructed
    · cases constructed
    · dsimp only at constructed
      split at constructed
      · next rotates =>
          cases constructed
          exact Or.inl ⟨by simpa using rotates, rfl, rfl⟩
      · next stays =>
          cases constructed
          exact Or.inr ⟨by simpa using stays, rfl, rfl⟩

end

/-- Over any sequence of calls, beginning with the constructor, the sink loses
no line except by the retention, and replaces no file, if and only if no
rotation finds a file of the name that it gives to the base file. -/
theorem losesNoLine_iff (settings : Settings) (rotateOnOpen : Bool) (now : Nat)
    (directory : Directory String Message) (calls : List (Call × Nat)) :
    LosesNoLine settings rotateOnOpen now directory calls ↔
      FreshNames settings rotateOnOpen now directory calls := by
  have runs : ∀ sink : Sink, sink.Whole →
      (EachStep step Keeps sink calls ↔ EachStep step RotatesFresh sink calls) := by
    intro sink whole
    apply eachStep_congr Whole
    · intro state input next replaced _ keeps returned
      obtain ⟨kept, result, keptWhole, _⟩ := keeps
      cases result.symm.trans returned
      exact keptWhole
    · intro state input stateWhole
      exact stateWhole.keeps_iff input
    · exact whole
  have openedWhole := openBase_whole settings now directory
  constructor
  · intro loses sink replaced constructed
    obtain ⟨none, whole, _, each⟩ := loses sink replaced constructed
    refine ⟨?_, (runs sink whole).mp each⟩
    intro rotates positive
    rcases construct_cases constructed with ⟨_, _, same⟩ | ⟨stays, _, _⟩
    · apply replaced_eq_none_iff.mp
      rw [← same]
      exact none
    · exact absurd ⟨rotates, positive⟩ stays
  · intro fresh sink replaced constructed
    obtain ⟨opening, each⟩ := fresh sink replaced constructed
    have begins : replaced = none ∧ sink.Whole ∧
        sink.given = (directory.restrict settings.isOwn).content := by
      rcases construct_cases constructed with
        ⟨rotates, same, returned⟩ | ⟨_, same, returned⟩
      · have name := opening rotates.1 rotates.2
        rw [same, returned]
        exact ⟨replaced_eq_none_iff.mpr name, openedWhole.rotate name, rfl⟩
      · rw [same]
        exact ⟨returned, openedWhole, rfl⟩
    exact ⟨begins.1, begins.2.1, begins.2.2, (runs sink begins.2.1).mpr each⟩

section

variable {sink : Sink} {now : Nat} {name : String}

/-- The names in the directory of a sink. -/
def names (sink : Sink) : List String :=
  sink.directory.files.map StoredFile.name

theorem names_rotate (member : name ∈ (sink.rotate now).names) :
    name ∈ sink.names ∨ name = sink.settings.baseEntry ∨
      name = sink.settings.rotatedFilename now := by
  obtain ⟨file, stored, named⟩ := List.mem_map.mp member
  by_cases base : file.name = sink.settings.baseEntry
  · exact Or.inr (Or.inl (named.symm.trans base))
  · rw [rotate_directory, Directory.mem_openFile base, mem_deleteOldest]
      at stored
    rcases Directory.mem_rename stored.1 with same | earlier
    · exact Or.inr (Or.inr (named.symm.trans same))
    · exact Or.inl (List.mem_map.mpr ⟨file, earlier, named⟩)

private theorem names_write {message : Message} {newSize : Nat}
    (member : name ∈ (sink.write message now newSize).names) :
    name ∈ sink.names ∨ name = sink.settings.baseEntry := by
  obtain ⟨file, stored, named⟩ := List.mem_map.mp member
  by_cases base : file.name = sink.settings.baseEntry
  · exact Or.inr (named.symm.trans base)
  · have earlier := (Directory.mem_appendLine base).mp stored
    exact Or.inl (List.mem_map.mpr ⟨file, earlier, named⟩)

theorem names_step {next : Sink} {call : Call} {replaced : Option LogFile}
    (stepped : step sink (call, now) = .ok (next, replaced))
    (member : name ∈ next.names) :
    name ∈ sink.names ∨ name = sink.settings.baseEntry ∨
      name = sink.settings.rotatedFilename now := by
  cases stepped
  cases call with
  | rotateNow => exact names_rotate member
  | sinkIt message =>
      simp only [sinkIt] at member
      split at member
      · rcases names_write member with rotated | base
        · exact names_rotate rotated
        · exact Or.inr (Or.inl base)
      · rcases names_write member with earlier | base
        · exact Or.inl earlier
        · exact Or.inr (Or.inl base)

private theorem settings_step {next : Sink} {input : Call × Nat}
    {replaced : Option LogFile}
    (stepped : step sink input = .ok (next, replaced)) :
    next.settings = sink.settings := by
  cases stepped
  obtain ⟨call, now⟩ := input
  cases call with
  | rotateNow => rfl
  | sinkIt message =>
      simp only [sinkIt]
      split <;> rfl

/-- Calls at points in time that give different names, none of them in the
directory yet, rotate to fresh names. -/
theorem rotatesFresh_of_distinct {settings : Settings} (sink : Sink)
    (calls : List (Call × Nat)) (known : List String)
    (same : sink.settings = settings)
    (covered : ∀ name ∈ sink.names,
      name ∈ known ∨ name = settings.baseEntry)
    (distinct : (known ++ calls.map
      (fun input => settings.rotatedFilename input.2)).Nodup) :
    EachStep step RotatesFresh sink calls := by
  induction calls generalizing sink known with
  | nil => trivial
  | cons input calls induction =>
      obtain ⟨call, now⟩ := input
      rw [List.map_cons] at distinct
      refine ⟨?_, ?_⟩
      · intro _ different file member named
        rw [same] at different named
        rcases covered file.name (List.mem_map_of_mem member) with old | base
        · rw [named] at old
          exact (List.nodup_append.mp distinct).2.2 _ old _
            List.mem_cons_self rfl
        · exact different (named.symm.trans base)
      · intro next replaced stepped
        apply induction next (known ++ [settings.rotatedFilename now])
          ((settings_step stepped).trans same)
        · intro name member
          have origin := names_step stepped member
          rw [same] at origin
          rcases origin with old | base | new
          · rcases covered name old with known | base
            · exact Or.inl (List.mem_append_left _ known)
            · exact Or.inr base
          · exact Or.inr base
          · have target := List.mem_singleton.mpr new
            exact Or.inl (List.mem_append_right _ target)
        · rw [List.append_assoc]
          exact distinct

end

/-- Points in time whose names all differ, from each other and from the names
in the directory, are enough for the sink to lose no line. -/
theorem freshNames_of_distinct (settings : Settings) (rotateOnOpen : Bool)
    (now : Nat) (directory : Directory String Message)
    (calls : List (Call × Nat))
    (distinct : (directory.files.map StoredFile.name ++
      settings.rotatedFilename now ::
        calls.map (fun input => settings.rotatedFilename input.2)).Nodup) :
    FreshNames settings rotateOnOpen now directory calls := by
  have opened : ∀ name ∈ (openBase settings now directory).names,
      name ∈ directory.files.map StoredFile.name ∨
        name = settings.baseEntry := by
    intro name member
    obtain ⟨file, stored, named⟩ := List.mem_map.mp member
    by_cases base : file.name = settings.baseEntry
    · exact Or.inr (named.symm.trans base)
    · have earlier := (Directory.mem_openFile base).mp stored
      exact Or.inl (List.mem_map.mpr ⟨file, earlier, named⟩)
  intro sink replaced constructed
  refine ⟨?_, ?_⟩
  · intro _ _ different file member named
    rcases opened file.name (List.mem_map_of_mem member) with old | base
    · rw [named] at old
      exact (List.nodup_append.mp distinct).2.2 _ old _ List.mem_cons_self rfl
    · exact different (named.symm.trans base)
  · rw [List.append_cons] at distinct
    rcases construct_cases constructed with ⟨_, same, _⟩ | ⟨_, same, _⟩
    · apply rotatesFresh_of_distinct sink calls _ _ _ distinct
      · rw [same]
        rfl
      · intro name member
        rw [same] at member
        rcases names_rotate member with old | base | new
        · rcases opened name old with known | base
          · exact Or.inl (List.mem_append_left _ known)
          · exact Or.inr base
        · exact Or.inr base
        · have target : name ∈ [settings.rotatedFilename now] :=
            List.mem_singleton.mpr new
          exact Or.inl (List.mem_append_right _ target)
    · apply rotatesFresh_of_distinct sink calls _ _ _ distinct
      · rw [same]
        rfl
      · intro name member
        rw [same] at member
        rcases opened name member with known | base
        · exact Or.inl (List.mem_append_left _ known)
        · exact Or.inr base

def insertionSorter : WriteTimeSort :=
  { sort := List.insertionSort
      (fun first second => first.written ≤ second.written)
    perm := List.perm_insertionSort _
    sorted := by
      intro files
      have total : Std.Total (fun first second : LogFile =>
          first.written ≤ second.written) :=
        ⟨fun first second => Nat.le_total first.written second.written⟩
      have transitive : IsTrans LogFile (fun first second =>
          first.written ≤ second.written) :=
        ⟨fun _ _ _ => Nat.le_trans⟩
      exact List.pairwise_insertionSort _ files }

/-- A sink whose base file has room for one message of two bytes. -/
def smallSettings : Settings :=
  { baseFilename := "gateway.log"
    maxSize := 3
    maxFiles := 5
    processName := "gateway"
    putTime := fun _ => "20250608_120000"
    sorter := insertionSorter }

/-- Three messages within one second. -/
def burst : List (Call × Nat) :=
  [(.sinkIt [65, 65], 0), (.sinkIt [66, 66], 1), (.sinkIt [67, 67], 2)]

/-- The second rotation replaces the file of the first one, and the first
message is gone without the retention having removed anything. -/
theorem burst_loses :
    ∃ sink final, construct smallSettings false 0 ⟨[], List.nodup_nil⟩ =
        .ok (sink, none) ∧
      run step sink burst = .ok final ∧
      [65, 65] ∈ final.given ∧ final.removed = [] ∧
      final.directory.files.map StoredFile.lines = [[[67, 67]], [[66, 66]]] ∧
      ¬LosesNoLine smallSettings false 0 ⟨[], List.nodup_nil⟩ burst := by
  refine ⟨_, _, rfl, rfl, ?_, rfl, rfl, ?_⟩
  · decide
  · intro loses
    obtain ⟨_, _, _, each⟩ := loses _ _ rfl
    obtain ⟨_, each⟩ := each
    obtain ⟨_, each⟩ := each _ _ rfl
    obtain ⟨next, returned, _⟩ := (each _ _ rfl).1
    cases returned

end Sink

end DataGateway.Log
