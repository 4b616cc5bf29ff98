import DataGateway.Log.RotatingFileSink

/-!
# What the retention deletes

The retention of `rotate_` recognises the files of the sink by the beginning
and the end of their names, and deletes the oldest of those it has recognised.
Another program whose files bear such names shares the quota with the sink.
-/

namespace DataGateway.Log

open Foundation

namespace Settings

section

variable (settings : Settings) (directory : Directory String Message)

/-- The names that a rotation of this process can give to a file. -/
def Produces (filename : String) : Prop :=
  ∃ now, filename = settings.rotatedFilename now

/-- The files that the retention collects. -/
def recognised : List LogFile :=
  directory.files.filter (settings.isRotated ·.name)

/-- The retention of `rotate_`: the files it deletes, and the directory that it
leaves. -/
def retain : List LogFile × Directory String Message :=
  deleteOldest settings.maxFiles
    (settings.sorter.sort (settings.recognised directory)) directory

open Classical in
/-- The files of a directory that a rotation of this process can have made. -/
noncomputable def produced : List LogFile :=
  directory.files.filter (fun file => settings.Produces file.name)

/-- The retention deletes files of its own only, none that is younger than one
that stays, and as many as exceed the number allowed. -/
structure RetainsOwn : Prop where
  deletesOwn : ∀ file ∈ directory.files,
    file ∉ (settings.retain directory).2.files → settings.Produces file.name
  deletesOldest : ∀ file ∈ directory.files,
    file ∉ (settings.retain directory).2.files →
    ∀ other ∈ (settings.retain directory).2.files,
      settings.Produces other.name → file.written ≤ other.written
  leaves : (settings.produced (settings.retain directory).2).length =
    min settings.maxFiles (settings.produced directory).length

end

end Settings

theorem Sink.rotate_retains (sink : Sink) (now : Nat) :
    (sink.rotate now).directory =
        (sink.settings.retain (sink.renamed now)).2.openFile
          sink.settings.baseEntry now ∧
      (sink.rotate now).removed =
        (sink.settings.retain (sink.renamed now)).1 ++ sink.removed :=
  ⟨rfl, rfl⟩

theorem deleteOldest_deleted (maxFiles : Nat) (files : List LogFile)
    (directory : Directory String Message) :
    (deleteOldest maxFiles files directory).1 =
      files.take (files.length - maxFiles) := by
  induction files generalizing directory with
  | nil => simp [deleteOldest]
  | cons oldest files induction =>
      by_cases exceeds : maxFiles < files.length + 1
      · have further : (oldest :: files).length - maxFiles =
            (files.length - maxFiles) + 1 := by
          rw [List.length_cons]
          omega
        rw [deleteOldest, if_pos exceeds, further, List.take_succ_cons,
          ← induction (directory.remove oldest.name)]
      · have enough : (oldest :: files).length - maxFiles = 0 := by
          rw [List.length_cons]
          omega
        rw [deleteOldest, if_neg exceeds, enough]
        rfl

namespace Settings

section

variable {settings : Settings} {directory : Directory String Message}
  {file other : LogFile}

private theorem isRotated_of_produces {filename : String}
    (produces : settings.Produces filename) :
    settings.isRotated filename = true := by
  obtain ⟨now, same⟩ := produces
  rw [same]
  exact settings.isRotated_rotatedFilename now

theorem mem_recognised :
    file ∈ settings.recognised directory ↔
      file ∈ directory.files ∧ settings.isRotated file.name = true := by
  simp [recognised]

private theorem mem_sorted :
    file ∈ settings.sorter.sort (settings.recognised directory) ↔
      file ∈ settings.recognised directory :=
  (settings.sorter.perm _).mem_iff

theorem retain_deleted :
    (settings.retain directory).1 =
      (settings.sorter.sort (settings.recognised directory)).take
        ((settings.recognised directory).length - settings.maxFiles) := by
  rw [retain, deleteOldest_deleted, (settings.sorter.perm _).length_eq]

theorem mem_recognised_of_deleted
    (deleted : file ∈ (settings.retain directory).1) :
    file ∈ settings.recognised directory :=
  mem_sorted.mp (mem_of_deleteOldest deleted)

theorem mem_retain :
    file ∈ (settings.retain directory).2.files ↔
      file ∈ directory.files ∧ file ∉ (settings.retain directory).1 := by
  unfold retain
  rw [mem_deleteOldest]
  apply and_congr_right
  intro stored
  constructor
  · intro differs deleted
    exact differs file deleted rfl
  · intro stays gone deleted same
    have earlier := mem_recognised.mp (mem_recognised_of_deleted deleted)
    rw [List.inj_on_of_nodup_map directory.distinct stored earlier.1 same]
      at stays
    exact stays deleted

theorem mem_deleted_iff :
    file ∈ (settings.retain directory).1 ↔
      file ∈ directory.files ∧ file ∉ (settings.retain directory).2.files := by
  constructor
  · intro deleted
    refine ⟨(mem_recognised.mp (mem_recognised_of_deleted deleted)).1, ?_⟩
    intro stays
    exact (mem_retain.mp stays).2 deleted
  · intro gone
    by_contra stays
    exact gone.2 (mem_retain.mpr ⟨gone.1, stays⟩)

private theorem retain_written (deleted : file ∈ (settings.retain directory).1)
    (stays : other ∈ (settings.retain directory).2.files)
    (rotated : settings.isRotated other.name = true) :
    file.written ≤ other.written := by
  obtain ⟨stored, left⟩ := mem_retain.mp stays
  have considered := mem_sorted.mpr (mem_recognised.mpr ⟨stored, rotated⟩)
  exact deleteOldest_written (settings.sorter.sorted _) deleted considered left

theorem retain_perm (settings : Settings)
    (directory : Directory String Message) :
    directory.files.Perm
      ((settings.retain directory).1 ++ (settings.retain directory).2.files) := by
  have distinct : directory.files.Nodup := directory.distinct.of_map _
  have stay : (settings.retain directory).2.files.Nodup :=
    (settings.retain directory).2.distinct.of_map _
  have deleted : (settings.retain directory).1.Nodup := by
    rw [retain_deleted]
    apply (List.take_sublist _ _).nodup
    apply (settings.sorter.perm _).nodup_iff.mpr
    exact distinct.filter _
  have apart : (settings.retain directory).1.Disjoint
      (settings.retain directory).2.files := by
    intro file gone stays
    exact (mem_retain.mp stays).2 gone
  apply (List.perm_ext_iff_of_nodup distinct
    (List.nodup_append'.mpr ⟨deleted, stay, apart⟩)).mpr
  intro file
  rw [List.mem_append, mem_deleted_iff, mem_retain, mem_deleted_iff]
  tauto

open Classical in
private theorem produced_eq (settings : Settings)
    (directory : Directory String Message) :
    settings.produced directory =
      (settings.recognised directory).filter
        (fun file => settings.Produces file.name) := by
  unfold produced recognised
  rw [List.filter_filter]
  apply List.filter_congr
  intro file _
  by_cases produces : settings.Produces file.name
  · simp [produces, isRotated_of_produces produces]
  · simp [produces]

/-- The sink has made every file that its retention recognises exactly when
there are as many of the one kind as of the other. -/
theorem produced_length_iff :
    (settings.produced directory).length =
        (settings.recognised directory).length ↔
      ∀ file ∈ settings.recognised directory, settings.Produces file.name := by
  rw [produced_eq, List.length_filter_eq_length_iff]
  simp

private theorem produced_length_le (settings : Settings)
    (directory : Directory String Message) :
    (settings.produced directory).length ≤
      (settings.recognised directory).length := by
  rw [produced_eq]
  exact List.length_filter_le _ _

theorem produced_retain
    (own : ∀ file ∈ (settings.retain directory).1,
      settings.Produces file.name) :
    (settings.produced directory).length =
      ((settings.recognised directory).length - settings.maxFiles) +
        (settings.produced (settings.retain directory).2).length := by
  classical
  have all : (settings.retain directory).1.filter
      (fun file => settings.Produces file.name) =
      (settings.retain directory).1 := by
    apply List.filter_eq_self.mpr
    intro file deleted
    exact decide_eq_true (own file deleted)
  have number : (settings.retain directory).1.length =
      (settings.recognised directory).length - settings.maxFiles := by
    rw [retain_deleted, List.length_take, (settings.sorter.perm _).length_eq]
    omega
  have divided := ((settings.retain_perm directory).filter
    (fun file => settings.Produces file.name)).length_eq
  rw [List.filter_append, List.length_append, all, number] at divided
  unfold produced
  convert divided

/-- In any directory the retention treats its own files as it should, and no
other file, if and only if it has nothing to delete or recognises none but its
own. -/
theorem retainsOwn_iff (settings : Settings)
    (directory : Directory String Message) :
    settings.RetainsOwn directory ↔
      (settings.recognised directory).length ≤ settings.maxFiles ∨
        ∀ file ∈ settings.recognised directory,
          settings.Produces file.name := by
  have fewer := produced_length_le settings directory
  constructor
  · intro retains
    by_cases enough :
        (settings.recognised directory).length ≤ settings.maxFiles
    · exact Or.inl enough
    · have own : ∀ file ∈ (settings.retain directory).1,
          settings.Produces file.name := by
        intro file deleted
        obtain ⟨stored, gone⟩ := mem_deleted_iff.mp deleted
        exact retains.deletesOwn file stored gone
      have divided := produced_retain own
      have leaves := retains.leaves
      apply Or.inr
      apply produced_length_iff.mp
      omega
  · intro recognises
    have own : ∀ file ∈ (settings.retain directory).1,
        settings.Produces file.name := by
      intro file deleted
      rcases recognises with enough | own
      · rw [retain_deleted, Nat.sub_eq_zero_of_le enough] at deleted
        cases deleted
      · exact own file (mem_recognised_of_deleted deleted)
    have divided := produced_retain own
    refine ⟨?_, ?_, ?_⟩
    · intro file stored gone
      exact own file (mem_deleted_iff.mpr ⟨stored, gone⟩)
    · intro file stored gone other stays produces
      exact retain_written (mem_deleted_iff.mpr ⟨stored, gone⟩) stays
        (isRotated_of_produces produces)
    · rcases recognises with enough | own
      · omega
      · have equal := produced_length_iff.mpr own
        omega

end

/-- A number below one hundred in two digits, as `%H`, `%M` and `%S` give it. -/
def twoDigits (number : Nat) : String :=
  toString (number / 10) ++ toString (number % 10)

/-- The local time as `%Y%m%d_%H%M%S`, on the eighth of June 2025. -/
def putTimeOfDay (time : Nat) : String :=
  "20250608_" ++ twoDigits (time / 3600 % 24) ++ twoDigits (time / 60 % 60) ++
    twoDigits (time % 60)

/-- A process that keeps one rotated file, next to another process whose name
begins with its own. -/
def neighbours : Settings :=
  { baseFilename := "gw.log"
    maxSize := 1048576
    maxFiles := 1
    processName := "gw"
    putTime := putTimeOfDay
    sorter := Sink.insertionSorter }

/-- The log of `gw_archive`, older than the one file that `gw` has rotated. -/
def sharedDirectory : Directory String Message :=
  { files :=
      [⟨"gw_archive.log", 1, [[65]]⟩, ⟨"gw_20250608_120000.log", 2, [[66]]⟩]
    distinct := by decide }

/-- The retention deletes the log of the other process. -/
theorem not_retainsOwn_neighbours :
    ¬neighbours.RetainsOwn sharedDirectory := by
  intro retains
  obtain ⟨now, named⟩ := retains.deletesOwn ⟨"gw_archive.log", 1, [[65]]⟩
    (by decide) (by decide)
  have characters := congrArg String.toList named
  simp [rotatedFilename, getTimestamp, neighbours, putTimeOfDay] at characters

end Settings

end DataGateway.Log
