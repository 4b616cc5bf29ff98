import Mathlib.Data.List.Nodup
import Mathlib.Algebra.Order.Group.Multiset
import Mathlib.Algebra.BigOperators.Group.Multiset.Basic
import Mathlib.Tactic.Abel

/-!
# A directory of files made of lines

The names of the files of a directory are distinct.  The content of a
directory is the multiset of the lines of its files; the lemmas below say what
each operation does to it.  A `rename` replaces a file that has the target's
name, and with it the lines of that file go.
-/

namespace DataGateway.Foundation

structure StoredFile (Name Line : Type*) where
  name : Name
  written : Nat
  lines : List Line
  deriving DecidableEq

@[ext] structure Directory (Name Line : Type*) where
  files : List (StoredFile Name Line)
  distinct : (files.map StoredFile.name).Nodup

namespace Directory

variable {Name Line : Type*} [DecidableEq Name]

def find? (directory : Directory Name Line) (name : Name) :
    Option (StoredFile Name Line) :=
  directory.files.find? (·.name = name)

def remove (directory : Directory Name Line) (name : Name) :
    Directory Name Line :=
  { files := directory.files.filter (·.name ≠ name)
    distinct := (List.filter_sublist.map _).nodup directory.distinct }

/-- The file is stored under its name, in place of any other of that name. -/
def put (directory : Directory Name Line) (file : StoredFile Name Line) :
    Directory Name Line :=
  { files := file :: (directory.remove file.name).files
    distinct := by
      apply List.nodup_cons.mpr
      refine ⟨?_, (directory.remove file.name).distinct⟩
      intro member
      obtain ⟨other, kept, same⟩ := List.mem_map.mp member
      simp [remove, same] at kept }

/-- Renaming a file to its own name, or a file that is not there, changes
nothing. -/
def rename (directory : Directory Name Line) (source target : Name) :
    Directory Name Line :=
  if source = target then directory
  else
    match directory.find? source with
    | none => directory
    | some file => (directory.remove source).put { file with name := target }

/-- The file is created when it is not there. -/
def openFile (directory : Directory Name Line) (name : Name) (now : Nat) :
    Directory Name Line :=
  match directory.find? name with
  | none => directory.put { name := name, written := now, lines := [] }
  | some _ => directory

def appendLine (directory : Directory Name Line) (name : Name) (now : Nat)
    (line : Line) : Directory Name Line :=
  match directory.find? name with
  | none => directory.put { name := name, written := now, lines := [line] }
  | some file =>
      directory.put { file with written := now, lines := file.lines ++ [line] }

/-- The files whose names meet the condition. -/
def restrict (directory : Directory Name Line) (condition : Name → Bool) :
    Directory Name Line :=
  { files := directory.files.filter (condition ·.name)
    distinct := (List.filter_sublist.map _).nodup directory.distinct }

def linesAt (directory : Directory Name Line) (name : Name) : List Line :=
  ((directory.find? name).map StoredFile.lines).getD []

/-- The lines of several files, with their multiplicities. -/
def linesOf (files : List (StoredFile Name Line)) : Multiset Line :=
  (files.map fun file => (file.lines : Multiset Line)).sum

def content (directory : Directory Name Line) : Multiset Line :=
  linesOf directory.files

omit [DecidableEq Name] in
@[simp] theorem linesOf_nil : linesOf ([] : List (StoredFile Name Line)) = 0 :=
  rfl

omit [DecidableEq Name] in
@[simp] theorem linesOf_cons (file : StoredFile Name Line)
    (files : List (StoredFile Name Line)) :
    linesOf (file :: files) = (file.lines : Multiset Line) + linesOf files := by
  simp [linesOf]

omit [DecidableEq Name] in
theorem linesOf_append (first second : List (StoredFile Name Line)) :
    linesOf (first ++ second) = linesOf first + linesOf second := by
  simp [linesOf]

omit [DecidableEq Name] in
theorem mem_linesOf_iff {line : Line} {files : List (StoredFile Name Line)} :
    line ∈ linesOf files ↔ ∃ file ∈ files, line ∈ file.lines := by
  induction files with
  | nil => simp
  | cons file files induction => simp [induction]

section

variable {directory : Directory Name Line} {name source target : Name}
  {file other : StoredFile Name Line}

theorem find?_eq_some_iff :
    directory.find? name = some file ↔
      file ∈ directory.files ∧ file.name = name := by
  constructor
  · intro found
    refine ⟨List.mem_of_find?_eq_some found, ?_⟩
    simpa using List.find?_some found
  · intro stored
    obtain ⟨member, same⟩ := stored
    cases found : directory.find? name with
    | none =>
        have absent := List.find?_eq_none.mp found file member
        simp [same] at absent
    | some first =>
        have firstMember := List.mem_of_find?_eq_some found
        have firstSame : first.name = name := by
          simpa using List.find?_some found
        rw [List.inj_on_of_nodup_map directory.distinct firstMember member
          (firstSame.trans same.symm)]

theorem find?_eq_none_iff :
    directory.find? name = none ↔ ∀ file ∈ directory.files, file.name ≠ name := by
  simp [find?, List.find?_eq_none]

theorem mem_remove_iff :
    file ∈ (directory.remove name).files ↔
      file ∈ directory.files ∧ file.name ≠ name := by
  simp [remove]

theorem mem_put_iff :
    other ∈ (directory.put file).files ↔
      other = file ∨ other ∈ directory.files ∧ other.name ≠ file.name := by
  simp [put, remove]

theorem linesAt_of_mem (member : file ∈ directory.files) :
    directory.linesAt file.name = file.lines := by
  have found := find?_eq_some_iff.mpr ⟨member, rfl⟩
  simp [linesAt, found]

theorem linesAt_of_find?_eq_none (absent : directory.find? name = none) :
    directory.linesAt name = [] := by
  simp [linesAt, absent]

theorem find?_put_self : (directory.put file).find? file.name = some file := by
  apply find?_eq_some_iff.mpr
  exact ⟨mem_put_iff.mpr (Or.inl rfl), rfl⟩

theorem linesAt_put_self :
    (directory.put file).linesAt file.name = file.lines := by
  simp [linesAt, find?_put_self]

theorem exists_find?_openFile (directory : Directory Name Line) (name : Name)
    (now : Nat) : ∃ file, (directory.openFile name now).find? name = some file := by
  unfold openFile
  cases found : directory.find? name with
  | some file => exact ⟨file, found⟩
  | none => exact ⟨_, find?_put_self⟩

theorem exists_find?_appendLine (directory : Directory Name Line) (name : Name)
    (now : Nat) (line : Line) :
    ∃ file, (directory.appendLine name now line).find? name = some file := by
  unfold appendLine
  cases found : directory.find? name with
  | none => exact ⟨_, find?_put_self⟩
  | some file =>
      obtain ⟨_, named⟩ := find?_eq_some_iff.mp found
      subst named
      exact ⟨_, find?_put_self⟩

theorem linesAt_openFile (directory : Directory Name Line) (name : Name)
    (now : Nat) : (directory.openFile name now).linesAt name =
      directory.linesAt name := by
  unfold openFile
  cases found : directory.find? name with
  | some file => rfl
  | none =>
      rw [linesAt_of_find?_eq_none found]
      exact linesAt_put_self

theorem linesAt_appendLine (directory : Directory Name Line) (name : Name)
    (now : Nat) (line : Line) :
    (directory.appendLine name now line).linesAt name =
      directory.linesAt name ++ [line] := by
  unfold appendLine
  cases found : directory.find? name with
  | none =>
      rw [linesAt_of_find?_eq_none found]
      exact linesAt_put_self
  | some file =>
      obtain ⟨member, named⟩ := find?_eq_some_iff.mp found
      subst named
      rw [linesAt_of_mem member]
      exact linesAt_put_self

theorem linesOf_filter (files : List (StoredFile Name Line)) (name : Name)
    (distinct : (files.map StoredFile.name).Nodup) :
    linesOf (files.filter (·.name ≠ name)) +
        (((files.find? (·.name = name)).map StoredFile.lines).getD [] :
          List Line) = linesOf files := by
  induction files with
  | nil => simp
  | cons file files induction =>
      obtain ⟨fresh, distinct⟩ := List.nodup_cons.mp distinct
      have rest := induction distinct
      by_cases same : file.name = name
      · have others : ∀ other ∈ files, other.name ≠ name := by
          intro other member equal
          apply fresh
          rw [same, ← equal]
          exact List.mem_map_of_mem member
        have all : files.filter (fun other => !decide (other.name = name)) =
            files := by
          apply List.filter_eq_self.mpr
          simpa using others
        simp [same, all, add_comm]
      · simp [same, ← rest, add_assoc]

theorem content_remove (directory : Directory Name Line) (name : Name) :
    (directory.remove name).content + (directory.linesAt name : Multiset Line) =
      directory.content :=
  linesOf_filter directory.files name directory.distinct

theorem content_remove_of_mem (member : file ∈ directory.files) :
    (directory.remove file.name).content + (file.lines : Multiset Line) =
      directory.content := by
  rw [← linesAt_of_mem member]
  exact content_remove directory file.name

theorem content_put (directory : Directory Name Line)
    (file : StoredFile Name Line) :
    (directory.put file).content +
        (directory.linesAt file.name : Multiset Line) =
      directory.content + (file.lines : Multiset Line) := by
  have removed := content_remove directory file.name
  have stored : (directory.put file).content =
      (file.lines : Multiset Line) + (directory.remove file.name).content :=
    linesOf_cons file _
  rw [stored, ← removed]
  abel

theorem content_put_fresh (file : StoredFile Name Line)
    (fresh : directory.find? file.name = none) :
    (directory.put file).content =
      directory.content + (file.lines : Multiset Line) := by
  have placed := content_put directory file
  rw [linesAt_of_find?_eq_none fresh] at placed
  simpa using placed

theorem find?_remove_of_ne (different : target ≠ source) :
    (directory.remove source).find? target = directory.find? target := by
  cases found : directory.find? target with
  | none =>
      apply find?_eq_none_iff.mpr
      intro file member
      exact find?_eq_none_iff.mp found file (mem_remove_iff.mp member).1
  | some file =>
      obtain ⟨member, same⟩ := find?_eq_some_iff.mp found
      apply find?_eq_some_iff.mpr
      refine ⟨mem_remove_iff.mpr ⟨member, ?_⟩, same⟩
      rw [same]
      exact different

theorem rename_of_found (different : source ≠ target)
    (found : directory.find? source = some file) :
    directory.rename source target =
      (directory.remove source).put { file with name := target } := by
  simp [rename, different, found]

theorem rename_self (directory : Directory Name Line) (name : Name) :
    directory.rename name name = directory := by
  simp [rename]

theorem find?_rename_source (different : source ≠ target) :
    (directory.rename source target).find? source = none := by
  cases found : directory.find? source with
  | none => simp [rename, different, found]
  | some file =>
      rw [rename_of_found different found]
      apply find?_eq_none_iff.mpr
      intro other member named
      rcases mem_put_iff.mp member with same | kept
      · apply different
        rw [← named, same]
      · exact (mem_remove_iff.mp kept.1).2 named

theorem mem_rename (member : other ∈ (directory.rename source target).files) :
    other.name = target ∨ other ∈ directory.files := by
  unfold rename at member
  split at member
  · exact Or.inr member
  · cases found : directory.find? source with
    | none =>
        rw [found] at member
        exact Or.inr member
    | some file =>
        rw [found] at member
        rcases mem_put_iff.mp member with same | kept
        · rw [same]
          exact Or.inl rfl
        · exact Or.inr (mem_remove_iff.mp kept.1).1

/-- A rename keeps every line when no other file has the target's name. -/
theorem content_rename
    (fresh : target ≠ source → directory.find? target = none) :
    (directory.rename source target).content = directory.content := by
  by_cases same : source = target
  · simp [rename, same]
  · cases found : directory.find? source with
    | none => simp [rename, found]
    | some file =>
        have absent : (directory.remove source).find? target = none := by
          rw [find?_remove_of_ne (Ne.symm same)]
          exact fresh (Ne.symm same)
        obtain ⟨member, named⟩ := find?_eq_some_iff.mp found
        have removed := content_remove_of_mem member
        rw [named] at removed
        rw [rename_of_found same found, content_put_fresh _ absent]
        exact removed

theorem mem_openFile {now : Nat} (different : other.name ≠ name) :
    other ∈ (directory.openFile name now).files ↔
      other ∈ directory.files := by
  unfold openFile
  cases directory.find? name with
  | some file => exact Iff.rfl
  | none =>
      rw [mem_put_iff]
      constructor
      · rintro (same | kept)
        · exact absurd (congrArg StoredFile.name same) different
        · exact kept.1
      · intro member
        exact Or.inr ⟨member, different⟩

theorem mem_appendLine {now : Nat} {line : Line}
    (different : other.name ≠ name) :
    other ∈ (directory.appendLine name now line).files ↔
      other ∈ directory.files := by
  have stored : ∃ file : StoredFile Name Line, file.name = name ∧
      directory.appendLine name now line = directory.put file := by
    unfold appendLine
    cases found : directory.find? name with
    | none => exact ⟨_, rfl, rfl⟩
    | some file =>
        exact ⟨{ file with written := now, lines := file.lines ++ [line] },
          (find?_eq_some_iff.mp found).2, rfl⟩
  obtain ⟨file, named, result⟩ := stored
  rw [result, mem_put_iff, named]
  constructor
  · rintro (same | kept)
    · rw [same] at different
      exact absurd named different
    · exact kept.1
  · intro member
    exact Or.inr ⟨member, different⟩

theorem content_openFile (directory : Directory Name Line) (name : Name)
    (now : Nat) : (directory.openFile name now).content = directory.content := by
  unfold openFile
  cases found : directory.find? name with
  | some file => rfl
  | none =>
      have placed := content_put_fresh
        { name := name, written := now, lines := [] } found
      simpa using placed

theorem content_appendLine (directory : Directory Name Line) (name : Name)
    (now : Nat) (line : Line) :
    (directory.appendLine name now line).content =
      directory.content + {line} := by
  unfold appendLine
  cases found : directory.find? name with
  | none => exact content_put_fresh _ found
  | some file =>
      have placed := content_put directory
        { file with written := now, lines := file.lines ++ [line] }
      obtain ⟨member, _⟩ := find?_eq_some_iff.mp found
      rw [linesAt_of_mem member] at placed
      have appended : ((file.lines ++ [line] : List Line) : Multiset Line) =
          (file.lines : Multiset Line) + {line} := by
        rw [← Multiset.coe_add, Multiset.coe_singleton]
      apply add_right_cancel
      rw [placed, appended]
      abel

omit [DecidableEq Name] in
theorem mem_restrict_iff {condition : Name → Bool} :
    file ∈ (directory.restrict condition).files ↔
      file ∈ directory.files ∧ condition file.name = true := by
  simp [restrict]

theorem restrict_remove (directory : Directory Name Line) (name : Name)
    (condition : Name → Bool) :
    (directory.remove name).restrict condition =
      (directory.restrict condition).remove name := by
  ext1
  exact List.filter_comm _ _ _

section

variable {condition : Name → Bool}

theorem restrict_put (holds : condition file.name = true) :
    (directory.put file).restrict condition =
      (directory.restrict condition).put file := by
  ext1
  have removed := congrArg Directory.files
    (restrict_remove directory file.name condition)
  simp only [put, restrict, List.filter_cons_of_pos, holds]
  exact congrArg (file :: ·) removed

theorem find?_restrict (holds : condition name = true) :
    (directory.restrict condition).find? name = directory.find? name := by
  cases found : directory.find? name with
  | none =>
      apply find?_eq_none_iff.mpr
      intro file member
      exact find?_eq_none_iff.mp found file (mem_restrict_iff.mp member).1
  | some file =>
      obtain ⟨member, same⟩ := find?_eq_some_iff.mp found
      apply find?_eq_some_iff.mpr
      refine ⟨mem_restrict_iff.mpr ⟨member, ?_⟩, same⟩
      rw [same]
      exact holds

/-- Operations on names that meet the condition do not see the other files. -/
theorem restrict_rename (sourceHolds : condition source = true)
    (targetHolds : condition target = true) :
    (directory.rename source target).restrict condition =
      (directory.restrict condition).rename source target := by
  unfold rename
  rw [find?_restrict sourceHolds]
  split
  · rfl
  · cases directory.find? source with
    | none => rfl
    | some file =>
        rw [restrict_put targetHolds, restrict_remove]

theorem restrict_openFile (directory : Directory Name Line)
    (holds : condition name = true) (now : Nat) :
    (directory.openFile name now).restrict condition =
      (directory.restrict condition).openFile name now := by
  unfold openFile
  rw [find?_restrict holds]
  cases directory.find? name with
  | none => exact restrict_put holds
  | some file => rfl

theorem restrict_appendLine (directory : Directory Name Line)
    (holds : condition name = true) (now : Nat) (line : Line) :
    (directory.appendLine name now line).restrict condition =
      (directory.restrict condition).appendLine name now line := by
  unfold appendLine
  rw [find?_restrict holds]
  cases found : directory.find? name with
  | none => exact restrict_put holds
  | some file =>
      apply restrict_put
      rw [(find?_eq_some_iff.mp found).2]
      exact holds

end

end

end Directory

end DataGateway.Foundation
