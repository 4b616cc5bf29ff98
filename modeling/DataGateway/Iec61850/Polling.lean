import DataGateway.Iec61850.Values

/-!
# What a poll stores

A pass stores the scalar values of the nodes and nothing of a structure, so
every polled leaf reaches Redis exactly when no structure has one.
-/

namespace DataGateway.Iec61850

open Redis

structure PolledLeaf where
  path : String
  position : List Nat
  scalar : MmsScalar

/-- The leaves of the value that a read returns. -/
def readLeaves : DataNode × ReadOutcome → List PolledLeaf
  | (node, outcome) =>
      match outcome.read? with
      | none => []
      | some value =>
          value.leaves.map fun (position, scalar) =>
            { path := node.path, position := position, scalar := scalar }

/-- The leaves that a pass over the nodes polls. -/
def polledLeaves (reads : Nat → ReadOutcome) (nodes : List DataNode) :
    List PolledLeaf :=
  (passReads reads 0 nodes).flatMap readLeaves

/-- What is read is not a structure with a leaf. -/
def ReadOutcome.NoLeafOfStructure (outcome : ReadOutcome) : Prop :=
  ∀ elements, outcome.read? = some (.struct elements) →
    (MmsValue.struct elements).leaves = []

section

variable {VarSpec : Type*} (library : MmsLibrary VarSpec)

/-- The pass makes one store call for each leaf, under a key that its path and
position determine, and different ones have different keys. -/
def StoresEveryLeaf (reads : Nat → ReadOutcome) (nodes : List DataNode) : Prop :=
  ∃ keyOf : String → List Nat → String,
    (∀ first ∈ polledLeaves reads nodes,
      ∀ second ∈ polledLeaves reads nodes,
        keyOf first.path first.position = keyOf second.path second.position →
        first.path = second.path ∧ first.position = second.position) ∧
    (readPass library reads 0 nodes).Perm
      ((polledLeaves reads nodes).map fun leaf =>
        leaf.scalar.storeCall (keyOf leaf.path leaf.position))

/-- Without a target path `parseStructure` never stores anything. -/
theorem parseStructure_eq_nil (value : MmsValue) (nodePath : String)
    (indentLevel : Nat) :
    parseStructure library value nodePath none indentLevel "" = [] := by
  unfold parseStructure
  cases value with
  | scalar | unsupported => rfl
  | struct elements =>
      simp only [if_true]
      split
      · rfl
      · rw [List.flatMap_eq_nil_iff]
        rintro ⟨subValue, i⟩ _
        cases subValue with
        | none => rfl
        | some subValue =>
            cases subValue with
            | scalar | unsupported => rfl
            | struct subElements => exact parseStructure_eq_nil _ _ _
termination_by 11 - indentLevel

theorem contains_of_polled {node : DataNode} (polled : node.polled = true) :
    contains node.path "/SPTR01." = true := by
  simp [DataNode.polled] at polled
  exact polled.1.1

/-- A read stores its leaves under the path of its node, all of them being the
whole value, or it has leaves and stores none. -/
theorem readNode_cases {node : DataNode} (polled : node.polled = true)
    (outcome : ReadOutcome) :
    outcome.NoLeafOfStructure ∧
      readNode library outcome node =
        (readLeaves (node, outcome)).map
          (fun leaf => leaf.scalar.storeCall leaf.path) ∧
      (∀ leaf ∈ readLeaves (node, outcome), leaf.position = []) ∨
    ¬outcome.NoLeafOfStructure ∧
      readNode library outcome node = [] ∧
      readLeaves (node, outcome) ≠ [] := by
  unfold readNode readLeaves ReadOutcome.NoLeafOfStructure
  simp only [polled, if_true, contains_of_polled polled]
  cases read : outcome.read? with
  | none => simp
  | some value =>
      cases value with
      | scalar scalar => simp [MmsValue.leaves]
      | unsupported => simp [MmsValue.leaves]
      | struct elements =>
          simp only [parseStructure_eq_nil]
          by_cases leafless : (MmsValue.struct elements).leaves = []
          · simp [leafless]
          · simp [leafless]

end

section

variable {α β γ : Type*} {f : α → List β} {g : α → List γ}

private theorem length_flatMap_le {xs : List α}
    (shorter : ∀ x ∈ xs, (f x).length ≤ (g x).length) :
    (xs.flatMap f).length ≤ (xs.flatMap g).length := by
  induction xs with
  | nil => exact Nat.le_refl _
  | cons x xs induction =>
      rw [List.forall_mem_cons] at shorter
      simp only [List.flatMap_cons, List.length_append]
      exact Nat.add_le_add shorter.1 (induction shorter.2)

private theorem length_eq_of_length_flatMap_eq {xs : List α}
    (shorter : ∀ x ∈ xs, (f x).length ≤ (g x).length)
    (same : (xs.flatMap f).length = (xs.flatMap g).length) :
    ∀ x ∈ xs, (f x).length = (g x).length := by
  induction xs with
  | nil => simp
  | cons head xs induction =>
      rw [List.forall_mem_cons] at shorter
      simp only [List.flatMap_cons, List.length_append] at same
      have atHead := shorter.1
      have rest := length_flatMap_le shorter.2
      intro x member
      rcases List.mem_cons.mp member with here | later
      · subst here
        omega
      · exact induction shorter.2 (by omega) x later

end

/-- One pass stores every leaf that was read if and only if no structure that
was read has a leaf. -/
theorem storesEveryLeaf_iff {VarSpec : Type*} (library : MmsLibrary VarSpec)
    (reads : Nat → ReadOutcome) (nodes : List DataNode) :
    StoresEveryLeaf library reads nodes ↔
      ∀ read ∈ passReads reads 0 nodes, read.2.NoLeafOfStructure := by
  have cases : ∀ read ∈ passReads reads 0 nodes, _ := fun read member =>
    readNode_cases library (mem_of_passReads member).2 read.2
  unfold StoresEveryLeaf
  rw [readPass_eq_flatMap]
  constructor
  · rintro ⟨keyOf, _, permutation⟩ read member
    have same := permutation.length_eq
    rw [List.length_map] at same
    have shorter : ∀ read ∈ passReads reads 0 nodes,
        (readNode library read.2 read.1).length ≤ (readLeaves read).length := by
      intro read member
      rcases cases read member with ⟨_, stored, _⟩ | ⟨_, none, _⟩
      · rw [stored, List.length_map]
      · rw [none]
        exact Nat.zero_le _
    have equal := length_eq_of_length_flatMap_eq shorter same read member
    rcases cases read member with ⟨holds, _⟩ | ⟨_, none, leaves⟩
    · exact holds
    · rw [none] at equal
      exact (leaves (List.length_eq_zero_iff.mp equal.symm)).elim
  · intro scalars
    have whole : ∀ read ∈ passReads reads 0 nodes,
        readNode library read.2 read.1 =
          (readLeaves read).map (fun leaf => leaf.scalar.storeCall leaf.path) ∧
        ∀ leaf ∈ readLeaves read, leaf.position = [] := by
      intro read member
      rcases cases read member with ⟨_, stored⟩ | ⟨fails, _⟩
      · exact stored
      · exact (fails (scalars read member)).elim
    have root : ∀ leaf ∈ polledLeaves reads nodes, leaf.position = [] := by
      intro leaf member
      obtain ⟨read, readMember, leafMember⟩ := List.mem_flatMap.mp member
      exact (whole read readMember).2 leaf leafMember
    refine ⟨fun path _ => path, ?_, ?_⟩
    · intro first firstMember second secondMember same
      exact ⟨same, (root first firstMember).trans
        (root second secondMember).symm⟩
    · unfold polledLeaves
      rw [List.map_flatMap]
      apply List.Perm.of_eq
      apply List.flatMap_congr
      intro read member
      exact (whole read member).1

def noSubElements : MmsLibrary Unit :=
  { getSubElement := fun _ _ _ => none
    getUtcTimeInMs := fun _ => 0 }

/-- A member of the data set `dsState` of `TEMPLATE.icd`. -/
def supDevRun : DataNode :=
  { path := "TEMPLATE105MONT/SPTR01.SupDevRun"
    fc := "ST" }

/-- Its value, a structure of `stVal`, `q` and `t`. -/
def supDevRunRead (_ : Nat) : ReadOutcome :=
  { ok := true
    value := some (.struct
      [some (.scalar (.boolean true)),
        some (.scalar (.bitString (List.replicate 13 false))),
        some (.scalar (.utcTime 1749340800000))]) }

/-- The three leaves are read and not stored. -/
theorem not_storesEveryLeaf_supDevRun :
    ¬StoresEveryLeaf noSubElements supDevRunRead [supDevRun] := by
  rintro ⟨keyOf, _, permutation⟩
  have polled : supDevRun.polled = true := by decide
  have stored : readPass noSubElements supDevRunRead 0 [supDevRun] = [] := by
    simp [readPass, readNode, polled, contains_of_polled polled, supDevRunRead,
      ReadOutcome.read?, parseStructure_eq_nil]
  have lengths := permutation.length_eq
  rw [stored, List.length_map] at lengths
  exact absurd lengths (by decide)

end DataGateway.Iec61850
