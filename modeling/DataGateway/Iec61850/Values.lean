import DataGateway.Iec61850.Nodes
import DataGateway.Redis.Client

/-!
# Polled MMS values

`iec61850Client::readAllValues` and `parseStructure`
(`core/iec61850/lec61850Client.cc`) as far as Redis is concerned: a pass over
the nodes is the list of its store calls.  The loop of `parseStructure` over
the elements of a structure writes each of them to the log and stores none.
-/

namespace DataGateway.Iec61850

open Redis

/-- A value of one of the types that the switches have a case for; the text of
a string can be NULL. -/
inductive MmsScalar
  | boolean (value : Bool)
  | integer (value : Int64)
  | unsigned (value : UInt64)
  | float (value : Float)
  | string (value : Option String)
  | visibleString (value : Option String)
  | bitString (bits : List Bool)
  | utcTime (ms : UInt64)

/-- A value tree; an element of a structure can be NULL. -/
inductive MmsValue
  | scalar (value : MmsScalar)
  | struct (elements : List (Option MmsValue))
  | unsupported (type : Nat)

/-- The store call of a scalar in the switch of `readAllValues`. -/
def MmsScalar.storeCall (path : String) : MmsScalar → StoreCall
  | .boolean value => .storeBool path value
  | .integer value => .storeLInt path value
  | .unsigned value => .storeULInt path value
  | .float value => .storeLReal path value
  | .string value | .visibleString value => .storeString path (value.getD "")
  | .bitString bits =>
      .storeString path
        (String.ofList (bits.map fun bit => if bit then '1' else '0'))
  | .utcTime ms => .storeLInt path ms.toInt64

/-- What `parseStructure` asks of the library with a variable specification:
an element by its name, and the time in a value of any type. -/
structure MmsLibrary (VarSpec : Type*) where
  getSubElement : MmsValue → VarSpec → String → Option MmsValue
  getUtcTimeInMs : MmsValue → UInt64

section Reading

variable {VarSpec : Type*} (library : MmsLibrary VarSpec)

/-- `parseStructure`.  The branch for a target path reads the time of the
structure where it means the time of the element. -/
def parseStructure (value : MmsValue) (nodePath : String)
    (varSpec : Option VarSpec) (indentLevel : Nat) (targetPath : String) :
    List StoreCall :=
  match value with
  | .struct elements =>
      if 10 < indentLevel then []
      else
        match if targetPath = "" then none else varSpec with
        | some spec =>
            let subPath := nodePath ++ "." ++ targetPath
            match library.getSubElement value spec targetPath with
            | none | some (.unsupported _) => []
            | some (.scalar (.utcTime _)) =>
                [.storeLInt subPath (library.getUtcTimeInMs value).toInt64]
            | some (.scalar subValue) => [subValue.storeCall subPath]
            | some (.struct subElements) =>
                parseStructure (.struct subElements) subPath none
                  (indentLevel + 1) ""
        | none =>
            elements.zipIdx.flatMap fun (subValue, i) =>
              let subPath := nodePath ++ "[" ++ toString i ++ "]"
              match subValue with
              | some (.struct subElements) =>
                  parseStructure (.struct subElements) subPath none
                    (indentLevel + 1) ""
              | none | some (.scalar _) | some (.unsupported _) => []
  | .scalar _ | .unsupported _ => []
termination_by 11 - indentLevel

/-- The result of `IedConnection_readObject`. -/
structure ReadOutcome where
  ok : Bool
  value : Option MmsValue

/-- The value of a successful read. -/
def ReadOutcome.read? (outcome : ReadOutcome) : Option MmsValue :=
  if outcome.ok then outcome.value else none

/-- The body of the loop over the nodes; `outcome` is what the read returns if
the node is read. -/
def readNode (outcome : ReadOutcome) (node : DataNode) : List StoreCall :=
  if node.polled then
    match outcome.read? with
    | none => []
    | some value =>
        if contains node.path "/SPTR01." then
          match value with
          | .scalar scalar => [scalar.storeCall node.path]
          | .struct elements =>
              parseStructure library (.struct elements) node.path none 0 ""
          | .unsupported _ => []
        else []
  else []

/-- The loop over the nodes, of which `taken` reads have been made before. -/
def readPass (reads : Nat → ReadOutcome) (taken : Nat) :
    List DataNode → List StoreCall
  | [] => []
  | node :: nodes =>
      readNode library (reads taken) node ++
        readPass reads (taken + if node.polled then 1 else 0) nodes

/-- `readAllValues`, with the outcomes of the reads for each round of its
loop. -/
def readAllValues (redisInitialized connected : Bool) (nodes : List DataNode)
    (rounds : List (Nat → ReadOutcome)) : List StoreCall :=
  if redisInitialized && !nodes.isEmpty && connected then
    rounds.flatMap fun reads => readPass library reads 0 nodes
  else []

/-- The reads of a pass, each with its outcome. -/
def passReads (reads : Nat → ReadOutcome) (taken : Nat) :
    List DataNode → List (DataNode × ReadOutcome)
  | [] => []
  | node :: nodes =>
      if node.polled then
        (node, reads taken) :: passReads reads (taken + 1) nodes
      else passReads reads taken nodes

variable {reads : Nat → ReadOutcome} {taken : Nat} {nodes : List DataNode}

/-- Only the nodes that are read have store calls. -/
theorem readPass_eq_flatMap :
    readPass library reads taken nodes =
      (passReads reads taken nodes).flatMap
        fun read => readNode library read.2 read.1 := by
  induction nodes generalizing taken with
  | nil => rfl
  | cons node nodes induction =>
      simp only [readPass, passReads]
      cases polled : node.polled with
      | false =>
          rw [readNode, polled]
          exact induction
      | true =>
          simp only [if_true, List.flatMap_cons]
          rw [induction]

theorem mem_of_passReads {read : DataNode × ReadOutcome}
    (member : read ∈ passReads reads taken nodes) :
    read.1 ∈ nodes ∧ read.1.polled = true := by
  induction nodes generalizing taken with
  | nil => cases member
  | cons node nodes induction =>
      rw [passReads] at member
      split at member
      · rename_i polled
        rcases List.mem_cons.mp member with here | later
        · subst here
          exact ⟨List.mem_cons_self, polled⟩
        · obtain ⟨listed, filtered⟩ := induction later
          exact ⟨List.mem_cons_of_mem node listed, filtered⟩
      · obtain ⟨listed, filtered⟩ := induction member
        exact ⟨List.mem_cons_of_mem node listed, filtered⟩

end Reading

mutual

/-- The scalars of a value with their positions in it, in order. -/
def MmsValue.leaves : MmsValue → List (List Nat × MmsScalar)
  | .scalar value => [([], value)]
  | .struct elements => leavesFrom 0 elements
  | .unsupported _ => []

def leavesFrom (index : Nat) :
    List (Option MmsValue) → List (List Nat × MmsScalar)
  | [] => []
  | none :: rest => leavesFrom (index + 1) rest
  | some element :: rest =>
      element.leaves.map (fun (position, leaf) => (index :: position, leaf)) ++
        leavesFrom (index + 1) rest

end

end DataGateway.Iec61850
