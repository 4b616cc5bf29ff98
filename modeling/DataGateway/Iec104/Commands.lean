import DataGateway.Iec104.Server

/-!
# Single commands

`IEC104Server::asduHandler`.  The handler carries out the first object of a
command and confirms the whole ASDU, whether or not the address is known.
-/

namespace DataGateway.Iec104

/-- The causes of transmission that the handler tells apart. -/
inductive CommandCause
  | activation
  | activationCon
  | unknownCot
  | unknownIoa
  | other (code : Nat)
  deriving DecidableEq, Repr

inductive CommandType
  | C_SC_NA_1
  | other (code : Nat)
  deriving DecidableEq, Repr

structure SingleCommand where
  objectAddress : Int32
  state : Bool
  deriving DecidableEq

structure CommandAsdu where
  typeID : CommandType
  cot : CommandCause
  isNegative : Bool
  objects : List SingleCommand
  deriving DecidableEq

/-- `CS101_ASDU_getElement`, NULL if there is no object with the index. -/
def CommandAsdu.getElement (asdu : CommandAsdu) (index : Nat) :
    Option SingleCommand :=
  asdu.objects[index]?

/-- `asduHandler`: the map after it, the ASDU it sends back and whether it has
handled the command.  Its lookup and assignment are those of
`updateDataPoint`. -/
def asduHandler (dataPoints : DataPoints) (now : UInt64) (asdu : CommandAsdu) :
    DataPoints × Option CommandAsdu × Bool :=
  if asdu.typeID = .C_SC_NA_1 then
    if asdu.cot = .activation then
      match asdu.getElement 0 with
      | some sc =>
          (updateSingle dataPoints sc.objectAddress now sc.state,
            some { asdu with cot := .activationCon }, true)
      | none => (dataPoints, some { asdu with cot := .unknownIoa }, true)
    else (dataPoints, some { asdu with cot := .unknownCot }, true)
  else (dataPoints, none, false)

/-- What `updateDataPoint` makes of a point. -/
def DataPoint.switched (point : DataPoint) (now : UInt64) (state : Bool) :
    DataPoint :=
  if point.type = .singlePoint then
    { point with
      value := .ofSingle point.value.bits state
      timestamp := now }
  else point

/-- The command addresses an existing single point that has its state. -/
def SingleCommand.AppliedIn (sc : SingleCommand) (dataPoints : DataPoints) :
    Prop :=
  ∃ point, dataPoints[sc.objectAddress]? = some point ∧
    point.type = .singlePoint ∧ point.value.singlePointValue = sc.state

def CommandAsdu.Confirms (reply : CommandAsdu) : Prop :=
  reply.cot = .activationCon ∧ reply.isNegative = false

def CommandAsdu.Rejects (reply : CommandAsdu) : Prop :=
  reply.isNegative = true ∨ reply.cot = .unknownCot ∨ reply.cot = .unknownIoa

/-- The answer confirms and every object is applied, or it rejects and no point
has changed. -/
def ConfirmsWhatItApplies (dataPoints : DataPoints) (now : UInt64)
    (asdu : CommandAsdu) : Prop :=
  ∃ after reply handled,
    asduHandler dataPoints now asdu = (after, some reply, handled) ∧
      (reply.Confirms ∧ (∀ sc ∈ asdu.objects, sc.AppliedIn after) ∨
        reply.Rejects ∧ ∀ ioa : Int32, after[ioa]? = dataPoints[ioa]?)

/-- Every object addresses an existing single point that the first object
switches to the state, or that has it already. -/
def FirstAppliesAll (dataPoints : DataPoints) (first : SingleCommand)
    (objects : List SingleCommand) : Prop :=
  ∀ sc ∈ objects, ∃ point, dataPoints[sc.objectAddress]? = some point ∧
    point.type = .singlePoint ∧
    if sc.objectAddress = first.objectAddress then sc.state = first.state
    else point.value.singlePointValue = sc.state

/-- The first object finds no single point, or one that is as it would leave
it. -/
def FirstChangesNothing (dataPoints : DataPoints) (now : UInt64)
    (first : SingleCommand) : Prop :=
  ∀ point, dataPoints[first.objectAddress]? = some point →
    point.type = .singlePoint →
    point.value = .ofSingle point.value.bits first.state ∧
      point.timestamp = now

def AnsweredTruly (dataPoints : DataPoints) (now : UInt64)
    (asdu : CommandAsdu) : Prop :=
  ∀ first rest, asdu.cot = .activation → asdu.objects = first :: rest →
    if asdu.isNegative then FirstChangesNothing dataPoints now first
    else FirstAppliesAll dataPoints first asdu.objects

section

variable (dataPoints : DataPoints) (now : UInt64)

theorem singlePointValue_ofSingle (before : BitVec 16) (single : Bool) :
    (Value.ofSingle before single).singlePointValue = single := by
  have cleared : (before &&& 0xFF00#16).setWidth 8 = 0#8 := by
    rw [BitVec.setWidth_and]
    exact BitVec.and_zero
  simp only [Value.ofSingle, Value.singlePointValue, BitVec.setWidth_or, cleared]
  cases single <;> decide

theorem getElem?_insert (ioa other : Int32) (point : DataPoint) :
    (dataPoints.insert ioa point)[other]? =
      if other = ioa then some point else dataPoints[other]? := by
  rw [Std.TreeMap.getElem?_insert]
  by_cases same : other = ioa
  · subst same
    simp
  · have different : compare ioa other ≠ .eq := fun equal =>
      same (Std.LawfulEqOrd.eq_of_compare equal).symm
    rw [if_neg different, if_neg same]

theorem getElem?_assign (ioa other : Int32) (test : DataPoint → Prop)
    [DecidablePred test] (change : DataPoint → DataPoint) :
    (match dataPoints[ioa]? with
      | none => dataPoints
      | some point =>
          if test point then dataPoints.insert ioa (change point)
          else dataPoints)[other]? =
      if other = ioa then
        dataPoints[ioa]?.map fun point =>
          if test point then change point else point
      else dataPoints[other]? := by
  by_cases same : other = ioa
  · subst same
    rw [if_pos rfl]
    cases found : dataPoints[other]? with
    | none => simp [found]
    | some point =>
        by_cases passes : test point
        · simp [passes]
        · simp [passes, found]
  · rw [if_neg same]
    split
    · rfl
    · split
      · rw [getElem?_insert, if_neg same]
      · rfl

theorem getElem?_updateSingle (ioa other : Int32) (state : Bool) :
    (updateSingle dataPoints ioa now state)[other]? =
      if other = ioa then
        dataPoints[ioa]?.map (·.switched now state)
      else dataPoints[other]? :=
  getElem?_assign dataPoints ioa other (fun point => point.type = .singlePoint)
    fun point =>
      { point with
        value := .ofSingle point.value.bits state
        timestamp := now }

theorem switched_type (point : DataPoint) (state : Bool) :
    (point.switched now state).type = point.type := by
  unfold DataPoint.switched
  split <;> rfl

private theorem switched_value {point : DataPoint} (state : Bool)
    (single : point.type = .singlePoint) :
    (point.switched now state).value.singlePointValue = state := by
  simp [DataPoint.switched, single, singlePointValue_ofSingle]

private theorem switched_eq_self_iff (point : DataPoint) (state : Bool) :
    point.switched now state = point ↔
      (point.type = .singlePoint →
        point.value = .ofSingle point.value.bits state ∧
          point.timestamp = now) := by
  unfold DataPoint.switched
  by_cases single : point.type = .singlePoint
  · rw [if_pos single]
    constructor
    · intro same _
      exact ⟨(congrArg DataPoint.value same).symm,
        (congrArg DataPoint.timestamp same).symm⟩
    · intro kept
      obtain ⟨value, timestamp⟩ := kept single
      rw [← value, ← timestamp]
  · simp [single]

private theorem appliedIn_updateSingle_iff (first sc : SingleCommand) :
    sc.AppliedIn (updateSingle dataPoints first.objectAddress now
        first.state) ↔
      ∃ point, dataPoints[sc.objectAddress]? = some point ∧
        point.type = .singlePoint ∧
        if sc.objectAddress = first.objectAddress then sc.state = first.state
        else point.value.singlePointValue = sc.state := by
  unfold SingleCommand.AppliedIn
  rw [getElem?_updateSingle]
  by_cases same : sc.objectAddress = first.objectAddress
  · simp only [same, if_true, Option.map_eq_some_iff]
    constructor
    · rintro ⟨after, ⟨point, found, switched⟩, single, value⟩
      subst switched
      rw [switched_type] at single
      rw [switched_value now first.state single] at value
      exact ⟨point, found, single, value.symm⟩
    · rintro ⟨point, found, single, state⟩
      refine ⟨_, ⟨point, found, rfl⟩, ?_, ?_⟩
      · rw [switched_type, single]
      · rw [switched_value now first.state single, state]
  · simp only [same, if_false]

private theorem updateSingle_unchanged_iff (first : SingleCommand) :
    (∀ ioa : Int32, (updateSingle dataPoints first.objectAddress now
        first.state)[ioa]? = dataPoints[ioa]?) ↔
      FirstChangesNothing dataPoints now first := by
  constructor
  · intro unchanged point found
    have same := unchanged first.objectAddress
    rw [getElem?_updateSingle, if_pos rfl, found] at same
    exact (switched_eq_self_iff now point first.state).mp
      (Option.some.inj same)
  · intro nothing ioa
    rw [getElem?_updateSingle]
    split
    · next same =>
        subst same
        cases found : dataPoints[first.objectAddress]? with
        | none => rfl
        | some point =>
            have kept := (switched_eq_self_iff now point first.state).mpr
              (nothing point found)
            rw [Option.map_some, kept]
    · rfl

end

theorem asduHandler_not_activation (dataPoints : DataPoints) (now : UInt64)
    {asdu : CommandAsdu} (command : asdu.typeID = .C_SC_NA_1)
    (other : asdu.cot ≠ .activation) :
    asduHandler dataPoints now asdu =
      (dataPoints, some { asdu with cot := .unknownCot }, true) := by
  rw [asduHandler, if_pos command, if_neg other]

theorem asduHandler_empty (dataPoints : DataPoints) (now : UInt64)
    {asdu : CommandAsdu} (command : asdu.typeID = .C_SC_NA_1)
    (activation : asdu.cot = .activation) (empty : asdu.objects = []) :
    asduHandler dataPoints now asdu =
      (dataPoints, some { asdu with cot := .unknownIoa }, true) := by
  rw [asduHandler, if_pos command, if_pos activation]
  simp [CommandAsdu.getElement, empty]

theorem asduHandler_first (dataPoints : DataPoints) (now : UInt64)
    {asdu : CommandAsdu} {first : SingleCommand} {rest : List SingleCommand}
    (command : asdu.typeID = .C_SC_NA_1) (activation : asdu.cot = .activation)
    (objects : asdu.objects = first :: rest) :
    asduHandler dataPoints now asdu =
      (updateSingle dataPoints first.objectAddress now first.state,
        some { asdu with cot := .activationCon }, true) := by
  rw [asduHandler, if_pos command, if_pos activation]
  simp [CommandAsdu.getElement, objects]

/-- A single command is confirmed exactly when it has been applied if and only
if it is not an activation or has no object, or it is positive and its first
object does the work of all, or it is negative and its first object does
nothing. -/
theorem confirmsWhatItApplies_iff (dataPoints : DataPoints) (now : UInt64)
    {asdu : CommandAsdu} (command : asdu.typeID = .C_SC_NA_1) :
    ConfirmsWhatItApplies dataPoints now asdu ↔
      AnsweredTruly dataPoints now asdu := by
  by_cases activation : asdu.cot = .activation
  · cases objects : asdu.objects with
    | nil =>
        have handled := asduHandler_empty dataPoints now command activation
          objects
        simp [ConfirmsWhatItApplies, AnsweredTruly, handled, objects,
          CommandAsdu.Rejects]
    | cons first rest =>
        have handled := asduHandler_first dataPoints now command activation
          objects
        have answered : AnsweredTruly dataPoints now asdu ↔
            if asdu.isNegative then FirstChangesNothing dataPoints now first
            else FirstAppliesAll dataPoints first (first :: rest) := by
          simp [AnsweredTruly, activation, objects]
        rw [answered]
        cases negative : asdu.isNegative with
        | true =>
            simp [ConfirmsWhatItApplies, handled, negative,
              CommandAsdu.Confirms, CommandAsdu.Rejects,
              ← updateSingle_unchanged_iff]
        | false =>
            simp [ConfirmsWhatItApplies, handled, negative,
              CommandAsdu.Confirms, CommandAsdu.Rejects, FirstAppliesAll,
              objects, appliedIn_updateSingle_iff]
  · have handled := asduHandler_not_activation dataPoints now command activation
    simp [ConfirmsWhatItApplies, AnsweredTruly, handled, activation,
      CommandAsdu.Rejects]

/-- The single points of `server104Test`. -/
def switchPoints : DataPoints :=
  addSingle (addSingle ∅ 200 0 .singlePoint 0 true 0) 201 0 .singlePoint 0 false 0

def switchOn (addresses : List Int32) : CommandAsdu :=
  { typeID := .C_SC_NA_1
    cot := .activation
    isNegative := false
    objects := addresses.map fun ioa => { objectAddress := ioa, state := true } }

/-- A command for one existing single point. -/
theorem confirmsWhatItApplies_switchOn :
    ConfirmsWhatItApplies switchPoints 5 (switchOn [201]) := by
  apply (confirmsWhatItApplies_iff switchPoints 5 rfl).mpr
  intro first rest _ objects
  cases objects
  intro sc member
  cases List.mem_singleton.mp member
  exact ⟨_, rfl, rfl, rfl⟩

/-- A command for an unknown address is confirmed, and so is one whose second
object is not carried out. -/
theorem not_confirmsWhatItApplies_switchOn :
    ¬ConfirmsWhatItApplies switchPoints 5 (switchOn [999]) ∧
      ¬ConfirmsWhatItApplies switchPoints 5 (switchOn [200, 201]) := by
  have applied : ∀ address addresses,
      ConfirmsWhatItApplies switchPoints 5 (switchOn (address :: addresses)) →
      ∀ sc ∈ (switchOn (address :: addresses)).objects,
        sc.AppliedIn (updateSingle switchPoints address 5 true) := by
    rintro address addresses ⟨after, reply, handled, sent, law⟩
    rw [asduHandler_first switchPoints 5 rfl rfl rfl] at sent
    cases sent
    rcases law with ⟨_, applied⟩ | ⟨rejects, _⟩
    · exact applied
    · rcases rejects with negative | unknown | unknown
      · cases negative
      · cases unknown
      · cases unknown
  constructor
  · intro confirms
    obtain ⟨point, found, _⟩ :=
      applied 999 [] confirms ⟨999, true⟩ List.mem_cons_self
    cases found
  · intro confirms
    obtain ⟨point, found, _, state⟩ := applied 200 [201] confirms ⟨201, true⟩
      (List.mem_cons_of_mem _ List.mem_cons_self)
    cases found
    exact absurd state (by decide)

end DataGateway.Iec104
