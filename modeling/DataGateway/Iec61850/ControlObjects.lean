import DataGateway.Foundation.Handles
import DataGateway.Foundation.Numerals
import DataGateway.Foundation.Runs

/-!
# Control commands

`iec61850Client::controlObjects` (`core/iec61850/lec61850Client.cc`) operates
a list of control objects with one text.  It is meant to skip what it cannot
handle; only boolean objects are handled as they should be.
-/

namespace DataGateway.Iec61850

open Foundation

inductive MmsType
  | MMS_ARRAY
  | MMS_STRUCTURE
  | MMS_BOOLEAN
  | MMS_BIT_STRING
  | MMS_INTEGER
  | MMS_UNSIGNED
  | MMS_FLOAT
  | MMS_OCTET_STRING
  | MMS_VISIBLE_STRING
  | MMS_GENERALIZED_TIME
  | MMS_BINARY_TIME
  | MMS_BCD
  | MMS_OBJ_ID
  | MMS_STRING
  | MMS_UTC_TIME
  | MMS_DATA_ACCESS_ERROR
  deriving DecidableEq, Repr

/-- The values that `controlObjects` creates. -/
inductive ControlValue
  | boolean (value : Bool)
  | integer (held : Int)
  deriving DecidableEq, Repr

def ControlValue.type : ControlValue → MmsType
  | .boolean _ => .MMS_BOOLEAN
  | .integer _ => .MMS_INTEGER

/-- A reference of the list with the type that the object reports, `none` when
`ControlObjectClient_create` fails. -/
structure ControlObject where
  node : String
  type : Option MmsType

/-- Which operations succeed, and what an integer of a size in bits holds as
long as nobody sets it. -/
structure ControlLibrary where
  newInteger : Int → Int
  operate : String → Option ControlValue → Bool

inductive ControlFault
  | conversion (fault : ConversionFault)
  | handle (fault : HandleFault)
  deriving DecidableEq

inductive ControlEvent
  | createFailed (node : String)
  | operated (value : Option ControlValue)
  | operateFailed (node : String)
  | deleted (value : Option ControlValue)

/-- The texts that the comparison in `controlObjects` takes for true. -/
def trueTexts : List (List UInt8) :=
  [bytesOf "true", bytesOf "1", bytesOf "True", bytesOf "TRUE"]

section Controlling

variable (library : ControlLibrary)

/-- The switch over the type of an object.  It hands the size of a new integer
0 or 1, where it means the value. -/
def newControlValue (ctlVal : List UInt8) :
    MmsType → Except ConversionFault (Option ControlValue)
  | .MMS_BOOLEAN => .ok (some (.boolean (trueTexts.contains ctlVal)))
  | .MMS_INTEGER =>
      (stoi (cText ctlVal)).map fun ctlValInt =>
        some (.integer (library.newInteger (if ctlValInt ≠ 0 then 1 else 0)))
  | _ => .ok none

/-- The body of the loop; the table has the `ControlObjectClient`s. -/
def controlObject (ctlVal : List UInt8) (controls : HandleTable)
    (object : ControlObject) :
    Except ControlFault (HandleTable × List ControlEvent) :=
  match object.type with
  | none => .ok (controls, [.createFailed object.node])
  | some type =>
      let control := controls.issued
      match newControlValue library ctlVal type with
      | .error fault => .error (.conversion fault)
      | .ok mmsCtlVal =>
          match controls.acquire.release? control with
          | .error fault => .error (.handle fault)
          | .ok destroyed =>
              .ok (destroyed,
                .operated mmsCtlVal ::
                  (if library.operate object.node mmsCtlVal then []
                    else [.operateFailed object.node]) ++
                  [.deleted mmsCtlVal])

end Controlling

def ControlEvent.operated? : ControlEvent → Option (Option ControlValue)
  | .operated value => some value
  | _ => none

section Claims

/-- What a text means for a type; `standsForFalse` are the texts for false. -/
def ControlValue.Represents (standsForFalse : List UInt8 → Prop)
    (ctlVal : List UInt8) : ControlValue → Prop
  | .boolean true => ctlVal ∈ trueTexts
  | .boolean false => ctlVal ∉ trueTexts ∧ standsForFalse ctlVal
  | .integer held => numeral? (cText ctlVal) = some held

variable (standsForFalse : List UInt8 → Prop) (ctlVal : List UInt8)

/-- The object exists, and the text has a value of its type. -/
def ControlObject.Operable (object : ControlObject) : Prop :=
  ∃ value : ControlValue, object.type = some value.type ∧
    value.Represents standsForFalse ctlVal

/-- One object is dealt with: it is operated once if that is possible, only
with a value of its type that represents the text, only such a value is
deleted, and the next object is reached. -/
def Controls (_ : HandleTable) (object : ControlObject)
    (result : Except ControlFault (HandleTable × List ControlEvent)) : Prop :=
  ∃ next events, result = .ok (next, events) ∧
    (∀ operand, .operated operand ∈ events → ∃ value : ControlValue,
      operand = some value ∧ object.type = some value.type ∧
        value.Represents standsForFalse ctlVal) ∧
    (∀ operand, .deleted operand ∈ events → ∃ value : ControlValue,
      operand = some value) ∧
    (object.Operable standsForFalse ctlVal →
      (events.filterMap ControlEvent.operated?).length = 1)

/-- The whole list is dealt with, and every `ControlObjectClient` destroyed. -/
def ControlsAll (library : ControlLibrary) (objects : List ControlObject) :
    Prop :=
  EachStep (controlObject library ctlVal) (Controls standsForFalse ctlVal)
      .empty objects ∧
    ∃ controls, run (controlObject library ctlVal) .empty objects =
        .ok controls ∧
      controls.ReleasedExactlyOnce

/-- There is no such object, or it is a boolean and the text one for true or
false, or an integer and a new one already holds what the text says. -/
def ControlObject.Handled (library : ControlLibrary)
    (object : ControlObject) : Prop :=
  match object.type with
  | none => True
  | some .MMS_BOOLEAN => ctlVal ∈ trueTexts ∨ standsForFalse ctlVal
  | some .MMS_INTEGER =>
      ∃ value, stoi (cText ctlVal) = .ok value ∧
        library.newInteger (if value ≠ 0 then 1 else 0) = value
  | some _ => False

end Claims

section

variable {library : ControlLibrary} {standsForFalse : List UInt8 → Prop}
  {ctlVal : List UInt8} {controls : HandleTable} {object : ControlObject}

theorem controlObject_cases (library : ControlLibrary) (ctlVal : List UInt8)
    (object : ControlObject) (clean : SoleOwner controls none) :
    (object.type = none ∧ controlObject library ctlVal controls object =
        .ok (controls, [.createFailed object.node])) ∨
      (∃ type fault, object.type = some type ∧
        newControlValue library ctlVal type = .error fault ∧
        controlObject library ctlVal controls object =
          .error (.conversion fault)) ∨
      ∃ type value destroyed failure, object.type = some type ∧
        newControlValue library ctlVal type = .ok value ∧
        SoleOwner destroyed none ∧
        controlObject library ctlVal controls object = .ok (destroyed,
          .operated value :: failure ++ [.deleted value]) ∧
        (failure = [] ∨ failure = [.operateFailed object.node]) := by
  unfold controlObject
  cases kind : object.type with
  | none => exact .inl ⟨rfl, rfl⟩
  | some type =>
      refine .inr ?_
      cases created : newControlValue library ctlVal type with
      | error fault => exact .inl ⟨type, fault, rfl, created, by simp [created]⟩
      | ok value =>
          have sole := clean.acquire
          refine .inr ⟨type, value, _,
            if library.operate object.node value then []
            else [.operateFailed object.node],
            rfl, created, sole.release, ?_, ?_⟩
          · simp only [created, HandleTable.release?_of_live sole.live]
          · split
            · exact .inl rfl
            · exact .inr rfl

private theorem mem_trueTexts_iff : trueTexts.contains ctlVal = true ↔
    ctlVal ∈ trueTexts := by
  simp

theorem handled_iff_represents {type : MmsType} (kind : object.type = some type) :
    object.Handled standsForFalse ctlVal library ↔
      ∃ value : ControlValue,
        newControlValue library ctlVal type = .ok (some value) ∧
        value.type = type ∧ value.Represents standsForFalse ctlVal := by
  unfold ControlObject.Handled
  rw [kind]
  cases type with
  | MMS_BOOLEAN =>
      by_cases isTrue : ctlVal ∈ trueTexts
      · have contained := mem_trueTexts_iff.mpr isTrue
        simp [newControlValue, isTrue, ControlValue.type,
          ControlValue.Represents]
      · simp [newControlValue, isTrue, ControlValue.type,
          ControlValue.Represents]
  | MMS_INTEGER =>
      cases read : stoi (cText ctlVal) with
      | error fault => simp [newControlValue, read, Except.map]
      | ok value =>
          have number := (convertWithin_eq_ok_iff.mp read).1
          simp [newControlValue, read, Except.map, ControlValue.type,
            ControlValue.Represents, number, eq_comm]
  | _ => simp [newControlValue]

private theorem controls_iff_handled (clean : SoleOwner controls none) :
    object.Handled standsForFalse ctlVal library ↔
      Controls standsForFalse ctlVal controls object
        (controlObject library ctlVal controls object) := by
  rcases controlObject_cases library ctlVal object clean with
    ⟨absent, result⟩ | ⟨type, fault, kind, created, result⟩ |
      ⟨type, value, destroyed, failure, kind, created, _, result, log⟩
  · constructor
    · intro _
      refine ⟨_, _, result, by simp, by simp, ?_⟩
      rintro ⟨value, kind, _⟩
      rw [absent] at kind
      cases kind
    · intro _
      simp [ControlObject.Handled, absent]
  · rw [handled_iff_represents kind, created]
    constructor
    · rintro ⟨value, impossible, _⟩
      cases impossible
    · rintro ⟨next, events, completed, _⟩
      rw [result] at completed
      cases completed
  · rw [handled_iff_represents kind, created]
    have quiet : failure.filterMap ControlEvent.operated? = [] := by
      rcases log with rfl | rfl
      · rfl
      · rfl
    have operatedMember : ∀ operand,
        .operated operand ∈ .operated value :: failure ++ [.deleted value] ↔
          operand = value := by
      intro operand
      rcases log with rfl | rfl
      · simp
      · simp
    have deletedMember : ∀ operand,
        .deleted operand ∈ .operated value :: failure ++ [.deleted value] ↔
          operand = value := by
      intro operand
      rcases log with rfl | rfl
      · simp
      · simp
    constructor
    · rintro ⟨held, same, sameType, represents⟩
      cases same
      refine ⟨_, _, result, ?_, ?_, ?_⟩
      · intro operand member
        exact ⟨held, (operatedMember operand).mp member,
          by rw [kind, sameType], represents⟩
      · intro operand member
        exact ⟨held, (deletedMember operand).mp member⟩
      · intro _
        simp [ControlEvent.operated?, quiet]
    · rintro ⟨next, events, completed, operands, _⟩
      rw [result] at completed
      cases completed
      obtain ⟨held, same, sameType, represents⟩ :=
        operands value ((operatedMember value).mpr rfl)
      cases same
      rw [kind] at sameType
      cases sameType
      exact ⟨held, rfl, rfl, represents⟩

private theorem controlObject_clean (clean : SoleOwner controls none)
    {next : HandleTable} {events : List ControlEvent}
    (result : controlObject library ctlVal controls object =
      .ok (next, events)) : SoleOwner next none := by
  rcases controlObject_cases library ctlVal object clean with
    ⟨_, other⟩ | ⟨_, _, _, _, other⟩ | ⟨_, _, _, _, _, _, sole, other, _⟩
  · cases result.symm.trans other
    exact clean
  · cases result.symm.trans other
  · cases result.symm.trans other
    exact sole

theorem controlsAll_iff_from (clean : SoleOwner controls none)
    (objects : List ControlObject) :
    (EachStep (controlObject library ctlVal) (Controls standsForFalse ctlVal)
        controls objects ∧
      ∃ final, run (controlObject library ctlVal) controls objects =
          .ok final ∧
        final.ReleasedExactlyOnce) ↔
      ∀ object ∈ objects, object.Handled standsForFalse ctlVal library := by
  induction objects generalizing controls with
  | nil => simpa [EachStep, run] using clean.releasedExactlyOnce
  | cons object objects induction =>
      rw [List.forall_mem_cons, controls_iff_handled clean]
      constructor
      · rintro ⟨each, final, completed, released⟩
        obtain ⟨next, events, result, _⟩ := id each.1
        simp only [run, result] at completed
        exact ⟨each.1, (induction (controlObject_clean clean result)).mp
          ⟨each.2 next events result, final, completed, released⟩⟩
      · rintro ⟨here, later⟩
        obtain ⟨next, events, result, _⟩ := id here
        obtain ⟨each, final, completed, released⟩ :=
          (induction (controlObject_clean clean result)).mpr later
        refine ⟨.cons here result each, final, ?_, released⟩
        simp only [run, result]
        exact completed

end

/-- The whole list is dealt with if and only if every object of it is handled,
whatever texts are taken for false. -/
theorem controlsAll_iff (standsForFalse : List UInt8 → Prop)
    (ctlVal : List UInt8) (library : ControlLibrary)
    (objects : List ControlObject) :
    ControlsAll standsForFalse ctlVal library objects ↔
      ∀ object ∈ objects, object.Handled standsForFalse ctlVal library :=
  controlsAll_iff_from SoleOwner.empty objects

/-- New integers hold 0, and every operation succeeds. -/
def zeroIntegers : ControlLibrary :=
  { newInteger := fun _ => 0
    operate := fun _ _ => true }

/-- A text that is no number keeps the boolean object after an integer from
being operated, a 1 is sent as 0, and a double point is operated without a
value. -/
theorem not_controlsAll_integer :
    ¬ControlsAll (fun _ => True) (bytesOf "true") zeroIntegers
        [⟨"beagleGenericIO/GGIO1.ISCSO1", some .MMS_INTEGER⟩,
          ⟨"beagleGenericIO/GGIO1.SPCSO1", some .MMS_BOOLEAN⟩] ∧
      ¬ControlsAll (fun _ => True) (bytesOf "1") zeroIntegers
        [⟨"beagleGenericIO/GGIO1.ISCSO1", some .MMS_INTEGER⟩] ∧
      ¬ControlsAll (fun _ => True) (bytesOf "true") zeroIntegers
        [⟨"beagleGenericIO/GGIO1.DPCSO1", some .MMS_BIT_STRING⟩] := by
  refine ⟨?_, ?_, ?_⟩
  · intro controls
    obtain ⟨value, read, _⟩ :=
      (controlsAll_iff_from SoleOwner.empty _).mp controls _ List.mem_cons_self
    have thrown : stoi (cText (bytesOf "true")) = .error .invalidArgument := by
      decide
    rw [thrown] at read
    cases read
  · intro controls
    obtain ⟨value, read, holds⟩ :=
      (controlsAll_iff_from SoleOwner.empty _).mp controls _ List.mem_cons_self
    have one : stoi (cText (bytesOf "1")) = .ok 1 := by decide
    rw [one] at read
    cases read
    cases holds
  · intro controls
    exact (controlsAll_iff_from SoleOwner.empty _).mp controls _
      List.mem_cons_self

end DataGateway.Iec61850
