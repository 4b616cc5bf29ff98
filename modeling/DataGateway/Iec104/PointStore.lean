import DataGateway.Foundation.KeyedCalls
import DataGateway.Iec104.Commands

/-!
# The data points over time

The map of `IEC104Server` under any sequence of the calls that change it:
`addDataPoint` and `updateDataPoint` with either overload, and the single
commands that `asduHandler` receives.  Each of them acts on one address, so the
map is followed address by address.
-/

namespace DataGateway.Iec104

open Foundation

/-- `stack` is what the union of the new point holds before. -/
inductive PointCall
  | addScaled (ioa : Int32) (type : DataPointType) (scaledValue : Int16)
      (quality : UInt8)
  | addSingle (ioa : Int32) (type : DataPointType) (stack : BitVec 16)
      (singlePointValue : Bool) (quality : UInt8)
  | updateScaled (ioa : Int32) (scaledValue : Int16)
  | updateSingle (ioa : Int32) (singlePointValue : Bool)
  | command (asdu : CommandAsdu)

/-- A call and the reading of `Hal_getTimeInMs` in it. -/
structure TimedCall where
  now : UInt64
  call : PointCall

def TimedCall.perform (timed : TimedCall) (dataPoints : DataPoints) :
    DataPoints :=
  match timed.call with
  | .addScaled ioa type scaledValue quality =>
      addScaled dataPoints ioa timed.now type scaledValue quality
  | .addSingle ioa type stack singlePointValue quality =>
      addSingle dataPoints ioa timed.now type stack singlePointValue quality
  | .updateScaled ioa scaledValue =>
      updateScaled dataPoints ioa timed.now scaledValue
  | .updateSingle ioa singlePointValue =>
      updateSingle dataPoints ioa timed.now singlePointValue
  | .command asdu => (asduHandler dataPoints timed.now asdu).1

def performAll (calls : List TimedCall) (dataPoints : DataPoints) : DataPoints :=
  calls.foldl (fun dataPoints timed => timed.perform dataPoints) dataPoints

/-- The overload of an `addDataPoint` is that of the declared type. -/
def PointCall.Declared : PointCall → Prop
  | .addScaled _ type _ _ => type = .measuredValueScaled
  | .addSingle _ type _ _ _ => type = .singlePoint
  | .updateScaled _ _ | .updateSingle _ _ | .command _ => True

/-- A received ASDU is a single command with one information object. -/
def PointCall.OneCommand : PointCall → Prop
  | .command asdu => asdu.typeID = .C_SC_NA_1 ∧ ∃ sc, asdu.objects = [sc]
  | .addScaled _ _ _ _ | .addSingle _ _ _ _ _ | .updateScaled _ _
  | .updateSingle _ _ => True

def PointCall.address? : PointCall → Option Int32
  | .addScaled ioa _ _ _ | .addSingle ioa _ _ _ _ | .updateScaled ioa _
  | .updateSingle ioa _ => some ioa
  | .command asdu => asdu.objects.head?.map SingleCommand.objectAddress

section Reference

inductive TypedValue
  | scaled (value : Int16)
  | single (state : Bool)
  deriving DecidableEq

/-- What the server is to know of a data point. -/
structure TypedPoint where
  value : TypedValue
  quality : UInt8
  timestamp : UInt64
  deriving DecidableEq

/-- A value of the point's type replaces its value and its timestamp; a value
of the other type changes nothing. -/
def TypedPoint.assign (point : TypedPoint) (now : UInt64) (value : TypedValue) :
    TypedPoint :=
  match point.value, value with
  | .scaled _, .scaled _ | .single _, .single _ =>
      { point with
        value := value
        timestamp := now }
  | .scaled _, .single _ | .single _, .scaled _ => point

/-- What a call should do to the point at its address. -/
def TimedCall.intended (timed : TimedCall) :
    Option TypedPoint → Option TypedPoint :=
  match timed.call with
  | .addScaled _ _ scaledValue quality =>
      fun _ => some ⟨.scaled scaledValue, quality, timed.now⟩
  | .addSingle _ _ _ singlePointValue quality =>
      fun _ => some ⟨.single singlePointValue, quality, timed.now⟩
  | .updateScaled _ scaledValue =>
      Option.map (·.assign timed.now (.scaled scaledValue))
  | .updateSingle _ singlePointValue =>
      Option.map (·.assign timed.now (.single singlePointValue))
  | .command asdu =>
      if asdu.cot = .activation then
        match asdu.objects with
        | sc :: _ => Option.map (·.assign timed.now (.single sc.state))
        | [] => id
      else id

def TimedCall.reference (timed : TimedCall) : KeyedCall Int32 TypedPoint :=
  { key := timed.call.address?
    effect := timed.intended }

/-- The reference model of the map after a sequence of calls. -/
def referencePoints (calls : List TimedCall) : Int32 → Option TypedPoint :=
  KeyedCall.applyAll (fun _ => none) (calls.map TimedCall.reference)

/-- The value that belongs to the type of the point. -/
def DataPoint.typed (point : DataPoint) : TypedPoint :=
  { value :=
      match point.type with
      | .measuredValueScaled => .scaled point.value.scaledValue
      | .singlePoint => .single point.value.singlePointValue
    quality := point.quality
    timestamp := point.timestamp }

/-- The map holds what the reference model says, every call has left all other
points alone, and no address is held twice. -/
structure IsLastWriterMap (calls : List TimedCall) : Prop where
  points : ∀ ioa : Int32,
    (performAll calls ∅)[ioa]?.map DataPoint.typed = referencePoints calls ioa
  others : ∀ before timed after, calls = before ++ timed :: after →
    ∀ ioa : Int32, timed.call.address? ≠ some ioa →
      (performAll (before ++ [timed]) ∅)[ioa]? = (performAll before ∅)[ioa]?
  ownAddress : ∀ (ioa : Int32) point,
    (performAll calls ∅)[ioa]? = some point → point.ioa = ioa
  unique : ((performAll calls ∅).values.map DataPoint.ioa).Nodup

end Reference

section Effects

/-- What `updateDataPoint` with a scaled value makes of a point. -/
def DataPoint.rescaled (point : DataPoint) (now : UInt64) (scaledValue : Int16) :
    DataPoint :=
  if point.type = .measuredValueScaled then
    { point with
      value := .ofScaled scaledValue
      timestamp := now }
  else point

/-- The point that `addDataPoint` stores. -/
def DataPoint.added (ioa : Int32) (type : DataPointType) (value : Value)
    (quality : UInt8) (now : UInt64) : DataPoint :=
  { ioa := ioa
    type := type
    value := value
    quality := quality
    timestamp := now }

/-- What a call does to the point at its address. -/
def TimedCall.effect (timed : TimedCall) : Option DataPoint → Option DataPoint :=
  match timed.call with
  | .addScaled ioa type scaledValue quality => fun _ =>
      some (.added ioa type (.ofScaled scaledValue) quality timed.now)
  | .addSingle ioa type stack singlePointValue quality => fun _ =>
      some (.added ioa type (.ofSingle stack singlePointValue) quality timed.now)
  | .updateScaled _ scaledValue => Option.map (·.rescaled timed.now scaledValue)
  | .updateSingle _ singlePointValue =>
      Option.map (·.switched timed.now singlePointValue)
  | .command asdu =>
      if asdu.typeID = .C_SC_NA_1 ∧ asdu.cot = .activation then
        match asdu.objects with
        | sc :: _ => Option.map (·.switched timed.now sc.state)
        | [] => id
      else id

def TimedCall.stored (timed : TimedCall) : KeyedCall Int32 DataPoint :=
  { key := timed.call.address?
    effect := timed.effect }

theorem getElem?_updateScaled (dataPoints : DataPoints) (now : UInt64)
    (ioa other : Int32) (scaledValue : Int16) :
    (updateScaled dataPoints ioa now scaledValue)[other]? =
      if other = ioa then
        dataPoints[ioa]?.map (·.rescaled now scaledValue)
      else dataPoints[other]? :=
  getElem?_assign dataPoints ioa other
    (fun point => point.type = .measuredValueScaled) fun point =>
      { point with
        value := .ofScaled scaledValue
        timestamp := now }

private theorem getElem?_asduHandler (dataPoints : DataPoints) (now : UInt64)
    (asdu : CommandAsdu) (ioa : Int32) :
    (asduHandler dataPoints now asdu).1[ioa]? =
      (TimedCall.stored ⟨now, .command asdu⟩).apply (dataPoints[·]?) ioa := by
  by_cases acts : asdu.typeID = .C_SC_NA_1 ∧ asdu.cot = .activation
  · obtain ⟨command, activation⟩ := acts
    cases objects : asdu.objects with
    | nil =>
        rw [asduHandler_empty dataPoints now command activation objects]
        simp [TimedCall.stored, PointCall.address?, KeyedCall.apply, objects]
    | cons first rest =>
        rw [asduHandler_first dataPoints now command activation objects,
          getElem?_updateSingle]
        simp only [TimedCall.stored, PointCall.address?, TimedCall.effect,
          KeyedCall.apply, objects, command, activation, List.head?_cons,
          Option.map_some, Option.some.injEq, and_self, if_true]
        by_cases same : ioa = first.objectAddress
        · rw [if_pos same, if_pos same.symm, same]
        · rw [if_neg same, if_neg (Ne.symm same)]
  · have unchanged : (asduHandler dataPoints now asdu).1 = dataPoints := by
      by_cases command : asdu.typeID = .C_SC_NA_1
      · have other : asdu.cot ≠ .activation := fun same => acts ⟨command, same⟩
        rw [asduHandler_not_activation dataPoints now command other]
      · rw [asduHandler, if_neg command]
    rw [unchanged]
    simp [TimedCall.stored, TimedCall.effect, KeyedCall.apply, acts]

/-- Every call acts on one address. -/
theorem getElem?_perform (timed : TimedCall) (dataPoints : DataPoints)
    (ioa : Int32) :
    (timed.perform dataPoints)[ioa]? =
      timed.stored.apply (dataPoints[·]?) ioa := by
  obtain ⟨now, call⟩ := timed
  cases call with
  | command asdu => exact getElem?_asduHandler dataPoints now asdu ioa
  | addScaled address type scaledValue quality =>
      simp only [TimedCall.perform, addScaled, getElem?_insert, TimedCall.stored,
        PointCall.address?, TimedCall.effect, KeyedCall.apply, Option.some.injEq,
        eq_comm]
      rfl
  | addSingle address type stack singlePointValue quality =>
      simp only [TimedCall.perform, addSingle, getElem?_insert, TimedCall.stored,
        PointCall.address?, TimedCall.effect, KeyedCall.apply, Option.some.injEq,
        eq_comm]
      rfl
  | updateScaled address scaledValue =>
      simp only [TimedCall.perform, getElem?_updateScaled, TimedCall.stored,
        PointCall.address?, TimedCall.effect, KeyedCall.apply, Option.some.injEq]
      by_cases same : ioa = address
      · rw [if_pos same, if_pos same.symm, same]
      · rw [if_neg same, if_neg (Ne.symm same)]
  | updateSingle address singlePointValue =>
      simp only [TimedCall.perform, getElem?_updateSingle, TimedCall.stored,
        PointCall.address?, TimedCall.effect, KeyedCall.apply, Option.some.injEq]
      by_cases same : ioa = address
      · rw [if_pos same, if_pos same.symm, same]
      · rw [if_neg same, if_neg (Ne.symm same)]

private theorem getElem?_performAll (calls : List TimedCall) (dataPoints : DataPoints)
    (ioa : Int32) :
    (performAll calls dataPoints)[ioa]? =
      KeyedCall.applyAll (dataPoints[·]?) (calls.map TimedCall.stored) ioa := by
  induction calls generalizing dataPoints with
  | nil => rfl
  | cons timed calls induction =>
      have head : ((timed.perform dataPoints)[·]?) =
          timed.stored.apply (dataPoints[·]?) :=
        funext (getElem?_perform timed dataPoints)
      rw [List.map_cons, KeyedCall.applyAll_cons, ← head]
      exact induction (timed.perform dataPoints)

private theorem performAll_append (first second : List TimedCall)
    (dataPoints : DataPoints) :
    performAll (first ++ second) dataPoints =
      performAll second (performAll first dataPoints) :=
  List.foldl_append

end Effects

section LastWriter

theorem scaledValue_ofScaled (scaledValue : Int16) :
    (Value.ofScaled scaledValue).scaledValue = scaledValue := rfl

private theorem typed_rescaled (point : DataPoint) (now : UInt64) (scaledValue : Int16) :
    (point.rescaled now scaledValue).typed =
      point.typed.assign now (.scaled scaledValue) := by
  cases type : point.type with
  | measuredValueScaled =>
      simp [DataPoint.rescaled, DataPoint.typed, TypedPoint.assign, type,
        scaledValue_ofScaled]
  | singlePoint =>
      simp [DataPoint.rescaled, DataPoint.typed, TypedPoint.assign, type]

private theorem typed_switched (point : DataPoint) (now : UInt64) (state : Bool) :
    (point.switched now state).typed =
      point.typed.assign now (.single state) := by
  cases type : point.type with
  | measuredValueScaled =>
      simp [DataPoint.switched, DataPoint.typed, TypedPoint.assign, type]
  | singlePoint =>
      simp [DataPoint.switched, DataPoint.typed, TypedPoint.assign, type,
        singlePointValue_ofSingle]

theorem typed_effect {timed : TimedCall} (declared : timed.call.Declared)
    (oneCommand : timed.call.OneCommand) (entry : Option DataPoint) :
    (timed.effect entry).map DataPoint.typed =
      timed.intended (entry.map DataPoint.typed) := by
  obtain ⟨now, call⟩ := timed
  cases call with
  | addScaled ioa type scaledValue quality =>
      cases declared
      rfl
  | addSingle ioa type stack singlePointValue quality =>
      cases declared
      simp [TimedCall.effect, TimedCall.intended, DataPoint.added,
        DataPoint.typed, singlePointValue_ofSingle]
  | updateScaled ioa scaledValue =>
      simp only [TimedCall.effect, TimedCall.intended, Option.map_map]
      congr 1
      funext point
      exact typed_rescaled point now scaledValue
  | updateSingle ioa singlePointValue =>
      simp only [TimedCall.effect, TimedCall.intended, Option.map_map]
      congr 1
      funext point
      exact typed_switched point now singlePointValue
  | command asdu =>
      obtain ⟨single, sc, objects⟩ := oneCommand
      simp only [TimedCall.effect, TimedCall.intended, objects, single, true_and]
      by_cases activation : asdu.cot = .activation
      · simp only [activation, if_true, Option.map_map]
        congr 1
        funext point
        exact typed_switched point now sc.state
      · rw [if_neg activation, if_neg activation]
        rfl

theorem values_eq_map_toList (dataPoints : DataPoints) :
    dataPoints.values = dataPoints.toList.map Prod.snd := by
  have folded : dataPoints.values =
      dataPoints.foldr (fun _ point points => point :: points) [] := rfl
  rw [folded, Std.TreeMap.foldr_eq_foldr_toList]
  induction dataPoints.toList with
  | nil => rfl
  | cons entry entries induction =>
      rw [List.foldr_cons, induction, List.map_cons]

theorem mem_values_iff {dataPoints : DataPoints} {point : DataPoint} :
    point ∈ dataPoints.values ↔
      ∃ ioa : Int32, dataPoints[ioa]? = some point := by
  rw [values_eq_map_toList, List.mem_map]
  constructor
  · intro member
    obtain ⟨⟨ioa, stored⟩, inList, same⟩ := member
    subst same
    exact ⟨ioa, Std.TreeMap.mem_toList_iff_getElem?_eq_some.mp inList⟩
  · intro found
    obtain ⟨ioa, found⟩ := found
    exact ⟨(ioa, point), Std.TreeMap.mem_toList_iff_getElem?_eq_some.mpr found,
      rfl⟩

theorem nodup_values_ioa {dataPoints : DataPoints}
    (ownAddress : ∀ (ioa : Int32) point,
      dataPoints[ioa]? = some point → point.ioa = ioa) :
    (dataPoints.values.map DataPoint.ioa).Nodup := by
  have keys : dataPoints.values.map DataPoint.ioa = dataPoints.keys := by
    rw [values_eq_map_toList, ← Std.TreeMap.map_fst_toList_eq_keys, List.map_map]
    apply List.map_congr_left
    intro entry member
    exact ownAddress entry.1 entry.2
      (Std.TreeMap.mem_toList_iff_getElem?_eq_some.mp member)
  rw [keys]
  exact Std.TreeMap.nodup_keys

theorem getElem?_empty (ioa : Int32) :
    (∅ : DataPoints)[ioa]? = none :=
  Std.TreeMap.getElem?_emptyc

theorem rescaled_ioa (point : DataPoint) (now : UInt64) (scaledValue : Int16) :
    (point.rescaled now scaledValue).ioa = point.ioa := by
  unfold DataPoint.rescaled
  split <;> rfl

theorem switched_ioa (point : DataPoint) (now : UInt64) (state : Bool) :
    (point.switched now state).ioa = point.ioa := by
  unfold DataPoint.switched
  split <;> rfl

private theorem typed_performAll {calls : List TimedCall}
    (declared : ∀ timed ∈ calls, timed.call.Declared)
    (oneCommand : ∀ timed ∈ calls, timed.call.OneCommand) (ioa : Int32) :
    (performAll calls ∅)[ioa]?.map DataPoint.typed = referencePoints calls ioa := by
  rw [getElem?_performAll]
  have viewed := KeyedCall.view_applyAll DataPoint.typed TimedCall.stored
    TimedCall.reference (fun timed (_ : timed ∈ calls) => rfl)
    (fun timed member entry =>
      typed_effect (declared timed member) (oneCommand timed member) entry)
    ((∅ : DataPoints)[·]?) ioa
  rw [viewed]
  have start : (fun ioa : Int32 => (∅ : DataPoints)[ioa]?.map DataPoint.typed) =
      fun _ => none := by
    funext ioa
    rw [getElem?_empty]
    rfl
  rw [start]
  rfl

theorem getElem?_performAll_other {before : List TimedCall} {timed : TimedCall}
    {ioa : Int32} (other : timed.call.address? ≠ some ioa)
    (dataPoints : DataPoints) :
    (performAll (before ++ [timed]) dataPoints)[ioa]? =
      (performAll before dataPoints)[ioa]? := by
  rw [performAll_append]
  exact (getElem?_perform timed _ ioa).trans (KeyedCall.apply_of_ne other _)

theorem forall_performAll (property : Int32 → DataPoint → Prop)
    {calls : List TimedCall}
    (scaledAdded : ∀ now ioa type scaledValue quality,
      ⟨now, .addScaled ioa type scaledValue quality⟩ ∈ calls →
      property ioa (.added ioa type (.ofScaled scaledValue) quality now))
    (singleAdded : ∀ now ioa type stack singlePointValue quality,
      ⟨now, .addSingle ioa type stack singlePointValue quality⟩ ∈ calls →
      property ioa
        (.added ioa type (.ofSingle stack singlePointValue) quality now))
    (rescaled : ∀ ioa point now scaledValue, property ioa point →
      property ioa (point.rescaled now scaledValue))
    (switched : ∀ ioa point now state, property ioa point →
      property ioa (point.switched now state)) :
    ∀ (ioa : Int32) point, (performAll calls ∅)[ioa]? = some point →
      property ioa point := by
  intro ioa point stored
  rw [getElem?_performAll] at stored
  refine KeyedCall.forall_applyAll property ?_ ?_ ioa point stored
  · intro ioa point found
    rw [getElem?_empty] at found
    cases found
  · intro call member ioa entry key kept point made
    obtain ⟨⟨now, call⟩, inCalls, same⟩ := List.mem_map.mp member
    subst same
    have mapped : ∀ change : DataPoint → DataPoint,
        (∀ point, property ioa point → property ioa (change point)) →
        entry.map change = some point → property ioa point := by
      intro change keeps made
      obtain ⟨old, found, same⟩ := Option.map_eq_some_iff.mp made
      subst same
      exact keeps old (kept old found)
    cases call with
    | addScaled address type scaledValue quality =>
        cases key
        cases made
        exact scaledAdded now ioa type scaledValue quality inCalls
    | addSingle address type stack singlePointValue quality =>
        cases key
        cases made
        exact singleAdded now ioa type stack singlePointValue quality inCalls
    | updateScaled address scaledValue =>
        apply mapped (·.rescaled now scaledValue) _ made
        exact fun point => rescaled ioa point now scaledValue
    | updateSingle address singlePointValue =>
        apply mapped (·.switched now singlePointValue) _ made
        exact fun point => switched ioa point now singlePointValue
    | command asdu =>
        simp only [TimedCall.stored, TimedCall.effect] at made
        by_cases acts : asdu.typeID = .C_SC_NA_1 ∧ asdu.cot = .activation
        · rw [if_pos acts] at made
          cases objects : asdu.objects with
          | nil =>
              rw [objects] at made
              exact kept point made
          | cons sc rest =>
              rw [objects] at made
              apply mapped (·.switched now sc.state) _ made
              exact fun point => switched ioa point now sc.state
        · rw [if_neg acts] at made
          exact kept point made

theorem ioa_performAll (calls : List TimedCall) :
    ∀ (ioa : Int32) point, (performAll calls ∅)[ioa]? = some point →
      point.ioa = ioa := by
  apply forall_performAll fun ioa point => point.ioa = ioa
  · intros
    rfl
  · intros
    rfl
  · intro ioa point now scaledValue own
    rw [rescaled_ioa, own]
  · intro ioa point now state own
    rw [switched_ioa, own]

/-- With matching overloads and single commands of one object each, the map is
the last-writer map of the reference model, for every sequence of calls. -/
theorem pointStore_isLastWriterMap (calls : List TimedCall)
    (declared : ∀ timed ∈ calls, timed.call.Declared)
    (oneCommand : ∀ timed ∈ calls, timed.call.OneCommand) :
    IsLastWriterMap calls := by
  constructor
  · exact typed_performAll declared oneCommand
  · intro before timed after _ ioa other
    exact getElem?_performAll_other other ∅
  · exact ioa_performAll calls
  · exact nodup_values_ioa (ioa_performAll calls)

/-- A point is switched by a command, becomes a measured value by a second
`addDataPoint`, and is then out of reach of the command. -/
def retypedCalls : List TimedCall :=
  [⟨1, .addSingle 200 .singlePoint 0 false 0⟩, ⟨2, .command (switchOn [200])⟩,
    ⟨3, .addScaled 200 .measuredValueScaled (-5) 0⟩,
    ⟨4, .command (switchOn [200])⟩, ⟨5, .updateScaled 201 7⟩]

theorem pointStore_isLastWriterMap_retyped : IsLastWriterMap retypedCalls ∧
    referencePoints retypedCalls 200 = some ⟨.scaled (-5), 0, 3⟩ := by
  constructor
  · apply pointStore_isLastWriterMap retypedCalls
    · intro timed member
      simp only [retypedCalls, List.mem_cons, List.not_mem_nil, or_false] at member
      rcases member with same | same | same | same | same <;> subst same <;>
        trivial
    · intro timed member
      simp only [retypedCalls, List.mem_cons, List.not_mem_nil, or_false] at member
      rcases member with same | same | same | same | same <;> subst same
      · trivial
      · exact ⟨rfl, _, rfl⟩
      · trivial
      · exact ⟨rfl, _, rfl⟩
      · trivial
  · rfl

end LastWriter

section ActiveMember

def DataPointType.member : DataPointType → ValueMember
  | .measuredValueScaled => .scaledValue
  | .singlePoint => .singlePointValue

/-- Every point is read through the member of its union that was written
last. -/
def ReadsLastWritten (dataPoints : DataPoints) : Prop :=
  ∀ point ∈ dataPoints.values, point.type.member = point.value.written

/-- An interrogation or a periodic transmission at any time in the sequence
reads every point through the member that was written last. -/
def AlwaysReadsLastWritten (calls : List TimedCall) : Prop :=
  ∀ before after, calls = before ++ after →
    ReadsLastWritten (performAll before ∅)

private theorem rescaled_member {point : DataPoint}
    (active : point.type.member = point.value.written) (now : UInt64)
    (scaledValue : Int16) :
    (point.rescaled now scaledValue).type.member =
      (point.rescaled now scaledValue).value.written := by
  unfold DataPoint.rescaled
  by_cases scaled : point.type = .measuredValueScaled
  · rw [if_pos scaled]
    exact congrArg DataPointType.member scaled
  · rw [if_neg scaled]
    exact active

private theorem switched_member {point : DataPoint}
    (active : point.type.member = point.value.written) (now : UInt64)
    (state : Bool) :
    (point.switched now state).type.member =
      (point.switched now state).value.written := by
  unfold DataPoint.switched
  by_cases single : point.type = .singlePoint
  · rw [if_pos single]
    exact congrArg DataPointType.member single
  · rw [if_neg single]
    exact active

private theorem readsLastWritten_performAll {calls : List TimedCall}
    (declared : ∀ timed ∈ calls, timed.call.Declared) :
    ReadsLastWritten (performAll calls ∅) := by
  intro point member
  obtain ⟨ioa, stored⟩ := mem_values_iff.mp member
  refine forall_performAll
    (fun _ point => point.type.member = point.value.written) ?_ ?_ ?_ ?_ ioa point
    stored
  · intro now ioa type scaledValue quality inCalls
    exact congrArg DataPointType.member (declared _ inCalls)
  · intro now ioa type stack singlePointValue quality inCalls
    exact congrArg DataPointType.member (declared _ inCalls)
  · intro ioa point now scaledValue active
    exact rescaled_member active now scaledValue
  · intro ioa point now state active
    exact switched_member active now state

theorem declared_of_readsLastWritten {before : List TimedCall}
    {timed : TimedCall}
    (reads : ReadsLastWritten (performAll (before ++ [timed]) ∅)) :
    timed.call.Declared := by
  have stored : ∀ {ioa : Int32} {point : DataPoint},
      timed.call.address? = some ioa → timed.effect = (fun _ => some point) →
      point.type.member = point.value.written := by
    intro ioa point address adds
    apply reads point
    apply mem_values_iff.mpr
    refine ⟨ioa, ?_⟩
    rw [performAll_append]
    refine (getElem?_perform timed _ ioa).trans ?_
    rw [KeyedCall.apply_of_key address]
    exact congrFun adds _
  obtain ⟨now, call⟩ := timed
  cases call with
  | addScaled ioa type scaledValue quality =>
      have active := stored rfl rfl
      cases type with
      | measuredValueScaled => rfl
      | singlePoint => cases active
  | addSingle ioa type stack singlePointValue quality =>
      have active := stored rfl rfl
      cases type with
      | measuredValueScaled => cases active
      | singlePoint => rfl
  | updateScaled ioa scaledValue => trivial
  | updateSingle ioa singlePointValue => trivial
  | command asdu => trivial

/-- The union of every point is read through the member last written, whenever
it is sent, exactly when every `addDataPoint` is called with the overload of its
declared type. -/
theorem alwaysReadsLastWritten_iff (calls : List TimedCall) :
    AlwaysReadsLastWritten calls ↔
      ∀ timed ∈ calls, timed.call.Declared := by
  constructor
  · intro always timed member
    obtain ⟨before, after, split⟩ := List.append_of_mem member
    apply declared_of_readsLastWritten
    apply always (before ++ [timed]) after
    rw [split, List.append_assoc, List.singleton_append]
  · intro declared before after split
    apply readsLastWritten_performAll
    intro timed member
    apply declared
    rw [split]
    exact List.mem_append_left after member

/-- A scaled value of 256 under the type of a single point. -/
def misdeclaredCalls : List TimedCall :=
  [⟨1, .addScaled 100 .singlePoint 256 0⟩]

/-- The low byte of the value goes out as a single point that is off. -/
theorem misdeclared_read_as_single :
    ¬AlwaysReadsLastWritten misdeclaredCalls ∧
      (performAll misdeclaredCalls ∅).values.map informationObject =
        [.singlePoint 100 false 0] := by
  constructor
  · intro always
    have reads := always misdeclaredCalls [] rfl
    have misread : DataPointType.member .singlePoint = .scaledValue :=
      reads _ List.mem_cons_self
    cases misread
  · rfl

end ActiveMember

end DataGateway.Iec104
