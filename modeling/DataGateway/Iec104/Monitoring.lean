import DataGateway.Iec104.Interrogation

/-!
# Monitoring data at the receiving end

The ASDU callback of `IEC104ClientManger::initClients`
(`core/iec104/iec104ClientManger.cc`, the same in `testFunction`) on what
`IEC104Server::sendDataPoints` builds.  It asks for `M_ME_NB_1` and then reads
the elements as single points, so it matches neither of the two types.
-/

namespace DataGateway.Iec104

open Foundation

/-- `SinglePointInformation_getValue`, whose result is a byte: it is known to be that
of a `bool` on its own type only, and the callback applies it to whatever it has
cast. -/
structure SinglePointGetter where
  getValue : InformationObject → UInt8
  ownType : ∀ ioa value quality,
    getValue (.singlePoint ioa value quality) = value.toUInt8

/-- What the callback writes to the log. -/
inductive LogLine
  | received (type : Option TypeID) (elements : Nat)
  | element (ioa : Int32) (value : UInt8)
  deriving DecidableEq

/-- The type of an ASDU is that of the first object that was added. -/
def Asdu.typeID (asdu : Asdu) : Option TypeID :=
  asdu.objects.head?.map InformationObject.type

def InformationObject.objectAddress : InformationObject → Int32
  | .measuredValueScaled ioa _ _ => ioa
  | .singlePoint ioa _ _ => ioa

/-- The callback; `CS101_ASDU_getElement` returns the objects of the ASDU. -/
def asduReceivedCallback (getter : SinglePointGetter) (asdu : Asdu) :
    List LogLine × Bool :=
  let elements :=
    if asdu.typeID = some .M_ME_NB_1 then
      asdu.objects.map fun io =>
        .element io.objectAddress (getter.getValue io)
    else []
  (.received asdu.typeID asdu.objects.length :: elements, true)

def LogLine.reported? : LogLine → Option (Int32 × Int)
  | .received _ _ => none
  | .element ioa value => some (ioa, value.toNat)

/-- The value of the member that belongs to the type of the point. -/
def DataPoint.reading (dp : DataPoint) : Int :=
  match dp.type with
  | .measuredValueScaled => dp.value.scaledValue.toInt
  | .singlePoint => dp.value.singlePointValue.toInt

def Sent.asdu? : Sent → Option Asdu
  | .asdu built | .enqueued built => some built
  | .actCon _ | .actTerm => none

/-- The points go out in one ASDU, and the callback reports the address and the
value of each, in order. -/
def Survives (getter : SinglePointGetter) (library : Library)
    (connection : Bool) (cot : CauseOfTransmission) (points : List DataPoint) :
    Prop :=
  ∃ asdu,
    (sendDataPoints library connection points cot).filterMap Sent.asdu? =
        [asdu] ∧
      (asduReceivedCallback getter asdu).1.filterMap LogLine.reported? =
        points.map fun dp => (dp.ioa, dp.reading)

/-- All points are scaled values whose address the encoding keeps, and the getter of
another type happens to read each of them right. -/
def ReadByChance (getter : SinglePointGetter) (parameters : AppLayerParameters)
    (points : List DataPoint) : Prop :=
  ∀ dp ∈ points, dp.type = .measuredValueScaled ∧ parameters.Addresses dp.ioa ∧
    (getter.getValue ((informationObject dp).encoded parameters)).toNat = dp.reading

section

variable {library : Library} {points : List DataPoint}
  {getter : SinglePointGetter}

private theorem sendDataPoints_of_fits (connection : Bool) (cot : CauseOfTransmission)
    (nonempty : points ≠ []) (fitting : FitsOneAsdu library points) :
    ∃ asdu,
      (sendDataPoints library connection points cot).filterMap Sent.asdu? =
          [asdu] ∧
        asdu.objects = points.map fun dp =>
          (informationObject dp).encoded library.parameters := by
  obtain ⟨created, createdObjects, oneType, size⟩ := fitting
  have notEmpty : points.isEmpty = false := by simpa using nonempty
  unfold sendDataPoints
  rw [if_neg (by simp [notEmpty]), if_pos created, addDataPoints_eq]
  have packed : pack library.accepts []
        (((points.map informationObject).filter library.createsObject).map
          (·.encoded library.parameters)) =
      points.map fun dp => (informationObject dp).encoded library.parameters := by
    rw [List.filter_eq_self.mpr (by simpa using createdObjects), List.map_map]
    refine (pack_all_iff _ _ _ _ _).mpr (.inr ⟨?_, ?_⟩)
    · simpa [type_encoded, type_informationObject_eq_iff] using oneType
    · simpa [Function.comp_def, size_encoded] using size
  cases connection with
  | false =>
      refine ⟨_, rfl, ?_⟩
      exact packed
  | true =>
      refine ⟨_, rfl, ?_⟩
      exact packed

private theorem objectAddress_encoded (parameters : AppLayerParameters) (dp : DataPoint) :
    ((informationObject dp).encoded parameters).objectAddress =
      parameters.encodedAddress dp.ioa := by
  unfold informationObject
  cases dp.type <;> rfl

theorem type_informationObject (dp : DataPoint) :
    (informationObject dp).type = .M_ME_NB_1 ↔
      dp.type = .measuredValueScaled := by
  unfold informationObject
  cases dp.type <;> simp [InformationObject.type]

theorem reported_asduReceivedCallback {asdu : Asdu} {first : DataPoint}
    {rest : List DataPoint} {parameters : AppLayerParameters}
    (built : asdu.objects = (first :: rest).map fun dp =>
      (informationObject dp).encoded parameters) :
    (asduReceivedCallback getter asdu).1.filterMap LogLine.reported? =
      if first.type = .measuredValueScaled then
        (first :: rest).map fun dp =>
          (parameters.encodedAddress dp.ioa,
            ((getter.getValue ((informationObject dp).encoded parameters)).toNat : Int))
      else [] := by
  have type : asdu.typeID = some .M_ME_NB_1 ↔
      first.type = .measuredValueScaled := by
    simp [Asdu.typeID, built, type_encoded, type_informationObject]
  simp only [asduReceivedCallback, type, built]
  by_cases scaled : first.type = .measuredValueScaled
  · rw [if_pos scaled, if_pos scaled, List.filterMap_cons_none rfl,
      List.map_map, List.filterMap_map, ← List.filterMap_eq_map]
    apply List.filterMap_congr
    intro dp _
    simp [LogLine.reported?, objectAddress_encoded]
  · rw [if_neg scaled, if_neg scaled]
    rfl

end

/-- A list that fits into one ASDU survives if and only if it consists of
scaled values at addresses that the encoding keeps, which a getter for single
points happens to read right. -/
theorem survives_iff (getter : SinglePointGetter) {library : Library}
    (connection : Bool) (cot : CauseOfTransmission) {points : List DataPoint}
    (nonempty : points ≠ []) (fitting : FitsOneAsdu library points) :
    Survives getter library connection cot points ↔
      ReadByChance getter library.parameters points := by
  obtain ⟨asdu, sent, built⟩ :=
    sendDataPoints_of_fits connection cot nonempty fitting
  have oneType := fitting.2.2.1
  have survives : Survives getter library connection cot points ↔
      (asduReceivedCallback getter asdu).1.filterMap LogLine.reported? =
        points.map fun dp => (dp.ioa, dp.reading) := by
    simp [Survives, sent]
  rw [survives]
  cases points with
  | nil => exact (nonempty rfl).elim
  | cons first rest =>
      rw [reported_asduReceivedCallback built]
      by_cases scaled : first.type = .measuredValueScaled
      · rw [if_pos scaled, List.map_inj_left]
        have allScaled : ∀ dp ∈ first :: rest,
            dp.type = .measuredValueScaled := by
          intro dp member
          exact (oneType dp member first List.mem_cons_self).trans scaled
        constructor
        · intro same dp member
          obtain ⟨address, value⟩ := Prod.mk.inj (same dp member)
          exact ⟨allScaled dp member, (encodedAddress_eq_iff _ _).mp address, value⟩
        · intro chance dp member
          obtain ⟨_, address, value⟩ := chance dp member
          exact Prod.ext ((encodedAddress_eq_iff _ _).mpr address) value
      · rw [if_neg scaled]
        constructor
        · intro none
          cases none
        · intro chance
          exact (scaled (chance first List.mem_cons_self).1).elim

/-- The library's getter: it reads the byte at the place of the `bool`, which is
the low byte of a scaled value. -/
def firstByteGetter : SinglePointGetter :=
  { getValue := fun
      | .singlePoint _ value _ => value.toUInt8
      | .measuredValueScaled _ value _ => ⟨value.toBitVec.setWidth 8⟩
    ownType := fun _ _ _ => rfl }

def scaledPoint (ioa : Int32) (scaledValue : Int16) : DataPoint :=
  { ioa := ioa
    type := .measuredValueScaled
    value := .ofScaled scaledValue
    quality := 0
    timestamp := 0 }

def singlePoint (ioa : Int32) (singlePointValue : Bool) : DataPoint :=
  { ioa := ioa
    type := .singlePoint
    value := .ofSingle 0 singlePointValue
    quality := 0
    timestamp := 0 }

/-- Scaled values of one byte are read right. -/
theorem survives_bytes :
    Survives firstByteGetter defaultLibrary true .interrogatedByStation
      [scaledPoint 100 1, scaledPoint 101 255] := by
  apply (survives_iff firstByteGetter true .interrogatedByStation
    (by decide) ?_).mpr
  · unfold ReadByChance AppLayerParameters.Addresses
    decide
  · unfold FitsOneAsdu
    decide

/-- The points of `server104Test`, type by type. -/
theorem not_survives :
    ¬Survives firstByteGetter defaultLibrary false .periodic
        [scaledPoint 100 1000, scaledPoint 101 2000] ∧
      ¬Survives firstByteGetter defaultLibrary false .periodic
        [singlePoint 200 true, singlePoint 201 false] := by
  constructor
  · rintro ⟨asdu, sent, reported⟩
    cases sent
    exact absurd reported (by decide)
  · rintro ⟨asdu, sent, reported⟩
    cases sent
    exact absurd reported (by decide)

end DataGateway.Iec104
