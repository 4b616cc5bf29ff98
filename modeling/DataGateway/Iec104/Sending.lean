import DataGateway.Iec104.Monitoring
import DataGateway.Iec104.PointStore
import Mathlib.Data.List.Sort

/-!
# What the server sends of its points

`IEC104Server::sendDataPoints` puts the points into one ASDU in the order of
their addresses and does not see which of them are refused.  What goes out is a
prefix of the points of one type.
-/

namespace DataGateway.Iec104

open Foundation

/-- The size of an object depends on its type only. -/
def AppLayerParameters.weight (parameters : AppLayerParameters) : TypeID → Nat
  | .M_SP_NA_1 => parameters.sizeOfIOA + 1
  | .M_ME_NB_1 => parameters.sizeOfIOA + 3

/-- The objects that go out, encoded: of those that can be created and fit alone, the
first ones of the type of the first. -/
def carried (library : Library) (points : List DataPoint) :
    List InformationObject :=
  packed InformationObject.type (·.size library.parameters)
    library.parameters.headerSize library.parameters.maxSizeOfASDU
    (((points.map informationObject).filter library.createsObject).map
      (·.encoded library.parameters))

/-- The data ASDU of the server, if there is one. -/
def dataAsdus (library : Library) (cot : CauseOfTransmission)
    (points : List DataPoint) : List Asdu :=
  if points.isEmpty || !library.createsAsdu then []
  else
    [{ isSequence := false
       cot := cot
       oa := 0
       ca := 1
       isTest := false
       isNegative := false
       objects := carried library points }]

section

variable (library : Library) (points : List DataPoint)

theorem size_eq_weight (parameters : AppLayerParameters) (io : InformationObject) :
    io.size parameters = parameters.weight io.type := by
  cases io <;> rfl

theorem weight_pos (parameters : AppLayerParameters) (type : TypeID) :
    0 < parameters.weight type := by
  cases type with
  | M_SP_NA_1 => exact Nat.succ_pos _
  | M_ME_NB_1 => exact Nat.succ_pos _

private theorem pack_eq_carried :
    pack library.accepts []
        (((points.map informationObject).filter library.createsObject).map
          (·.encoded library.parameters)) =
      carried library points :=
  pack_eq_packed (fun io : InformationObject => weight_pos library.parameters io.type)
    (size_eq_weight library.parameters) _

theorem sendDataPoints_eq (connection : Bool) (cot : CauseOfTransmission) :
    sendDataPoints library connection points cot =
      (dataAsdus library cot points).map
        (if connection then Sent.asdu else Sent.enqueued) := by
  unfold sendDataPoints dataAsdus
  by_cases empty : points.isEmpty = true
  · simp [empty]
  · by_cases created : library.createsAsdu = true
    · rw [if_neg empty, if_pos created, addDataPoints_eq]
      simp only [pack_eq_carried]
      cases connection <;> simp [empty, created]
    · simp [empty, created]

end

theorem pairwise_values {dataPoints : DataPoints}
    (ownAddress : ∀ (ioa : Int32) point,
      dataPoints[ioa]? = some point → point.ioa = ioa) :
    (dataPoints.values.map DataPoint.ioa).Pairwise (· < ·) := by
  have keys : dataPoints.values.map DataPoint.ioa = dataPoints.keys := by
    rw [values_eq_map_toList, ← Std.TreeMap.map_fst_toList_eq_keys, List.map_map]
    apply List.map_congr_left
    intro entry member
    exact ownAddress entry.1 entry.2
      (Std.TreeMap.mem_toList_iff_getElem?_eq_some.mp member)
  rw [keys]
  exact Std.TreeMap.ordered_keys.imp Std.compare_eq_lt.mp

theorem values_eq {dataPoints : DataPoints} {points : List DataPoint}
    (sorted : points.Pairwise fun first second => first.ioa < second.ioa)
    (entries : ∀ (ioa : Int32) point,
      dataPoints[ioa]? = some point ↔ point ∈ points ∧ point.ioa = ioa) :
    dataPoints.values = points := by
  have own : ∀ (ioa : Int32) point, dataPoints[ioa]? = some point →
      point.ioa = ioa := fun ioa point stored => ((entries ioa point).mp stored).2
  have : Std.Irrefl fun first second : DataPoint => first.ioa < second.ioa :=
    ⟨fun point => Int32.lt_irrefl⟩
  have : Std.Antisymm fun first second : DataPoint => first.ioa < second.ioa :=
    ⟨fun _ _ less more => (Int32.lt_asymm less more).elim⟩
  apply List.Pairwise.eq_of_mem_iff (List.pairwise_map.mp (pairwise_values own))
    sorted
  intro point
  rw [mem_values_iff]
  constructor
  · rintro ⟨ioa, stored⟩
    exact ((entries ioa point).mp stored).1
  · intro member
    exact ⟨point.ioa, (entries point.ioa point).mpr ⟨member, rfl⟩⟩

end DataGateway.Iec104
