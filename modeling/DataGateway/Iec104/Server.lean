import DataGateway.Foundation.Packing
import Mathlib.Algebra.Order.Ring.Int
import Std.Data.TreeMap

/-!
# The IEC 104 server

The data points of `IEC104Server` and what it sends of them
(`core/iec104/iec104Service.cc`).  Of lib60870 the model takes what its header
documents: an ASDU refuses an object of another type than its first one and an
object that does not fit into the maximum size, and it says so by its result
only.  What it takes it encodes, an address in so many bytes, and the quality of a
single point in the half of a byte that its value leaves.
-/

namespace DataGateway.Iec104

open Foundation

inductive DataPointType
  | measuredValueScaled
  | singlePoint
  deriving DecidableEq, Repr

inductive ValueMember
  | scaledValue
  | singlePointValue
  deriving DecidableEq, Repr

/-- The union of `DataPoint`: its two bytes, the first one in the low half, and
the member that was written last. -/
structure Value where
  bits : BitVec 16
  written : ValueMember
  deriving DecidableEq

namespace Value

def scaledValue (value : Value) : Int16 := Int16.ofBitVec value.bits

def singlePointValue (value : Value) : Bool := value.bits.setWidth 8 != 0

/-- `value.scaledValue = scaled`. -/
def ofScaled (scaled : Int16) : Value :=
  { bits := scaled.toBitVec
    written := .scaledValue }

/-- `value.singlePointValue = single` on a union that held `before`; the second
byte is not written. -/
def ofSingle (before : BitVec 16) (single : Bool) : Value :=
  { bits := before &&& 0xFF00#16 ||| (if single then 1#16 else 0#16)
    written := .singlePointValue }

end Value

structure DataPoint where
  ioa : Int32
  type : DataPointType
  value : Value
  quality : UInt8
  timestamp : UInt64
  deriving DecidableEq

/-- `dataPoints_`, a `std::map<int, DataPoint>`. -/
abbrev DataPoints := Std.TreeMap Int32 DataPoint

section Store

variable (dataPoints : DataPoints) (ioa : Int32) (now : UInt64)

/-- `addDataPoint` with a scaled value. -/
def addScaled (type : DataPointType) (scaledValue : Int16) (quality : UInt8) :
    DataPoints :=
  dataPoints.insert ioa
    { ioa := ioa
      type := type
      value := .ofScaled scaledValue
      quality := quality
      timestamp := now }

/-- `addDataPoint` with a single point value; `stack` is what the new union
holds before. -/
def addSingle (type : DataPointType) (stack : BitVec 16) (singlePointValue : Bool)
    (quality : UInt8) : DataPoints :=
  dataPoints.insert ioa
    { ioa := ioa
      type := type
      value := .ofSingle stack singlePointValue
      quality := quality
      timestamp := now }

/-- `updateDataPoint` with a scaled value. -/
def updateScaled (scaledValue : Int16) : DataPoints :=
  match dataPoints[ioa]? with
  | none => dataPoints
  | some point =>
      if point.type = .measuredValueScaled then
        dataPoints.insert ioa
          { point with value := .ofScaled scaledValue, timestamp := now }
      else dataPoints

/-- `updateDataPoint` with a single point value. -/
def updateSingle (singlePointValue : Bool) : DataPoints :=
  match dataPoints[ioa]? with
  | none => dataPoints
  | some point =>
      if point.type = .singlePoint then
        dataPoints.insert ioa
          { point with
            value := .ofSingle point.value.bits singlePointValue
            timestamp := now }
      else dataPoints

end Store

inductive InformationObject
  | measuredValueScaled (ioa : Int32) (value : Int32) (quality : UInt8)
  | singlePoint (ioa : Int32) (value : Bool) (quality : UInt8)
  deriving DecidableEq

inductive TypeID
  | M_SP_NA_1
  | M_ME_NB_1
  deriving DecidableEq, Repr

def InformationObject.type : InformationObject → TypeID
  | .measuredValueScaled _ _ _ => .M_ME_NB_1
  | .singlePoint _ _ _ => .M_SP_NA_1

/-- An address has one, two or three bytes. -/
structure AppLayerParameters where
  sizeOfTypeId : Nat
  sizeOfVSQ : Nat
  sizeOfCOT : Nat
  sizeOfCA : Nat
  sizeOfIOA : Nat
  maxSizeOfASDU : Nat
  sizeOfIOA_mem : sizeOfIOA = 1 ∨ sizeOfIOA = 2 ∨ sizeOfIOA = 3

def AppLayerParameters.headerSize (parameters : AppLayerParameters) : Nat :=
  parameters.sizeOfTypeId + parameters.sizeOfVSQ + parameters.sizeOfCOT +
    parameters.sizeOfCA

/-- The encoded size: the address, then a value of two bytes with its quality
or a single point in one byte. -/
def InformationObject.size (parameters : AppLayerParameters) :
    InformationObject → Nat
  | .measuredValueScaled _ _ _ => parameters.sizeOfIOA + 3
  | .singlePoint _ _ _ => parameters.sizeOfIOA + 1

/-- The bytes of an address, which are read as a number without a sign. -/
def AppLayerParameters.encodedAddress (parameters : AppLayerParameters)
    (ioa : Int32) : Int32 :=
  Int32.ofInt (ioa.toInt % 256 ^ parameters.sizeOfIOA)

/-- What the receiver decodes: the low bytes of the address, the two bytes of a
scaled value, and of a single point the high half of its quality. -/
def InformationObject.encoded (parameters : AppLayerParameters) :
    InformationObject → InformationObject
  | .measuredValueScaled ioa value quality =>
      .measuredValueScaled (parameters.encodedAddress ioa) value.toInt16.toInt32
        quality
  | .singlePoint ioa value quality =>
      .singlePoint (parameters.encodedAddress ioa) value (quality &&& 0xF0)

inductive CauseOfTransmission
  | periodic
  | interrogatedByStation
  deriving DecidableEq, Repr

/-- An ASDU with its objects as they are encoded. -/
structure Asdu where
  isSequence : Bool
  cot : CauseOfTransmission
  oa : Nat
  ca : Nat
  isTest : Bool
  isNegative : Bool
  objects : List InformationObject
  deriving DecidableEq

/-- The library as the server meets it: its parameters, and whether it can
allocate an ASDU and each information object. -/
structure Library where
  parameters : AppLayerParameters
  createsAsdu : Bool
  createsObject : InformationObject → Bool

/-- The documented behaviour of `CS101_ASDU_addInformationObject` for an ASDU
that is not a sequence. -/
def addInformationObject (parameters : AppLayerParameters) (asdu : Asdu)
    (io : InformationObject) : Asdu × Bool :=
  if fits InformationObject.type (·.size parameters) parameters.headerSize
      parameters.maxSizeOfASDU asdu.objects io then
    ({ asdu with objects := asdu.objects ++ [io.encoded parameters] }, true)
  else (asdu, false)

/-- The object that the loop of `sendDataPoints` creates for a point. -/
def informationObject (dp : DataPoint) : InformationObject :=
  match dp.type with
  | .measuredValueScaled =>
      .measuredValueScaled dp.ioa dp.value.scaledValue.toInt32 dp.quality
  | .singlePoint => .singlePoint dp.ioa dp.value.singlePointValue dp.quality

/-- The loop of `sendDataPoints`, which ignores whether an object was added. -/
def addDataPoints (library : Library) (asdu : Asdu) : List DataPoint → Asdu
  | [] => asdu
  | dp :: points =>
      let io := informationObject dp
      if library.createsObject io then
        addDataPoints library
          (addInformationObject library.parameters asdu io).1 points
      else addDataPoints library asdu points

/-- What the server hands to the library: to the connection of a master, or to
the queue for all of them. -/
inductive Sent
  | actCon (isNegative : Bool)
  | asdu (asdu : Asdu)
  | actTerm
  | enqueued (asdu : Asdu)
  deriving DecidableEq

def sendDataPoints (library : Library) (connection : Bool)
    (points : List DataPoint) (cot : CauseOfTransmission) : List Sent :=
  if points.isEmpty then []
  else if library.createsAsdu then
    let asdu := addDataPoints library
      { isSequence := false
        cot := cot
        oa := 0
        ca := 1
        isTest := false
        isNegative := false
        objects := [] } points
    [if connection then .asdu asdu else .enqueued asdu]
  else []

/-- One turn of `periodicSendTask`. -/
def periodicSend (library : Library) (dataPoints : DataPoints) : List Sent :=
  sendDataPoints library false dataPoints.values .periodic

def interrogationHandler (library : Library) (dataPoints : DataPoints)
    (qoi : UInt8) : List Sent :=
  if qoi = 20 then
    .actCon false ::
      (sendDataPoints library true dataPoints.values .interrogatedByStation ++
        [.actTerm])
  else [.actCon true]

end DataGateway.Iec104
