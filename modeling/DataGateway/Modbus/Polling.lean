import DataGateway.Config.Data
import DataGateway.Foundation.Tiling
import DataGateway.Redis.Client
import Mathlib.Data.List.Sort

/-!
# The Modbus poller

`AppModbus::findContinuousRegisters`, `processUserData` and
`processContinuousRegisters` (`core/modbus/app_modbus_client.cc`).  The reads
are a function of a state of the device, so a poll may be run against any
device; the trace of a poll keeps, for every range, what was read and the store
calls made with the buffer indices each of them used.
-/

namespace DataGateway.Modbus

open Foundation ConfigDataModbus

structure RegisterRange where
  startAddr : UInt16
  count : Nat
  endIndex : Nat

/-- The registers of one point, `none` in the `default` branch of the switch. -/
def regCount? : DataType → Option Nat
  | .int16 | .uint16 => some 1
  | .int32 | .uint32 | .float32 => some 2
  | .unknown | .string => none

def address (point : DataPoint) : Nat := point.address.toNat

def cells? (point : DataPoint) : Option Nat := regCount? point.dataType

/-- The `while` loop of `findContinuousRegisters`; the list holds the points
from `currentIndex` on. -/
def extendRange (range : RegisterRange) (nextExpectedAddr currentIndex : Nat) :
    List DataPoint → RegisterRange
  | [] => range
  | currentPoint :: rest =>
      match regCount? currentPoint.dataType with
      | none => range
      | some currentRegCount =>
          if currentPoint.address.toNat = nextExpectedAddr then
            extendRange
              { range with
                count := range.count + currentRegCount
                endIndex := currentIndex }
              (currentPoint.address.toNat + currentRegCount)
              (currentIndex + 1) rest
          else range

def findContinuousRegisters (points : List DataPoint) (startIndex : Nat) :
    RegisterRange :=
  match points.drop startIndex with
  | [] => { startAddr := 0, count := 0, endIndex := startIndex }
  | startPoint :: rest =>
      match regCount? startPoint.dataType with
      | none =>
          { startAddr := startPoint.address, count := 0, endIndex := startIndex }
      | some count =>
          extendRange
            { startAddr := startPoint.address
              count := count
              endIndex := startIndex }
            (startPoint.address.toNat + count) (startIndex + 1) rest

def redisKey (deviceId name : String) : String :=
  "modbus_data:" ++ deviceId ++ ":" ++ name

/-- A store call of `processUserData` and the indices into `dataBuffer` that it
reads.  The call is `none` when one of them is outside the buffer. -/
structure UserWrite where
  key : String
  reads : List Nat
  call : Option Redis.StoreCall

/-- The words of a `float`, the first one being the low half. -/
def floatOfWords (low high : UInt16) : Float32 :=
  Float32.ofBits (low.toUInt32 ||| (high.toUInt32 <<< 16))

/-- One `case` of the switch with the step of `uOffset`. -/
def decodePoint (key : String) (dataBuffer : List UInt16) (uOffset : Nat) :
    DataType → Option (UserWrite × Nat)
  | .int16 =>
      some (⟨key, [uOffset], dataBuffer[uOffset]?.map fun word =>
        .storeInt key word.toInt16⟩, 1)
  | .uint16 =>
      some (⟨key, [uOffset], dataBuffer[uOffset]?.map fun word =>
        .storeUInt key word⟩, 1)
  | .int32 =>
      some (⟨key, [uOffset], dataBuffer[uOffset]?.map fun word =>
        .storeDInt key word.toUInt32.toInt32⟩, 2)
  | .uint32 =>
      some (⟨key, [uOffset], dataBuffer[uOffset]?.map fun word =>
        .storeUDInt key word.toUInt32⟩, 2)
  | .float32 =>
      some (⟨key, [uOffset, uOffset + 1],
        dataBuffer[uOffset]?.bind fun low =>
          dataBuffer[uOffset + 1]?.map fun high =>
            .storeLReal key (floatOfWords low high).toFloat⟩, 2)
  | .unknown | .string => none

/-- `processUserData`, which always returns `true`.  It goes over all points it
is given; `uOffset` is a `uint32_t`. -/
def processUserData (deviceId : String) (dataBuffer : List UInt16) :
    Nat → List DataPoint → List UserWrite
  | _, [] => []
  | uOffset, point :: points =>
      match decodePoint (redisKey deviceId point.name) dataBuffer uOffset
          point.dataType with
      | none => processUserData deviceId dataBuffer uOffset points
      | some (write, step) =>
          write :: processUserData deviceId dataBuffer
            ((uOffset + step) % 2 ^ 32) points

/-- One turn of the loop of `processContinuousRegisters`. -/
structure Polled where
  range : RegisterRange
  buffer : Option (List UInt16)
  writes : List UserWrite

variable {σ : Type*}

theorem extendRange_eq (range : RegisterRange) (expected index : Nat)
    (rest : List DataPoint) (next : index = range.endIndex + 1) :
    extendRange range expected index rest =
      { range with
        count := range.count +
          totalWidth cells? (block address cells? expected rest)
        endIndex := range.endIndex +
          (block address cells? expected rest).length } := by
  induction rest generalizing range expected index with
  | nil => rfl
  | cons point rest induction =>
      cases known : regCount? point.dataType with
      | none =>
          have stops : block address cells? expected (point :: rest) = [] := by
            simp [block, cells?, known]
          simp [extendRange, known, stops]
      | some count =>
          by_cases here : point.address.toNat = expected
          · have extends_ : block address cells? expected (point :: rest) =
                point :: block address cells? (expected + count) rest := by
              simp [block, cells?, address, known, here]
            simp only [extendRange, known, if_pos here, extends_,
              totalWidth_cons, List.length_cons, cells?, Option.getD_some]
            rw [induction _ _ _ rfl, here, next]
            simp only [RegisterRange.mk.injEq, true_and]
            constructor
            · unfold cells?
              omega
            · unfold cells?
              omega
          · have stops : block address cells? expected (point :: rest) = [] := by
              simp [block, cells?, address, known, here]
            simp [extendRange, known, here, stops]

theorem findContinuousRegisters_eq {points : List DataPoint} {startIndex : Nat}
    {startPoint : DataPoint} {rest : List DataPoint} {count : Nat}
    (suffix : points.drop startIndex = startPoint :: rest)
    (known : regCount? startPoint.dataType = some count) :
    findContinuousRegisters points startIndex =
      { startAddr := startPoint.address
        count := count + totalWidth cells?
          (block address cells? (address startPoint + count) rest)
        endIndex := startIndex +
          (block address cells? (address startPoint + count) rest).length } := by
  simp only [findContinuousRegisters, suffix, known]
  rw [extendRange_eq _ _ _ _ rfl]
  rfl

theorem findContinuousRegisters_endIndex_ge (points : List DataPoint)
    (startIndex : Nat) :
    startIndex ≤ (findContinuousRegisters points startIndex).endIndex := by
  cases suffix : points.drop startIndex with
  | nil => simp [findContinuousRegisters, suffix]
  | cons startPoint rest =>
      cases known : regCount? startPoint.dataType with
      | none => simp [findContinuousRegisters, suffix, known]
      | some count =>
          rw [findContinuousRegisters_eq suffix known]
          exact Nat.le_add_right _ _

/-- The `while` loop of `processContinuousRegisters`: a range that cannot be
read is skipped, and every range that can is decoded with all points. -/
def pollLoop (readRegisters : σ → UInt16 → Nat → σ × Option (List UInt16))
    (deviceId : String) (points : List DataPoint) (i : Nat) (state : σ) :
    List Polled × σ :=
  if _ : i < points.length then
    let range := findContinuousRegisters points i
    match readRegisters state range.startAddr range.count with
    | (next, buffer) =>
        let writes := match buffer with
          | none => []
          | some words => processUserData deviceId words 0 points
        let rest := pollLoop readRegisters deviceId points (range.endIndex + 1) next
        (⟨range, buffer, writes⟩ :: rest.1, rest.2)
  else ([], state)
termination_by points.length - i
decreasing_by
  have later := findContinuousRegisters_endIndex_ge points i
  omega

/-- `std::sort` by address, which fixes no order among equal addresses. -/
structure AddressSort where
  sort : List DataPoint → List DataPoint
  perm : ∀ points, (sort points).Perm points
  sorted : ∀ points, (sort points).Pairwise
    (fun first second => address first ≤ address second)

theorem AddressSort.forall_mem_iff (sorter : AddressSort)
    {points : List DataPoint} {property : DataPoint → Prop} :
    (∀ point ∈ sorter.sort points, property point) ↔
      ∀ point ∈ points, property point :=
  forall_congr' fun _ => imp_congr_left (sorter.perm points).mem_iff

def processContinuousRegisters (sorter : AddressSort)
    (readRegisters : σ → UInt16 → Nat → σ × Option (List UInt16))
    (config : ConfigDataModbus) (state : σ) : List Polled × σ :=
  if config.dataPoints.isEmpty then ([], state)
  else pollLoop readRegisters config.deviceId (sorter.sort config.dataPoints) 0 state

def insertionSorter : AddressSort :=
  { sort := List.insertionSort (fun first second => address first ≤ address second)
    perm := List.perm_insertionSort _
    sorted := by
      intro points
      have total : Std.Total (fun first second : DataPoint =>
          address first ≤ address second) :=
        ⟨fun first second => Nat.le_total (address first) (address second)⟩
      have transitive : IsTrans DataPoint (fun first second =>
          address first ≤ address second) :=
        ⟨fun _ _ _ => Nat.le_trans⟩
      exact List.pairwise_insertionSort _ points }

end DataGateway.Modbus
