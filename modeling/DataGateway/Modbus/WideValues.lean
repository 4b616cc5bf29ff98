import DataGateway.Foundation.WordPairs
import DataGateway.Modbus.Placement

/-!
# Values of 32 bits

The three types of two registers are decoded by three expressions of their own
in `processUserData`.  The integers are cast from the first register, the
`float` is read from the bytes of both with the low half first, and
`byte_order` is read by none of them.
-/

namespace DataGateway.Modbus

open Foundation ConfigDataModbus

/-- The bits of the local `value` in the cases with two registers. -/
def valueBits? (dataBuffer : List UInt16) (uOffset : Nat) :
    DataType → Option UInt32
  | .int32 | .uint32 => dataBuffer[uOffset]?.map UInt16.toUInt32
  | .float32 =>
      dataBuffer[uOffset]?.bind fun low =>
        dataBuffer[uOffset + 1]?.map fun high => joinWords low high
  | .int16 | .uint16 | .unknown | .string => none

/-- The store call for the number of a type of 32 bits with the given bits. -/
def storeBits? (key : String) (bits : UInt32) :
    DataType → Option Redis.StoreCall
  | .int32 => some (.storeDInt key bits.toInt32)
  | .uint32 => some (.storeUDInt key bits)
  | .float32 => some (.storeLReal key (Float32.ofBits bits).toFloat)
  | .int16 | .uint16 | .unknown | .string => none

/-- The two registers of the point hold the bits in the word order. -/
def HoldsPattern (order : WordOrder) (image : Nat → UInt16) (point : DataPoint)
    (pattern : UInt32) : Prop :=
  (image (address point), image (address point + 1)) = order.split pattern

/-- The buffer that is read for the first range of the sorted points. -/
def firstBuffer (image : Nat → UInt16) (points : List DataPoint) : List UInt16 :=
  let range := findContinuousRegisters points 0
  imageWords image range.startAddr.toNat range.count

/-- `processUserData` decodes the pattern for the point at the index and stores
the number of the point's type that has these bits. -/
def StoresPattern (image : Nat → UInt16) (deviceId : String)
    (points : List DataPoint) (index : Nat) (pattern : UInt32) : Prop :=
  ∃ point write uOffset,
    points[index]? = some point ∧
    (processUserData deviceId (firstBuffer image points) 0 points)[index]? =
      some write ∧
    write.key = redisKey deviceId point.name ∧
    write.reads.head? = some uOffset ∧
    valueBits? (firstBuffer image points) uOffset point.dataType =
      some pattern ∧
    write.call = storeBits? write.key pattern point.dataType

/-- Every point of two registers, in every device of one contiguous range, is
decoded in the word order that its `byte_order` stands for. -/
def DecodesInOrder (sorter : AddressSort) (order : String → WordOrder) : Prop :=
  ∀ (image : Nat → UInt16) (config : ConfigDataModbus) (index : Nat)
    (point : DataPoint) (pattern : UInt32),
    OneBlock config.dataPoints → KnownTypes config.dataPoints →
    (sorter.sort config.dataPoints)[index]? = some point →
    cells? point = some 2 →
    HoldsPattern (order config.byteOrder) image point pattern →
    StoresPattern image config.deviceId (sorter.sort config.dataPoints) index
      pattern

/-- The patterns that the expression of the type decodes from two registers in
the word order. -/
def Recovers (order : WordOrder) (pattern : UInt32) : DataType → Prop
  | .float32 => order = .lowFirst ∨ lowWord pattern = highWord pattern
  | .int32 | .uint32 =>
      match order with
      | .lowFirst => highWord pattern = 0
      | .highFirst => pattern = 0
  | .int16 | .uint16 | .unknown | .string => False

theorem decodePoint_call_eq {key : String} {dataBuffer : List UInt16}
    {uOffset : Nat} {type : DataType} {write : UserWrite}
    (decoded : decodePoint key dataBuffer uOffset type = some (write, 2)) :
    write.call = (valueBits? dataBuffer uOffset type).bind fun bits =>
      storeBits? key bits type := by
  cases type with
  | int16 => cases decoded
  | uint16 => cases decoded
  | unknown => cases decoded
  | string => cases decoded
  | int32 =>
      cases decoded
      cases word : dataBuffer[uOffset]? <;> simp [valueBits?, storeBits?, word]
  | uint32 =>
      cases decoded
      cases word : dataBuffer[uOffset]? <;> simp [valueBits?, storeBits?, word]
  | float32 =>
      cases decoded
      cases low : dataBuffer[uOffset]? with
      | none => simp [valueBits?, low]
      | some low =>
          cases high : dataBuffer[uOffset + 1]? with
          | none => simp [valueBits?, low, high]
          | some high =>
              simp [valueBits?, storeBits?, low, high, floatOfWords, joinWords]

theorem valueBits?_eq_iff {order : WordOrder} {image : Nat → UInt16}
    {point : DataPoint} {pattern : UInt32} {dataBuffer : List UInt16}
    {uOffset : Nat} (wide : cells? point = some 2)
    (holds : HoldsPattern order image point pattern)
    (first : dataBuffer[uOffset]? = some (image (address point)))
    (second : dataBuffer[uOffset + 1]? = some (image (address point + 1))) :
    valueBits? dataBuffer uOffset point.dataType = some pattern ↔
      Recovers order pattern point.dataType := by
  obtain ⟨firstWord, secondWord⟩ := Prod.mk.inj holds
  unfold cells? at wide
  cases type : point.dataType with
  | int16 => simp [type, regCount?] at wide
  | uint16 => simp [type, regCount?] at wide
  | unknown => simp [type, regCount?] at wide
  | string => simp [type, regCount?] at wide
  | int32 =>
      simp only [valueBits?, first, Option.map_some, Option.some.injEq, Recovers]
      rw [firstWord]
      exact order.toUInt32_first_eq_iff pattern
  | uint32 =>
      simp only [valueBits?, first, Option.map_some, Option.some.injEq, Recovers]
      rw [firstWord]
      exact order.toUInt32_first_eq_iff pattern
  | float32 =>
      simp only [valueBits?, first, second, Option.bind_some, Option.map_some,
        Option.some.injEq, Recovers]
      rw [firstWord, secondWord]
      exact order.joinWords_split_eq_iff pattern

theorem processUserData_getElem? (image : Nat → UInt16) (deviceId : String)
    {points : List DataPoint} {index : Nat} {point : DataPoint} {count : Nat}
    (known : KnownTypes points) (consecutive : Consecutive address cells? points)
    (found : points[index]? = some point) (cells : cells? point = some count) :
    ∃ write uOffset,
      (processUserData deviceId (firstBuffer image points) 0 points)[index]? =
        some write ∧
      decodePoint (redisKey deviceId point.name) (firstBuffer image points)
        uOffset point.dataType = some (write, count) ∧
      ∀ offset, offset < count →
        (firstBuffer image points)[uOffset + offset]? =
          some (image (address point + offset)) := by
  obtain ⟨inside, same⟩ := List.getElem?_eq_some_iff.mp found
  have split : points = points.take index ++ point :: points.drop (index + 1) := by
    rw [← same, List.getElem_cons_drop, List.take_append_drop]
  cases points with
  | nil => cases inside
  | cons head rest =>
      let before := (head :: rest).take index
      obtain ⟨headCells, headKnown⟩ := Option.isSome_iff_exists.mp
        (known head List.mem_cons_self)
      have buffer : firstBuffer image (head :: rest) =
          imageWords image (address head) (firstCount head rest) := by
        unfold firstBuffer
        rw [findContinuousRegisters_eq List.drop_zero headKnown]
        simp [firstCount, headKnown, address]
      obtain ⟨write, width, later, pointCells, decoded, writes⟩ :=
        processUserData_split deviceId (firstBuffer image (head :: rest)) before
          point _ (split ▸ known)
      cases pointCells.symm.trans cells
      obtain ⟨inRange, noWrap⟩ := offset_in_range consecutive split cells
      rw [noWrap] at decoded
      refine ⟨write, totalWidth cells? before, ?_, decoded, ?_⟩
      · have length : (processUserData deviceId (firstBuffer image (head :: rest))
            0 before).length = index := by
          have keys := congrArg List.length (processUserData_keys deviceId
            (firstBuffer image (head :: rest)) 0 before
            (fun other member => known other (List.mem_of_mem_take member)))
          rw [List.length_map, List.length_map, List.length_take] at keys
          rw [keys]
          exact Nat.min_eq_left inside.le
        have whole : processUserData deviceId (firstBuffer image (head :: rest)) 0
            (head :: rest) = _ := (congrArg _ split).trans writes
        rw [whole, List.getElem?_append_right (Nat.le_of_eq length), length,
          Nat.sub_self]
        rfl
      · intro offset below
        have place := consecutive.start_of_split split
        have insideRange : totalWidth cells? before + offset <
            firstCount head rest := by
          apply Nat.lt_of_lt_of_le _ inRange
          exact Nat.add_lt_add_left below _
        rw [buffer, imageWords_getElem? insideRange, place, Nat.add_assoc]

private theorem storesPattern_iff_of_consecutive {order : WordOrder}
    {image : Nat → UInt16} (deviceId : String) {points : List DataPoint}
    {index : Nat} {point : DataPoint} {pattern : UInt32}
    (known : KnownTypes points) (consecutive : Consecutive address cells? points)
    (found : points[index]? = some point) (wide : cells? point = some 2)
    (holds : HoldsPattern order image point pattern) :
    StoresPattern image deviceId points index pattern ↔
      Recovers order pattern point.dataType := by
  obtain ⟨write, uOffset, written, decoded, words⟩ :=
    processUserData_getElem? image deviceId known consecutive found wide
  obtain ⟨same, decodedSame, key, read, _⟩ := decodePoint_of_cells wide
    (redisKey deviceId point.name) (firstBuffer image points) uOffset
  cases decoded.symm.trans decodedSame
  have first : (firstBuffer image points)[uOffset]? =
      some (image (address point)) := words 0 (by decide)
  have second := words 1 (by decide)
  rw [← valueBits?_eq_iff wide holds first second]
  constructor
  · intro stored
    obtain ⟨other, otherWrite, offset, otherFound, otherWritten, _, otherRead,
      decodes, _⟩ := stored
    cases found.symm.trans otherFound
    cases written.symm.trans otherWritten
    cases read.symm.trans otherRead
    exact decodes
  · intro decodes
    refine ⟨point, write, uOffset, found, written, key, read, decodes, ?_⟩
    rw [decodePoint_call_eq decoded, decodes, key]
    rfl

/-- A point of two registers in a device of one contiguous range is stored with
the pattern that its registers hold in the word order of the device exactly when
the expression of its type recovers the pattern from that order. -/
theorem storesPattern_iff (sorter : AddressSort) (order : String → WordOrder)
    (image : Nat → UInt16) (config : ConfigDataModbus) {index : Nat}
    {point : DataPoint} {pattern : UInt32}
    (oneBlock : OneBlock config.dataPoints)
    (known : KnownTypes config.dataPoints)
    (found : (sorter.sort config.dataPoints)[index]? = some point)
    (wide : cells? point = some 2)
    (holds : HoldsPattern (order config.byteOrder) image point pattern) :
    StoresPattern image config.deviceId (sorter.sort config.dataPoints) index
        pattern ↔
      Recovers (order config.byteOrder) pattern point.dataType := by
  have sortedKnown : KnownTypes (sorter.sort config.dataPoints) :=
    sorter.forall_mem_iff.mpr known
  have consecutive := (oneBlock_iff_sorted sorter known).mp oneBlock
  exact storesPattern_iff_of_consecutive config.deviceId sortedKnown consecutive
    found wide holds

/-- The registers 41 and 42 hold the `float` 10.0, the low half first. -/
def tenImage (address : Nat) : UInt16 := if address = 42 then 0x4120 else 0

theorem storesPattern_ten : StoresPattern tenImage blockDevice.deviceId
    (insertionSorter.sort blockDevice.dataPoints) 1 0x41200000 := by
  let arranged := [samplePoint "level" 40 "int16", samplePoint "flow" 41 "float32"]
  have known : KnownTypes blockDevice.dataPoints := by
    unfold KnownTypes
    decide
  have holds : HoldsPattern .lowFirst tenImage
      (samplePoint "flow" 41 "float32") 0x41200000 := rfl
  apply (storesPattern_iff insertionSorter (fun _ => .lowFirst) tenImage
    blockDevice ⟨arranged, List.Perm.swap _ _ _, rfl⟩ known rfl rfl holds).mpr
  exact Or.inl rfl

def counterDevice : ConfigDataModbus :=
  sampleDevice [samplePoint "total" 0 "int32"]

/-- Only the second register of the counter is not zero. -/
def counterImage (address : Nat) : UInt16 := if address = 1 then 1 else 0

/-- The number in the two registers is 1 or 65536, and what is stored is 0, so no
meaning of `byte_order` is the one that is decoded. -/
theorem no_word_order : ¬∃ order : String → WordOrder,
    Function.Surjective order ∧ DecodesInOrder insertionSorter order := by
  intro exists_order
  obtain ⟨order, _, decodes⟩ := exists_order
  let point := samplePoint "total" 0 "int32"
  let pattern := (order counterDevice.byteOrder).join 0 1
  have known : KnownTypes counterDevice.dataPoints := by
    unfold KnownTypes
    decide
  have holds : HoldsPattern (order counterDevice.byteOrder) counterImage point
      pattern :=
    ((order counterDevice.byteOrder).split_join 0 1).symm
  have stored := decodes counterImage counterDevice 0 point pattern
    ⟨[point], List.Perm.refl _, rfl⟩ known rfl rfl holds
  have recovers := (storesPattern_iff_of_consecutive counterDevice.deviceId known
    rfl rfl rfl holds).mp stored
  have lost : ∀ order : WordOrder, ¬Recovers order (order.join 0 1) .int32 := by
    intro order
    cases order with
    | highFirst =>
        intro zero
        cases (zero : (1 : UInt32) = 0)
    | lowFirst =>
        intro zero
        cases (zero : (1 : UInt16) = 0)
  exact lost _ recovers

end DataGateway.Modbus
