import DataGateway.Modbus.Polling

/-!
# Where polled values come from

`processContinuousRegisters` reads one range at a time but decodes every range
with all points of the device, counting the word offset from the first point.
The offsets agree with the range only when the device is one range.  The
integer types of 32 bits are decoded from the first of their two words.
-/

namespace DataGateway.Modbus

open Foundation ConfigDataModbus

variable {σ : Type*}

def imageWords (image : Nat → UInt16) (startAddr count : Nat) : List UInt16 :=
  (List.range count).map fun index => image (startAddr + index)

/-- Every read of the poll succeeded and returned the words of the register
image. -/
def AnsweredFrom (image : Nat → UInt16) (trace : List Polled) : Prop :=
  ∀ polled ∈ trace, polled.buffer =
    some (imageWords image polled.range.startAddr.toNat polled.range.count)

/-- The register addresses of a point: `address`, and `address + 1` for the
types of 32 bits. -/
def ownAddresses (point : DataPoint) : List Nat :=
  (List.range ((cells? point).getD 0)).map (address point + ·)

def ReadsInBounds (trace : List Polled) : Prop :=
  ∀ polled ∈ trace, ∀ write ∈ polled.writes, ∀ index ∈ write.reads,
    index < (polled.buffer.getD []).length

instance (trace : List Polled) : Decidable (ReadsInBounds trace) :=
  inferInstanceAs (Decidable (∀ polled ∈ trace, ∀ write ∈ polled.writes,
    ∀ index ∈ write.reads, index < (polled.buffer.getD []).length))

/-- The last write under a key with the range whose buffer it was decoded
from. -/
def lastWrite? (trace : List Polled) (key : String) :
    Option (RegisterRange × UserWrite) :=
  ((trace.flatMap fun polled => polled.writes.map fun write =>
    (polled.range, write)).filter fun entry => entry.2.key = key).getLast?

/-- The last value written for the point was decoded from the device registers
at the point's own addresses, all of them and no others. -/
def WrittenFromOwnWords (image : Nat → UInt16) (deviceId : String)
    (trace : List Polled) (point : DataPoint) : Prop :=
  ∃ range write,
    lastWrite? trace (redisKey deviceId point.name) = some (range, write) ∧
    write.reads.map (range.startAddr.toNat + ·) = ownAddresses point ∧
    write.call = (decodePoint (redisKey deviceId point.name)
      ((ownAddresses point).map image) 0 point.dataType).bind (·.1.call)

def PlacesEveryValue (image : Nat → UInt16) (config : ConfigDataModbus)
    (trace : List Polled) : Prop :=
  ReadsInBounds trace ∧
    ∀ point ∈ config.dataPoints,
      WrittenFromOwnWords image config.deviceId trace point

/-- The points can be arranged so that each one starts where the one before it
ends. -/
def OneBlock (points : List DataPoint) : Prop :=
  ∃ arranged : List DataPoint, arranged.Perm points ∧
    Consecutive address cells? arranged

def NoWideInteger (points : List DataPoint) : Prop :=
  ∀ point ∈ points, point.dataType ≠ .int32 ∧ point.dataType ≠ .uint32

def KnownTypes (points : List DataPoint) : Prop :=
  ∀ point ∈ points, (cells? point).isSome

theorem cells_pos {point : DataPoint} (known : (cells? point).isSome) :
    0 < (cells? point).getD 0 := by
  unfold cells? at *
  cases type : point.dataType <;> simp_all [regCount?]

private theorem address_add_cells_le (point : DataPoint) :
    address point + (cells? point).getD 0 ≤ 2 ^ 16 + 1 := by
  have below : point.address.toNat < 2 ^ 16 := UInt16.toNat_lt _
  unfold address cells?
  cases type : point.dataType <;> simp [regCount?] <;> omega

/-- Being one block is a property of the device; it can be tested on the
sorted list that the poller works on. -/
theorem oneBlock_iff_sorted {points : List DataPoint} (sorter : AddressSort)
    (known : KnownTypes points) :
    OneBlock points ↔ Consecutive address cells? (sorter.sort points) := by
  constructor
  · intro block
    obtain ⟨arranged, permutation, consecutive⟩ := block
    have positive : ∀ point ∈ arranged, 0 < (cells? point).getD 0 := by
      intro point member
      exact cells_pos (known point (permutation.mem_iff.mp member))
    have same := consecutive.eq_of_perm_sorted positive
      (permutation.trans (sorter.perm points).symm) (sorter.sorted points)
    exact same ▸ consecutive
  · intro consecutive
    exact ⟨sorter.sort points, sorter.perm points, consecutive⟩

section Decoding

variable {deviceId : String} {dataBuffer : List UInt16}

theorem decodePoint_of_cells {point : DataPoint} {count : Nat}
    (known : cells? point = some count) (key : String)
    (dataBuffer : List UInt16) (uOffset : Nat) :
    ∃ write, decodePoint key dataBuffer uOffset point.dataType =
        some (write, count) ∧
      write.key = key ∧ write.reads.head? = some uOffset ∧
      ∀ index ∈ write.reads, index < uOffset + count := by
  unfold cells? at known
  cases type : point.dataType <;> rw [type] at known <;> cases known <;>
    exact ⟨_, rfl, rfl, rfl, by simp⟩

private theorem processUserData_append (uOffset : Nat) (first second : List DataPoint)
    (known : KnownTypes first) (wrapped : uOffset < 2 ^ 32) :
    processUserData deviceId dataBuffer uOffset (first ++ second) =
      processUserData deviceId dataBuffer uOffset first ++
        processUserData deviceId dataBuffer
          ((uOffset + totalWidth cells? first) % 2 ^ 32) second := by
  induction first generalizing uOffset with
  | nil =>
      rw [totalWidth_nil, Nat.add_zero, Nat.mod_eq_of_lt wrapped]
      rfl
  | cons point first induction =>
      obtain ⟨count, cells⟩ := Option.isSome_iff_exists.mp
        (known point List.mem_cons_self)
      obtain ⟨write, decoded, _⟩ := decodePoint_of_cells cells
        (redisKey deviceId point.name) dataBuffer uOffset
      have rest := induction ((uOffset + count) % 2 ^ 32)
        (fun other member => known other (List.mem_cons_of_mem point member))
        (Nat.mod_lt _ (by decide))
      simp only [List.cons_append, processUserData, decoded, rest,
        totalWidth_cons, cells, Option.getD_some, Nat.mod_add_mod]
      rw [Nat.add_assoc]

theorem processUserData_keys (deviceId : String) (dataBuffer : List UInt16)
    (uOffset : Nat) (points : List DataPoint) (known : KnownTypes points) :
    (processUserData deviceId dataBuffer uOffset points).map UserWrite.key =
      points.map fun point => redisKey deviceId point.name := by
  induction points generalizing uOffset with
  | nil => rfl
  | cons point points induction =>
      obtain ⟨count, cells⟩ := Option.isSome_iff_exists.mp
        (known point List.mem_cons_self)
      obtain ⟨write, decoded, key, _⟩ := decodePoint_of_cells cells
        (redisKey deviceId point.name) dataBuffer uOffset
      simp only [processUserData, decoded, List.map_cons, key]
      rw [induction _ (fun other member =>
        known other (List.mem_cons_of_mem point member))]

/-- The write of a point sits between the writes of the points around it, at
the offset that the widths before it add up to. -/
theorem processUserData_split (deviceId : String) (dataBuffer : List UInt16)
    (before : List DataPoint) (point : DataPoint) (after : List DataPoint)
    (known : KnownTypes (before ++ point :: after)) :
    ∃ write count later, cells? point = some count ∧
      decodePoint (redisKey deviceId point.name) dataBuffer
        (totalWidth cells? before % 2 ^ 32) point.dataType =
          some (write, count) ∧
      processUserData deviceId dataBuffer 0 (before ++ point :: after) =
        processUserData deviceId dataBuffer 0 before ++
          write :: processUserData deviceId dataBuffer later after := by
  obtain ⟨count, cells⟩ := Option.isSome_iff_exists.mp
    (known point (by simp))
  obtain ⟨write, decoded, _⟩ := decodePoint_of_cells cells
    (redisKey deviceId point.name) dataBuffer (totalWidth cells? before % 2 ^ 32)
  have knownBefore : KnownTypes before :=
    fun other member => known other (List.mem_append_left _ member)
  refine ⟨write, count,
    (totalWidth cells? before % 2 ^ 32 + count) % 2 ^ 32, cells, decoded, ?_⟩
  rw [processUserData_append 0 before _ knownBefore (by decide), Nat.zero_add]
  congr 1
  simp only [processUserData, decoded]

private theorem exists_point_of_mem {uOffset : Nat} {points : List DataPoint}
    {write : UserWrite} (known : KnownTypes points)
    (member : write ∈ processUserData deviceId dataBuffer uOffset points)
    (wrapped : uOffset < 2 ^ 32) :
    ∃ before point after count, points = before ++ point :: after ∧
      cells? point = some count ∧
      decodePoint (redisKey deviceId point.name) dataBuffer
        ((uOffset + totalWidth cells? before) % 2 ^ 32) point.dataType =
          some (write, count) := by
  induction points generalizing uOffset with
  | nil => cases member
  | cons head points induction =>
      obtain ⟨count, cells⟩ := Option.isSome_iff_exists.mp
        (known head List.mem_cons_self)
      obtain ⟨headWrite, decoded, _⟩ := decodePoint_of_cells cells
        (redisKey deviceId head.name) dataBuffer uOffset
      simp only [processUserData, decoded] at member
      rcases List.mem_cons.mp member with same | later
      · subst same
        refine ⟨[], head, points, count, rfl, cells, ?_⟩
        rw [totalWidth_nil, Nat.add_zero, Nat.mod_eq_of_lt wrapped]
        exact decoded
      · obtain ⟨before, point, after, pointCount, split, pointCells, found⟩ :=
          induction
            (fun other inRest => known other (List.mem_cons_of_mem head inRest))
            later (Nat.mod_lt _ (by decide))
        refine ⟨head :: before, point, after, pointCount, by simp [split],
          pointCells, ?_⟩
        rw [Nat.mod_add_mod, Nat.add_assoc] at found
        simpa [cells] using found

/-- Decoding at the right offset uses the point's own words exactly when the
type is not one of the integers of 32 bits. -/
theorem decodedOwnWords_iff {image : Nat → UInt16} {base uOffset : Nat}
    {key : String} {point : DataPoint} {write : UserWrite} {count : Nat}
    (cells : cells? point = some count)
    (decoded : decodePoint key dataBuffer uOffset point.dataType =
      some (write, count))
    (place : address point = base + uOffset)
    (wordAt : ∀ index, index < count →
      dataBuffer[uOffset + index]? = some (image (address point + index))) :
    (write.reads.map (base + ·) = ownAddresses point ∧
      write.call = (decodePoint key ((ownAddresses point).map image) 0
        point.dataType).bind (·.1.call)) ↔
      point.dataType ≠ .int32 ∧ point.dataType ≠ .uint32 := by
  unfold ownAddresses
  rw [cells]
  unfold cells? at cells
  cases type : point.dataType with
  | unknown => simp [type, regCount?] at cells
  | string => simp [type, regCount?] at cells
  | int32 =>
      rw [type] at cells decoded
      cases cells
      cases decoded
      simp [List.range_succ]
  | uint32 =>
      rw [type] at cells decoded
      cases cells
      cases decoded
      simp [List.range_succ]
  | int16 =>
      rw [type] at cells decoded
      cases cells
      cases decoded
      have word := wordAt 0 (by decide)
      rw [Nat.add_zero] at word
      simp [decodePoint, word, place]
  | uint16 =>
      rw [type] at cells decoded
      cases cells
      cases decoded
      have word := wordAt 0 (by decide)
      rw [Nat.add_zero] at word
      simp [decodePoint, word, place]
  | float32 =>
      rw [type] at cells decoded
      cases cells
      cases decoded
      have low := wordAt 0 (by decide)
      have high := wordAt 1 (by decide)
      rw [Nat.add_zero] at low
      simp [decodePoint, low, high, place, List.range_succ, Nat.add_assoc]

end Decoding

private theorem imageWords_length (image : Nat → UInt16) (startAddr count : Nat) :
    (imageWords image startAddr count).length = count := by
  simp [imageWords]

theorem imageWords_getElem? {image : Nat → UInt16} {startAddr count index : Nat}
    (inside : index < count) :
    (imageWords image startAddr count)[index]? =
      some (image (startAddr + index)) := by
  simp [imageWords, inside]

section Polls

variable {image : Nat → UInt16} {deviceId : String} {head : DataPoint}
  {rest : List DataPoint}
  {readRegisters : σ → UInt16 → Nat → σ × Option (List UInt16)}

/-- The length in registers of the first range of a sorted list. -/
def firstCount (head : DataPoint) (rest : List DataPoint) : Nat :=
  totalWidth cells? (head :: block address cells?
    (address head + (cells? head).getD 0) rest)

def firstPolled (image : Nat → UInt16) (deviceId : String) (head : DataPoint)
    (rest : List DataPoint) : Polled :=
  let words := imageWords image (address head) (firstCount head rest)
  { range :=
      { startAddr := head.address
        count := firstCount head rest
        endIndex := (block address cells?
          (address head + (cells? head).getD 0) rest).length }
    buffer := some words
    writes := processUserData deviceId words 0 (head :: rest) }

private theorem firstCount_le (head : DataPoint) (rest : List DataPoint) :
    firstCount head rest ≤ 2 ^ 16 + 1 := by
  have headEnd := address_add_cells_le head
  have blockEnd := block_end_le (address head + (cells? head).getD 0) rest
    headEnd (fun point _ => address_add_cells_le point)
  unfold firstCount
  rw [totalWidth_cons]
  omega

theorem pollLoop_first (known : KnownTypes (head :: rest)) (state : σ)
    (answered : AnsweredFrom image
      (pollLoop readRegisters deviceId (head :: rest) 0 state).1) :
    ∃ more, (pollLoop readRegisters deviceId (head :: rest) 0 state).1 =
        firstPolled image deviceId head rest :: more ∧
      (Consecutive address cells? (head :: rest) → more = []) := by
  obtain ⟨count, cells⟩ := Option.isSome_iff_exists.mp
    (known head List.mem_cons_self)
  have range : findContinuousRegisters (head :: rest) 0 =
      (firstPolled image deviceId head rest).range := by
    rw [findContinuousRegisters_eq List.drop_zero cells]
    simp [firstPolled, firstCount, cells]
  have inside : 0 < (head :: rest).length := Nat.zero_lt_succ _
  rw [pollLoop, dif_pos inside] at answered ⊢
  simp only [range] at answered ⊢
  have read := answered _ List.mem_cons_self
  let next := (readRegisters state head.address (firstCount head rest)).1
  let ending := (firstPolled image deviceId head rest).range.endIndex
  refine ⟨(pollLoop readRegisters deviceId (head :: rest) (ending + 1) next).1,
    ?_, ?_⟩
  · apply congrArg (· :: _)
    simp only at read
    simp only [read]
    rfl
  · intro consecutive
    have whole : block address cells?
        (address head + (cells? head).getD 0) rest = rest := consecutive
    have last : ending = rest.length := congrArg List.length whole
    rw [pollLoop, dif_neg]
    simp [last]

/-- With a second range, decoding the first one already runs past its buffer:
the first point of the second range is read at the very end of it. -/
theorem not_readsInBounds_of_gap {more : List Polled}
    (known : KnownTypes (head :: rest))
    (gap : ¬Consecutive address cells? (head :: rest)) :
    ¬ReadsInBounds (firstPolled image deviceId head rest :: more) := by
  intro bounds
  let taken := block address cells? (address head + (cells? head).getD 0) rest
  have split : ∃ point after, rest = taken ++ point :: after := by
    obtain ⟨remaining, split⟩ := block_split address cells?
      (address head + (cells? head).getD 0) rest
    cases remaining with
    | nil =>
        rw [List.append_nil] at split
        exact (gap split.symm).elim
    | cons point after => exact ⟨point, after, split⟩
  obtain ⟨point, after, split⟩ := split
  let words := imageWords image (address head) (firstCount head rest)
  have total : totalWidth cells? (head :: taken) = firstCount head rest := rfl
  have noWrap : totalWidth cells? (head :: taken) % 2 ^ 32 =
      firstCount head rest := by
    have bound := firstCount_le head rest
    rw [total]
    apply Nat.mod_eq_of_lt
    omega
  obtain ⟨write, count, later, cells, decoded, writes⟩ :=
    processUserData_split deviceId words (head :: taken) point after (by
        rw [List.cons_append, ← split]
        exact known)
  rw [noWrap] at decoded
  obtain ⟨same, decodedSame, _, first, _⟩ := decodePoint_of_cells cells
    (redisKey deviceId point.name) words (firstCount head rest)
  cases decoded.symm.trans decodedSame
  have member : write ∈ (firstPolled image deviceId head rest).writes := by
    have whole : (firstPolled image deviceId head rest).writes =
        processUserData deviceId words 0 (head :: taken ++ point :: after) := by
      rw [List.cons_append, ← split]
      rfl
    rw [whole, writes]
    simp
  have reads : firstCount head rest ∈ write.reads := List.mem_of_head? first
  have inside := bounds _ List.mem_cons_self write member _ reads
  simp only [firstPolled, Option.getD_some, imageWords_length] at inside
  exact Nat.lt_irrefl _ inside

/-- In a single block the words of every point are inside the range, so its
offset does not wrap around. -/
theorem offset_in_range {before : List DataPoint} {point : DataPoint}
    {after : List DataPoint} {count : Nat}
    (consecutive : Consecutive address cells? (head :: rest))
    (split : head :: rest = before ++ point :: after)
    (cells : cells? point = some count) :
    totalWidth cells? before + count ≤ firstCount head rest ∧
      totalWidth cells? before % 2 ^ 32 = totalWidth cells? before := by
  have whole : block address cells?
      (address head + (cells? head).getD 0) rest = rest := consecutive
  have bound := firstCount_le head rest
  have total : firstCount head rest =
      totalWidth cells? before + (count + totalWidth cells? after) := by
    unfold firstCount
    rw [whole, split, totalWidth_append, totalWidth_cons, cells]
    rfl
  refine ⟨by omega, ?_⟩
  apply Nat.mod_eq_of_lt
  omega

private theorem readsInBounds_of_consecutive (known : KnownTypes (head :: rest))
    (consecutive : Consecutive address cells? (head :: rest)) :
    ReadsInBounds [firstPolled image deviceId head rest] := by
  intro polled polledMember write member index read
  cases List.mem_singleton.mp polledMember
  obtain ⟨before, point, after, count, split, cells, decoded⟩ :=
    exists_point_of_mem known member (by decide)
  obtain ⟨inRange, noWrap⟩ := offset_in_range consecutive split cells
  rw [Nat.zero_add, noWrap] at decoded
  obtain ⟨same, decodedSame, _, _, below⟩ := decodePoint_of_cells cells
    (redisKey deviceId point.name)
    (imageWords image (address head) (firstCount head rest))
    (totalWidth cells? before)
  cases decoded.symm.trans decodedSame
  have inside := below index read
  simp only [firstPolled, Option.getD_some, imageWords_length]
  omega

theorem lastWrite?_of_split {polled : Polled} {first last : List UserWrite}
    {write : UserWrite} (writes : polled.writes = first ++ write :: last)
    (distinct : (polled.writes.map UserWrite.key).Nodup) :
    lastWrite? [polled] write.key = some (polled.range, write) := by
  have others : ∀ other ∈ first ++ last, other.key ≠ write.key := by
    rw [writes, List.map_append, List.map_cons,
      List.nodup_middle, List.nodup_cons, ← List.map_append] at distinct
    intro other member same
    exact distinct.1 (same ▸ List.mem_map_of_mem member)
  have noneUnderKey : ∀ part : List UserWrite,
      (∀ other ∈ part, other.key ≠ write.key) →
      (part.map fun other => (polled.range, other)).filter
        (fun entry => entry.2.key = write.key) = [] := by
    intro part different
    simp only [List.filter_eq_nil_iff, List.mem_map]
    intro entry member
    obtain ⟨other, inPart, same⟩ := member
    subst same
    simpa using different other inPart
  have firstNone := noneUnderKey first fun other member =>
    others other (List.mem_append_left _ member)
  have lastNone := noneUnderKey last fun other member =>
    others other (List.mem_append_right _ member)
  simp [lastWrite?, writes, firstNone, lastNone]

private theorem writtenFromOwnWords_iff_of_last {trace : List Polled} {point : DataPoint}
    {range : RegisterRange} {write : UserWrite}
    (last : lastWrite? trace (redisKey deviceId point.name) =
      some (range, write)) :
    WrittenFromOwnWords image deviceId trace point ↔
      write.reads.map (range.startAddr.toNat + ·) = ownAddresses point ∧
      write.call = (decodePoint (redisKey deviceId point.name)
        ((ownAddresses point).map image) 0 point.dataType).bind (·.1.call) := by
  unfold WrittenFromOwnWords
  rw [last]
  constructor
  · intro written
    obtain ⟨range, found, same, reads, call⟩ := written
    cases same
    exact ⟨reads, call⟩
  · intro written
    exact ⟨_, _, rfl, written⟩

/-- In a single block every point is read at its own place, so only the width
of its type decides. -/
theorem writtenFromOwnWords_iff {point : DataPoint}
    (known : KnownTypes (head :: rest))
    (consecutive : Consecutive address cells? (head :: rest))
    (distinct : ((head :: rest).map fun other =>
      redisKey deviceId other.name).Nodup)
    (member : point ∈ head :: rest) :
    WrittenFromOwnWords image deviceId [firstPolled image deviceId head rest]
        point ↔
      point.dataType ≠ .int32 ∧ point.dataType ≠ .uint32 := by
  obtain ⟨before, after, split⟩ := List.append_of_mem member
  let words := imageWords image (address head) (firstCount head rest)
  obtain ⟨write, count, later, cells, decoded, writes⟩ :=
    processUserData_split deviceId words before point after (split ▸ known)
  obtain ⟨inRange, noWrap⟩ := offset_in_range consecutive split cells
  rw [noWrap] at decoded
  obtain ⟨same, decodedSame, key, _⟩ := decodePoint_of_cells cells
    (redisKey deviceId point.name) words (totalWidth cells? before)
  cases decoded.symm.trans decodedSame
  have polledWrites : (firstPolled image deviceId head rest).writes =
      processUserData deviceId words 0 before ++
        write :: processUserData deviceId words later after := by
    rw [← writes, ← split]
    rfl
  have distinctWrites :
      ((firstPolled image deviceId head rest).writes.map
        UserWrite.key).Nodup := by
    have keys := processUserData_keys deviceId words 0 (head :: rest) known
    exact keys ▸ distinct
  have last := lastWrite?_of_split polledWrites distinctWrites
  rw [key] at last
  have place := consecutive.start_of_split split
  have wordAt : ∀ index, index < count →
      words[totalWidth cells? before + index]? =
        some (image (address point + index)) := by
    intro index inside
    rw [imageWords_getElem? (by omega), place, Nat.add_assoc]
  rw [writtenFromOwnWords_iff_of_last last]
  exact decodedOwnWords_iff cells decoded place wordAt

private theorem pollLoop_places_iff (known : KnownTypes (head :: rest)) (state : σ)
    (distinct : ((head :: rest).map fun other =>
      redisKey deviceId other.name).Nodup)
    (answered : AnsweredFrom image
      (pollLoop readRegisters deviceId (head :: rest) 0 state).1) :
    (ReadsInBounds (pollLoop readRegisters deviceId (head :: rest) 0 state).1 ∧
      ∀ point ∈ head :: rest, WrittenFromOwnWords image deviceId
        (pollLoop readRegisters deviceId (head :: rest) 0 state).1 point) ↔
      Consecutive address cells? (head :: rest) ∧
        NoWideInteger (head :: rest) := by
  obtain ⟨more, trace, alone⟩ := pollLoop_first known state answered
  rw [trace]
  constructor
  · intro placed
    obtain ⟨bounds, written⟩ := placed
    have consecutive : Consecutive address cells? (head :: rest) := by
      by_contra gap
      exact not_readsInBounds_of_gap known gap bounds
    refine ⟨consecutive, ?_⟩
    intro point member
    have own := written point member
    rw [alone consecutive] at own
    exact (writtenFromOwnWords_iff known consecutive distinct member).mp own
  · intro shape
    obtain ⟨consecutive, narrow⟩ := shape
    rw [alone consecutive]
    refine ⟨readsInBounds_of_consecutive known consecutive, ?_⟩
    intro point member
    apply (writtenFromOwnWords_iff known consecutive distinct member).mpr
    exact narrow point member

end Polls

theorem redisKey_nodup {points : List DataPoint} (deviceId : String)
    (names : (points.map (·.name)).Nodup) :
    (points.map fun point => redisKey deviceId point.name).Nodup := by
  have keys : points.map (fun point => redisKey deviceId point.name) =
      (points.map (·.name)).map (redisKey deviceId) := by
    simp
  rw [keys]
  apply names.map
  intro first second same
  exact (String.append_right_inj _).mp same

/-- One poll puts every value on its own point, without reading outside a
buffer, exactly when the points fill one block of registers and none of them is
an integer of 32 bits. -/
theorem polling_places_iff (sorter : AddressSort) (image : Nat → UInt16)
    (readRegisters : σ → UInt16 → Nat → σ × Option (List UInt16))
    (config : ConfigDataModbus) (state : σ)
    (names : (config.dataPoints.map (·.name)).Nodup)
    (known : KnownTypes config.dataPoints)
    (answered : AnsweredFrom image
      (processContinuousRegisters sorter readRegisters config state).1) :
    PlacesEveryValue image config
        (processContinuousRegisters sorter readRegisters config state).1 ↔
      OneBlock config.dataPoints ∧ NoWideInteger config.dataPoints := by
  have permutation := sorter.perm config.dataPoints
  have sortedKnown : KnownTypes (sorter.sort config.dataPoints) :=
    fun point member => known point (permutation.mem_iff.mp member)
  have distinct : ((sorter.sort config.dataPoints).map fun point =>
      redisKey config.deviceId point.name).Nodup :=
    (permutation.map _).nodup_iff.mpr (redisKey_nodup config.deviceId names)
  have onSorted : ∀ property : DataPoint → Prop,
      (∀ point ∈ config.dataPoints, property point) ↔
        ∀ point ∈ sorter.sort config.dataPoints, property point :=
    fun _ => sorter.forall_mem_iff.symm
  unfold PlacesEveryValue NoWideInteger
  rw [oneBlock_iff_sorted sorter known, onSorted, onSorted]
  cases arranged : sorter.sort config.dataPoints with
  | nil =>
      have empty : config.dataPoints = [] :=
        (arranged ▸ permutation).nil_eq.symm
      simp [processContinuousRegisters, empty, ReadsInBounds, Consecutive]
  | cons head rest =>
      have nonempty : config.dataPoints.isEmpty = false := by
        rw [← permutation.isEmpty_eq, arranged]
        rfl
      have polls : processContinuousRegisters sorter readRegisters config state =
          pollLoop readRegisters config.deviceId (head :: rest) 0 state := by
        simp [processContinuousRegisters, nonempty, arranged]
      rw [polls] at answered ⊢
      rw [arranged] at sortedKnown distinct
      exact pollLoop_places_iff sortedKnown state distinct answered

/-- A device that holds its own addresses as values and, as the protocol has
it, answers no read of more than 125 registers. -/
def countingDevice (state : Unit) (startAddr : UInt16) (count : Nat) :
    Unit × Option (List UInt16) :=
  (state, if count ≤ 125 then some (imageWords UInt16.ofNat startAddr.toNat count)
    else none)

def samplePoint (name : String) (address : UInt16) (type : String) : DataPoint :=
  { name := name
    address := address
    type := type
    dataType := getDataType type
    scale := 1
    offset := 0 }

def sampleDevice (points : List DataPoint) : ConfigDataModbus :=
  { deviceId := "plc"
    type := "TCP"
    tcp := { ip := "192.168.0.10", port := 502 }
    rtu := { portName := "", baudrate := 0, parity := "" }
    slaveAddr := 1
    cmdInterval := 100
    maxRetries := 3
    retryInterval := 1000
    byteOrder := "ABCD"
    dataPoints := points }

/-- Two neighbouring points, not in the order of their addresses. -/
def blockDevice : ConfigDataModbus :=
  sampleDevice [samplePoint "flow" 41 "float32", samplePoint "level" 40 "int16"]

def gappedDevice : ConfigDataModbus :=
  sampleDevice [samplePoint "level" 0 "int16", samplePoint "flow" 10 "int16"]

theorem polling_places_block : PlacesEveryValue UInt16.ofNat blockDevice
    (processContinuousRegisters insertionSorter countingDevice blockDevice ()).1 := by
  let arranged := [samplePoint "level" 40 "int16", samplePoint "flow" 41 "float32"]
  apply (polling_places_iff insertionSorter UInt16.ofNat countingDevice blockDevice
    () (by decide) (by unfold KnownTypes; decide) ?_).mpr
  · refine ⟨⟨arranged, List.Perm.swap _ _ _, rfl⟩, ?_⟩
    unfold NoWideInteger
    decide
  · have polls : processContinuousRegisters insertionSorter countingDevice
        blockDevice () = pollLoop countingDevice "plc" arranged 0 () := rfl
    have range : findContinuousRegisters arranged 0 =
        { startAddr := 40, count := 3, endIndex := 1 } := rfl
    rw [polls, pollLoop, dif_pos (by decide)]
    simp only [range]
    rw [pollLoop, dif_neg (by decide)]
    intro polled member
    cases List.mem_singleton.mp member
    rfl

/-- With a gap between two points both of them are read, but the words of the
second one are taken from beyond the buffer of the first. -/
theorem gap_misplaces :
    (gappedDevice.dataPoints.map (·.name)).Nodup ∧
      KnownTypes gappedDevice.dataPoints ∧
      AnsweredFrom UInt16.ofNat (processContinuousRegisters insertionSorter
        countingDevice gappedDevice ()).1 ∧
      ¬PlacesEveryValue UInt16.ofNat gappedDevice (processContinuousRegisters
        insertionSorter countingDevice gappedDevice ()).1 := by
  let points := [samplePoint "level" 0 "int16", samplePoint "flow" 10 "int16"]
  have known : KnownTypes points := by
    unfold KnownTypes
    decide
  have polls : processContinuousRegisters insertionSorter countingDevice
      gappedDevice () = pollLoop countingDevice "plc" points 0 () := rfl
  have answered : AnsweredFrom UInt16.ofNat
      (pollLoop countingDevice "plc" points 0 ()).1 := by
    have first : findContinuousRegisters points 0 =
        { startAddr := 0, count := 1, endIndex := 0 } := rfl
    have second : findContinuousRegisters points (0 + 1) =
        { startAddr := 10, count := 1, endIndex := 1 } := rfl
    rw [pollLoop, dif_pos (by decide)]
    simp only [first]
    rw [pollLoop, dif_pos (by decide)]
    simp only [second]
    rw [pollLoop, dif_neg (by decide)]
    intro polled member
    rcases List.mem_cons.mp member with same | rest
    · subst same
      rfl
    · cases List.mem_singleton.mp rest
      rfl
  refine ⟨by decide, known, polls ▸ answered, ?_⟩
  intro placed
  obtain ⟨bounds, _⟩ := placed
  obtain ⟨more, trace, _⟩ := pollLoop_first known () answered
  rw [polls, trace] at bounds
  refine not_readsInBounds_of_gap known ?_ bounds
  intro consecutive
  have short : ([] : List DataPoint) = [samplePoint "flow" 10 "int16"] :=
    consecutive
  cases short

end DataGateway.Modbus
