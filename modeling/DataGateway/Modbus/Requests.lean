import DataGateway.Config.LoadOutcome
import DataGateway.Modbus.Coalescing
import DataGateway.Modbus.Placement

/-!
# Which reads are legal

A read of holding registers asks for 1 to 125 registers inside the address
space (`MODBUS_MAX_READ_REGISTERS` of `modbus.h`).  `findContinuousRegisters`
merges points without a limit, so a long block makes an illegal read, and so
does a point of two registers at the last address.
-/

namespace DataGateway.Modbus

open Foundation ConfigDataModbus

/-- `MODBUS_MAX_READ_REGISTERS`. -/
def maxReadRegisters : Nat := 125

def LegalRequest (range : RegisterRange) : Prop :=
  1 ≤ range.count ∧ range.count ≤ maxReadRegisters ∧
    range.startAddr.toNat + range.count ≤ 65536

/-- Every call of `readRegisters` in the poll. -/
def RequestsLegal (trace : List Polled) : Prop :=
  ∀ polled ∈ trace, LegalRequest polled.range

/-- No neighbours in the list that start where the one before ends fill more
registers than one read may ask for. -/
def BlocksFit (points : List DataPoint) : Prop :=
  ∀ before run after, points = before ++ (run ++ after) →
    Consecutive address cells? run → totalWidth cells? run ≤ maxReadRegisters

/-- No point reaches beyond the last address. -/
def InsideAddressSpace (points : List DataPoint) : Prop :=
  ∀ point ∈ points, address point + (cells? point).getD 0 ≤ 65536

section

open Config

variable {decoder : ScalarDecoder} {points : List DataPoint}

private theorem regCount?_getDataType {type : String}
    (known : getDataType type ≠ .unknown) :
    (regCount? (getDataType type)).isSome := by
  unfold getDataType at *
  split_ifs at * <;> simp_all [regCount?]

private theorem parseModbusPoint_known {node : Node} {point : DataPoint}
    (parsed : parseModbusPoint decoder node = .ok point) :
    (cells? point).isSome := by
  unfold parseModbusPoint at parsed
  repeat obtain ⟨_, read, parsed⟩ := ok_of_bind parsed
  cases parsed
  apply regCount?_getDataType
  intro unknown
  rw [rejectIf, if_pos (by simpa using unknown)] at read
  cases read

private theorem mapM_parseModbusPoint_known {nodes : List Node}
    (parsed : nodes.mapM (parseModbusPoint decoder) = .ok points) :
    KnownTypes points := by
  induction nodes generalizing points with
  | nil =>
      cases parsed
      intro point member
      cases member
  | cons node nodes induction =>
      rw [List.mapM_cons] at parsed
      obtain ⟨head, first, parsed⟩ := ok_of_bind parsed
      obtain ⟨tail, rest, parsed⟩ := ok_of_bind parsed
      cases parsed
      intro point member
      rcases List.mem_cons.mp member with same | later
      · exact same ▸ parseModbusPoint_known first
      · exact induction rest point later

/-- The loader rejects points of other types. -/
theorem parseModbusDevice_knownTypes {deviceNode : Node}
    {config : ConfigDataModbus}
    (parsed : parseModbusDevice decoder deviceNode = .ok config) :
    KnownTypes config.dataPoints := by
  unfold parseModbusDevice at parsed
  repeat obtain ⟨_, read, parsed⟩ := ok_of_bind parsed
  cases parsed
  exact mapM_parseModbusPoint_known read

end

section

variable {points : List DataPoint} {head : DataPoint}
  {rest remaining : List DataPoint}

private theorem blocksFit_iff (split : rest = follows head rest ++ remaining) :
    BlocksFit (head :: rest) ↔
      totalWidth cells? (head :: follows head rest) ≤ maxReadRegisters ∧
        BlocksFit remaining := by
  constructor
  · intro fits
    constructor
    · apply fits [] _ remaining
      · exact congrArg (head :: ·) split
      · exact block_block _ _
    · intro before run after inside consecutive
      apply fits (head :: follows head rest ++ before) run after _ consecutive
      rw [List.append_assoc, ← inside]
      exact congrArg (head :: ·) split
  · intro fits before run after inside consecutive
    rcases consecutive.inside_or_after split inside with
      ⟨later, first⟩ | ⟨earlier, second⟩
    · have total := congrArg (totalWidth cells?) first
      rw [totalWidth_append, totalWidth_append] at total
      have bound : totalWidth cells? (head :: follows head rest) ≤
          maxReadRegisters := fits.1
      unfold follows at bound
      omega
    · exact fits.2 earlier run after second consecutive

private theorem forall_mem_split {property : DataPoint → Prop}
    (split : rest = follows head rest ++ remaining) :
    (∀ point ∈ head :: rest, property point) ↔
      (∀ point ∈ head :: follows head rest, property point) ∧
        ∀ point ∈ remaining, property point := by
  have whole : head :: rest = (head :: follows head rest) ++ remaining :=
    congrArg (head :: ·) split
  rw [whole, List.forall_mem_append]

private theorem knownTypes_follows (rest : List DataPoint)
    (known : (cells? head).isSome) :
    KnownTypes (head :: follows head rest) := by
  intro point member
  rcases List.mem_cons.mp member with same | later
  · exact same ▸ known
  · exact block_known point later

theorem legalRequest_iff (known : (cells? head).isSome) :
    LegalRequest
        { startAddr := head.address
          count := totalWidth cells? (head :: follows head rest)
          endIndex := endIndex } ↔
      totalWidth cells? (head :: follows head rest) ≤ maxReadRegisters ∧
        InsideAddressSpace (head :: follows head rest) := by
  have consecutive : Consecutive address cells? (head :: follows head rest) :=
    block_block _ _
  have positive := cells_pos known
  have start : head.address.toNat = address head := rfl
  unfold LegalRequest
  simp only [start]
  constructor
  · intro legal
    refine ⟨legal.2.1, ?_⟩
    intro point member
    obtain ⟨before, after, split⟩ := List.append_of_mem member
    have place := consecutive.start_of_split split
    have total := congrArg (totalWidth cells?) split
    rw [totalWidth_append, totalWidth_cons point] at total
    omega
  · intro fits
    have ending := block_end_le (address head + (cells? head).getD 0)
      (follows head rest) (fits.2 head List.mem_cons_self)
      (fun point later => fits.2 point (List.mem_cons_of_mem head later))
    have whole : block address cells? (address head + (cells? head).getD 0)
        (follows head rest) = follows head rest := consecutive
    rw [whole] at ending
    refine ⟨?_, fits.1, ?_⟩
    · rw [totalWidth_cons]
      omega
    · rw [totalWidth_cons]
      omega

private theorem legalFrom_iff (points : List DataPoint) (i : Nat) :
    (∀ range ∈ ranges points i, LegalRequest range) ↔
      KnownTypes (points.drop i) ∧ BlocksFit (points.drop i) ∧
        InsideAddressSpace (points.drop i) := by
  induction i using ranges.induct points with
  | case1 i inside range induction =>
      have suffix : points.drop i = points[i] :: points.drop (i + 1) :=
        List.drop_eq_getElem_cons inside
      rw [ranges, dif_pos inside, List.forall_mem_cons, induction, suffix]
      cases cells : cells? points[i] with
      | none =>
          have count := (isUnknown_findContinuousRegisters suffix cells).count
          constructor
          · intro legal
            have positive := legal.1.1
            simp only at count
            omega
          · intro conditions
            have known := conditions.1 _ List.mem_cons_self
            rw [cells] at known
            cases known
      | some count =>
          have known : (cells? points[i]).isSome := by
            rw [cells]
            rfl
          obtain ⟨remaining, split⟩ := block_split address cells?
            (address points[i] + (cells? points[i]).getD 0) (points.drop (i + 1))
          have found := findContinuousRegisters_known suffix known
          have later : points.drop (range.endIndex + 1) = remaining := by
            have shift : range.endIndex + 1 =
                i + 1 + (follows points[i] (points.drop (i + 1))).length := by
              simp only [range, found]
              omega
            rw [shift, ← List.drop_drop]
            nth_rewrite 2 [split]
            exact List.drop_left
          have headKnown := knownTypes_follows (points.drop (i + 1)) known
          rw [later, found, legalRequest_iff known, blocksFit_iff split]
          unfold KnownTypes InsideAddressSpace at *
          rw [forall_mem_split split, forall_mem_split split]
          tauto
  | case2 i outside =>
      have suffix : points.drop i = [] := List.drop_eq_nil_of_le (by omega)
      have empty : BlocksFit [] := by
        intro before run after split _
        have none : run = [] := by
          have both := (List.append_eq_nil_iff.mp split.symm).2
          exact (List.append_eq_nil_iff.mp both).1
        simp [none]
      rw [ranges, dif_neg outside, suffix]
      simp [KnownTypes, InsideAddressSpace, empty]

theorem requestsLegal_iff_ranges {σ : Type*} (sorter : AddressSort)
    (readRegisters : σ → UInt16 → Nat → σ × Option (List UInt16))
    (config : ConfigDataModbus) (state : σ) :
    RequestsLegal
        (processContinuousRegisters sorter readRegisters config state).1 ↔
      ∀ range ∈ ranges (sorter.sort config.dataPoints) 0,
        LegalRequest range := by
  rw [← processContinuousRegisters_ranges sorter readRegisters config state,
    List.forall_mem_map]
  rfl

end

/-- The reads of a poll are legal if and only if all points have a known type,
no block of registers is longer than one read, and no point reaches beyond the
last address. -/
theorem requestsLegal_iff {σ : Type*} (sorter : AddressSort)
    (readRegisters : σ → UInt16 → Nat → σ × Option (List UInt16))
    (config : ConfigDataModbus) (state : σ) :
    RequestsLegal
        (processContinuousRegisters sorter readRegisters config state).1 ↔
      KnownTypes config.dataPoints ∧
        BlocksFit (sorter.sort config.dataPoints) ∧
        InsideAddressSpace config.dataPoints := by
  rw [requestsLegal_iff_ranges, legalFrom_iff, List.drop_zero]
  unfold KnownTypes InsideAddressSpace
  rw [sorter.forall_mem_iff, sorter.forall_mem_iff]

def topDevice : ConfigDataModbus :=
  sampleDevice [samplePoint "flow" 65535 "float32"]

/-- 63 points of two registers each, without a gap. -/
def longDevice : ConfigDataModbus :=
  sampleDevice ((List.range 63).map fun index =>
    samplePoint "flow" (UInt16.ofNat (2 * index)) "float32")

theorem not_requestsLegal :
    ¬RequestsLegal (processContinuousRegisters insertionSorter countingDevice
        topDevice ()).1 ∧
      ¬RequestsLegal (processContinuousRegisters insertionSorter countingDevice
        longDevice ()).1 := by
  rw [requestsLegal_iff_ranges, requestsLegal_iff_ranges]
  constructor
  · intro legal
    rw [ranges, dif_pos (by decide)] at legal
    have read := legal _ List.mem_cons_self
    exact absurd read.2.2 (by decide)
  · intro legal
    rw [ranges, dif_pos (by decide)] at legal
    have read := legal _ List.mem_cons_self
    exact absurd read.2.1 (by decide)

end DataGateway.Modbus
