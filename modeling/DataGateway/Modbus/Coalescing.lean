import DataGateway.Modbus.Polling

/-!
# The ranges of one poll

The loop of `processContinuousRegisters` cuts the sorted points into ranges.
What it cuts does not depend on what is read, so the ranges are a function of
the points: successive intervals of indices that cover all of them, each one a
maximal block of registers or a single point of unknown type.
-/

namespace DataGateway.Modbus

open Foundation ConfigDataModbus

/-- The ranges that the loop finds from index `i` on. -/
def ranges (points : List DataPoint) (i : Nat) : List RegisterRange :=
  if _ : i < points.length then
    let range := findContinuousRegisters points i
    range :: ranges points (range.endIndex + 1)
  else []
termination_by points.length - i
decreasing_by
  have later := findContinuousRegisters_endIndex_ge points i
  omega

/-- One turn of the loop: the value of `i` and the range found there. -/
structure Turn where
  i : Nat
  range : RegisterRange

/-- The turns of a loop that finds these ranges. -/
def turns (i : Nat) : List RegisterRange → List Turn
  | [] => []
  | range :: rest => ⟨i, range⟩ :: turns (range.endIndex + 1) rest

namespace Turn

/-- The interval `[i, end_index]`. -/
def indices (turn : Turn) : List Nat :=
  List.range' turn.i (turn.range.endIndex + 1 - turn.i)

def segment (points : List DataPoint) (turn : Turn) : List DataPoint :=
  (points.drop turn.i).take (turn.range.endIndex + 1 - turn.i)

/-- All points of the range are of a known type, each of them starts where the
widths before it end, and the next point does not go on. -/
structure IsBlock (points : List DataPoint) (turn : Turn) : Prop where
  known : ∀ point ∈ turn.segment points, (cells? point).isSome
  placed : ∀ before point after,
    turn.segment points = before ++ point :: after →
    address point = turn.range.startAddr.toNat + totalWidth cells? before
  count : turn.range.count = totalWidth cells? (turn.segment points)
  maximal : ∀ next, points[turn.range.endIndex + 1]? = some next →
    cells? next = none ∨
      address next ≠ turn.range.startAddr.toNat + turn.range.count

/-- A point of unknown type at the head is a range of its own. -/
structure IsUnknown (turn : Turn) : Prop where
  alone : turn.range.endIndex = turn.i
  count : turn.range.count = 0

def IsRange (points : List DataPoint) (turn : Turn) : Prop :=
  match points[turn.i]?.bind cells? with
  | some _ => turn.IsBlock points
  | none => turn.IsUnknown

end Turn

/-- The intervals of the turns, one after the other, are all indices. -/
structure PartitionsPoints (points : List DataPoint)
    (found : List RegisterRange) : Prop where
  covers : (turns 0 found).flatMap Turn.indices = List.range points.length
  nonempty : ∀ turn ∈ turns 0 found, turn.i ≤ turn.range.endIndex
  exact : ∀ turn ∈ turns 0 found, turn.IsRange points

section

variable {σ : Type*} {points : List DataPoint} {i : Nat}

private theorem pollLoop_ranges
    (readRegisters : σ → UInt16 → Nat → σ × Option (List UInt16))
    (deviceId : String) (points : List DataPoint) (i : Nat) (state : σ) :
    (pollLoop readRegisters deviceId points i state).1.map Polled.range =
      ranges points i := by
  induction i using ranges.induct points generalizing state with
  | case1 i inside range induction =>
      rw [pollLoop, ranges, dif_pos inside, dif_pos inside]
      simp only [List.map_cons]
      rw [induction]
  | case2 i outside =>
      rw [pollLoop, ranges, dif_neg outside, dif_neg outside]
      rfl

/-- The points after the head that a range takes in. -/
def follows (head : DataPoint) (rest : List DataPoint) : List DataPoint :=
  block address cells? (address head + (cells? head).getD 0) rest

private theorem exists_of_next {head next : DataPoint} {rest : List DataPoint}
    (suffix : points.drop i = head :: rest)
    (found : points[i + (follows head rest).length + 1]? = some next) :
    ∃ after, rest = follows head rest ++ next :: after := by
  obtain ⟨remaining, split⟩ := block_split address cells?
    (address head + (cells? head).getD 0) rest
  have inRest : (follows head rest ++ remaining)[
      (follows head rest).length]? = some next := by
    rw [← found, Nat.add_assoc, ← List.getElem?_drop, suffix]
    exact congrArg (·[(follows head rest).length]?) split.symm
  rw [List.getElem?_append_right (Nat.le_refl _), Nat.sub_self] at inRest
  cases remaining with
  | nil => cases inRest
  | cons first after =>
      cases inRest
      exact ⟨after, split⟩

section Known

variable {head : DataPoint} {rest : List DataPoint}
  (suffix : points.drop i = head :: rest) (known : (cells? head).isSome)

include suffix known

theorem findContinuousRegisters_known :
    findContinuousRegisters points i =
      { startAddr := head.address
        count := totalWidth cells? (head :: follows head rest)
        endIndex := i + (follows head rest).length } := by
  obtain ⟨count, cells⟩ := Option.isSome_iff_exists.mp known
  rw [findContinuousRegisters_eq suffix cells]
  simp [follows, cells]

theorem segment_known :
    Turn.segment points ⟨i, findContinuousRegisters points i⟩ =
      head :: follows head rest := by
  obtain ⟨remaining, split⟩ := block_split address cells?
    (address head + (cells? head).getD 0) rest
  have length : i + (follows head rest).length + 1 - i =
      (follows head rest).length + 1 := by omega
  rw [findContinuousRegisters_known suffix known, Turn.segment, suffix]
  simp only [length, List.take_succ_cons]
  nth_rewrite 2 [split]
  exact congrArg _ List.take_left

private theorem isBlock_findContinuousRegisters :
    Turn.IsBlock points ⟨i, findContinuousRegisters points i⟩ := by
  constructor
  · rw [segment_known suffix known]
    intro point member
    rcases List.mem_cons.mp member with same | later
    · exact same ▸ known
    · exact block_known point later
  · rw [segment_known suffix known, findContinuousRegisters_known suffix known]
    intro before point after whole
    have consecutive : Consecutive address cells? (head :: follows head rest) :=
      block_block _ _
    exact consecutive.start_of_split whole
  · rw [segment_known suffix known, findContinuousRegisters_known suffix known]
  · rw [findContinuousRegisters_known suffix known]
    intro next found
    obtain ⟨after, split⟩ := exists_of_next suffix found
    rw [totalWidth_cons, ← Nat.add_assoc]
    exact block_stops split

end Known

theorem isUnknown_findContinuousRegisters {head : DataPoint}
    {rest : List DataPoint} (suffix : points.drop i = head :: rest)
    (unknown : cells? head = none) :
    Turn.IsUnknown ⟨i, findContinuousRegisters points i⟩ := by
  have type : regCount? head.dataType = none := unknown
  constructor <;> simp [findContinuousRegisters, suffix, type]

private theorem isRange_findContinuousRegisters (inside : i < points.length) :
    Turn.IsRange points ⟨i, findContinuousRegisters points i⟩ := by
  have suffix : points.drop i = points[i] :: points.drop (i + 1) :=
    List.drop_eq_getElem_cons inside
  unfold Turn.IsRange
  rw [List.getElem?_eq_getElem inside, Option.bind_some]
  cases cells : cells? points[i] with
  | none => exact isUnknown_findContinuousRegisters suffix cells
  | some count =>
      exact isBlock_findContinuousRegisters suffix (by rw [cells]; rfl)

private theorem findContinuousRegisters_endIndex_lt (inside : i < points.length) :
    (findContinuousRegisters points i).endIndex < points.length := by
  have suffix : points.drop i = points[i] :: points.drop (i + 1) :=
    List.drop_eq_getElem_cons inside
  cases cells : cells? points[i] with
  | none =>
      rw [(isUnknown_findContinuousRegisters suffix cells).alone]
      exact inside
  | some count =>
      have known : (cells? points[i]).isSome := by
        rw [cells]
        rfl
      obtain ⟨remaining, split⟩ := block_split address cells?
        (address points[i] + (cells? points[i]).getD 0) (points.drop (i + 1))
      have length := congrArg List.length split
      rw [List.length_append, List.length_drop] at length
      rw [findContinuousRegisters_known suffix known]
      simp only [follows]
      omega

theorem turns_ranges (points : List DataPoint) (i : Nat)
    (start : i ≤ points.length) :
    (turns i (ranges points i)).flatMap Turn.indices =
        List.range' i (points.length - i) ∧
      ∀ turn ∈ turns i (ranges points i),
        turn.i < points.length ∧
          turn.range = findContinuousRegisters points turn.i := by
  induction i using ranges.induct points with
  | case1 i inside range induction =>
      have advances := findContinuousRegisters_endIndex_ge points i
      have below := findContinuousRegisters_endIndex_lt inside
      obtain ⟨covers, found⟩ := induction below
      rw [ranges, dif_pos inside]
      simp only [turns, List.flatMap_cons]
      constructor
      · rw [covers, Turn.indices]
        simp only [range]
        have length : points.length - i =
            (findContinuousRegisters points i).endIndex + 1 - i +
              (points.length -
                ((findContinuousRegisters points i).endIndex + 1)) := by omega
        rw [length, ← List.range'_append_1]
        congr 2
        omega
      · intro turn member
        rcases List.mem_cons.mp member with same | later
        · subst same
          exact ⟨inside, rfl⟩
        · exact found turn later
  | case2 i outside =>
      rw [ranges, dif_neg outside]
      have length : points.length - i = 0 := by omega
      simp [turns, length]

private theorem ranges_partition (points : List DataPoint) :
    PartitionsPoints points (ranges points 0) := by
  obtain ⟨covers, found⟩ := turns_ranges points 0 (Nat.zero_le _)
  constructor
  · rw [covers, Nat.sub_zero, List.range_eq_range']
  · intro turn member
    rw [(found turn member).2]
    exact findContinuousRegisters_endIndex_ge points turn.i
  · intro turn member
    obtain ⟨inside, range⟩ := found turn member
    have same : turn = ⟨turn.i, findContinuousRegisters points turn.i⟩ := by
      rw [← range]
    rw [same]
    exact isRange_findContinuousRegisters inside

theorem processContinuousRegisters_ranges (sorter : AddressSort)
    (readRegisters : σ → UInt16 → Nat → σ × Option (List UInt16))
    (config : ConfigDataModbus) (state : σ) :
    (processContinuousRegisters sorter readRegisters config state).1.map
        Polled.range =
      ranges (sorter.sort config.dataPoints) 0 := by
  unfold processContinuousRegisters
  split
  · next empty =>
      rw [List.isEmpty_iff.mp empty, ranges, dif_neg]
      · rfl
      · rw [(sorter.perm []).length_eq]
        exact Nat.lt_irrefl 0
  · exact pollLoop_ranges _ _ _ _ _

/-- Whatever is read, the loop ends and its ranges partition the points. -/
theorem processContinuousRegisters_partitions (sorter : AddressSort)
    (readRegisters : σ → UInt16 → Nat → σ × Option (List UInt16))
    (config : ConfigDataModbus) (state : σ) :
    PartitionsPoints (sorter.sort config.dataPoints)
      ((processContinuousRegisters sorter readRegisters config state).1.map
        Polled.range) := by
  rw [processContinuousRegisters_ranges]
  exact ranges_partition _

end

end DataGateway.Modbus
