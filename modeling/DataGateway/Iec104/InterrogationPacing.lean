import Mathlib.Algebra.Group.Nat.Defs
import DataGateway.Foundation.Pacing
import DataGateway.Iec104.Client

/-!
# The pace of interrogations

The branch of `IEC104Client::run` on the clock, iteration after iteration.  It
is a pacer whose mark is `last_gi_sent_`; the unsigned sum of the mark and the
interval does not wrap around below 2^63.
-/

namespace DataGateway.Iec104

open Foundation

namespace Client

/-- The worker goes to the branch of `run` on the clock. -/
structure Polls (client : Client) : Prop where
  startDtSent : client.startDtSent = true
  running : client.running = true
  notOpened : client.lastEvent ≠ some .opened
  notClosed : client.lastEvent ≠ some .closed
  notFailed : client.lastEvent ≠ some .failed

def iterateAll (client : Client) (readings : List UInt64) : Client :=
  readings.foldl (fun client reading => client.iterate reading) client

/-- The iteration with this clock reading calls
`CS104_Connection_sendInterrogationCommand`. -/
def Interrogates (client : Client) (reading : UInt64) : Prop :=
  (client.iterate reading).history.head? = some (.interrogationSent reading)

instance (client : Client) (reading : UInt64) :
    Decidable (client.Interrogates reading) :=
  inferInstanceAs (Decidable (_ = _))

/-- `gi_interval_ms_`, which is not negative, in milliseconds. -/
def interval (client : Client) : Nat := client.giIntervalMs.toInt.toNat

/-- Two consecutive interrogations are more than the interval apart, or the clock
has jumped back between them; and a reading more than the interval above one of
those since the last interrogation, and so above the smallest, sends one. -/
def WellPaced (client : Client) (readings : List UInt64) : Prop :=
  ∀ before first between second after,
    readings = before ++ first :: (between ++ second :: after) →
    (client.iterateAll before).Interrogates first →
    (∀ passed reading rest, between = passed ++ reading :: rest →
      ¬(client.iterateAll (before ++ first :: passed)).Interrogates reading) →
    ((client.iterateAll (before ++ first :: between)).Interrogates second →
      first.toNat + client.interval < second.toNat ∨
        JumpsBack ((first :: (between ++ [second])).map UInt64.toNat)) ∧
    ((∃ low ∈ first :: between, low.toNat + client.interval < second.toNat) →
      (client.iterateAll (before ++ first :: between)).Interrogates second)

variable {client : Client} {reading : UInt64}

private theorem toNat_interval (nonneg : 0 ≤ client.giIntervalMs.toInt) :
    client.giIntervalMs.toInt64.toUInt64.toNat = client.interval := by
  have signed := Int64.toInt_toBitVec client.giIntervalMs.toInt64
  have widened : client.giIntervalMs.toInt64.toInt = client.giIntervalMs.toInt :=
    Int32.toInt_toInt64 _
  have below : client.giIntervalMs.toInt < 2 ^ 31 :=
    client.giIntervalMs.toInt_lt
  have bits : client.giIntervalMs.toInt64.toUInt64.toNat =
      client.giIntervalMs.toInt64.toBitVec.toNat := rfl
  rw [← signed, BitVec.toInt_eq_toNat_cond] at widened
  rw [bits, interval]
  split at widened <;> omega

private theorem interval_lt (client : Client) : client.interval < 2 ^ 31 := by
  have below : client.giIntervalMs.toInt < 2 ^ 31 :=
    client.giIntervalMs.toInt_lt
  unfold interval
  omega

private theorem iterate_of_polls (polls : client.Polls) :
    client.iterate reading =
      (client.record (.iteration reading)).interrogateWhenDue reading := by
  have sent := polls.startDtSent
  cases last : client.lastEvent with
  | none => simp [iterate, record, last, sent]
  | some event =>
      cases event with
      | opened => exact (polls.notOpened last).elim
      | closed => exact (polls.notClosed last).elim
      | failed => exact (polls.notFailed last).elim
      | startDtConReceived | stopDtConReceived =>
          simp [iterate, record, last, sent]

/-- The mark that the second comparison of the branch uses. -/
def loweredMark (client : Client) (reading : UInt64) : UInt64 :=
  if reading < client.lastGiSent then reading else client.lastGiSent

private theorem toNat_loweredMark (client : Client) (reading : UInt64) :
    (client.loweredMark reading).toNat =
      min client.lastGiSent.toNat reading.toNat := by
  unfold loweredMark
  split
  · next below =>
      have lower : reading.toNat < client.lastGiSent.toNat := below
      omega
  · next above =>
      have notLower : ¬reading.toNat < client.lastGiSent.toNat := above
      omega

private theorem iterate_of_due (polls : client.Polls)
    (due : client.loweredMark reading + client.giIntervalMs.toInt64.toUInt64 <
      reading) :
    client.iterate reading =
      { client.record (.iteration reading) with
        lastGiSent := reading }.record (.interrogationSent reading) := by
  rw [iterate_of_polls polls]
  refine Eq.trans (if_pos due) ?_
  simp [sendInterrogationCommand, record, polls.running, polls.startDtSent]

private theorem iterate_of_not_due (polls : client.Polls)
    (rests : ¬client.loweredMark reading +
      client.giIntervalMs.toInt64.toUInt64 < reading) :
    client.iterate reading =
      { client.record (.iteration reading) with
        lastGiSent := client.loweredMark reading } := by
  rw [iterate_of_polls polls]
  exact if_neg rests

theorem due_iff (nonneg : 0 ≤ client.giIntervalMs.toInt)
    (below : reading.toNat < 2 ^ 63) :
    client.loweredMark reading + client.giIntervalMs.toInt64.toUInt64 < reading ↔
      min client.lastGiSent.toNat reading.toNat + client.interval <
        reading.toNat := by
  have small := client.interval_lt
  rw [UInt64.lt_iff_toNat_lt, UInt64.toNat_add, toNat_interval nonneg,
    toNat_loweredMark, Nat.mod_eq_of_lt (by omega)]

theorem iterate_paces (polls : client.Polls)
    (nonneg : 0 ≤ client.giIntervalMs.toInt) (below : reading.toNat < 2 ^ 63) :
    (client.iterate reading).Polls ∧
      (client.iterate reading).giIntervalMs = client.giIntervalMs ∧
      (client.iterate reading).lastGiSent.toNat =
        (pace client.interval client.lastGiSent.toNat reading.toNat).1 ∧
      (client.Interrogates reading ↔
        (pace client.interval client.lastGiSent.toNat reading.toNat).2 =
          true) := by
  unfold Interrogates
  by_cases due : client.loweredMark reading +
      client.giIntervalMs.toInt64.toUInt64 < reading
  · have fires := (due_iff nonneg below).mp due
    rw [iterate_of_due polls due, pace, if_pos fires]
    refine ⟨?_, rfl, rfl, ?_⟩
    · exact ⟨polls.startDtSent, polls.running, polls.notOpened, polls.notClosed,
        polls.notFailed⟩
    · simp [record]
  · have rests : ¬_ := fun fires => due ((due_iff nonneg below).mpr fires)
    rw [iterate_of_not_due polls due, pace, if_neg rests]
    refine ⟨?_, rfl, client.toNat_loweredMark reading, ?_⟩
    · exact ⟨polls.startDtSent, polls.running, polls.notOpened, polls.notClosed,
        polls.notFailed⟩
    · simp [record]

theorem iterateAll_paces {readings : List UInt64} (polls : client.Polls)
    (nonneg : 0 ≤ client.giIntervalMs.toInt)
    (below : ∀ reading ∈ readings, reading.toNat < 2 ^ 63) :
    (client.iterateAll readings).Polls ∧
      (client.iterateAll readings).giIntervalMs = client.giIntervalMs ∧
      (client.iterateAll readings).lastGiSent.toNat =
        markAfter client.interval client.lastGiSent.toNat
          (readings.map UInt64.toNat) := by
  induction readings generalizing client with
  | nil => exact ⟨polls, rfl, rfl⟩
  | cons reading readings induction =>
      obtain ⟨nextPolls, sameInterval, mark, _⟩ := iterate_paces polls nonneg
        (below reading List.mem_cons_self)
      obtain ⟨finalPolls, finalInterval, finalMark⟩ := induction nextPolls
        (sameInterval ▸ nonneg)
        (fun other member => below other (List.mem_cons_of_mem _ member))
      refine ⟨finalPolls, finalInterval.trans sameInterval, ?_⟩
      refine finalMark.trans ?_
      unfold interval
      rw [sameInterval, mark]
      rfl

private theorem interrogates_iff_firesAfter {before : List UInt64} (polls : client.Polls)
    (nonneg : 0 ≤ client.giIntervalMs.toInt)
    (belowBefore : ∀ reading ∈ before, reading.toNat < 2 ^ 63)
    (below : reading.toNat < 2 ^ 63) :
    (client.iterateAll before).Interrogates reading ↔
      FiresAfter client.interval client.lastGiSent.toNat
        (before.map UInt64.toNat) reading.toNat := by
  obtain ⟨reachedPolls, sameInterval, mark⟩ :=
    iterateAll_paces polls nonneg belowBefore
  obtain ⟨_, _, _, fires⟩ := iterate_paces reachedPolls
    (sameInterval ▸ nonneg) below
  rw [fires, mark, FiresAfter, interval, interval, sameInterval]

/-- From any state in the branch on the clock, for every sequence of clock
readings, interrogations are sent neither too early nor too late. -/
theorem interrogations_wellPaced (client : Client) (readings : List UInt64)
    (polls : client.Polls) (nonneg : 0 ≤ client.giIntervalMs.toInt)
    (below : ∀ reading ∈ readings, reading.toNat < 2 ^ 63) :
    client.WellPaced readings := by
  intro before first between second after split sent noneSince
  have fires : ∀ passed reading, (∃ rest, readings = passed ++ reading :: rest) →
      ((client.iterateAll passed).Interrogates reading ↔
        FiresAfter client.interval client.lastGiSent.toNat
          (passed.map UInt64.toNat) reading.toNat) := by
    intro passed reading prefixed
    obtain ⟨rest, same⟩ := prefixed
    apply interrogates_iff_firesAfter polls nonneg
    · intro other member
      apply below
      rw [same]
      exact List.mem_append_left _ member
    · apply below
      rw [same]
      exact List.mem_append_right _ List.mem_cons_self
  have fired := (fires before first ⟨_, split⟩).mp sent
  have quiet : Quiet client.interval first.toNat (between.map UInt64.toNat) := by
    intro passed reading rest mapped firesAgain
    obtain ⟨passedWords, remaining, betweenSplit, passedSame, restSame⟩ :=
      List.map_eq_append_iff.mp mapped
    obtain ⟨readingWord, restWords, remainingSplit, readingSame, _⟩ :=
      List.map_eq_cons_iff.mp restSame
    subst betweenSplit remainingSplit passedSame readingSame
    apply noneSince passedWords readingWord restWords rfl
    apply (fires _ _ ⟨restWords ++ second :: after, by simp [split]⟩).mpr
    rw [List.map_append, List.map_cons]
    exact (firesAfter_append_iff fired).mpr firesAgain
  have again := fires (before ++ first :: between) second
    ⟨after, by simp [split]⟩
  rw [again, List.map_append, List.map_cons]
  constructor
  · intro firesAgain
    have apart := gap_or_jumpsBack fired quiet firesAgain
    simpa using apart
  · intro advanced
    obtain ⟨low, member, due⟩ := advanced
    apply (firesAfter_iff_of_quiet fired quiet).mpr
    exact ⟨low.toNat, List.mem_map_of_mem member, due⟩

/-- A started client with an interval of five seconds. -/
def pollingClient : Client :=
  { create 5000 with
    running := true
    startDtSent := true }

/-- The clock jumps back from 9000 to 3000. -/
theorem interrogations_wellPaced_jump :
    pollingClient.WellPaced [9000, 3000, 7000, 8001] ∧
      (pollingClient.iterateAll [9000, 3000, 7000]).Interrogates 8001 := by
  constructor
  · apply interrogations_wellPaced pollingClient [9000, 3000, 7000, 8001]
    · constructor <;> simp [pollingClient, create]
    · decide
    · simp
  · decide

end Client

end DataGateway.Iec104
