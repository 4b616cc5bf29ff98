import DataGateway.Iec104.Server

/-!
# Station interrogation

All data points go into one ASDU, and the server does not look at what the
library refuses.  The answer is complete exactly when nothing is refused: the
points are of one type and fit together into one ASDU.
-/

namespace DataGateway.Iec104

open Foundation

/-- The answer to an interrogation of the station: a positive confirmation,
data ASDUs whose objects are the points, each one once, and the termination. -/
def CompleteAnswer (points : List DataPoint) (sent : List Sent) : Prop :=
  ∃ asdus : List Asdu,
    sent = .actCon false :: (asdus.map Sent.asdu ++ [.actTerm]) ∧
    (∀ asdu ∈ asdus, asdu.cot = .interrogatedByStation) ∧
    (asdus.flatMap Asdu.objects).Perm (points.map informationObject)

theorem type_informationObject_eq_iff (first second : DataPoint) :
    (informationObject first).type = (informationObject second).type ↔
      first.type = second.type := by
  unfold informationObject
  cases first.type <;> cases second.type <;> simp [InformationObject.type]

/-- The bytes of an address hold the address. -/
def AppLayerParameters.Addresses (parameters : AppLayerParameters) (ioa : Int32) :
    Prop :=
  0 ≤ ioa.toInt ∧ ioa.toInt < 256 ^ parameters.sizeOfIOA

/-- The encoding keeps the address and the quality of the point: that of a single
point is in the high half of its byte. -/
def AppLayerParameters.Encodes (parameters : AppLayerParameters) (dp : DataPoint) :
    Prop :=
  parameters.Addresses dp.ioa ∧
    (dp.type = .singlePoint → dp.quality &&& 0xF0 = dp.quality)

section

variable (parameters : AppLayerParameters)

theorem toInt_encodedAddress (ioa : Int32) :
    (parameters.encodedAddress ioa).toInt =
      ioa.toInt % 256 ^ parameters.sizeOfIOA := by
  unfold AppLayerParameters.encodedAddress
  rcases parameters.sizeOfIOA_mem with one | two | three
  · rw [one]
    exact Int32.toInt_ofInt_of_le (by omega) (by omega)
  · rw [two]
    exact Int32.toInt_ofInt_of_le (by omega) (by omega)
  · rw [three]
    exact Int32.toInt_ofInt_of_le (by omega) (by omega)

theorem encodedAddress_eq_iff (ioa : Int32) :
    parameters.encodedAddress ioa = ioa ↔ parameters.Addresses ioa := by
  rw [← Int32.toInt_inj, toInt_encodedAddress]
  have positive : (0 : Int) < 256 ^ parameters.sizeOfIOA := pow_pos (by decide) _
  constructor
  · intro same
    rw [AppLayerParameters.Addresses, ← same]
    exact ⟨Int.emod_nonneg _ positive.ne', Int.emod_lt_of_pos _ positive⟩
  · intro inside
    exact Int.emod_eq_of_lt inside.1 inside.2

private theorem encodedAddress_encodedAddress (ioa : Int32) :
    parameters.encodedAddress (parameters.encodedAddress ioa) =
      parameters.encodedAddress ioa := by
  rw [← Int32.toInt_inj, toInt_encodedAddress, toInt_encodedAddress, Int.emod_emod]

private theorem encoded_encoded (io : InformationObject) :
    (io.encoded parameters).encoded parameters = io.encoded parameters := by
  cases io with
  | measuredValueScaled ioa value quality =>
      simp only [InformationObject.encoded, encodedAddress_encodedAddress,
        Int16.toInt16_toInt32]
  | singlePoint ioa value quality =>
      have half : quality &&& 0xF0 &&& 0xF0 = quality &&& 0xF0 := by
        rw [UInt8.and_assoc]
        rfl
      simp only [InformationObject.encoded, encodedAddress_encodedAddress, half]

private theorem encoded_informationObject_iff (dp : DataPoint) :
    (informationObject dp).encoded parameters = informationObject dp ↔
      parameters.Encodes dp := by
  unfold AppLayerParameters.Encodes informationObject
  rw [← encodedAddress_eq_iff]
  cases dp.type with
  | measuredValueScaled => simp [InformationObject.encoded]
  | singlePoint => simp [InformationObject.encoded]

theorem type_encoded (io : InformationObject) :
    (io.encoded parameters).type = io.type := by
  cases io <;> rfl

theorem size_encoded (io : InformationObject) :
    (io.encoded parameters).size parameters = io.size parameters := by
  cases io <;> rfl

end

/-- What the library accepts of the objects that are encoded. -/
abbrev Library.accepts (library : Library) :
    List InformationObject → InformationObject → Bool :=
  fits InformationObject.type (·.size library.parameters)
    library.parameters.headerSize library.parameters.maxSizeOfASDU

private theorem accepts_encoded (library : Library) (objects : List InformationObject)
    (io : InformationObject) :
    library.accepts objects (io.encoded library.parameters) =
      library.accepts objects io := by
  simp only [Library.accepts, fits, type_encoded, size_encoded]

/-- The loop packs the objects that could be created, encoded, and changes nothing
else of the ASDU. -/
theorem addDataPoints_eq (library : Library) (asdu : Asdu)
    (points : List DataPoint) :
    addDataPoints library asdu points =
      { asdu with
        objects := pack library.accepts asdu.objects
          (((points.map informationObject).filter library.createsObject).map
            (·.encoded library.parameters)) } := by
  induction points generalizing asdu with
  | nil => rfl
  | cons dp points induction =>
      simp only [addDataPoints, List.map_cons]
      by_cases created : library.createsObject (informationObject dp) = true
      · rw [if_pos created, induction, List.filter_cons_of_pos created, List.map_cons,
          pack_cons, accepts_encoded]
        unfold addInformationObject
        split <;> rfl
      · rw [if_neg created, induction, List.filter_cons_of_neg created]

theorem completeAnswer_iff {points : List DataPoint} {given : List Asdu} :
    CompleteAnswer points (.actCon false :: (given.map Sent.asdu ++ [.actTerm])) ↔
      (∀ asdu ∈ given, asdu.cot = .interrogatedByStation) ∧
        (given.flatMap Asdu.objects).Perm (points.map informationObject) := by
  constructor
  · intro complete
    obtain ⟨asdus, sent, answer⟩ := complete
    have injective : Function.Injective Sent.asdu := by
      intro first second same
      cases same
      rfl
    have sameMap := List.append_cancel_right (List.cons.inj sent).2
    rw [List.map_injective_iff.mpr injective sameMap]
    exact answer
  · intro answer
    exact ⟨given, rfl, answer⟩

/-- The conditions under which nothing of a non-empty map is refused. -/
def FitsOneAsdu (library : Library) (points : List DataPoint) : Prop :=
  library.createsAsdu = true ∧
    (∀ dp ∈ points, library.createsObject (informationObject dp) = true) ∧
    (∀ first ∈ points, ∀ second ∈ points, first.type = second.type) ∧
    library.parameters.headerSize + ((points.map informationObject).map
      (·.size library.parameters)).sum ≤ library.parameters.maxSizeOfASDU

/-- A list that drops items of the filtered and encoded list is the whole list only
if neither step drops any and the encoding changes none. -/
theorem perm_pack_filter_iff {accepts : List InformationObject →
      InformationObject → Bool} {keep : InformationObject → Bool}
    {encode : InformationObject → InformationObject}
    (twice : ∀ io, encode (encode io) = encode io)
    {objects : List InformationObject} :
    (pack accepts [] ((objects.filter keep).map encode)).Perm objects ↔
      (∀ io ∈ objects, keep io = true) ∧ (∀ io ∈ objects, encode io = io) ∧
        pack accepts [] objects = objects := by
  have packed := pack_sublist accepts [] ((objects.filter keep).map encode)
  rw [List.nil_append] at packed
  have kept : (objects.filter keep).Sublist objects := List.filter_sublist
  constructor
  · intro permutation
    have whole : objects.filter keep = objects := by
      apply kept.eq_of_length_le
      rw [← permutation.length_eq]
      exact packed.length_le.trans_eq (List.length_map encode)
    rw [whole] at packed permutation
    have all : pack accepts [] (objects.map encode) = objects.map encode := by
      apply packed.eq_of_length
      rw [permutation.length_eq, List.length_map]
    rw [all] at permutation
    have same : ∀ io ∈ objects, encode io = io := by
      intro io member
      obtain ⟨other, _, rfl⟩ := List.mem_map.mp (permutation.mem_iff.mpr member)
      exact twice other
    refine ⟨List.filter_eq_self.mp whole, same, ?_⟩
    rwa [List.map_congr_left same, List.map_id'] at all
  · rintro ⟨keeps, same, all⟩
    rw [List.filter_eq_self.mpr keeps, List.map_congr_left same, List.map_id', all]

/-- The interrogation of the station is answered completely if and only if
there is no point, or all points are of one type and fit into one ASDU that the
library can allocate, and the encoding keeps their addresses and qualities. -/
theorem interrogation_complete_iff (library : Library) (dataPoints : DataPoints) :
    CompleteAnswer dataPoints.values (interrogationHandler library dataPoints 20) ↔
      dataPoints.values = [] ∨
        FitsOneAsdu library dataPoints.values ∧
          ∀ dp ∈ dataPoints.values, library.parameters.Encodes dp := by
  unfold interrogationHandler
  rw [if_pos rfl]
  generalize dataPoints.values = points
  by_cases empty : points = []
  · subst empty
    change CompleteAnswer [] (.actCon false ::
      (([] : List Asdu).map Sent.asdu ++ [.actTerm])) ↔ _
    rw [completeAnswer_iff]
    simp
  · have nonempty : points.isEmpty = false := by simpa using empty
    unfold sendDataPoints
    rw [if_neg (by simp [nonempty])]
    by_cases created : library.createsAsdu = true
    · rw [if_pos created, addDataPoints_eq]
      simp only [if_true]
      rw [← List.map_singleton, completeAnswer_iff]
      simp only [List.mem_singleton, forall_eq, true_and, List.flatMap_cons,
        List.flatMap_nil, List.append_nil]
      rw [perm_pack_filter_iff (encoded_encoded library.parameters), pack_all_iff]
      simp only [FitsOneAsdu, empty, created, List.map_eq_nil_iff, false_or,
        true_and, List.forall_mem_map, type_informationObject_eq_iff,
        encoded_informationObject_iff]
      tauto
    · rw [if_neg created]
      change CompleteAnswer points (.actCon false ::
        (([] : List Asdu).map Sent.asdu ++ [.actTerm])) ↔ _
      rw [completeAnswer_iff]
      have noObjects : ¬([] : List InformationObject).Perm
          (points.map informationObject) := by
        intro permutation
        exact empty (List.map_eq_nil_iff.mp permutation.nil_eq.symm)
      simp [FitsOneAsdu, empty, created, noObjects]

/-- The default parameters of an IEC 104 connection. -/
def defaultLibrary : Library :=
  { parameters :=
      { sizeOfTypeId := 1
        sizeOfVSQ := 1
        sizeOfCOT := 2
        sizeOfCA := 2
        sizeOfIOA := 3
        maxSizeOfASDU := 249
        sizeOfIOA_mem := .inr (.inr rfl) }
    createsAsdu := true
    createsObject := fun _ => true }

/-- Two of the points of `server104Test`. -/
def mixedPoints : DataPoints :=
  addSingle (addScaled ∅ 100 0 .measuredValueScaled 1000 0) 200 0 .singlePoint 0
    true 0

/-- The single point is missing from the answer. -/
theorem mixed_answer_incomplete : ¬CompleteAnswer mixedPoints.values
    (interrogationHandler defaultLibrary mixedPoints 20) := by
  have sent : interrogationHandler defaultLibrary mixedPoints 20 =
      .actCon false :: ([
        { isSequence := false
          cot := .interrogatedByStation
          oa := 0
          ca := 1
          isTest := false
          isNegative := false
          objects := [.measuredValueScaled 100 1000 0] }].map Sent.asdu ++
        [.actTerm]) := by
    decide
  intro complete
  rw [sent, completeAnswer_iff] at complete
  have lengths := complete.2.length_eq
  exact absurd lengths (by decide)

end DataGateway.Iec104
