import DataGateway.Iec104.Sending

/-!
# The server that the program runs

`server104Test` (`core/iec104/iec104Service.cc`), which `main` starts: a server
with two scaled values and two single points, three of which it updates in a
loop.  Its thread, the periodic task, the connections of the masters and the
signal handler take turns; what a thread sends it has copied under
`dataPointsMutex_`, so that the copy and the sending are one move.
-/

namespace DataGateway.Iec104

open Foundation

/-- The thread of `server104Test` is at the condition of its loop, at one of the
three updates, or past the loop. -/
inductive TestAt
  | tests
  | updates100
  | updates101
  | updates200
  | returned
  deriving DecidableEq

structure TestServer where
  dataPoints : DataPoints
  value : Int16
  running : Bool
  test : TestAt

inductive TestMove
  | test (now : UInt64)
  | signalHandler
  | periodic
  | interrogation (qoi : UInt8)
  | command (now : UInt64) (asdu : CommandAsdu)

namespace TestServer

/-- The calls of `addDataPoint` before the start, with the clock readings and
the contents of the new unions. -/
def testPoints (clock : Nat → UInt64) (stack : Nat → BitVec 16) :
    List TimedCall :=
  [⟨clock 0, .addScaled 100 .measuredValueScaled 1000 0⟩,
    ⟨clock 1, .addScaled 101 .measuredValueScaled 2000 0⟩,
    ⟨clock 2, .addSingle 200 .singlePoint (stack 2) true 0⟩,
    ⟨clock 3, .addSingle 201 .singlePoint (stack 3) false 0⟩]

def started (clock : Nat → UInt64) (stack : Nat → BitVec 16) : TestServer :=
  { dataPoints := performAll (testPoints clock stack) ∅
    value := 1000
    running := true
    test := .tests }

section Operations

variable (server : TestServer)

/-- The thread of `server104Test` goes on; `value` is an `int16_t`. -/
def proceed (now : UInt64) : TestServer :=
  match server.test with
  | .tests =>
      { server with test := if server.running then .updates100 else .returned }
  | .updates100 =>
      { server with
        dataPoints := updateScaled server.dataPoints 100 now server.value
        value := server.value + 1
        test := .updates101 }
  | .updates101 =>
      { server with
        dataPoints := updateScaled server.dataPoints 101 now (server.value + 1000)
        test := .updates200 }
  | .updates200 =>
      { server with
        dataPoints := updateSingle server.dataPoints 200 now
          (server.value % 2 == 0)
        test := .tests }
  | .returned => server

/-- After the loop `stop` ends the periodic task and the connections; until it has,
they go on sending. -/
def step (library : Library) : TestMove → TestServer × List Sent
  | .test now => (server.proceed now, [])
  | .signalHandler => ({ server with running := false }, [])
  | .periodic => (server, periodicSend library server.dataPoints)
  | .interrogation qoi =>
      (server, interrogationHandler library server.dataPoints qoi)
  | .command now asdu =>
      ({ server with
        dataPoints := (asduHandler server.dataPoints now asdu).1 }, [])

def runs (library : Library) (server : TestServer) :
    List TestMove → TestServer × List Sent
  | [] => (server, [])
  | move :: moves =>
      let stepped := server.step library move
      let rest := runs library stepped.1 moves
      (rest.1, stepped.2 ++ rest.2)

end Operations

end TestServer

/-- A scaled value is stored under the address. -/
def HoldsScaled (dataPoints : DataPoints) (ioa : Int32) (value : Int16) : Prop :=
  ∃ point, dataPoints[ioa]? = some point ∧ point.ioa = ioa ∧
    point.type = .measuredValueScaled ∧ point.value.scaledValue = value ∧
    point.quality = 0

def HoldsSingle (dataPoints : DataPoints) (ioa : Int32) : Prop :=
  ∃ point, dataPoints[ioa]? = some point ∧ point.ioa = ioa ∧
    point.type = .singlePoint

/-- How the two scaled values stand to the counter. -/
def TestAt.Relates (value first second : Int16) : TestAt → Prop
  | .tests | .updates100 | .returned =>
      second = value + 1000 ∧ (first = value ∨ first = value - 1)
  | .updates101 => second = value + 999 ∧ first = value - 1
  | .updates200 => second = value + 1000 ∧ first = value - 1

structure TestServer.Kept (server : TestServer) : Prop where
  scaled : ∃ first second, HoldsScaled server.dataPoints 100 first ∧
    HoldsScaled server.dataPoints 101 second ∧
    server.test.Relates server.value first second
  single200 : HoldsSingle server.dataPoints 200
  single201 : HoldsSingle server.dataPoints 201
  noOther : ∀ ioa : Int32, ioa ∈ server.dataPoints →
    ioa = 100 ∨ ioa = 101 ∨ ioa = 200 ∨ ioa = 201

/-- The library never fails to create an object, and an ASDU has room for two
scaled values. -/
structure Library.Provides (library : Library) : Prop where
  createsObject : ∀ io, library.createsObject io = true
  room : library.parameters.headerSize +
    2 * library.parameters.weight .M_ME_NB_1 ≤ library.parameters.maxSizeOfASDU

/-- Every point is as before or switched. -/
def Switches (before next : DataPoints) (now : UInt64) : Prop :=
  ∀ ioa : Int32, next[ioa]? = before[ioa]? ∨
    ∃ state, next[ioa]? = before[ioa]?.map (·.switched now state)

section

variable {before next : DataPoints} {now : UInt64} {ioa other : Int32}
  {value new : Int16}

private theorem switches_updateSingle (dataPoints : DataPoints) (state : Bool) :
    Switches dataPoints (updateSingle dataPoints ioa now state) now := by
  intro other
  rw [getElem?_updateSingle]
  by_cases same : other = ioa
  · subst same
    exact .inr ⟨state, if_pos rfl⟩
  · exact .inl (if_neg same)

private theorem switches_asduHandler (dataPoints : DataPoints) (asdu : CommandAsdu) :
    Switches dataPoints (asduHandler dataPoints now asdu).1 now := by
  unfold asduHandler
  split
  · split
    · split
      · exact switches_updateSingle dataPoints _
      · exact fun ioa => .inl rfl
    · exact fun ioa => .inl rfl
  · exact fun ioa => .inl rfl

private theorem switched_of_scaled {point : DataPoint} (state : Bool)
    (scaled : point.type = .measuredValueScaled) :
    point.switched now state = point := by
  simp [DataPoint.switched, scaled]

theorem HoldsScaled.switches (holds : HoldsScaled before ioa value)
    (switches : Switches before next now) : HoldsScaled next ioa value := by
  obtain ⟨point, stored, own, scaled, rest⟩ := holds
  refine ⟨point, ?_, own, scaled, rest⟩
  rcases switches ioa with same | ⟨state, same⟩
  · rw [same, stored]
  · rw [same, stored, Option.map_some, switched_of_scaled state scaled]

theorem HoldsSingle.switches (holds : HoldsSingle before ioa)
    (switches : Switches before next now) : HoldsSingle next ioa := by
  obtain ⟨point, stored, own, single⟩ := holds
  rcases switches ioa with same | ⟨state, same⟩
  · exact ⟨point, same.trans stored, own, single⟩
  · refine ⟨point.switched now state, ?_, ?_, ?_⟩
    · rw [same, stored, Option.map_some]
    · rw [switched_ioa, own]
    · rw [switched_type, single]

private theorem mem_of_switches (switches : Switches before next now)
    (member : ioa ∈ next) : ioa ∈ before := by
  rw [Std.TreeMap.mem_iff_isSome_getElem?] at member ⊢
  rcases switches ioa with same | ⟨state, same⟩
  · rwa [same] at member
  · rwa [same, Option.isSome_map] at member

theorem HoldsScaled.updated (holds : HoldsScaled before ioa value) :
    HoldsScaled (updateScaled before ioa now new) ioa new := by
  obtain ⟨point, stored, own, scaled, _, quality⟩ := holds
  refine ⟨point.rescaled now new, ?_, ?_, ?_, ?_, ?_⟩
  · rw [getElem?_updateScaled, if_pos rfl, stored, Option.map_some]
  · rw [rescaled_ioa, own]
  · simp [DataPoint.rescaled, scaled]
  · simp [DataPoint.rescaled, scaled, scaledValue_ofScaled]
  · simp [DataPoint.rescaled, scaled, quality]

private theorem getElem?_updateScaled_of_ne (different : other ≠ ioa) :
    (updateScaled before ioa now new)[other]? = before[other]? := by
  rw [getElem?_updateScaled, if_neg different]

theorem HoldsScaled.otherUpdated (holds : HoldsScaled before other value)
    (different : other ≠ ioa) :
    HoldsScaled (updateScaled before ioa now new) other value := by
  obtain ⟨point, stored, rest⟩ := holds
  exact ⟨point, (getElem?_updateScaled_of_ne different).trans stored, rest⟩

theorem HoldsSingle.otherUpdated (holds : HoldsSingle before other)
    (different : other ≠ ioa) :
    HoldsSingle (updateScaled before ioa now new) other := by
  obtain ⟨point, stored, rest⟩ := holds
  exact ⟨point, (getElem?_updateScaled_of_ne different).trans stored, rest⟩

private theorem mem_of_updateScaled (member : other ∈ updateScaled before ioa now new) :
    other ∈ before := by
  rw [Std.TreeMap.mem_iff_isSome_getElem?, getElem?_updateScaled] at member
  rw [Std.TreeMap.mem_iff_isSome_getElem?]
  by_cases same : other = ioa
  · subst same
    rwa [if_pos rfl, Option.isSome_map] at member
  · rwa [if_neg same] at member

end

namespace TestServer

variable {server : TestServer} {library : Library}

theorem Kept.proceed (kept : Kept server) (now : UInt64) :
    Kept (server.proceed now) := by
  obtain ⟨⟨first, second, first100, second101, relation⟩, single200, single201,
    noOther⟩ := kept
  unfold TestServer.proceed
  cases position : server.test with
  | tests =>
      rw [position] at relation
      refine ⟨⟨first, second, first100, second101, ?_⟩, single200, single201,
        noOther⟩
      simp only
      split
      · exact relation
      · exact relation
  | updates100 =>
      rw [position] at relation
      refine ⟨⟨server.value, second, first100.updated,
        second101.otherUpdated (by decide), ?_⟩,
        single200.otherUpdated (by decide), single201.otherUpdated (by decide), ?_⟩
      · obtain ⟨sum, _⟩ := relation
        refine ⟨?_, ?_⟩
        · simp only [sum]
          grind
        · simp only
          grind
      · intro ioa member
        exact noOther ioa (mem_of_updateScaled member)
  | updates101 =>
      rw [position] at relation
      refine ⟨⟨first, server.value + 1000, first100.otherUpdated (by decide),
        second101.updated, rfl, relation.2⟩,
        single200.otherUpdated (by decide), single201.otherUpdated (by decide), ?_⟩
      intro ioa member
      exact noOther ioa (mem_of_updateScaled member)
  | updates200 =>
      rw [position] at relation
      have switches : Switches server.dataPoints (updateSingle server.dataPoints
          200 now (server.value % 2 == 0)) now :=
        switches_updateSingle server.dataPoints _
      refine ⟨⟨first, second, first100.switches switches,
        second101.switches switches, relation.1, .inr relation.2⟩,
        single200.switches switches, single201.switches switches, ?_⟩
      intro ioa member
      exact noOther ioa (mem_of_switches switches member)
  | returned =>
      exact ⟨⟨first, second, first100, second101, relation⟩, single200, single201,
        noOther⟩

theorem Kept.command (kept : Kept server) (now : UInt64) (asdu : CommandAsdu) :
    Kept { server with dataPoints := (asduHandler server.dataPoints now asdu).1 } := by
  obtain ⟨⟨first, second, first100, second101, relation⟩, single200, single201,
    noOther⟩ := kept
  have switches : Switches server.dataPoints
      (asduHandler server.dataPoints now asdu).1 now :=
    switches_asduHandler server.dataPoints asdu
  refine ⟨⟨first, second, first100.switches switches, second101.switches switches,
    relation⟩, single200.switches switches, single201.switches switches, ?_⟩
  intro ioa member
  exact noOther ioa (mem_of_switches switches member)

theorem Kept.step (kept : Kept server) (move : TestMove) :
    Kept (server.step library move).1 := by
  cases move with
  | test now => exact kept.proceed now
  | signalHandler => exact ⟨kept.scaled, kept.single200, kept.single201, kept.noOther⟩
  | periodic | interrogation qoi => exact kept
  | command now asdu => exact kept.command now asdu

theorem kept_started (clock : Nat → UInt64) (stack : Nat → BitVec 16) :
    Kept (started clock stack) := by
  have stored : ∀ ioa : Int32, (started clock stack).dataPoints[ioa]? =
      if ioa = 201 then
        some (.added 201 .singlePoint (.ofSingle (stack 3) false) 0 (clock 3))
      else if ioa = 200 then
        some (.added 200 .singlePoint (.ofSingle (stack 2) true) 0 (clock 2))
      else if ioa = 101 then
        some (.added 101 .measuredValueScaled (.ofScaled 2000) 0 (clock 1))
      else if ioa = 100 then
        some (.added 100 .measuredValueScaled (.ofScaled 1000) 0 (clock 0))
      else none := by
    intro ioa
    simp only [started, performAll, testPoints, List.foldl_cons, List.foldl_nil,
      TimedCall.perform, addScaled, addSingle, getElem?_insert, getElem?_empty]
    rfl
  refine ⟨⟨1000, 2000, ⟨_, stored 100, rfl, rfl, rfl, rfl⟩,
    ⟨_, stored 101, rfl, rfl, rfl, rfl⟩, rfl, .inl rfl⟩,
    ⟨_, stored 200, rfl, rfl⟩, ⟨_, stored 201, rfl, rfl⟩, ?_⟩
  intro ioa member
  rw [Std.TreeMap.mem_iff_isSome_getElem?, stored] at member
  by_contra absent
  simp only [not_or] at absent
  obtain ⟨not100, not101, not200, not201⟩ := absent
  simp [not100, not101, not200, not201] at member

theorem Kept.values (kept : Kept server) :
    ∃ p100 p101 p200 p201 : DataPoint,
      server.dataPoints.values = [p100, p101, p200, p201] ∧
      (∃ first second : Int16,
        (second = first + 1000 ∨ second = first + 1001) ∧
        informationObject p100 = .measuredValueScaled 100 first.toInt32 0 ∧
        informationObject p101 = .measuredValueScaled 101 second.toInt32 0) ∧
      p200.type = .singlePoint ∧ p201.type = .singlePoint := by
  obtain ⟨⟨first, second, first100, second101, relation⟩, single200, single201,
    noOther⟩ := kept
  obtain ⟨p100, stored100, own100, scaled100, value100, quality100⟩ := first100
  obtain ⟨p101, stored101, own101, scaled101, value101, quality101⟩ := second101
  obtain ⟨p200, stored200, own200, type200⟩ := single200
  obtain ⟨p201, stored201, own201, type201⟩ := single201
  refine ⟨p100, p101, p200, p201, ?_, ⟨first, second, ?_, ?_, ?_⟩, type200, type201⟩
  · apply values_eq
    · simp [own100, own101, own200, own201]
    · intro ioa point
      constructor
      · intro stored
        have member : ioa ∈ server.dataPoints := by
          rw [Std.TreeMap.mem_iff_isSome_getElem?, stored]
          rfl
        rcases noOther ioa member with same | same | same | same
        · subst same
          cases stored100.symm.trans stored
          exact ⟨by simp, own100⟩
        · subst same
          cases stored101.symm.trans stored
          exact ⟨by simp, own101⟩
        · subst same
          cases stored200.symm.trans stored
          exact ⟨by simp, own200⟩
        · subst same
          cases stored201.symm.trans stored
          exact ⟨by simp, own201⟩
      · rintro ⟨member, own⟩
        simp only [List.mem_cons, List.not_mem_nil, or_false] at member
        rcases member with same | same | same | same
        · rw [← own, same, own100, stored100]
        · rw [← own, same, own101, stored101]
        · rw [← own, same, own200, stored200]
        · rw [← own, same, own201, stored201]
  · cases position : server.test with
    | tests | updates100 | updates101 | updates200 | returned =>
        simp only [position, TestAt.Relates] at relation
        grind
  · simp [informationObject, scaled100, own100, value100, quality100]
  · simp [informationObject, scaled101, own101, value101, quality101]

theorem encoded_scaled (parameters : AppLayerParameters) {ioa : Int32}
    (low : 0 ≤ ioa.toInt ∧ ioa.toInt < 256) (value : Int16) :
    (InformationObject.measuredValueScaled ioa value.toInt32 0).encoded parameters =
      .measuredValueScaled ioa value.toInt32 0 := by
  have addresses : parameters.Addresses ioa := by
    refine ⟨low.1, ?_⟩
    rcases parameters.sizeOfIOA_mem with one | two | three
    · rw [one]
      omega
    · rw [two]
      omega
    · rw [three]
      omega
  simp only [InformationObject.encoded,
    (encodedAddress_eq_iff parameters ioa).mpr addresses, Int16.toInt16_toInt32]

/-- The single points are refused, because the first object is a scaled value. -/
theorem Kept.carried (kept : Kept server) (provides : library.Provides) :
    ∃ first second : Int16,
      (second = first + 1000 ∨ second = first + 1001) ∧
      Iec104.carried library server.dataPoints.values =
        [.measuredValueScaled 100 first.toInt32 0,
          .measuredValueScaled 101 second.toInt32 0] := by
  obtain ⟨p100, p101, p200, p201, values, ⟨first, second, related, object100,
    object101⟩, type200, type201⟩ := kept.values
  refine ⟨first, second, related, ?_⟩
  have created : ∀ objects : List InformationObject,
      objects.filter library.createsObject = objects := by
    intro objects
    exact List.filter_eq_self.mpr fun io _ => provides.createsObject io
  have room := provides.room
  have two : 1 < capacity library.parameters.headerSize
      library.parameters.maxSizeOfASDU
      (library.parameters.weight .M_ME_NB_1) := by
    rw [lt_capacity_iff (weight_pos _ _)]
    omega
  have alone : library.parameters.headerSize + library.parameters.weight .M_ME_NB_1 ≤
      library.parameters.maxSizeOfASDU := by omega
  have others : ∀ point : DataPoint, point.type = .singlePoint →
      ¬((informationObject point).encoded library.parameters).type =
        .M_ME_NB_1 := by
    intro point single scaled
    rw [type_encoded, type_informationObject, single] at scaled
    cases scaled
  have ofKind : ∀ io : InformationObject, io.type = .M_ME_NB_1 →
      io.size library.parameters = library.parameters.weight .M_ME_NB_1 := by
    intro io type
    rw [size_eq_weight, type]
  rw [Iec104.carried, created, values]
  simp only [List.map_cons, List.map_nil, object100, object101]
  rw [encoded_scaled library.parameters (by decide) first,
    encoded_scaled library.parameters (by decide) second]
  have ofType : ([InformationObject.measuredValueScaled 100 first.toInt32 0,
      .measuredValueScaled 101 second.toInt32 0,
      (informationObject p200).encoded library.parameters,
      (informationObject p201).encoded library.parameters].filter fun io =>
        io.type = .M_ME_NB_1) =
      [.measuredValueScaled 100 first.toInt32 0,
        .measuredValueScaled 101 second.toInt32 0] := by
    rw [List.filter_cons_of_pos (by simp [InformationObject.type]),
      List.filter_cons_of_pos (by simp [InformationObject.type]),
      List.filter_cons_of_neg (by simpa using others p200 type200),
      List.filter_cons_of_neg (by simpa using others p201 type201), List.filter_nil]
  have type100 : (InformationObject.measuredValueScaled 100 first.toInt32 0).type =
      .M_ME_NB_1 := rfl
  rw [packed_cons_of_fits (by rw [ofKind _ type100]; exact alone) (by
      intro io same
      rw [ofKind _ type100, ofKind io (same.trans type100)]), type100, ofType,
    ofKind _ type100, List.take_of_length_le two]

/-- The two scaled values, the second 1000 or 1001 more than the first. -/
def CarriesPair (asdu : Asdu) : Prop :=
  ∃ first second : Int16,
    (second = first + 1000 ∨ second = first + 1001) ∧
    asdu.objects =
      [.measuredValueScaled 100 first.toInt32 0,
        .measuredValueScaled 101 second.toInt32 0]

theorem Kept.dataAsdus (kept : Kept server) (provides : library.Provides)
    (cot : CauseOfTransmission) :
    ∀ asdu ∈ Iec104.dataAsdus library cot server.dataPoints.values,
      CarriesPair asdu := by
  intro asdu member
  unfold Iec104.dataAsdus at member
  split at member
  · cases member
  · rw [List.mem_singleton.mp member]
    exact kept.carried provides

private theorem filterMap_asdus (asdus : List Asdu) (connection : Bool) :
    (asdus.map (if connection then Sent.asdu else Sent.enqueued)).filterMap
      Sent.asdu? = asdus := by
  cases connection <;> simp [List.filterMap_map, Function.comp_def, Sent.asdu?]

theorem Kept.sent (kept : Kept server) (provides : library.Provides)
    (move : TestMove) :
    ∀ asdu ∈ (server.step library move).2.filterMap Sent.asdu?,
      CarriesPair asdu := by
  cases move with
  | test now | signalHandler | command now asdu => simp [TestServer.step]
  | periodic =>
      simp only [TestServer.step, periodicSend, sendDataPoints_eq, filterMap_asdus]
      exact kept.dataAsdus provides .periodic
  | interrogation qoi =>
      simp only [TestServer.step]
      unfold interrogationHandler
      split
      · rw [List.filterMap_cons_none rfl, List.filterMap_append, sendDataPoints_eq,
          filterMap_asdus, List.filterMap_cons_none rfl, List.filterMap_nil,
          List.append_nil]
        exact kept.dataAsdus provides .interrogatedByStation
      · simp [Sent.asdu?]

theorem Kept.runs (kept : Kept server) (provides : library.Provides)
    (moves : List TestMove) :
    ∀ asdu ∈ (server.runs library moves).2.filterMap Sent.asdu?,
      CarriesPair asdu := by
  induction moves generalizing server with
  | nil => simp [TestServer.runs]
  | cons move moves induction =>
      intro asdu member
      simp only [TestServer.runs, List.filterMap_append, List.mem_append] at member
      rcases member with now | later
      · exact kept.sent provides move asdu now
      · exact induction (kept.step move) asdu later

/-- Whatever the masters ask and command, every data ASDU of the server carries
its two scaled values with their distance and no single point, and the callback
of the client in `testFunction` reports two elements. -/
theorem carriesPair_of_sent (library : Library) (provides : library.Provides)
    (getter : SinglePointGetter) (clock : Nat → UInt64) (stack : Nat → BitVec 16)
    (moves : List TestMove) :
    ∀ asdu ∈ ((started clock stack).runs library moves).2.filterMap Sent.asdu?,
      CarriesPair asdu ∧
        ((asduReceivedCallback getter asdu).1.filterMap LogLine.reported?).map
          Prod.fst = [100, 101] := by
  intro asdu member
  have pair := (kept_started clock stack).runs provides moves asdu member
  refine ⟨pair, ?_⟩
  obtain ⟨first, second, _, objects⟩ := pair
  simp only [asduReceivedCallback, Asdu.typeID, objects]
  rfl

theorem carriesPair_of_sent_default :
    (((started (fun _ => 5) (fun _ => 0)).runs defaultLibrary
        [.periodic, .test 6, .test 7, .interrogation 20]).2.filterMap
          Sent.asdu?).length = 2 ∧
      ∀ asdu ∈ ((started (fun _ => 5) (fun _ => 0)).runs defaultLibrary
          [.periodic, .test 6, .test 7, .interrogation 20]).2.filterMap Sent.asdu?,
        CarriesPair asdu ∧
          ((asduReceivedCallback firstByteGetter asdu).1.filterMap
            LogLine.reported?).map Prod.fst = [100, 101] :=
  ⟨by rfl, carriesPair_of_sent defaultLibrary ⟨fun _ => rfl, by decide⟩ firstByteGetter
    (fun _ => 5) (fun _ => 0) _⟩

end TestServer

end DataGateway.Iec104
