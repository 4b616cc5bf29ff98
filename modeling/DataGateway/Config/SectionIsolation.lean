import DataGateway.Config.LoadOutcome

/-!
# What one section does to another

A section parser that returns `false` leaves the later sections alone, but one
that throws keeps them from being parsed.  Two documents with the same section
give the same map unless an earlier section throws in just one of them.
-/

namespace DataGateway.Config

open Foundation

/-- The configuration after a document is loaded into a fresh object. -/
def freshLoad (decoder : ScalarDecoder) (document : Yaml) : ConfigData :=
  (init decoder (.ok document) none).1.getD .empty

def RaisesBefore104 (decoder : ScalarDecoder) (document : Yaml) : Prop :=
  (modbusSection decoder).Raises document ∨
    (iec61850Section decoder).Raises document

/-- Equal sections of two documents give equal maps. -/
def SectionsIsolated (decoder : ScalarDecoder) (first second : Yaml) : Prop :=
  ((iec104Section decoder).member? first =
      (iec104Section decoder).member? second →
    (freshLoad decoder first).iec104 = (freshLoad decoder second).iec104) ∧
  ((iec61850Section decoder).member? first =
      (iec61850Section decoder).member? second →
    (freshLoad decoder first).iec61850 = (freshLoad decoder second).iec61850)

namespace Section

variable {Device : Type}

/-- The map of a fresh object after its section was skipped or applied. -/
structure SkippedOrApplied (parser : Section Device) (document : Yaml)
    (skipped : Prop) (table : String → Option Device) : Prop where
  empty : skipped → table = fun _ => none
  applied : ¬skipped → table = parser.applied document fun _ => none

theorem SkippedOrApplied.of_skipped {parser : Section Device} {document : Yaml}
    {skipped : Prop} {table : String → Option Device} (skips : skipped)
    (same : table = fun _ => none) :
    parser.SkippedOrApplied document skipped table :=
  { empty := fun _ => same
    applied := fun parses => (parses skips).elim }

theorem SkippedOrApplied.of_applied {parser : Section Device} {document : Yaml}
    {skipped : Prop} {table : String → Option Device} (parses : ¬skipped)
    (same : table = parser.applied document fun _ => none) :
    parser.SkippedOrApplied document skipped table :=
  { empty := fun skips => (parses skips).elim
    applied := fun _ => same }

private theorem accepted_congr {parser : Section Device} {first second : Yaml}
    (same : parser.member? first = parser.member? second) :
    parser.accepted first = parser.accepted second := by
  simp only [accepted, nodes, same]

private theorem applied_eq_empty_iff (parser : Section Device) (document : Yaml) :
    (parser.applied document fun _ => none) = (fun _ => none) ↔
      parser.accepted document = [] := by
  constructor
  · intro empty
    cases devices : parser.accepted document with
    | nil => rfl
    | cons device rest =>
        have present : (parser.applied document (fun _ => none)
            (parser.deviceId device)).isSome := by
          rw [applied_apply, Option.or_none, devices]
          exact lastWith?_isSome_of_mem parser.deviceId List.mem_cons_self
        rw [empty] at present
        cases present
  · intro none
    simp [applied, none, overlay]

theorem SkippedOrApplied.eq_iff {parser : Section Device} {first second : Yaml}
    {firstSkipped secondSkipped : Prop}
    {firstTable secondTable : String → Option Device}
    (firstSpec : parser.SkippedOrApplied first firstSkipped firstTable)
    (secondSpec : parser.SkippedOrApplied second secondSkipped secondTable)
    (same : parser.member? first = parser.member? second) :
    firstTable = secondTable ↔
      (firstSkipped ↔ secondSkipped) ∨ parser.accepted first = [] := by
  have devices := accepted_congr same
  have agree : (parser.applied first fun _ => none) =
      parser.applied second fun _ => none := by
    simp only [Section.applied, devices]
  have firstEmpty := parser.applied_eq_empty_iff first
  by_cases firstCase : firstSkipped
  · rw [firstSpec.empty firstCase]
    by_cases secondCase : secondSkipped
    · rw [secondSpec.empty secondCase]
      simp [firstCase, secondCase]
    · rw [secondSpec.applied secondCase, ← agree, eq_comm, firstEmpty]
      simp [firstCase, secondCase]
  · rw [firstSpec.applied firstCase]
    by_cases secondCase : secondSkipped
    · rw [secondSpec.empty secondCase, firstEmpty]
      simp [firstCase, secondCase]
    · rw [secondSpec.applied secondCase]
      simp [agree, firstCase, secondCase]

end Section

private theorem freshLoad_iec104 (decoder : ScalarDecoder) (document : Yaml) :
    (iec104Section decoder).SkippedOrApplied document
      (RaisesBefore104 decoder document) (freshLoad decoder document).iec104 := by
  unfold freshLoad RaisesBefore104
  rcases init_spec decoder document none with quiet | raised
  · obtain ⟨silent, result⟩ := quiet
    rw [result]
    apply Section.SkippedOrApplied.of_applied ?_ rfl
    exact fun early => silent (early.imp_right Or.inl)
  · obtain ⟨_, after, keeps, result⟩ := raised
    rw [result]
    rcases keeps with modbus | iec61850 | iec104
    · obtain ⟨raises, same⟩ := modbus
      subst same
      exact Section.SkippedOrApplied.of_skipped (Or.inl raises) rfl
    · obtain ⟨_, raises, same⟩ := iec61850
      subst same
      exact Section.SkippedOrApplied.of_skipped (Or.inr raises) rfl
    · obtain ⟨silentModbus, silent61850, _, same⟩ := iec104
      subst same
      apply Section.SkippedOrApplied.of_applied ?_ rfl
      exact fun early => early.elim silentModbus silent61850

private theorem freshLoad_iec61850 (decoder : ScalarDecoder) (document : Yaml) :
    (iec61850Section decoder).SkippedOrApplied document
      ((modbusSection decoder).Raises document)
      (freshLoad decoder document).iec61850 := by
  unfold freshLoad
  rcases init_spec decoder document none with quiet | raised
  · obtain ⟨silent, result⟩ := quiet
    rw [result]
    apply Section.SkippedOrApplied.of_applied ?_ rfl
    exact fun early => silent (Or.inl early)
  · obtain ⟨_, after, keeps, result⟩ := raised
    rw [result]
    rcases keeps with modbus | iec61850 | iec104
    · obtain ⟨raises, same⟩ := modbus
      subst same
      exact Section.SkippedOrApplied.of_skipped raises rfl
    · obtain ⟨silent, _, same⟩ := iec61850
      subst same
      exact Section.SkippedOrApplied.of_applied silent rfl
    · obtain ⟨silent, _, _, same⟩ := iec104
      subst same
      exact Section.SkippedOrApplied.of_applied silent rfl

/-- Equal sections give equal maps exactly when the earlier sections throw in
both documents or in neither, or the section contributes no device. -/
theorem sectionsIsolated_iff (decoder : ScalarDecoder) (first second : Yaml) :
    SectionsIsolated decoder first second ↔
      ((iec104Section decoder).member? first =
          (iec104Section decoder).member? second →
        (RaisesBefore104 decoder first ↔ RaisesBefore104 decoder second) ∨
          (iec104Section decoder).accepted first = []) ∧
      ((iec61850Section decoder).member? first =
          (iec61850Section decoder).member? second →
        ((modbusSection decoder).Raises first ↔
            (modbusSection decoder).Raises second) ∨
          (iec61850Section decoder).accepted first = []) := by
  apply and_congr
  · apply imp_congr_right
    exact (freshLoad_iec104 decoder first).eq_iff (freshLoad_iec104 decoder second)
  · apply imp_congr_right
    exact (freshLoad_iec61850 decoder first).eq_iff
      (freshLoad_iec61850 decoder second)

/-- An IEC 104 device with every field that its parser reads. -/
def iec104Node : Yaml :=
  .map [textField "device_id" "rtu", textField "type" "TCP",
    (.scalar "TCP", .map [textField "ip" "10.0.0.2", textField "port" "1"]),
    (.scalar "local_address",
      .map [textField "ip" "10.0.0.1", textField "port" "1"]),
    (.scalar "protocol", .map [
      (.scalar "apci", .map [textField "t0" "1", textField "t1" "1",
        textField "t2" "1", textField "t3" "1", textField "k" "1",
        textField "w" "1"]),
      (.scalar "application_layer", .map [textField "originator_address" "1",
        textField "common_address" "1", textField "asdu_size" "1"])]),
    (.scalar "communication", .map [textField "gi_interval_ms" "1",
      textField "report_enabled" "true", (.scalar "reports", .sequence [])]),
    (.scalar "error_handling", .map [textField "reconnect_interval_ms" "1",
      textField "max_reconnect_attempts" "1"])]

/-- The same IEC 104 section, alone and next to a Modbus section with a null
device. -/
theorem modbus_hides_iec104 :
    ¬SectionsIsolated sampleDecoder
      (.map [(.scalar "IEC104Devices", .sequence [iec104Node])])
      (.map [(.scalar "ModbusDevices", .sequence [.null]),
        (.scalar "IEC104Devices", .sequence [iec104Node])]) := by
  intro isolated
  have same := congrFun (isolated.1 rfl) "rtu"
  have alone : ((freshLoad sampleDecoder
      (.map [(.scalar "IEC104Devices", .sequence [iec104Node])])).iec104
        "rtu").isSome = true := by
    decide
  have hidden : ((freshLoad sampleDecoder
      (.map [(.scalar "ModbusDevices", .sequence [.null]),
        (.scalar "IEC104Devices", .sequence [iec104Node])])).iec104
          "rtu").isSome = false := by
    decide
  rw [same, hidden] at alone
  cases alone

end DataGateway.Config
