import DataGateway.Config.LoadOutcome

/-!
# The grammar of an IEC 61850 device

The comments of `parse61850Config` and of `ConfigDataIEC61850` divide the fields
into required ones, which are not to be empty, and optional ones, which may be
missing but not be empty.  The parser reads something else: a required field
may be empty or null, and an optional one may not be missing.
-/

namespace DataGateway.Config

open Foundation

def requiredKeys : List String :=
  ["device_id", "ip", "icd_file", "access_point", "logical_device",
    "client_mms_name"]

def intKeys : List String :=
  ["port", "poll_interval", "max_retries", "retry_interval"]

def boolKeys : List String :=
  ["report_enabled", "goose_enabled", "tls_enabled"]

/-- What a node holds under a key, if anything. -/
def Node.field? (node : Node) (key : String) : Option Yaml :=
  match node.get key with
  | .ok (.valid value) => some value
  | _ => none

def Yaml.IsText (value : Yaml) : Prop :=
  ∃ text, value = .scalar text ∧ text ≠ ""

/-- A scalar that the conversion reads. -/
def Yaml.HasType {α : Type} (decode : String → Option α) (value : Yaml) : Prop :=
  ∃ text decoded, value = .scalar text ∧ decode text = some decoded

def Yaml.AreTexts (value : Yaml) : Prop :=
  ∃ items, value = .sequence items ∧ ∀ item ∈ items, item.IsText

/-- The stated grammar of a device node. -/
structure Grammatical (decoder : ScalarDecoder) (node : Node) : Prop where
  required : ∀ key ∈ requiredKeys, ∃ value, node.field? key = some value ∧
    value.IsText
  ints : ∀ key ∈ intKeys, ∀ value, node.field? key = some value →
    value.HasType decoder.int ∧ value ≠ .scalar ""
  bools : ∀ key ∈ boolKeys, ∀ value, node.field? key = some value →
    value.HasType decoder.bool ∧ value ≠ .scalar ""
  description : ∀ value, node.field? "description" = some value → value.IsText
  filters : ∀ value, node.field? "data_point_filters" = some value →
    value.AreTexts ∧ value ≠ .sequence []

/-- The fields as the parser reads them. -/
structure Readable (decoder : ScalarDecoder) (node : Node) : Prop where
  required : ∀ key ∈ requiredKeys, ∃ value, node.field? key = some value ∧
    (value = .null ∨ ∃ text, value = .scalar text)
  ints : ∀ key ∈ intKeys, ∃ value, node.field? key = some value ∧
    value.HasType decoder.int
  bools : ∀ key ∈ boolKeys, ∃ value, node.field? key = some value ∧
    value.HasType decoder.bool
  description : ∃ value, node.field? "description" = some value ∧ value.IsText
  filters : ∃ value, node.field? "data_point_filters" = some value ∧
    value.AreTexts

/-- No required field is null or empty, and the filters are not an empty
sequence. -/
structure Filled (node : Node) : Prop where
  required : ∀ key ∈ requiredKeys, node.field? key ≠ some .null ∧
    node.field? key ≠ some (.scalar "")
  filters : node.field? "data_point_filters" ≠ some (.sequence [])

/-- No optional field is missing. -/
structure Complete (node : Node) : Prop where
  ints : ∀ key ∈ intKeys, (node.field? key).isSome
  bools : ∀ key ∈ boolKeys, (node.field? key).isSome
  description : (node.field? "description").isSome
  filters : (node.field? "data_point_filters").isSome

/-- What yaml-cpp does with a text without characters. -/
structure ScalarDecoder.RejectsEmpty (decoder : ScalarDecoder) : Prop where
  int : decoder.int "" = none
  bool : decoder.bool "" = none

theorem Yaml.HasType.ne_empty {α : Type} {decode : String → Option α}
    {value : Yaml} (typed : value.HasType decode) (rejects : decode "" = none) :
    value ≠ .scalar "" := by
  intro empty
  obtain ⟨text, decoded, scalar, read⟩ := typed
  cases empty.symm.trans scalar
  rw [rejects] at read
  cases read

theorem Readable.complete {decoder : ScalarDecoder} {node : Node}
    (readable : Readable decoder node) : Complete node := by
  constructor
  · intro key member
    obtain ⟨value, found, _⟩ := readable.ints key member
    exact found ▸ rfl
  · intro key member
    obtain ⟨value, found, _⟩ := readable.bools key member
    exact found ▸ rfl
  · obtain ⟨value, found, _⟩ := readable.description
    exact found ▸ rfl
  · obtain ⟨value, found, _⟩ := readable.filters
    exact found ▸ rfl

section Present

variable {field : Option Yaml} {property : Yaml → Prop}

theorem forall_of_exists (one : ∃ value, field = some value ∧ property value) :
    ∀ value, field = some value → property value := by
  intro value found
  obtain ⟨other, otherFound, holds⟩ := one
  cases found.symm.trans otherFound
  exact holds

theorem exists_of_forall (present : field.isSome)
    (all : ∀ value, field = some value → property value) :
    ∃ value, field = some value ∧ property value := by
  obtain ⟨value, found⟩ := Option.isSome_iff_exists.mp present
  exact ⟨value, found, all value found⟩

end Present

/-- What the parser reads and is filled is what the grammar allows and is
complete. -/
theorem readable_and_filled_iff {decoder : ScalarDecoder}
    (rejects : decoder.RejectsEmpty) {node : Node} :
    Readable decoder node ∧ Filled node ↔
      Grammatical decoder node ∧ Complete node := by
  constructor
  · intro both
    obtain ⟨readable, filled⟩ := both
    refine ⟨⟨?_, ?_, ?_, ?_, ?_⟩, readable.complete⟩
    · intro key member
      obtain ⟨value, found, form⟩ := readable.required key member
      obtain ⟨notNull, notEmpty⟩ := filled.required key member
      refine ⟨value, found, ?_⟩
      rcases form with null | scalar
      · exact (notNull (null ▸ found)).elim
      · obtain ⟨text, same⟩ := scalar
        subst same
        refine ⟨text, rfl, ?_⟩
        intro empty
        exact notEmpty (empty ▸ found)
    · intro key member value found
      have typed := forall_of_exists (readable.ints key member) value found
      exact ⟨typed, typed.ne_empty rejects.int⟩
    · intro key member value found
      have typed := forall_of_exists (readable.bools key member) value found
      exact ⟨typed, typed.ne_empty rejects.bool⟩
    · exact forall_of_exists readable.description
    · intro value found
      refine ⟨forall_of_exists readable.filters value found, ?_⟩
      intro empty
      exact filled.filters (empty ▸ found)
  · intro both
    obtain ⟨grammatical, complete⟩ := both
    refine ⟨⟨?_, ?_, ?_, ?_, ?_⟩, ⟨?_, ?_⟩⟩
    · intro key member
      obtain ⟨value, found, text, same, _⟩ := grammatical.required key member
      exact ⟨value, found, Or.inr ⟨text, same⟩⟩
    · intro key member
      apply exists_of_forall (complete.ints key member)
      exact fun value found => (grammatical.ints key member value found).1
    · intro key member
      apply exists_of_forall (complete.bools key member)
      exact fun value found => (grammatical.bools key member value found).1
    · exact exists_of_forall complete.description grammatical.description
    · apply exists_of_forall complete.filters
      exact fun value found => (grammatical.filters value found).1
    · intro key member
      obtain ⟨value, found, text, same, notEmpty⟩ :=
        grammatical.required key member
      subst same
      rw [found]
      constructor
      · intro null
        cases null
      · intro empty
        cases empty
        exact notEmpty rfl
    · intro empty
      exact (grammatical.filters _ empty).2 rfl

section Fields

variable {node : Node} {key : String} {value : Yaml}

theorem field?_of_get (read : node.get key = .ok (.valid value)) :
    node.field? key = some value := by
  unfold Node.field?
  rw [read]

theorem get_of_field? (found : node.field? key = some value) :
    node.get key = .ok (.valid value) := by
  unfold Node.field? at found
  split at found
  · next other read =>
      cases found
      exact read
  · cases found

end Fields

section Succeeding

/-- An action that returns a value. -/
def Succeeds {α : Type} (action : Except Stop α) : Prop :=
  ∃ value, action = .ok value

variable {α β : Type}

theorem succeeds_ok (value : α) : Succeeds (.ok value) := ⟨value, rfl⟩

theorem succeeds_bind_iff {first : Except Stop α} {next : α → Except Stop β} :
    Succeeds (first >>= next) ↔
      ∃ value, first = .ok value ∧ Succeeds (next value) := by
  constructor
  · intro succeeds
    obtain ⟨result, done⟩ := succeeds
    obtain ⟨value, firstDone, nextDone⟩ := ok_of_bind done
    exact ⟨value, firstDone, result, nextDone⟩
  · intro steps
    obtain ⟨value, firstDone, result, nextDone⟩ := steps
    exact ⟨result, by rw [firstDone]; exact nextDone⟩

theorem succeeds_rejectIf_iff {test : Bool} {next : Unit → Except Stop β} :
    Succeeds (rejectIf test >>= next) ↔ test = false ∧ Succeeds (next ()) := by
  cases test with
  | true => simp [rejectIf, succeeds_bind_iff]
  | false => exact (and_iff_right rfl).symm

theorem succeeds_lift_iff {first : Except YamlException α}
    {next : α → Except Stop β} :
    Succeeds ((liftM first : Except Stop α) >>= next) ↔
      ∃ value, first = .ok value ∧ Succeeds (next value) := by
  rw [succeeds_bind_iff]
  cases first with
  | error exception =>
      constructor
      · intro steps
        obtain ⟨value, same, _⟩ := steps
        cases same
      · intro steps
        obtain ⟨value, same, _⟩ := steps
        cases same
  | ok value =>
      constructor
      · intro steps
        obtain ⟨other, same, rest⟩ := steps
        cases same
        exact ⟨value, rfl, rest⟩
      · intro steps
        obtain ⟨other, same, rest⟩ := steps
        cases same
        exact ⟨value, rfl, rest⟩

theorem succeeds_get_iff {node : Node} {key : String}
    {next : Node → Except Stop β} (zombie : ¬Succeeds (next .zombie)) :
    Succeeds ((liftM (node.get key) : Except Stop Node) >>= next) ↔
      ∃ value, node.field? key = some value ∧ Succeeds (next (.valid value)) := by
  rw [succeeds_lift_iff]
  unfold Node.field?
  cases node.get key with
  | error exception => simp
  | ok member =>
      cases member with
      | zombie => simpa using zombie
      | valid value => simp

variable {decoder : ScalarDecoder} {node : Node} {key : String} {rest : Prop}

theorem succeeds_text_iff {next : String → Except Stop β}
    (same : ∀ text, Succeeds (next text) ↔ rest) :
    Succeeds ((liftM (node.get key) : Except Stop Node) >>= fun member =>
        (liftM member.asString : Except Stop String) >>= next) ↔
      (∃ value, node.field? key = some value ∧
        (value = .null ∨ ∃ text, value = .scalar text)) ∧ rest := by
  have zombie : ¬Succeeds ((liftM (Node.asString .zombie) : Except Stop String) >>=
      next) := by
    simp [succeeds_lift_iff, Node.asString]
  rw [succeeds_get_iff zombie, ← exists_and_right]
  apply exists_congr
  intro value
  rw [and_assoc]
  apply and_congr_right
  intro _
  rw [succeeds_lift_iff]
  cases value with
  | null => simp [Node.asString, same]
  | scalar text => simp [Node.asString, same]
  | sequence items => simp [Node.asString]
  | map entries => simp [Node.asString]

private theorem succeeds_as_iff {decode : String → Option α} {value : Yaml}
    {next : α → Except Stop β} (same : ∀ decoded, Succeeds (next decoded) ↔ rest) :
    Succeeds ((liftM ((Node.valid value).as decode) : Except Stop α) >>= next) ↔
      value.HasType decode ∧ rest := by
  rw [succeeds_lift_iff]
  cases value with
  | scalar text =>
      cases read : decode text with
      | none => simp [Node.as, Yaml.HasType, read]
      | some decoded => simp [Node.as, Yaml.HasType, read, same]
  | null | sequence items | map entries => simp [Node.as, Yaml.HasType]

theorem succeeds_notNull_iff {next : Unit → Except Stop β} :
    Succeeds ((liftM (node.get key) : Except Stop Node) >>= fun member =>
        (liftM member.isNull : Except Stop Bool) >>= fun null =>
          rejectIf null >>= next) ↔
      (∃ value, node.field? key = some value ∧ value ≠ .null) ∧
        Succeeds (next ()) := by
  have zombie : ¬Succeeds ((liftM (Node.isNull .zombie) : Except Stop Bool) >>=
      fun null => rejectIf null >>= next) := by
    simp [succeeds_lift_iff, Node.isNull]
  rw [succeeds_get_iff zombie, ← exists_and_right]
  apply exists_congr
  intro value
  rw [and_assoc]
  apply and_congr_right
  intro _
  rw [succeeds_lift_iff]
  cases value with
  | null => simp [Node.isNull, succeeds_rejectIf_iff]
  | scalar text | sequence items | map entries =>
      simp [Node.isNull, succeeds_rejectIf_iff]

theorem succeeds_optionalField_iff {decode : String → Option α}
    {next : α → Except Stop β} (same : ∀ decoded, Succeeds (next decoded) ↔ rest) :
    Succeeds (optionalField decode node key >>= next) ↔
      (∃ value, node.field? key = some value ∧ value.HasType decode) ∧ rest := by
  have zombie : ¬Succeeds ((liftM (Node.as decode .zombie) : Except Stop α) >>=
      next) := by
    simp [succeeds_lift_iff, Node.as]
  simp only [optionalField, bind_assoc]
  rw [succeeds_notNull_iff, succeeds_get_iff zombie]
  simp only [succeeds_as_iff same]
  constructor
  · intro both
    obtain ⟨_, value, found, typed, holds⟩ := both
    exact ⟨⟨value, found, typed⟩, holds⟩
  · intro typedField
    obtain ⟨⟨value, found, typed⟩, holds⟩ := typedField
    refine ⟨⟨value, found, ?_⟩, value, found, typed, holds⟩
    intro null
    obtain ⟨text, decoded, scalar, _⟩ := typed
    cases scalar.symm.trans null

theorem succeeds_description_iff {next : String → Except Stop β}
    (same : ∀ text, Succeeds (next text) ↔ rest) :
    Succeeds ((liftM (node.get key) : Except Stop Node) >>= fun member =>
        (liftM member.isNull : Except Stop Bool) >>= fun null =>
          rejectIf null >>= fun _ =>
            (liftM (node.get key) : Except Stop Node) >>= fun member =>
              (liftM member.isScalar : Except Stop Bool) >>= fun scalar =>
                rejectIf (!scalar) >>= fun _ =>
                  (liftM (node.get key) : Except Stop Node) >>= fun member =>
                    (liftM member.asString : Except Stop String) >>= fun text =>
                      rejectIf text.isEmpty >>= fun _ => next text) ↔
      (∃ value, node.field? key = some value ∧ value.IsText) ∧ rest := by
  rw [succeeds_notNull_iff]
  cases found : node.field? key with
  | none => simp
  | some value =>
      simp only [get_of_field? found, succeeds_lift_iff, Except.ok.injEq, exists_eq_left',
        succeeds_rejectIf_iff]
      cases value with
      | null => simp [Yaml.IsText]
      | scalar text =>
          simp [Node.isScalar, Node.asString, same, Yaml.IsText]
      | sequence items => simp [Node.isScalar, Yaml.IsText]
      | map entries => simp [Node.isScalar, Yaml.IsText]

private theorem succeeds_mapM_iff {items : List α} {parse : α → Except Stop β} :
    Succeeds (items.mapM parse) ↔ ∀ item ∈ items, Succeeds (parse item) := by
  induction items with
  | nil => exact iff_of_true (succeeds_ok []) (by simp)
  | cons item items induction =>
      rw [List.mapM_cons, List.forall_mem_cons, ← induction, succeeds_bind_iff]
      simp only [succeeds_bind_iff]
      constructor
      · intro steps
        obtain ⟨value, parsed, values, parsedRest, _⟩ := steps
        exact ⟨⟨value, parsed⟩, values, parsedRest⟩
      · intro both
        obtain ⟨⟨value, parsed⟩, values, parsedRest⟩ := both
        exact ⟨value, parsed, values, parsedRest, succeeds_ok _⟩

private theorem succeeds_parseFilter_iff {item : Yaml} :
    Succeeds (parseFilter (.valid item)) ↔ item.IsText := by
  unfold parseFilter
  rw [succeeds_lift_iff]
  cases item with
  | scalar text =>
      simp only [Node.isScalar, Except.ok.injEq, exists_eq_left', Bool.not_true,
        succeeds_rejectIf_iff, succeeds_lift_iff, Node.asString, true_and]
      have returned : Succeeds (pure text : Except Stop String) := succeeds_ok text
      rw [and_iff_left returned]
      simp [Yaml.IsText]
  | null => simp [Node.isScalar, succeeds_rejectIf_iff, Yaml.IsText]
  | sequence items => simp [Node.isScalar, succeeds_rejectIf_iff, Yaml.IsText]
  | map entries => simp [Node.isScalar, succeeds_rejectIf_iff, Yaml.IsText]

theorem succeeds_filters_iff {next : List String → Except Stop β}
    (same : ∀ texts, Succeeds (next texts) ↔ rest) :
    Succeeds ((liftM (node.get key) : Except Stop Node) >>= fun filters =>
        (liftM filters.isNull : Except Stop Bool) >>= fun null =>
          rejectIf null >>= fun _ =>
            (liftM filters.isSequence : Except Stop Bool) >>= fun sequence =>
              rejectIf (!sequence) >>= fun _ =>
                filters.items.mapM parseFilter >>= next) ↔
      (∃ value, node.field? key = some value ∧ value.AreTexts) ∧ rest := by
  have zombie : ¬Succeeds ((liftM (Node.isNull .zombie) : Except Stop Bool) >>=
      fun null => rejectIf null >>= fun _ =>
        (liftM (Node.isSequence .zombie) : Except Stop Bool) >>= fun sequence =>
          rejectIf (!sequence) >>= fun _ =>
            (Node.items .zombie).mapM parseFilter >>= next) := by
    simp [succeeds_lift_iff, Node.isNull]
  rw [succeeds_get_iff zombie, ← exists_and_right]
  apply exists_congr
  intro value
  rw [and_assoc]
  apply and_congr_right
  intro _
  rw [succeeds_lift_iff]
  cases value with
  | null => simp [Node.isNull, succeeds_rejectIf_iff, Yaml.AreTexts]
  | scalar text =>
      simp [Node.isNull, Node.isSequence, succeeds_rejectIf_iff,
        succeeds_lift_iff, Yaml.AreTexts]
  | map entries =>
      simp [Node.isNull, Node.isSequence, succeeds_rejectIf_iff,
        succeeds_lift_iff, Yaml.AreTexts]
  | sequence items =>
      have texts : Succeeds ((Node.items (.valid (.sequence items))).mapM
          parseFilter) ↔ ∀ item ∈ items, item.IsText := by
        rw [succeeds_mapM_iff]
        simp only [Node.items, List.forall_mem_map, succeeds_parseFilter_iff]
      simp only [Node.isNull, Node.isSequence, Except.ok.injEq, exists_eq_left',
        succeeds_rejectIf_iff, succeeds_lift_iff, Bool.not_true, true_and]
      rw [succeeds_bind_iff]
      simp only [same, exists_and_right, Yaml.AreTexts, Yaml.sequence.injEq,
        exists_eq_left']
      exact and_congr_left fun _ => texts

/-- The parser reads a device node exactly when every one of its fields is
there and has the form that the parser reads. -/
theorem succeeds_parse61850Device_iff :
    Succeeds (parse61850Device decoder node) ↔ Readable decoder node := by
  apply Iff.trans
  · unfold parse61850Device
    apply succeeds_text_iff
    intro deviceId
    apply succeeds_text_iff
    intro ip
    apply succeeds_text_iff
    intro icdFilePath
    apply succeeds_text_iff
    intro accessPoint
    apply succeeds_text_iff
    intro logicalDevice
    apply succeeds_text_iff
    intro clientMmsName
    apply succeeds_optionalField_iff
    intro port
    apply succeeds_optionalField_iff
    intro pollInterval
    apply succeeds_optionalField_iff
    intro maxRetries
    apply succeeds_optionalField_iff
    intro retryInterval
    apply succeeds_optionalField_iff
    intro reportEnabled
    apply succeeds_optionalField_iff
    intro gooseEnabled
    apply succeeds_optionalField_iff
    intro tlsEnabled
    apply succeeds_description_iff
    intro description
    apply succeeds_filters_iff
    intro dataPointFilters
    exact iff_of_true (succeeds_ok _) trivial
  · constructor
    · intro fields
      obtain ⟨deviceId, ip, icdFilePath, accessPoint, logicalDevice,
        clientMmsName, port, pollInterval, maxRetries, retryInterval,
        reportEnabled, gooseEnabled, tlsEnabled, description, filters, _⟩ := fields
      constructor
      · simp only [requiredKeys, List.forall_mem_cons]
        exact ⟨deviceId, ip, icdFilePath, accessPoint, logicalDevice,
          clientMmsName, List.forall_mem_nil _⟩
      · simp only [intKeys, List.forall_mem_cons]
        exact ⟨port, pollInterval, maxRetries, retryInterval, List.forall_mem_nil _⟩
      · simp only [boolKeys, List.forall_mem_cons]
        exact ⟨reportEnabled, gooseEnabled, tlsEnabled, List.forall_mem_nil _⟩
      · exact description
      · exact filters
    · intro readable
      have text := readable.required
      have int := readable.ints
      have bool := readable.bools
      simp only [requiredKeys, List.forall_mem_cons] at text
      simp only [intKeys, List.forall_mem_cons] at int
      simp only [boolKeys, List.forall_mem_cons] at bool
      exact ⟨text.1, text.2.1, text.2.2.1, text.2.2.2.1, text.2.2.2.2.1,
        text.2.2.2.2.2.1, int.1, int.2.1, int.2.2.1, int.2.2.2.1, bool.1, bool.2.1,
        bool.2.2.1, readable.description, readable.filters, trivial⟩

end Succeeding

section Described

variable {decoder : ScalarDecoder} {node : Node} {key : String}

def Node.HoldsText (node : Node) (key text : String) : Prop :=
  node.field? key = some (.scalar text) ∨
    node.field? key = some .null ∧ text = "null"

def Node.HoldsValue {α : Type} (decode : String → Option α) (node : Node)
    (key : String) (decoded : α) : Prop :=
  ∃ text, node.field? key = some (.scalar text) ∧ decode text = some decoded

/-- Every field of the device has a value, which the node holds under the key of
the field. -/
structure DescribedBy (decoder : ScalarDecoder) (node : Node)
    (device : ConfigDataIEC61850) : Prop where
  required : ∀ entry ∈ requiredKeys.zip [device.deviceId, device.ip,
      device.icdFilePath, device.accessPoint, device.logicalDevice,
      device.clientMmsName],
    node.HoldsText entry.1 entry.2
  ints : ∀ entry ∈ intKeys.zip [device.port, device.pollInterval,
      device.maxRetries, device.retryInterval],
    node.HoldsValue decoder.int entry.1 entry.2
  bools : ∀ entry ∈ boolKeys.zip [device.reportEnabled, device.gooseEnabled,
      device.tlsEnabled],
    node.HoldsValue decoder.bool entry.1 entry.2
  description : node.HoldsText "description" device.description
  filters : node.field? "data_point_filters" =
    some (.sequence (device.dataPointFilters.map .scalar))

theorem ok_of_lift {α : Type} {first : Except YamlException α} {value : α}
    (lifted : (liftM first : Except Stop α) = .ok value) : first = .ok value := by
  cases first with
  | error exception => cases lifted
  | ok other =>
      cases lifted
      rfl

private theorem holdsText_of_read {member : Node} {text : String}
    (got : (liftM (node.get key) : Except Stop Node) = .ok member)
    (read : (liftM member.asString : Except Stop String) = .ok text) :
    node.HoldsText key text := by
  have gotMember := ok_of_lift got
  have readText := ok_of_lift read
  cases member with
  | zombie => cases readText
  | valid value =>
      cases value with
      | null =>
          cases readText
          exact .inr ⟨field?_of_get gotMember, rfl⟩
      | scalar other =>
          cases readText
          exact .inl (field?_of_get gotMember)
      | sequence items => cases readText
      | map entries => cases readText

private theorem holdsValue_of_optionalField {α : Type} {decode : String → Option α}
    {decoded : α} (read : optionalField decode node key = .ok decoded) :
    node.HoldsValue decode key decoded := by
  unfold optionalField at read
  obtain ⟨_, _, read⟩ := ok_of_bind read
  obtain ⟨_, _, read⟩ := ok_of_bind read
  obtain ⟨_, _, read⟩ := ok_of_bind read
  obtain ⟨member, got, converted⟩ := ok_of_bind read
  have gotMember := ok_of_lift got
  have readValue := ok_of_lift converted
  cases member with
  | zombie => cases readValue
  | valid value =>
      cases value with
      | scalar text =>
          refine ⟨text, field?_of_get gotMember, ?_⟩
          simp only [Node.as] at readValue
          cases decodes : decode text with
          | none =>
              rw [decodes] at readValue
              cases readValue
          | some other =>
              rw [decodes] at readValue
              cases readValue
              rfl
      | null => cases readValue
      | sequence items => cases readValue
      | map entries => cases readValue

private theorem scalar_of_parseFilter {item : Yaml} {text : String}
    (read : parseFilter (.valid item) = .ok text) : item = .scalar text := by
  obtain ⟨other, same, _⟩ := succeeds_parseFilter_iff.mp ⟨text, read⟩
  subst same
  unfold parseFilter at read
  obtain ⟨_, _, read⟩ := ok_of_bind read
  obtain ⟨_, _, read⟩ := ok_of_bind read
  obtain ⟨filter, got, read⟩ := ok_of_bind read
  obtain ⟨_, _, read⟩ := ok_of_bind read
  cases read
  cases ok_of_lift got
  rfl

private theorem scalars_of_mapM {items : List Yaml} {texts : List String}
    (read : (items.map Node.valid).mapM parseFilter = .ok texts) :
    items = texts.map .scalar := by
  induction items generalizing texts with
  | nil =>
      cases read
      rfl
  | cons item items induction =>
      rw [List.map_cons, List.mapM_cons] at read
      obtain ⟨text, readItem, read⟩ := ok_of_bind read
      obtain ⟨rest, readRest, read⟩ := ok_of_bind read
      cases read
      rw [List.map_cons, scalar_of_parseFilter readItem, induction readRest]

section Reading

variable {β : Type} {result : β}

theorem text_of_ok {next : String → Except Stop β}
    (done : ((liftM (node.get key) : Except Stop Node) >>= fun member =>
      (liftM member.asString : Except Stop String) >>= next) = .ok result) :
    ∃ text, node.HoldsText key text ∧ next text = .ok result := by
  obtain ⟨member, got, done⟩ := ok_of_bind done
  obtain ⟨text, read, done⟩ := ok_of_bind done
  exact ⟨text, holdsText_of_read got read, done⟩

theorem value_of_ok {α : Type} {decode : String → Option α}
    {next : α → Except Stop β}
    (done : (optionalField decode node key >>= next) = .ok result) :
    ∃ decoded, node.HoldsValue decode key decoded ∧ next decoded = .ok result := by
  obtain ⟨decoded, read, done⟩ := ok_of_bind done
  exact ⟨decoded, holdsValue_of_optionalField read, done⟩

private theorem description_of_ok {next : String → Except Stop β}
    (done : ((liftM (node.get key) : Except Stop Node) >>= fun member =>
      (liftM member.isNull : Except Stop Bool) >>= fun null =>
        rejectIf null >>= fun _ =>
          (liftM (node.get key) : Except Stop Node) >>= fun member =>
            (liftM member.isScalar : Except Stop Bool) >>= fun scalar =>
              rejectIf (!scalar) >>= fun _ =>
                (liftM (node.get key) : Except Stop Node) >>= fun member =>
                  (liftM member.asString : Except Stop String) >>= fun text =>
                    rejectIf text.isEmpty >>= fun _ => next text) = .ok result) :
    ∃ text, node.HoldsText key text ∧ next text = .ok result := by
  obtain ⟨_, _, done⟩ := ok_of_bind done
  obtain ⟨_, _, done⟩ := ok_of_bind done
  obtain ⟨_, _, done⟩ := ok_of_bind done
  obtain ⟨_, _, done⟩ := ok_of_bind done
  obtain ⟨_, _, done⟩ := ok_of_bind done
  obtain ⟨_, _, done⟩ := ok_of_bind done
  obtain ⟨text, held, done⟩ := text_of_ok done
  obtain ⟨_, _, done⟩ := ok_of_bind done
  exact ⟨text, held, done⟩

private theorem filters_of_ok {next : List String → Except Stop β}
    (done : ((liftM (node.get key) : Except Stop Node) >>= fun filters =>
      (liftM filters.isNull : Except Stop Bool) >>= fun null =>
        rejectIf null >>= fun _ =>
          (liftM filters.isSequence : Except Stop Bool) >>= fun sequence =>
            rejectIf (!sequence) >>= fun _ =>
              filters.items.mapM parseFilter >>= next) = .ok result) :
    ∃ texts : List String,
      node.field? key = some (.sequence (texts.map .scalar)) ∧
        next texts = .ok result := by
  obtain ⟨filters, got, done⟩ := ok_of_bind done
  obtain ⟨_, _, done⟩ := ok_of_bind done
  obtain ⟨_, _, done⟩ := ok_of_bind done
  obtain ⟨sequence, isSequence, done⟩ := ok_of_bind done
  obtain ⟨_, sequential, done⟩ := ok_of_bind done
  obtain ⟨texts, read, finished⟩ := ok_of_bind done
  have tested := ok_of_lift isSequence
  cases filters with
  | zombie => cases tested
  | valid value =>
      cases value with
      | sequence items =>
          refine ⟨texts, ?_, finished⟩
          rw [field?_of_get (ok_of_lift got), scalars_of_mapM read]
      | null | scalar text | map entries =>
          cases tested
          cases sequential

end Reading

private theorem describedBy_of_parse {device : ConfigDataIEC61850}
    (parsed : parse61850Device decoder node = .ok device) :
    DescribedBy decoder node device := by
  unfold parse61850Device at parsed
  obtain ⟨deviceId, heldId, parsed⟩ := text_of_ok parsed
  obtain ⟨ip, heldIp, parsed⟩ := text_of_ok parsed
  obtain ⟨icdFilePath, heldIcd, parsed⟩ := text_of_ok parsed
  obtain ⟨accessPoint, heldAccess, parsed⟩ := text_of_ok parsed
  obtain ⟨logicalDevice, heldLogical, parsed⟩ := text_of_ok parsed
  obtain ⟨clientMmsName, heldClient, parsed⟩ := text_of_ok parsed
  obtain ⟨port, heldPort, parsed⟩ := value_of_ok parsed
  obtain ⟨pollInterval, heldPoll, parsed⟩ := value_of_ok parsed
  obtain ⟨maxRetries, heldRetries, parsed⟩ := value_of_ok parsed
  obtain ⟨retryInterval, heldRetry, parsed⟩ := value_of_ok parsed
  obtain ⟨reportEnabled, heldReport, parsed⟩ := value_of_ok parsed
  obtain ⟨gooseEnabled, heldGoose, parsed⟩ := value_of_ok parsed
  obtain ⟨tlsEnabled, heldTls, parsed⟩ := value_of_ok parsed
  obtain ⟨description, heldDescription, parsed⟩ := description_of_ok parsed
  obtain ⟨dataPointFilters, heldFilters, parsed⟩ := filters_of_ok parsed
  cases parsed
  constructor
  · simp only [requiredKeys, List.zip_cons_cons, List.zip_nil_left,
      List.forall_mem_cons]
    exact ⟨heldId, heldIp, heldIcd, heldAccess, heldLogical, heldClient,
      List.forall_mem_nil _⟩
  · simp only [intKeys, List.zip_cons_cons, List.zip_nil_left,
      List.forall_mem_cons]
    exact ⟨heldPort, heldPoll, heldRetries, heldRetry, List.forall_mem_nil _⟩
  · simp only [boolKeys, List.zip_cons_cons, List.zip_nil_left,
      List.forall_mem_cons]
    exact ⟨heldReport, heldGoose, heldTls, List.forall_mem_nil _⟩
  · exact heldDescription
  · exact heldFilters

end Described

/-- The loop of `parse61850Config` stores a device for the node at the index,
with all of its fields; a later node with the same id may replace it. -/
def StoresDeviceAt (decoder : ScalarDecoder) (document : Yaml) (index : Nat) :
    Prop :=
  ∃ node device, ((iec61850Section decoder).nodes document)[index]? = some node ∧
    ((iec61850Section decoder).accepted document)[index]? = some device ∧
    DescribedBy decoder node device

theorem storesDeviceAt_iff (decoder : ScalarDecoder) (document : Yaml)
    {before after : List Node} {node : Node}
    (split : (iec61850Section decoder).nodes document =
      before ++ node :: after) :
    StoresDeviceAt decoder document before.length ↔
      (∀ other ∈ before, Readable decoder other) ∧ Readable decoder node := by
  have accepted : ∀ device,
      ((iec61850Section decoder).accepted document)[before.length]? =
          some device ↔
        (∀ other ∈ before, Succeeds (parse61850Device decoder other)) ∧
          parse61850Device decoder node = .ok device := by
    intro device
    rw [Section.accepted, split]
    exact getElem?_acceptedItems_iff
  have here : ((iec61850Section decoder).nodes document)[before.length]? =
      some node := by
    rw [split]
    simp
  simp only [← succeeds_parse61850Device_iff]
  constructor
  · intro stored
    obtain ⟨_, device, _, found, _⟩ := stored
    obtain ⟨readBefore, parsed⟩ := (accepted device).mp found
    exact ⟨readBefore, device, parsed⟩
  · intro read
    obtain ⟨readBefore, device, parsed⟩ := read
    exact ⟨node, device, here, (accepted device).mpr ⟨readBefore, parsed⟩,
      describedBy_of_parse parsed⟩

/-- The parser treats a device node by its grammar exactly when no field that it
reads for the node is blank, and the node, if it is within the grammar, lacks no
optional field and comes after none that cannot be read. -/
theorem storesDeviceAt_iff_grammatical_iff (decoder : ScalarDecoder)
    (rejects : decoder.RejectsEmpty) (document : Yaml)
    {before after : List Node} {node : Node}
    (split : (iec61850Section decoder).nodes document =
      before ++ node :: after) :
    (StoresDeviceAt decoder document before.length ↔
        Grammatical decoder node) ↔
      ((∀ other ∈ before, Readable decoder other) → Readable decoder node →
        Filled node) ∧
      (Grammatical decoder node →
        Complete node ∧ ∀ other ∈ before, Readable decoder other) := by
  rw [storesDeviceAt_iff decoder document split]
  have agree : Readable decoder node ∧ Filled node ↔
      Grammatical decoder node ∧ Complete node :=
    readable_and_filled_iff rejects
  constructor
  · intro same
    constructor
    · intro readableBefore readable
      have grammatical := same.mp ⟨readableBefore, readable⟩
      exact (agree.mpr ⟨grammatical, readable.complete⟩).2
    · intro grammatical
      obtain ⟨readableBefore, readable⟩ := same.mpr grammatical
      exact ⟨readable.complete, readableBefore⟩
  · intro condition
    obtain ⟨filled, complete⟩ := condition
    constructor
    · intro stored
      exact (agree.mp ⟨stored.2, filled stored.1 stored.2⟩).1
    · intro grammatical
      obtain ⟨whole, readableBefore⟩ := complete grammatical
      exact ⟨readableBefore, (agree.mpr ⟨grammatical, whole⟩).1⟩

/-- A device node with the address and the entries for the port. -/
def iec61850Node (ip : String) (port : List (Yaml × Yaml)) : Yaml :=
  .map ([textField "device_id" "ied", textField "ip" ip,
    textField "icd_file" "ied.icd", textField "access_point" "S1",
    textField "logical_device" "LD0", textField "client_mms_name" "client"] ++
    port ++
    [textField "poll_interval" "1", textField "max_retries" "1",
      textField "retry_interval" "1", textField "report_enabled" "true",
      textField "goose_enabled" "true", textField "tls_enabled" "true",
      textField "description" "feeder",
      (.scalar "data_point_filters", .sequence [.scalar "stVal"])])

def iec61850Document (device : Yaml) : Yaml :=
  .map [(.scalar "IEC61850Devices", .sequence [device])]

private theorem sampleDecoder_rejectsEmpty : sampleDecoder.RejectsEmpty :=
  { int := rfl
    bool := rfl }

def fullNode : Yaml := iec61850Node "10.0.0.3" [textField "port" "1"]

def portlessNode : Yaml := iec61850Node "10.0.0.3" []

def blankNode : Yaml := iec61850Node "" [textField "port" "1"]

theorem filled_of_text {node : Node} {key text : String}
    (found : node.field? key = some (.scalar text)) (notEmpty : text ≠ "") :
    node.field? key ≠ some .null ∧ node.field? key ≠ some (.scalar "") := by
  rw [found]
  simpa using notEmpty

theorem typed_of_text {α : Type} {decode : String → Option α} {decoded : α}
    {node : Node} {key text : String}
    (found : node.field? key = some (.scalar text))
    (read : decode text = some decoded) (notEmpty : text ≠ "") :
    ∀ value, node.field? key = some value →
      value.HasType decode ∧ value ≠ .scalar "" := by
  intro value other
  cases found.symm.trans other
  refine ⟨⟨text, decoded, rfl, read⟩, ?_⟩
  simpa using notEmpty

theorem storesDeviceAt_iff_grammatical_full :
    StoresDeviceAt sampleDecoder (iec61850Document fullNode) 0 ↔
      Grammatical sampleDecoder (.valid fullNode) := by
  have readable : Readable sampleDecoder (.valid fullNode) :=
    succeeds_parse61850Device_iff.mp ⟨_, rfl⟩
  have alone : (iec61850Section sampleDecoder).nodes
      (iec61850Document fullNode) = [] ++ .valid fullNode :: [] := rfl
  apply (storesDeviceAt_iff_grammatical_iff sampleDecoder
    sampleDecoder_rejectsEmpty (iec61850Document fullNode) alone).mpr
  refine ⟨fun _ _ => ⟨?_, ?_⟩, fun _ => ⟨readable.complete, by simp⟩⟩
  · simp only [requiredKeys, List.forall_mem_cons]
    exact ⟨filled_of_text rfl (by decide), filled_of_text rfl (by decide),
      filled_of_text rfl (by decide), filled_of_text rfl (by decide),
      filled_of_text rfl (by decide), filled_of_text rfl (by decide),
      List.forall_mem_nil _⟩
  · intro same
    cases same

/-- A device without a port is within the grammar and not stored, and one with an
empty address is stored and not within the grammar. -/
theorem portless_and_blank_devices :
    (Grammatical sampleDecoder (.valid portlessNode) ∧
      ¬StoresDeviceAt sampleDecoder (iec61850Document portlessNode) 0) ∧
    (¬Grammatical sampleDecoder (.valid blankNode) ∧
      StoresDeviceAt sampleDecoder (iec61850Document blankNode) 0) := by
  have portlessAlone : (iec61850Section sampleDecoder).nodes
      (iec61850Document portlessNode) = [] ++ .valid portlessNode :: [] := rfl
  have blankAlone : (iec61850Section sampleDecoder).nodes
      (iec61850Document blankNode) = [] ++ .valid blankNode :: [] := rfl
  refine ⟨⟨⟨?_, ?_, ?_, ?_, ?_⟩, ?_⟩, ?_, ?_⟩
  · simp only [requiredKeys, List.forall_mem_cons]
    exact ⟨⟨_, rfl, _, rfl, by decide⟩, ⟨_, rfl, _, rfl, by decide⟩,
      ⟨_, rfl, _, rfl, by decide⟩, ⟨_, rfl, _, rfl, by decide⟩,
      ⟨_, rfl, _, rfl, by decide⟩, ⟨_, rfl, _, rfl, by decide⟩,
      List.forall_mem_nil _⟩
  · have noPort : ∀ value, Node.field? (.valid portlessNode) "port" = some value →
        value.HasType sampleDecoder.int ∧ value ≠ .scalar "" := by
      intro value found
      cases found
    simp only [intKeys, List.forall_mem_cons]
    exact ⟨noPort, typed_of_text rfl rfl (by decide),
      typed_of_text rfl rfl (by decide), typed_of_text rfl rfl (by decide),
      List.forall_mem_nil _⟩
  · simp only [boolKeys, List.forall_mem_cons]
    exact ⟨typed_of_text rfl rfl (by decide), typed_of_text rfl rfl (by decide),
      typed_of_text rfl rfl (by decide), List.forall_mem_nil _⟩
  · intro value found
    cases found
    exact ⟨_, rfl, by decide⟩
  · intro value found
    cases found
    refine ⟨⟨_, rfl, ?_⟩, ?_⟩
    · intro item member
      cases List.mem_singleton.mp member
      exact ⟨_, rfl, by decide⟩
    · intro same
      cases same
  · intro stored
    have read := (storesDeviceAt_iff sampleDecoder _ portlessAlone).mp stored
    obtain ⟨value, found, _⟩ := read.2.ints "port" (by decide)
    cases found
  · intro grammatical
    obtain ⟨value, found, text, same, notEmpty⟩ :=
      grammatical.required "ip" (by decide)
    cases found
    cases same
    exact notEmpty rfl
  · apply (storesDeviceAt_iff sampleDecoder _ blankAlone).mpr
    refine ⟨by simp, ?_⟩
    exact succeeds_parse61850Device_iff.mp ⟨_, rfl⟩

end DataGateway.Config
