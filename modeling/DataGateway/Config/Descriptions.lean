import DataGateway.Config.DeviceGrammar

/-!
# The devices that a document describes

What the three section parsers make of a device node, as a relation between nodes
and devices that says nothing of the order of the reading: the parser returns a
device exactly if the node describes it.
-/

namespace DataGateway.Config

open Foundation

namespace Node

def HoldsScalar (node : Node) (key text : String) : Prop :=
  node.field? key = some (.scalar text)

/-- A text that is neither null nor empty. -/
def HoldsFilled (node : Node) (key text : String) : Prop :=
  node.HoldsScalar key text ∧ text ≠ ""

/-- A member that holds something; one that is missing holds nothing. -/
def HoldsNode (node : Node) (key : String) (property : Node → Prop) : Prop :=
  ∃ member, node.get key = .ok member ∧ property member

/-- A sequence whose items are described one by one. -/
def HoldsList {α : Type} (node : Node) (key : String) (describes : Node → α → Prop)
    (values : List α) : Prop :=
  ∃ items, node.field? key = some (.sequence items) ∧
    List.Forall₂ (fun item value => describes (.valid item) value) items values

theorem HoldsValue.isDefined {α : Type} {decode : String → Option α} {node : Node}
    {key : String} {decoded : α} (held : node.HoldsValue decode key decoded) :
    node.isDefined = true := by
  cases node with
  | zombie =>
      obtain ⟨text, found, _⟩ := held
      cases found
  | valid value => rfl

end Node

section Reading

variable {α β γ : Type} {node : Node} {key : String} {result : β}

theorem bind_ok_iff {first : Except Stop α} {next : α → Except Stop β} :
    first >>= next = .ok result ↔
      ∃ value, first = .ok value ∧ next value = .ok result := by
  constructor
  · exact ok_of_bind
  · rintro ⟨value, done, rest⟩
    rw [done]
    exact rest

theorem lift_ok_iff {first : Except YamlException α} {next : α → Except Stop β} :
    (liftM first : Except Stop α) >>= next = .ok result ↔
      ∃ value, first = .ok value ∧ next value = .ok result := by
  rw [bind_ok_iff]
  apply exists_congr
  intro value
  apply and_congr_left
  intro _
  constructor
  · exact ok_of_lift
  · intro done
    rw [done]
    rfl

theorem member_ok_iff (key : String) {next : Node → Except Stop β} :
    (liftM (node.get key) : Except Stop Node) >>= next = .ok result ↔
      ∃ member, node.get key = .ok member ∧ next member = .ok result :=
  lift_ok_iff

theorem rejectIf_ok_iff {test : Bool} {next : Unit → Except Stop β} :
    rejectIf test >>= next = .ok result ↔ test = false ∧ next () = .ok result := by
  cases test with
  | true => simp [rejectIf, bind_ok_iff]
  | false => exact (and_iff_right rfl).symm

theorem get_ok_iff {next : Node → Except Stop β}
    (zombie : next .zombie ≠ .ok result) :
    (liftM (node.get key) : Except Stop Node) >>= next = .ok result ↔
      ∃ value, node.field? key = some value ∧ next (.valid value) = .ok result := by
  rw [lift_ok_iff]
  unfold Node.field?
  cases node.get key with
  | error exception => simp
  | ok member =>
      cases member with
      | zombie => simpa using zombie
      | valid value => simp

theorem text_ok_iff {next : String → Except Stop β} :
    (((liftM (node.get key) : Except Stop Node) >>= fun member =>
        (liftM member.asString : Except Stop String) >>= next) = .ok result) ↔
      ∃ text, node.HoldsText key text ∧ next text = .ok result := by
  constructor
  · exact text_of_ok
  · rintro ⟨text, held, rest⟩
    have zombie : ((liftM (Node.asString .zombie) : Except Stop String) >>= next) ≠
        .ok result := by
      simp [lift_ok_iff, Node.asString]
    rw [get_ok_iff zombie]
    rcases held with found | ⟨found, same⟩
    · exact ⟨_, found, rest⟩
    · subst same
      exact ⟨_, found, rest⟩

private theorem as_ok_iff {decode : String → Option α} {value : Yaml} {decoded : α} :
    (Node.valid value).as decode = .ok decoded ↔
      ∃ text, value = .scalar text ∧ decode text = some decoded := by
  cases value with
  | scalar text =>
      cases read : decode text with
      | none => simp [Node.as, read]
      | some other => simp [Node.as, read]
  | null | sequence items | map entries => simp [Node.as]

theorem value_ok_iff {decode : String → Option α} {next : α → Except Stop β} :
    (((liftM (node.get key) : Except Stop Node) >>= fun member =>
        (liftM (member.as decode) : Except Stop α) >>= next) = .ok result) ↔
      ∃ decoded, node.HoldsValue decode key decoded ∧ next decoded = .ok result := by
  have zombie : ((liftM (Node.as decode .zombie) : Except Stop α) >>= next) ≠
      .ok result := by
    simp [lift_ok_iff, Node.as]
  rw [get_ok_iff zombie]
  simp only [lift_ok_iff, as_ok_iff, Node.HoldsValue]
  constructor
  · rintro ⟨value, found, decoded, ⟨text, same, read⟩, rest⟩
    subst same
    exact ⟨decoded, ⟨text, found, read⟩, rest⟩
  · rintro ⟨decoded, ⟨text, found, read⟩, rest⟩
    exact ⟨_, found, decoded, ⟨text, rfl, read⟩, rest⟩

theorem notNull_ok_iff {next : Unit → Except Stop β} :
    (((liftM (node.get key) : Except Stop Node) >>= fun member =>
        (liftM member.isNull : Except Stop Bool) >>= fun null =>
          rejectIf null >>= next) = .ok result) ↔
      (∃ value, node.field? key = some value ∧ value ≠ .null) ∧
        next () = .ok result := by
  have zombie : ((liftM (Node.isNull .zombie) : Except Stop Bool) >>=
      fun null => rejectIf null >>= next) ≠ .ok result := by
    simp [lift_ok_iff, Node.isNull]
  rw [get_ok_iff zombie, ← exists_and_right]
  apply exists_congr
  intro value
  rw [and_assoc]
  apply and_congr_right
  intro _
  cases value with
  | null => simp [lift_ok_iff, rejectIf_ok_iff, Node.isNull]
  | scalar text | sequence items | map entries =>
      simp [lift_ok_iff, rejectIf_ok_iff, Node.isNull]

private theorem optional_ok_iff {decode : String → Option α} {next : α → Except Stop β} :
    (optionalField decode node key >>= next) = .ok result ↔
      ∃ decoded, node.HoldsValue decode key decoded ∧ next decoded = .ok result := by
  simp only [optionalField, bind_assoc]
  rw [notNull_ok_iff, value_ok_iff, and_iff_right_of_imp]
  rintro ⟨decoded, ⟨text, found, _⟩, _⟩
  exact ⟨_, found, by simp⟩

private theorem filled_ok_iff {next : String → Except Stop β} :
    (requiredText node key >>= next) = .ok result ↔
      ∃ text, node.HoldsFilled key text ∧ next text = .ok result := by
  simp only [requiredText, bind_assoc, pure_bind]
  rw [notNull_ok_iff, text_ok_iff]
  simp only [rejectIf_ok_iff, Node.HoldsText, Node.HoldsFilled, Node.HoldsScalar]
  constructor
  · rintro ⟨⟨value, found, notNull⟩, text, held, filled, rest⟩
    refine ⟨text, ⟨?_, by simpa using filled⟩, rest⟩
    rcases held with scalar | ⟨null, _⟩
    · exact scalar
    · cases found.symm.trans null
      exact (notNull rfl).elim
  · rintro ⟨text, ⟨found, filled⟩, rest⟩
    exact ⟨⟨_, found, by simp⟩, text, .inl found, by simpa using filled, rest⟩

theorem mapM_ok_iff {items : List α} {parse : α → Except Stop γ}
    {values : List γ} :
    items.mapM parse = .ok values ↔
      List.Forall₂ (fun item value => parse item = .ok value) items values := by
  induction items generalizing values with
  | nil =>
      rw [List.forall₂_nil_left_iff]
      constructor
      · intro done
        cases done
        rfl
      · intro empty
        rw [empty]
        rfl
  | cons item items induction =>
      rw [List.mapM_cons, bind_ok_iff, List.forall₂_cons_left_iff]
      constructor
      · rintro ⟨value, parsed, done⟩
        obtain ⟨rest, parsedRest, done⟩ := ok_of_bind done
        cases done
        exact ⟨value, rest, parsed, induction.mp parsedRest, rfl⟩
      · rintro ⟨value, rest, parsed, parsedRest, same⟩
        subst same
        refine ⟨value, parsed, ?_⟩
        rw [bind_ok_iff]
        exact ⟨rest, induction.mpr parsedRest, rfl⟩

theorem items_ok_iff {value : Yaml} {parse : Node → Except Stop γ}
    {next : List γ → Except Stop β} :
    ((liftM (Node.valid value).isSequence : Except Stop Bool) >>= fun sequence =>
        rejectIf (!sequence) >>= fun _ =>
          (Node.valid value).items.mapM parse >>= next) = .ok result ↔
      ∃ items, value = .sequence items ∧
        ∃ values, List.Forall₂ (fun item value => parse (.valid item) = .ok value)
          items values ∧ next values = .ok result := by
  rw [lift_ok_iff]
  cases value with
  | sequence items =>
      simp only [Node.isSequence, Except.ok.injEq, exists_eq_left', rejectIf_ok_iff,
        Bool.not_true, true_and, Yaml.sequence.injEq, Node.items]
      rw [bind_ok_iff]
      simp only [mapM_ok_iff, List.forall₂_map_left_iff]
  | null | scalar text | map entries =>
      simp [Node.isSequence, rejectIf_ok_iff]

theorem definedList_ok_iff {parse : Node → Except Stop γ}
    {next : List γ → Except Stop β} :
    ((liftM (node.get key) : Except Stop Node) >>= fun member =>
        rejectIf (!member.isDefined) >>= fun _ =>
          (liftM member.isSequence : Except Stop Bool) >>= fun sequence =>
            rejectIf (!sequence) >>= fun _ =>
              member.items.mapM parse >>= next) = .ok result ↔
      ∃ values, node.HoldsList key (fun item value => parse item = .ok value) values ∧
        next values = .ok result := by
  rw [get_ok_iff (by simp [rejectIf_ok_iff, Node.isDefined])]
  simp only [rejectIf_ok_iff, Node.isDefined, Bool.not_true, true_and, items_ok_iff,
    Node.HoldsList]
  constructor
  · rintro ⟨value, found, items, same, values, parsed, rest⟩
    subst same
    exact ⟨values, ⟨items, found, parsed⟩, rest⟩
  · rintro ⟨values, ⟨items, found, parsed⟩, rest⟩
    exact ⟨_, found, items, rfl, values, parsed, rest⟩

theorem list_ok_iff {parse : Node → Except Stop γ} {next : List γ → Except Stop β} :
    ((liftM (node.get key) : Except Stop Node) >>= fun member =>
        (liftM member.isNull : Except Stop Bool) >>= fun null =>
          rejectIf null >>= fun _ =>
            (liftM member.isSequence : Except Stop Bool) >>= fun sequence =>
              rejectIf (!sequence) >>= fun _ =>
                member.items.mapM parse >>= next) = .ok result ↔
      ∃ values, node.HoldsList key (fun item value => parse item = .ok value) values ∧
        next values = .ok result := by
  rw [get_ok_iff (by simp [lift_ok_iff, Node.isNull])]
  constructor
  · rintro ⟨value, found, done⟩
    obtain ⟨null, _, done⟩ := lift_ok_iff.mp done
    obtain ⟨_, done⟩ := rejectIf_ok_iff.mp done
    obtain ⟨items, same, values, parsed, rest⟩ := items_ok_iff.mp done
    subst same
    exact ⟨values, ⟨items, found, parsed⟩, rest⟩
  · rintro ⟨values, ⟨items, found, parsed⟩, rest⟩
    refine ⟨_, found, lift_ok_iff.mpr ⟨false, rfl, rejectIf_ok_iff.mpr ⟨rfl, ?_⟩⟩⟩
    exact items_ok_iff.mpr ⟨items, rfl, values, parsed, rest⟩

theorem scalar_ok_iff {next : String → Except Stop β} :
    ((liftM (node.get key) : Except Stop Node) >>= fun member =>
        (liftM member.isNull : Except Stop Bool) >>= fun null =>
          rejectIf null >>= fun _ =>
            (liftM (node.get key) : Except Stop Node) >>= fun member =>
              (liftM member.isScalar : Except Stop Bool) >>= fun scalar =>
                rejectIf (!scalar) >>= fun _ =>
                  (liftM (node.get key) : Except Stop Node) >>= fun member =>
                    (liftM member.asString : Except Stop String) >>= next) =
        .ok result ↔
      ∃ text, node.HoldsScalar key text ∧ next text = .ok result := by
  rw [notNull_ok_iff, get_ok_iff (by simp [lift_ok_iff, Node.isScalar])]
  simp only [Node.HoldsScalar]
  constructor
  · rintro ⟨_, value, found, done⟩
    cases value with
    | scalar text =>
        simp only [Node.isScalar, lift_ok_iff, rejectIf_ok_iff, Except.ok.injEq,
          exists_eq_left', get_of_field? found, Node.asString] at done
        exact ⟨text, found, done.2⟩
    | null | sequence items | map entries =>
        simp [Node.isScalar, lift_ok_iff, rejectIf_ok_iff] at done
  · rintro ⟨text, found, rest⟩
    refine ⟨⟨_, found, by simp⟩, _, found, ?_⟩
    simp only [Node.isScalar, lift_ok_iff, rejectIf_ok_iff, Except.ok.injEq,
      exists_eq_left', get_of_field? found, Node.asString]
    exact ⟨rfl, rest⟩

end Reading

section Modbus

open ConfigDataModbus

variable (decoder : ScalarDecoder)

structure DescribesPoint (node : Node) (point : DataPoint) : Prop where
  name : node.HoldsText "name" point.name
  address : node.HoldsValue decoder.uint16 "address" point.address
  type : node.HoldsText "type" point.type
  scale : node.HoldsValue decoder.float "scale" point.scale
  offset : node.HoldsValue decoder.float "offset" point.offset
  dataType : ∃ text, node.HoldsText "data_type" text ∧
    point.dataType = getDataType text ∧ point.dataType ≠ .unknown

/-- The transport of the type is described, and the other one has its
defaults. -/
def DescribesTransport (node : Node) (type : String) (tcp : TCP) (rtu : RTU) : Prop :=
  (type = "TCP" ∧ rtu = { portName := "", baudrate := 0, parity := "" } ∧
      node.HoldsNode "TCP" fun member =>
        member.HoldsScalar "ip" tcp.ip ∧
          member.HoldsValue decoder.int "port" tcp.port) ∨
    type = "RTU" ∧ tcp = { ip := "0.0.0.0", port := 0 } ∧
      node.HoldsNode "RTU" fun member =>
        member.HoldsScalar "port_name" rtu.portName ∧
          member.HoldsValue decoder.int "baudrate" rtu.baudrate ∧
          member.HoldsScalar "parity" rtu.parity

structure DescribesModbus (node : Node) (device : ConfigDataModbus) : Prop where
  deviceId : node.HoldsText "device_id" device.deviceId
  type : node.HoldsText "type" device.type
  slaveAddr : node.HoldsValue decoder.int "slave_addr" device.slaveAddr
  cmdInterval : node.HoldsValue decoder.int "cmd_interval" device.cmdInterval
  maxRetries : node.HoldsValue decoder.int "max_retries" device.maxRetries
  retryInterval : node.HoldsValue decoder.int "retry_interval" device.retryInterval
  byteOrder : node.HoldsText "byte_order" device.byteOrder
  transport : DescribesTransport decoder node device.type device.tcp device.rtu
  dataPoints : node.HoldsList "data_points" (DescribesPoint decoder) device.dataPoints

variable {decoder} {node : Node}

private theorem parseModbusPoint_ok_iff {point : DataPoint} :
    parseModbusPoint decoder node = .ok point ↔ DescribesPoint decoder node point := by
  simp only [parseModbusPoint, text_ok_iff, value_ok_iff, rejectIf_ok_iff]
  constructor
  · rintro ⟨name, heldName, address, heldAddress, type, heldType, scale, heldScale,
      offset, heldOffset, text, heldText, known, same⟩
    cases same
    exact ⟨heldName, heldAddress, heldType, heldScale, heldOffset, text, heldText,
      rfl, by simpa using known⟩
  · rintro ⟨name, address, type, scale, offset, text, held, same, known⟩
    rw [same] at known
    refine ⟨_, name, _, address, _, type, _, scale, _, offset, text, held,
      by simpa using known, ?_⟩
    rw [← same]
    rfl

private theorem holdsScalar_iff {key text : String} :
    node.HoldsScalar key text ↔ (∃ value, node.field? key = some value ∧
      value ≠ .null) ∧ node.HoldsText key text := by
  constructor
  · intro held
    exact ⟨⟨_, held, by simp⟩, .inl held⟩
  · rintro ⟨⟨value, found, notNull⟩, held⟩
    rcases held with scalar | ⟨null, _⟩
    · exact scalar
    · cases found.symm.trans null
      exact (notNull rfl).elim

private theorem parseTCP_ok_iff {transport : TCP × RTU} :
    parseTCP decoder node = .ok transport ↔
      transport.2 = { portName := "", baudrate := 0, parity := "" } ∧
        node.HoldsNode "TCP" fun member =>
          member.HoldsScalar "ip" transport.1.ip ∧
            member.HoldsValue decoder.int "port" transport.1.port := by
  unfold parseTCP
  rw [lift_ok_iff]
  simp only [rejectIf_ok_iff, notNull_ok_iff, text_ok_iff, value_ok_iff,
    Node.HoldsNode, holdsScalar_iff]
  constructor
  · rintro ⟨member, got, _, some, _, ip, heldIp, port, heldPort, same⟩
    cases same
    exact ⟨rfl, member, got, ⟨some, heldIp⟩, heldPort⟩
  · rintro ⟨defaults, member, got, ⟨some, heldIp⟩, heldPort⟩
    have somePort := heldPort
    obtain ⟨text, scalar, _⟩ := somePort
    refine ⟨member, got, by simp [heldPort.isDefined], some, ⟨_, scalar, by simp⟩, _,
      heldIp, _, heldPort, ?_⟩
    rw [← defaults]
    rfl

private theorem parseRTU_ok_iff {transport : TCP × RTU} :
    parseRTU decoder node = .ok transport ↔
      transport.1 = { ip := "0.0.0.0", port := 0 } ∧
        node.HoldsNode "RTU" fun member =>
          member.HoldsScalar "port_name" transport.2.portName ∧
            member.HoldsValue decoder.int "baudrate" transport.2.baudrate ∧
            member.HoldsScalar "parity" transport.2.parity := by
  unfold parseRTU
  rw [lift_ok_iff]
  simp only [rejectIf_ok_iff, notNull_ok_iff, text_ok_iff, value_ok_iff,
    Node.HoldsNode, holdsScalar_iff]
  constructor
  · rintro ⟨member, got, _, somePort, _, someParity, portName, heldPort, baudrate,
      heldBaudrate, parity, heldParity, same⟩
    cases same
    exact ⟨rfl, member, got, ⟨somePort, heldPort⟩, heldBaudrate, someParity,
      heldParity⟩
  · rintro ⟨defaults, member, got, ⟨somePort, heldPort⟩, heldBaudrate, someParity,
      heldParity⟩
    have someBaudrate := heldBaudrate
    obtain ⟨text, scalar, _⟩ := someBaudrate
    refine ⟨member, got, by simp [heldBaudrate.isDefined], somePort,
      ⟨_, scalar, by simp⟩, someParity, _, heldPort, _, heldBaudrate, _, heldParity, ?_⟩
    rw [← defaults]
    rfl

private theorem transport_ok_iff {β : Type} {result : β} {type : String}
    {next : TCP × RTU → Except Stop β} :
    parseTransport decoder node type >>= next = .ok result ↔
      ∃ transport : TCP × RTU,
        DescribesTransport decoder node type transport.1 transport.2 ∧
          next transport = .ok result := by
  rw [bind_ok_iff]
  apply exists_congr
  intro transport
  apply and_congr_left
  intro _
  unfold parseTransport DescribesTransport
  by_cases overTcp : type = "TCP"
  · subst overTcp
    simp [parseTCP_ok_iff]
  · rw [if_neg overTcp]
    by_cases overRtu : type = "RTU"
    · subst overRtu
      simp [parseRTU_ok_iff]
    · simp [overTcp, overRtu]

/-- The parser returns a device exactly if the node describes it. -/
theorem parseModbusDevice_ok_iff {device : ConfigDataModbus} :
    parseModbusDevice decoder node = .ok device ↔
      DescribesModbus decoder node device := by
  have points : (fun item point => parseModbusPoint decoder item = .ok point) =
      DescribesPoint decoder := by
    funext item point
    exact propext parseModbusPoint_ok_iff
  simp only [parseModbusDevice, text_ok_iff, value_ok_iff, transport_ok_iff,
    definedList_ok_iff, points]
  constructor
  · rintro ⟨deviceId, heldId, type, heldType, slaveAddr, heldSlave, cmdInterval,
      heldCmd, maxRetries, heldRetries, retryInterval, heldRetry, byteOrder, heldOrder,
      transport, heldTransport, dataPoints, heldPoints, same⟩
    cases same
    exact ⟨heldId, heldType, heldSlave, heldCmd, heldRetries, heldRetry, heldOrder,
      heldTransport, heldPoints⟩
  · intro describes
    exact ⟨_, describes.deviceId, _, describes.type, _, describes.slaveAddr, _,
      describes.cmdInterval, _, describes.maxRetries, _, describes.retryInterval, _,
      describes.byteOrder, (device.tcp, device.rtu), describes.transport, _,
      describes.dataPoints, rfl⟩

end Modbus

section IEC61850

variable (decoder : ScalarDecoder)

structure Describes61850 (node : Node) (device : ConfigDataIEC61850) : Prop where
  deviceId : node.HoldsText "device_id" device.deviceId
  ip : node.HoldsText "ip" device.ip
  icdFilePath : node.HoldsText "icd_file" device.icdFilePath
  accessPoint : node.HoldsText "access_point" device.accessPoint
  logicalDevice : node.HoldsText "logical_device" device.logicalDevice
  clientMmsName : node.HoldsText "client_mms_name" device.clientMmsName
  port : node.HoldsValue decoder.int "port" device.port
  pollInterval : node.HoldsValue decoder.int "poll_interval" device.pollInterval
  maxRetries : node.HoldsValue decoder.int "max_retries" device.maxRetries
  retryInterval : node.HoldsValue decoder.int "retry_interval" device.retryInterval
  reportEnabled : node.HoldsValue decoder.bool "report_enabled" device.reportEnabled
  gooseEnabled : node.HoldsValue decoder.bool "goose_enabled" device.gooseEnabled
  tlsEnabled : node.HoldsValue decoder.bool "tls_enabled" device.tlsEnabled
  description : node.HoldsFilled "description" device.description
  dataPointFilters : node.HoldsList "data_point_filters"
    (fun item filter => item = .valid (.scalar filter) ∧ filter ≠ "")
    device.dataPointFilters

variable {decoder} {node : Node}

private theorem parseFilter_ok_iff {item : Node} {filter : String} :
    parseFilter item = .ok filter ↔ item = .valid (.scalar filter) ∧ filter ≠ "" := by
  unfold parseFilter
  rw [lift_ok_iff]
  cases item with
  | zombie => simp [Node.isScalar]
  | valid value =>
      cases value with
      | scalar text =>
          simp only [Node.isScalar, Except.ok.injEq, exists_eq_left', Bool.not_true,
            rejectIf_ok_iff, true_and, lift_ok_iff, Node.asString]
          constructor
          · rintro ⟨filled, same⟩
            cases same
            exact ⟨rfl, by simpa using filled⟩
          · rintro ⟨same, filled⟩
            cases same
            exact ⟨by simpa using filled, rfl⟩
      | null | sequence items | map entries =>
          simp [Node.isScalar, rejectIf_ok_iff]

theorem parse61850Device_ok_iff {device : ConfigDataIEC61850} :
    parse61850Device decoder node = .ok device ↔
      Describes61850 decoder node device := by
  simp only [parse61850Device, text_ok_iff, optional_ok_iff, scalar_ok_iff,
    rejectIf_ok_iff, list_ok_iff, parseFilter_ok_iff]
  constructor
  · rintro ⟨deviceId, heldId, ip, heldIp, icdFilePath, heldIcd, accessPoint, heldAccess,
      logicalDevice, heldLogical, clientMmsName, heldClient, port, heldPort, pollInterval,
      heldPoll, maxRetries, heldRetries, retryInterval, heldRetry, reportEnabled,
      heldReport, gooseEnabled, heldGoose, tlsEnabled, heldTls, description,
      heldDescription, filled, filters, heldFilters, same⟩
    cases same
    exact ⟨heldId, heldIp, heldIcd, heldAccess, heldLogical, heldClient, heldPort,
      heldPoll, heldRetries, heldRetry, heldReport, heldGoose, heldTls,
      ⟨heldDescription, by simpa using filled⟩, heldFilters⟩
  · intro describes
    exact ⟨_, describes.deviceId, _, describes.ip, _, describes.icdFilePath, _,
      describes.accessPoint, _, describes.logicalDevice, _, describes.clientMmsName, _,
      describes.port, _, describes.pollInterval, _, describes.maxRetries, _,
      describes.retryInterval, _, describes.reportEnabled, _, describes.gooseEnabled, _,
      describes.tlsEnabled, _, describes.description.1,
      by simpa using describes.description.2, _, describes.dataPointFilters, rfl⟩

end IEC61850

section IEC104

open ConfigDataIEC104

variable (decoder : ScalarDecoder)

structure DescribesReport (node : Node) (report : Report) : Prop where
  ioa : node.HoldsValue decoder.int "ioa" report.ioa
  reportId : node.HoldsFilled "report_id" report.reportId

structure Describes104Point (node : Node) (point : DataPoint) : Prop where
  ioa : node.HoldsValue decoder.int "ioa" point.ioa
  type : node.HoldsText "type" point.type
  description : node.HoldsFilled "description" point.description
  iec61850Path : node.HoldsFilled "iec61850_path" point.iec61850Path

structure DescribesAPCI (node : Node) (apci : APCI) : Prop where
  t0 : node.HoldsValue decoder.int "t0" apci.t0
  t1 : node.HoldsValue decoder.int "t1" apci.t1
  t2 : node.HoldsValue decoder.int "t2" apci.t2
  t3 : node.HoldsValue decoder.int "t3" apci.t3
  k : node.HoldsValue decoder.int "k" apci.k
  w : node.HoldsValue decoder.int "w" apci.w

structure DescribesApplicationLayer (node : Node) (layer : ApplicationLayer) :
    Prop where
  originatorAddress :
    node.HoldsValue decoder.int "originator_address" layer.originatorAddress
  commonAddress : node.HoldsValue decoder.int "common_address" layer.commonAddress
  asduSize : node.HoldsValue decoder.int "asdu_size" layer.asduSize

structure DescribesCommunication (node : Node) (communication : Communication) :
    Prop where
  giIntervalMs : node.HoldsValue decoder.int "gi_interval_ms" communication.giIntervalMs
  reportEnabled :
    node.HoldsValue decoder.bool "report_enabled" communication.reportEnabled
  reports : node.HoldsList "reports" (DescribesReport decoder) communication.reports

structure DescribesErrorHandling (node : Node) (handling : ErrorHandling) : Prop where
  reconnectIntervalMs :
    node.HoldsValue decoder.int "reconnect_interval_ms" handling.reconnectIntervalMs
  maxReconnectAttempts :
    node.HoldsValue decoder.int "max_reconnect_attempts" handling.maxReconnectAttempts

/-- The points are those of the sequence; without a sequence there are none. -/
def Describes104Points (node : Node) (points : List DataPoint) : Prop :=
  node.HoldsList "data_points" (Describes104Point decoder) points ∨
    points = [] ∧ node.HoldsNode "data_points" fun member =>
      ∀ items, member ≠ .valid (.sequence items)

structure Describes104 (node : Node) (device : ConfigDataIEC104) : Prop where
  deviceId : node.HoldsText "device_id" device.deviceId
  type : node.HoldsText "type" device.type
  tcp : node.HoldsNode "TCP" fun member =>
    member.HoldsText "ip" device.tcp.ip ∧
      member.HoldsValue decoder.int "port" device.tcp.port
  localAddress : node.HoldsNode "local_address" fun member =>
    member.HoldsScalar "ip" device.localAddress.ip ∧
      member.HoldsValue decoder.int "port" device.localAddress.port
  apci : node.HoldsNode "protocol" fun member => member.HoldsNode "apci" fun member =>
    DescribesAPCI decoder member device.protocol.apci
  applicationLayer : node.HoldsNode "protocol" fun member =>
    member.HoldsNode "application_layer" fun member =>
      DescribesApplicationLayer decoder member device.protocol.applicationLayer
  communication : node.HoldsNode "communication" fun member =>
    DescribesCommunication decoder member device.communication
  errorHandling : node.HoldsNode "error_handling" fun member =>
    DescribesErrorHandling decoder member device.errorHandling
  dataPoints : Describes104Points decoder node device.dataPoints

variable {decoder} {node : Node}

private theorem parseReport_ok_iff {report : Report} :
    parseReport decoder node = .ok report ↔ DescribesReport decoder node report := by
  simp only [parseReport, value_ok_iff, filled_ok_iff]
  constructor
  · rintro ⟨ioa, heldIoa, reportId, heldId, same⟩
    cases same
    exact ⟨heldIoa, heldId⟩
  · intro describes
    exact ⟨_, describes.ioa, _, describes.reportId, rfl⟩

private theorem parse104Point_ok_iff {point : DataPoint} :
    parse104Point decoder node = .ok point ↔ Describes104Point decoder node point := by
  simp only [parse104Point, value_ok_iff, text_ok_iff, filled_ok_iff]
  constructor
  · rintro ⟨ioa, heldIoa, type, heldType, description, heldDescription, path, heldPath,
      same⟩
    cases same
    exact ⟨heldIoa, heldType, heldDescription, heldPath⟩
  · intro describes
    exact ⟨_, describes.ioa, _, describes.type, _, describes.description, _,
      describes.iec61850Path, rfl⟩

private theorem parse104Points_ok_iff {points : List DataPoint} :
    parse104Points decoder node = .ok points ↔
      Describes104Points decoder node points := by
  have each : (fun item point => parse104Point decoder item = .ok point) =
      Describes104Point decoder := by
    funext item point
    exact propext parse104Point_ok_iff
  unfold parse104Points Describes104Points
  rw [lift_ok_iff, ← each]
  constructor
  · rintro ⟨member, got, done⟩
    cases member with
    | zombie =>
        cases done
        exact .inr ⟨rfl, .zombie, got, by simp⟩
    | valid value =>
        cases value with
        | sequence items =>
            have parsed : (items.map Node.valid).mapM (parse104Point decoder) =
                .ok points := done
            rw [mapM_ok_iff, List.forall₂_map_left_iff] at parsed
            exact .inl ⟨items, field?_of_get got, parsed⟩
        | null | scalar text | map entries =>
            cases done
            exact .inr ⟨rfl, _, got, by simp⟩
  · rintro (⟨items, found, parsed⟩ | ⟨none, member, got, other⟩)
    · refine ⟨_, get_of_field? found, ?_⟩
      change (items.map Node.valid).mapM (parse104Point decoder) = .ok points
      rw [mapM_ok_iff, List.forall₂_map_left_iff]
      exact parsed
    · subst none
      refine ⟨member, got, ?_⟩
      cases member with
      | zombie => rfl
      | valid value =>
          cases value with
          | sequence items => exact (other items rfl).elim
          | null | scalar text | map entries => rfl

private theorem points_ok_iff {β : Type} {result : β}
    {next : List DataPoint → Except Stop β} :
    parse104Points decoder node >>= next = .ok result ↔
      ∃ points, Describes104Points decoder node points ∧ next points = .ok result := by
  rw [bind_ok_iff]
  simp only [parse104Points_ok_iff]

theorem parse104Device_ok_iff {device : ConfigDataIEC104} :
    parse104Device decoder node = .ok device ↔ Describes104 decoder node device := by
  have each : (fun item report => parseReport decoder item = .ok report) =
      DescribesReport decoder := by
    funext item report
    exact propext parseReport_ok_iff
  simp only [parse104Device, text_ok_iff, value_ok_iff, optional_ok_iff, scalar_ok_iff,
    list_ok_iff, each, points_ok_iff, member_ok_iff "TCP",
    member_ok_iff "local_address", member_ok_iff "protocol", member_ok_iff "apci",
    member_ok_iff "application_layer", member_ok_iff "communication",
    member_ok_iff "error_handling"]
  constructor
  · rintro ⟨deviceId, heldId, type, heldType, tcp, gotTcp, tcpIp, heldIp, tcpPort,
      heldPort, localNode, gotLocal, localIp, heldLocalIp, localPort, heldLocalPort,
      protocol, gotProtocol, apci, gotApci, t0, heldT0, t1, heldT1, t2, heldT2, t3,
      heldT3, k, heldK, w, heldW, protocol', gotProtocol', app, gotApp, originator,
      heldOriginator, common, heldCommon, asduSize, heldSize, comm, gotComm, gi, heldGi,
      enabled, heldEnabled, reports, heldReports, handling, gotHandling, interval,
      heldInterval, attempts, heldAttempts, points, heldPoints, same⟩
    cases same
    exact ⟨heldId, heldType, ⟨tcp, gotTcp, heldIp, heldPort⟩,
      ⟨localNode, gotLocal, heldLocalIp, heldLocalPort⟩,
      ⟨protocol, gotProtocol, apci, gotApci, heldT0, heldT1, heldT2, heldT3, heldK,
        heldW⟩,
      ⟨protocol', gotProtocol', app, gotApp, heldOriginator, heldCommon, heldSize⟩,
      ⟨comm, gotComm, heldGi, heldEnabled, heldReports⟩,
      ⟨handling, gotHandling, heldInterval, heldAttempts⟩, heldPoints⟩
  · intro describes
    obtain ⟨tcp, gotTcp, heldIp, heldPort⟩ := describes.tcp
    obtain ⟨localNode, gotLocal, heldLocalIp, heldLocalPort⟩ := describes.localAddress
    obtain ⟨protocol, gotProtocol, apci, gotApci, heldApci⟩ := describes.apci
    obtain ⟨protocol', gotProtocol', app, gotApp, heldApp⟩ := describes.applicationLayer
    obtain ⟨comm, gotComm, heldComm⟩ := describes.communication
    obtain ⟨handling, gotHandling, heldHandling⟩ := describes.errorHandling
    exact ⟨_, describes.deviceId, _, describes.type, tcp, gotTcp, _, heldIp, _, heldPort,
      localNode, gotLocal, _, heldLocalIp, _, heldLocalPort, protocol, gotProtocol, apci,
      gotApci, _, heldApci.t0, _, heldApci.t1, _, heldApci.t2, _, heldApci.t3, _,
      heldApci.k, _, heldApci.w, protocol', gotProtocol', app, gotApp, _,
      heldApp.originatorAddress, _, heldApp.commonAddress, _, heldApp.asduSize, comm,
      gotComm, _, heldComm.giIntervalMs, _, heldComm.reportEnabled, _, heldComm.reports,
      handling, gotHandling, _, heldHandling.reconnectIntervalMs, _,
      heldHandling.maxReconnectAttempts, _, describes.dataPoints, rfl⟩

end IEC104

/-- The table after a section: the devices of the nodes up to the first that
describes none, each under its id and the later ones over the earlier. -/
def StoresDescribed {Device : Type} (parser : Section Device)
    (describes : Node → Device → Prop) (document : Yaml)
    (before after : String → Option Device) : Prop :=
  ∃ described rest devices, parser.nodes document = described ++ rest ∧
    List.Forall₂ describes described devices ∧
    (∀ node, rest.head? = some node → ∀ device, ¬describes node device) ∧
    after = overlay parser.deviceId before devices

private theorem not_parsed_of_head? {Device : Type} {parse : Node → Except Stop Device}
    {nodes : List Node} {node : Node}
    (stopped : (fromFirstStop parse nodes).head? = some node) (device : Device) :
    parse node ≠ .ok device := by
  induction nodes with
  | nil => cases stopped
  | cons first nodes induction =>
      cases parsed : parse first with
      | error stop =>
          simp only [fromFirstStop, parsed, List.head?_cons] at stopped
          cases stopped
          rw [parsed]
          simp
      | ok item =>
          simp only [fromFirstStop, parsed] at stopped
          exact induction stopped

theorem Section.storesDescribed {Device : Type} (parser : Section Device)
    {describes : Node → Device → Prop}
    (exact : ∀ node device, parser.parseDevice node = .ok device ↔
      describes node device)
    (document : Yaml) (table : String → Option Device) :
    StoresDescribed parser describes document table
      (parser.parse (.valid document) table).1 := by
  obtain ⟨described, split, accepted⟩ :=
    accepted_split parser.parseDevice (parser.nodes document)
  refine ⟨described, _, parser.accepted document, split, ?_, ?_, ?_⟩
  · exact accepted.imp fun node device => (exact node device).mp
  · intro node stopped device described
    have failed := not_parsed_of_head? stopped
    exact failed device ((exact node device).mpr described)
  · rw [parser.parse_eq]
    rfl

/-- Each of the three section parsers stores exactly the devices that the section
describes, whatever the table held before. -/
theorem sections_store_described (decoder : ScalarDecoder) (document : Yaml)
    (data : ConfigData) :
    StoresDescribed (modbusSection decoder) (DescribesModbus decoder) document
        data.modbus (parseModbusConfig decoder (.valid document) data.modbus).1 ∧
      StoresDescribed (iec61850Section decoder) (Describes61850 decoder) document
        data.iec61850 (parse61850Config decoder (.valid document) data.iec61850).1 ∧
      StoresDescribed (iec104Section decoder) (Describes104 decoder) document
        data.iec104 (parse104Config decoder (.valid document) data.iec104).1 :=
  ⟨Section.storesDescribed _ (fun _ _ => parseModbusDevice_ok_iff) document _,
    Section.storesDescribed _ (fun _ _ => parse61850Device_ok_iff) document _,
    Section.storesDescribed _ (fun _ _ => parse104Device_ok_iff) document _⟩

end DataGateway.Config
