import DataGateway.Redis.Acknowledgement
import DataGateway.Redis.GetterReplies

/-!
# Stored values read back

What a `store*` operation prints into its `SET`, as the bytes that a later
`GET` returns, and the getter that belongs to it.  Every value survives the way
there and back, over the whole range of its type.
-/

namespace DataGateway.Redis

open Foundation

/-- The text with one character for each byte. -/
def ofBytes (bytes : List UInt8) : String :=
  String.ofList (bytes.map Char.ofUInt8)

/-- The command argument that hiredis makes of a format argument. -/
def FormatArg.bytes (printFloat : Float → List UInt8) :
    FormatArg → List UInt8
  | .d value | .lld value => signedDecimal value
  | .u value | .llu value => decimal value
  | .f value => printFloat value
  | .s text => bytesOf text
  | .b data => data

/-- A value with the pair of operations that stores it and reads it back. -/
inductive StoredValue
  | bool (value : Bool)
  | dInt (value : Int32)
  | uDInt (value : UInt32)
  | sInt (value : Int8)
  | uSInt (value : UInt8)
  | byte (value : UInt8)
  | lInt (value : Int64)
  | uLInt (value : UInt64)
  | dWord (value : UInt32)
  | lWord (value : UInt64)
  | string (text : List UInt8)
  | char (text : List UInt8)
  | binary (data : List UInt8)

namespace StoredValue

def call (key : String) : StoredValue → StoreCall
  | .bool value => .storeBool key value
  | .dInt value => .storeDInt key value
  | .uDInt value => .storeUDInt key value
  | .sInt value => .storeSInt key value
  | .uSInt value => .storeUSInt key value
  | .byte value => .storeByte key value
  | .lInt value => .storeLInt key value
  | .uLInt value => .storeULInt key value
  | .dWord value => .storeDWord key value
  | .lWord value => .storeLWord key value
  | .string text => .storeString key (ofBytes text)
  | .char text => .storeChar key (some (ofBytes text))
  | .binary data => .storeBinary key (some data)

/-- Texts have no NUL and binaries are not empty. -/
def Storable : StoredValue → Prop
  | .string text | .char text => 0 ∉ text
  | .binary data => data ≠ []
  | _ => True

/-- What Redis gets to store. -/
def printed : StoredValue → List UInt8
  | .bool value => signedDecimal (if value then 1 else 0)
  | .dInt value => signedDecimal value.toInt
  | .uDInt value | .dWord value => signedDecimal value.toNat
  | .sInt value => signedDecimal value.toInt
  | .uSInt value | .byte value => signedDecimal value.toNat
  | .lInt value => signedDecimal value.toInt
  | .uLInt value | .lWord value => signedDecimal value.toNat
  | .string text | .char text => text
  | .binary data => data

/-- The matching getter returns the value; the vector passed to `getBinary` is
replaced. -/
def ReadsBack (session : Session) (key : String) (environment : Environment) :
    StoredValue → Prop
  | .bool value =>
      (session.getBool key environment .empty).2 = .ok (session, value)
  | .dInt value =>
      (session.getDInt key environment .empty).2 = .ok (session, value)
  | .uDInt value =>
      (session.getUDInt key environment .empty).2 = .ok (session, value)
  | .sInt value =>
      (session.getSInt key environment .empty).2 = .ok (session, value)
  | .uSInt value =>
      (session.getUSInt key environment .empty).2 = .ok (session, value)
  | .byte value =>
      (session.getByte key environment .empty).2 = .ok (session, value)
  | .lInt value =>
      (session.getLInt key environment .empty).2 = .ok (session, value)
  | .uLInt value =>
      (session.getULInt key environment .empty).2 = .ok (session, value)
  | .dWord value =>
      (session.getDWord key environment .empty).2 = .ok (session, value)
  | .lWord value =>
      (session.getLWord key environment .empty).2 = .ok (session, value)
  | .string text | .char text =>
      (session.getString key environment .empty).2 = .ok (session, text)
  | .binary bytes => ∀ data,
      (session.getBinary data key environment .empty).2 =
        .ok (session, (true, bytes))

end StoredValue

/-- Since one session nothing has been written to the key. -/
def KeepsKey (key : String) (session later : Session) : Prop :=
  ∃ commands, later.executed = commands ++ session.executed ∧
    ∀ command ∈ commands, command.key ≠ cStr key

/-- `GET` returns the bytes of the last `SET`. -/
def Environment.Serves (printFloat : Float → List UInt8)
    (environment : Environment) (session : Session) (key : String) : Prop :=
  ∀ argument, session.valueOf (cStr key) = some argument →
    environment.query (.get (cStr key)) =
      { reply := some (.string (argument.bytes printFloat)), err := false }

private theorem toUInt8_ofUInt8 (byte : UInt8) : (Char.ofUInt8 byte).toUInt8 = byte := by
  apply UInt8.toNat_inj.mp
  have below := byte.toNat_lt
  exact Nat.mod_eq_of_lt below

theorem bytesOf_ofBytes (bytes : List UInt8) :
    bytesOf (ofBytes bytes) = bytes := by
  simp only [bytesOf, ofBytes, String.toList_ofList, List.map_map]
  apply List.map_id''
  exact toUInt8_ofUInt8

theorem cStr_ofBytes {bytes : List UInt8} (noNul : 0 ∉ bytes) :
    cStr (ofBytes bytes) = ofBytes bytes := by
  unfold cStr ofBytes
  rw [String.toList_ofList]
  congr 1
  rw [List.takeWhile_eq_self_iff]
  intro char member
  obtain ⟨byte, inside, rfl⟩ := List.mem_map.mp member
  have nonzero : Char.ofUInt8 byte ≠ '\x00' := by
    intro same
    have isZero : (0 : UInt8) = byte := by
      rw [← toUInt8_ofUInt8 byte, same]
      rfl
    rw [isZero] at noNul
    exact noNul inside
  simpa using nonzero

theorem StoredValue.command_printed (printFloat : Float → List UInt8)
    {value : StoredValue} (storable : value.Storable) (key : String) :
    ∃ argument, (value.call key).command? = some ⟨cStr key, argument⟩ ∧
      argument.bytes printFloat = value.printed := by
  cases value with
  | bool value => cases value <;> exact ⟨_, rfl, rfl⟩
  | string text =>
      refine ⟨.s (cStr (ofBytes text)), rfl, ?_⟩
      rw [FormatArg.bytes, cStr_ofBytes storable, bytesOf_ofBytes]
      rfl
  | char text =>
      refine ⟨.s (cStr (ofBytes text)), rfl, ?_⟩
      rw [FormatArg.bytes, cStr_ofBytes storable, bytesOf_ofBytes]
      rfl
  | binary data =>
      cases data with
      | nil => exact (storable rfl).elim
      | cons byte data => exact ⟨.b (byte :: data), rfl, rfl⟩
  | _ => exact ⟨_, rfl, rfl⟩

section

variable {α : Type} {session : Session} {handle : Nat} {key : String}
  {environment : Environment} {bytes : List UInt8}

theorem Session.fetch_string (pointer : session.context = some handle)
    (live : session.contexts.Live handle)
    (answered : environment.query (.get (cStr key)) =
      { reply := some (.string bytes), err := false }) :
    session.fetch key environment =
      .ok (session, .converted (.string bytes)) := by
  rw [Session.fetch_of_live pointer live, answered]
  rfl

theorem Session.getConverted_string (pointer : session.context = some handle)
    (live : session.contexts.Live handle)
    (answered : environment.query (.get (cStr key)) =
      { reply := some (.string bytes), err := false })
    (default : α) {convert : List UInt8 → Except ConversionFault α} {value : α}
    (converted : convert (cText bytes) = .ok value) :
    (Session.getConverted default convert session key environment .empty).2 =
      .ok (session, value) := by
  have replied : (environment.query (.get (cStr key))).reply =
      some (.string bytes) := by
    rw [answered]
  obtain ⟨freed, returned, _⟩ := Session.freeReply_acquired session value
  rw [Session.getConverted_replied default convert
    (Session.fetch_string pointer live answered) replied]
  simp only [RedisReply.str?, converted, returned]

theorem Session.getBinary_string (pointer : session.context = some handle)
    (live : session.contexts.Live handle)
    (answered : environment.query (.get (cStr key)) =
      { reply := some (.string bytes), err := false }) (data : List UInt8) :
    (session.getBinary data key environment .empty).2 =
      .ok (session, (true, bytes)) := by
  obtain ⟨freed, returned, _⟩ :=
    Session.freeReply_acquired session (true, bytes)
  simp only [Session.getBinary, Session.fetch_string pointer live answered,
    Session.received, answered, Option.isSome_some, if_true, returned]

theorem CastsInteger.roundTrip {type : IntegerType α} {least most : Int}
    {default : α} {convert : List UInt8 → Except ConversionFault α}
    (casts : CastsInteger type least most default convert)
    (accepted : least ≤ type.low ∧ type.low + type.modulus - 1 ≤ most)
    (value : α) :
    convert (cText (signedDecimal (type.toInt value))) = .ok value := by
  apply (casts.converts _ _).mpr
  obtain ⟨least, below⟩ := type.bounds value
  refine ⟨type.toInt value, ?_, ⟨by omega, by omega⟩, (type.exact value).symm⟩
  rw [cText_signedDecimal]
  exact numeral?_signedDecimal _

private theorem getBool_roundTrip (value : Bool) :
    (stoi (cText (signedDecimal (if value then 1 else 0)))).map
        (fun number => decide (number ≠ 0)) = .ok value := by
  rw [cText_signedDecimal]
  apply map_convertWithin_iff.mpr
  refine ⟨_, numeral?_signedDecimal _, ?_, ?_⟩
  · cases value <;> decide
  · cases value <;> rfl

theorem StoredValue.readsBack_printed {value : StoredValue}
    (storable : value.Storable) (pointer : session.context = some handle)
    (live : session.contexts.Live handle)
    (answered : environment.query (.get (cStr key)) =
      { reply := some (.string value.printed), err := false }) :
    value.ReadsBack session key environment := by
  cases value with
  | bool value =>
      exact Session.getConverted_string pointer live answered _
        (getBool_roundTrip value)
  | dInt value =>
      exact Session.getConverted_string pointer live answered _
        (castsInteger_int32.roundTrip (by decide) value)
  | uDInt value | dWord value =>
      exact Session.getConverted_string pointer live answered _
        (castsInteger_uint32.roundTrip (by decide) value)
  | sInt value =>
      exact Session.getConverted_string pointer live answered _
        (castsInteger_int8.roundTrip (by decide) value)
  | uSInt value | byte value =>
      exact Session.getConverted_string pointer live answered _
        (castsInteger_uint8.roundTrip (by decide) value)
  | lInt value =>
      exact Session.getConverted_string pointer live answered _
        (castsInteger_int64.roundTrip (by decide) value)
  | uLInt value | lWord value =>
      exact Session.getConverted_string pointer live answered _
        (castsInteger_uint64.roundTrip (by decide) value)
  | string text | char text =>
      have whole : cText text = text := cText_of_noNul storable
      exact Session.getConverted_string pointer live answered []
        (congrArg Except.ok whole)
  | binary bytes =>
      exact Session.getBinary_string pointer live answered

theorem Session.store_executed {call : StoreCall} {after : Session}
    {accepted : Bool} {command : SetCommand}
    (sent : call.command? = some command)
    (stored : session.store call environment = .ok (after, accepted))
    (executed : (environment.set command).executed = true) :
    after.executed = command :: session.executed := by
  simp only [Session.store, sent] at stored
  cases used : session.contexts.use session.context with
  | error fault =>
      simp only [Session.storeValue, used] at stored
      cases stored
  | ok _ =>
      obtain ⟨handle, pointer, live⟩ := HandleTable.use_eq_ok_iff.mp used
      obtain ⟨next, result, served⟩ :=
        Session.storeValue_returns pointer live command environment
      cases stored.symm.trans result
      rw [served]
      exact Session.serve_executed_iff.mpr executed

theorem KeepsKey.valueOf {command : SetCommand} {after later : Session}
    {earlier : List SetCommand} (keeps : KeepsKey key after later)
    (last : after.executed = command :: earlier)
    (same : command.key = cStr key) :
    later.valueOf (cStr key) = some command.argument := by
  obtain ⟨commands, grown, others⟩ := keeps
  have skipped : commands.find? (·.key = cStr key) = none := by
    rw [List.find?_eq_none]
    intro other member
    simpa using others other member
  simp [Session.valueOf, grown, last, List.find?_append, skipped, same]

end

/-- A value whose `SET` was executed is what the matching getter returns on a
working connection, as long as nobody writes to the key. -/
theorem storedValue_readsBack (printFloat : Float → List UInt8)
    (value : StoredValue) (storable : value.Storable) (key : String)
    (session after reached : Session) (sending reading : Environment)
    (accepted : Bool)
    (stored : session.store (value.call key) sending = .ok (after, accepted))
    (executed : ∀ command, (value.call key).command? = some command →
      (sending.set command).executed = true)
    (keeps : KeepsKey key after reached) (handle : Nat)
    (pointer : reached.context = some handle)
    (live : reached.contexts.Live handle)
    (serves : reading.Serves printFloat reached key) :
    value.ReadsBack reached key reading := by
  obtain ⟨argument, sent, printed⟩ :=
    StoredValue.command_printed printFloat storable key
  have last := Session.store_executed sent stored (executed _ sent)
  have answered := serves argument (keeps.valueOf last rfl)
  rw [printed] at answered
  exact StoredValue.readsBack_printed storable pointer live answered

/-- A server that executes every command. -/
def executing : Environment :=
  { replying none with
    set := fun _ =>
      { reply := some (.status "OK")
        err := false
        executed := true
        answered := by
          intro answer same
          cases same
          rfl } }

/-- A text of a percent sign, a space and a quote. -/
theorem storedValue_readsBack_text :
    (StoredValue.string [37, 32, 34]).ReadsBack
      { openSession with
        executed := [⟨cStr "modbus_data:plc:unit", .s (cStr (ofBytes [37, 32, 34]))⟩] }
      "modbus_data:plc:unit" (replying (some (.string [37, 32, 34]))) := by
  have storable : (StoredValue.string [37, 32, 34]).Storable := by
    simp [StoredValue.Storable]
  refine storedValue_readsBack (fun _ => []) _ storable "modbus_data:plc:unit"
    openSession _ _ executing _ true rfl (fun _ _ => rfl) ⟨[], rfl, by simp⟩ 0
    rfl (by decide) ?_
  intro argument held
  simp only [Session.valueOf, List.find?_cons, decide_true] at held
  cases held
  rw [FormatArg.bytes, cStr_ofBytes storable, bytesOf_ofBytes]
  rfl

end DataGateway.Redis
