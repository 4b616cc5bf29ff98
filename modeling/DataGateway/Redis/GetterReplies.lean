import DataGateway.Redis.Getters

/-!
# Which replies the getters survive

For each getter the replies to `GET` from which it returns its default or the
value that Redis has sent.  A missing key already is none of them, except for
`getBinary`, which in turn takes a lost connection for a success.
-/

namespace DataGateway.Redis

open Foundation

inductive Getter
  | getBinary
  | getBool
  | getDInt
  | getUDInt
  | getLReal
  | getSInt
  | getUSInt
  | getLInt
  | getULInt
  | getString
  deriving DecidableEq, Repr

section

variable {α : Type}

/-- The text begins with the integer that the value stands for. -/
def DenotesInteger (type : IntegerType α) (text : List UInt8) (value : α) :
    Prop :=
  numeral? (cText text) = some (type.toInt value)

/-- The text begins with an integer that the conversion accepts, and that is in
the range of the type or happens to be cast to zero. -/
def ReadsInteger (type : IntegerType α) (least most : Int)
    (text : List UInt8) : Prop :=
  ∃ number, numeral? (cText text) = some number ∧
    (least ≤ number ∧ number ≤ most) ∧
    (type.InRange number ∨ type.modulus ∣ number)

/-- The text begins with an integer that is cast to zero. -/
def ReadsZero (type : IntegerType α) (least most : Int) (text : List UInt8) :
    Prop :=
  ∃ number, numeral? (cText text) = some number ∧
    (least ≤ number ∧ number ≤ most) ∧ type.modulus ∣ number

end

namespace Getter

def Value : Getter → Type
  | .getBinary => Bool × List UInt8
  | .getBool => Bool
  | .getDInt => Int32
  | .getUDInt => UInt32
  | .getLReal => Float
  | .getSInt => Int8
  | .getUSInt => UInt8
  | .getLInt => Int64
  | .getULInt => UInt64
  | .getString => List UInt8

/-- What a getter returns without a value; `data` is the vector that the
caller of `getBinary` has passed. -/
def default (data : List UInt8) : (getter : Getter) → getter.Value
  | .getBinary => (false, data)
  | .getBool => false
  | .getDInt => (0 : Int32)
  | .getUDInt => (0 : UInt32)
  | .getLReal => (0.0 : Float)
  | .getSInt => (0 : Int8)
  | .getUSInt => (0 : UInt8)
  | .getLInt => (0 : Int64)
  | .getULInt => (0 : UInt64)
  | .getString => ([] : List UInt8)

section

variable (stod : List UInt8 → Except ConversionFault Float)

def call (data : List UInt8) : (getter : Getter) →
    Session → String → Environment → HandleTable → Answer getter.Value
  | .getBinary => Session.getBinary data
  | .getBool => Session.getBool
  | .getDInt => Session.getDInt
  | .getUDInt => Session.getUDInt
  | .getLReal => Session.getLReal stod
  | .getSInt => Session.getSInt
  | .getUSInt => Session.getUSInt
  | .getLInt => Session.getLInt
  | .getULInt => Session.getULInt
  | .getString => Session.getString

/-- The value that a string reply stands for; an integer stands for itself, so
it has to be in the range of the type. -/
def Denotes : (getter : Getter) → List UInt8 → getter.Value → Prop
  | .getBinary => fun text value => value = (true, text)
  | .getBool => fun text value =>
      ∃ number, numeral? (cText text) = some number ∧
        (-intMax - 1 ≤ number ∧ number ≤ intMax) ∧
        value = decide (number ≠ 0)
  | .getDInt => DenotesInteger int32
  | .getUDInt => DenotesInteger uint32
  | .getLReal => fun text value => stod (cText text) = .ok value
  | .getSInt => DenotesInteger int8
  | .getUSInt => DenotesInteger uint8
  | .getLInt => DenotesInteger int64
  | .getULInt => DenotesInteger uint64
  | .getString => fun text value => value = cText text

/-- The string replies that a getter copes with. -/
def ReadsString : Getter → List UInt8 → Prop
  | .getBinary | .getString => fun _ => True
  | .getBool => fun text =>
      ∃ number, numeral? (cText text) = some number ∧
        -intMax - 1 ≤ number ∧ number ≤ intMax
  | .getDInt => ReadsInteger int32 (-longMax - 1) longMax
  | .getUDInt => ReadsInteger uint32 (-ulongMax) ulongMax
  | .getLReal => fun text => ∃ value, stod (cText text) = .ok value
  | .getSInt => ReadsInteger int8 (-intMax - 1) intMax
  | .getUSInt => ReadsInteger uint8 (-ulongMax) ulongMax
  | .getLInt => ReadsInteger int64 (-longMax - 1) longMax
  | .getULInt => ReadsInteger uint64 (-ulongMax) ulongMax

/-- The texts of errors that a getter takes for its default. -/
def ReadsDefault : Getter → List UInt8 → Prop
  | .getBinary => fun _ => True
  | .getBool => fun text => numeral? (cText text) = some 0
  | .getDInt => ReadsZero int32 (-longMax - 1) longMax
  | .getUDInt => ReadsZero uint32 (-ulongMax) ulongMax
  | .getLReal => fun text => stod (cText text) = .ok 0.0
  | .getSInt => ReadsZero int8 (-intMax - 1) intMax
  | .getUSInt => ReadsZero uint8 (-ulongMax) ulongMax
  | .getLInt => ReadsZero int64 (-longMax - 1) longMax
  | .getULInt => ReadsZero uint64 (-ulongMax) ulongMax
  | .getString => fun text => cText text = []

/-- The replies that a getter copes with, `none` for a lost connection. -/
def Copes (getter : Getter) : Option RedisReply → Prop
  | none => getter ≠ .getBinary
  | some (.string text) => getter.ReadsString stod text
  | some (.error text) | some (.status text) =>
      getter.ReadsDefault stod (bytesOf text)
  | some .nil | some (.integer _) => getter = .getBinary

end

end Getter

section

variable {α : Type} {session : Session} {handle : Nat} {key : String}
  {environment : Environment}

theorem map_convertWithin_iff {low high : Int} {text : List UInt8}
    {cast : Int → α} {value : α} :
    (convertWithin low high text).map cast = .ok value ↔
      ∃ number, numeral? text = some number ∧
        (low ≤ number ∧ number ≤ high) ∧ value = cast number := by
  constructor
  · intro mapped
    cases converted : convertWithin low high text with
    | error fault =>
        rw [converted] at mapped
        cases mapped
    | ok number =>
        rw [converted] at mapped
        cases mapped
        obtain ⟨read, within⟩ := convertWithin_eq_ok_iff.mp converted
        exact ⟨number, read, within, rfl⟩
  · rintro ⟨number, read, within, rfl⟩
    rw [convertWithin_eq_ok_iff.mpr ⟨read, within⟩]
    rfl

/-- What an integer getter makes of a text: a conversion that accepts some of
the integers, and a cast. -/
structure CastsInteger (type : IntegerType α) (least most : Int) (default : α)
    (convert : List UInt8 → Except ConversionFault α) : Prop where
  zero : default = type.ofInt 0
  converts : ∀ text value, convert text = .ok value ↔
    ∃ number, numeral? text = some number ∧
      (least ≤ number ∧ number ≤ most) ∧ value = type.ofInt number

namespace CastsInteger

variable {type : IntegerType α} {least most : Int} {default : α}
  {convert : List UInt8 → Except ConversionFault α}

theorem readsInteger (casts : CastsInteger type least most default convert)
    (text : List UInt8) :
    (∃ value, convert (cText text) = .ok value ∧
        (value = default ∨ DenotesInteger type text value)) ↔
      ReadsInteger type least most text := by
  constructor
  · rintro ⟨value, converted, right⟩
    obtain ⟨number, read, within, rfl⟩ := (casts.converts _ _).mp converted
    refine ⟨number, read, within, ?_⟩
    apply (type.cast_faithful_iff number).mp
    rcases right with isDefault | denotes
    · exact .inl (isDefault.trans casts.zero)
    · rw [DenotesInteger, read] at denotes
      exact .inr (Option.some.inj denotes)
  · rintro ⟨number, read, within, right⟩
    refine ⟨type.ofInt number,
      (casts.converts _ _).mpr ⟨number, read, within, rfl⟩, ?_⟩
    rcases (type.cast_faithful_iff number).mpr right with isZero | exact
    · exact .inl (isZero.trans casts.zero.symm)
    · refine .inr ?_
      rw [DenotesInteger, read, ← exact]

theorem readsZero (casts : CastsInteger type least most default convert)
    (text : List UInt8) :
    convert (cText text) = .ok default ↔ ReadsZero type least most text := by
  rw [casts.converts]
  constructor
  · rintro ⟨number, read, within, same⟩
    refine ⟨number, read, within, ?_⟩
    apply (type.ofInt_eq_zero_iff number).mp
    rw [← same, casts.zero]
  · rintro ⟨number, read, within, divides⟩
    refine ⟨number, read, within, ?_⟩
    rw [(type.ofInt_eq_zero_iff number).mpr divides, casts.zero]

end CastsInteger

theorem castsInteger_int32 : CastsInteger int32 (-longMax - 1) longMax 0
    fun text => (stol text).map Int32.ofInt :=
  ⟨rfl, fun _ _ => map_convertWithin_iff⟩

theorem castsInteger_int8 : CastsInteger int8 (-intMax - 1) intMax 0
    fun text => (stoi text).map Int8.ofInt :=
  ⟨rfl, fun _ _ => map_convertWithin_iff⟩

theorem castsInteger_int64 : CastsInteger int64 (-longMax - 1) longMax 0
    fun text => (stoll text).map Int64.ofInt :=
  ⟨rfl, fun _ _ => map_convertWithin_iff⟩

theorem castsInteger_unsigned {type : IntegerType α} {default : α}
    {cast : Nat → α} (zero : default = type.ofInt 0)
    (wraps : ∀ number : Int,
      cast (number % (ulongMax + 1)).toNat = type.ofInt number) :
    CastsInteger type (-ulongMax) ulongMax default
      fun text => (stoul text).map cast := by
  refine ⟨zero, ?_⟩
  intro text value
  have composed : (stoul text).map cast =
      (convertWithin (-ulongMax) ulongMax text).map type.ofInt := by
    unfold stoul
    cases convertWithin (-ulongMax) ulongMax text with
    | error fault => rfl
    | ok number => exact congrArg Except.ok (wraps number)
  rw [composed]
  exact map_convertWithin_iff

theorem castsInteger_uint32 : CastsInteger uint32 (-ulongMax) ulongMax 0
    fun text => (stoul text).map UInt32.ofNat :=
  castsInteger_unsigned rfl uint32_ofNat_mod

theorem castsInteger_uint8 : CastsInteger uint8 (-ulongMax) ulongMax 0
    fun text => (stoul text).map UInt8.ofNat :=
  castsInteger_unsigned rfl uint8_ofNat_mod

theorem castsInteger_uint64 : CastsInteger uint64 (-ulongMax) ulongMax 0
    fun text => (stoull text).map UInt64.ofNat :=
  castsInteger_unsigned rfl fun _ => rfl

/-- `getBinary` looks at the type of the reply, and reports success for a lost
connection. -/
theorem survives_getBinary_iff (pointer : session.context = some handle)
    (live : session.contexts.Live handle) (answers : environment.Answers)
    (data : List UInt8) :
    Survives (false, data) (fun text value => value = (true, text))
        (environment.query (.get (cStr key))).reply
        (Session.getBinary data session key environment .empty) ↔
      (environment.query (.get (cStr key))).reply ≠ none := by
  rcases Session.fetch_cases pointer live key answers with
    ⟨next, lost, fetched⟩ | ⟨reply, replied, fetched⟩
  · have answer : Session.getBinary data session key environment .empty =
        (.empty, .ok (next, (true, data))) := by
      simp [Session.getBinary, fetched, Session.received, lost]
    rw [answer, lost]
    constructor
    · rintro ⟨_, other, value, same, isDefault | ⟨text, impossible, _⟩⟩
      · cases same
        cases isDefault
      · cases impossible
    · intro impossible
      exact (impossible rfl).elim
  · rw [replied]
    refine ⟨fun _ => by simp, fun _ => ?_⟩
    cases reply with
    | string bytes =>
        obtain ⟨freed, returned, released⟩ :=
          Session.freeReply_acquired session (true, bytes)
        have answer : Session.getBinary data session key environment .empty =
            (freed, .ok (session, (true, bytes))) := by
          simp only [Session.getBinary, fetched, Session.received, replied]
          exact returned
        rw [answer]
        exact (survives_of_ok_iff released).mpr (.inr ⟨bytes, rfl, rfl⟩)
    | _ =>
        obtain ⟨freed, returned, released⟩ :=
          Session.freeReply_acquired session (false, data)
        have answer : Session.getBinary data session key environment .empty =
            (freed, .ok (session, (false, data))) := by
          simp only [Session.getBinary, fetched, Session.received, replied]
          exact returned
        rw [answer]
        exact (survives_of_ok_iff released).mpr (.inl rfl)

theorem survives_iff_copes (pointer : session.context = some handle)
    (live : session.contexts.Live handle) (answers : environment.Answers)
    (stod : List UInt8 → Except ConversionFault Float) {getter : Getter}
    (converts : getter ≠ .getBinary) {default : α}
    {convert : List UInt8 → Except ConversionFault α}
    {denotes : List UInt8 → α → Prop}
    (strings : ∀ text, (∃ value, convert (cText text) = .ok value ∧
        (value = default ∨ denotes text value)) ↔
      getter.ReadsString stod text)
    (others : ∀ text, convert (cText text) = .ok default ↔
      getter.ReadsDefault stod text) :
    Survives default denotes (environment.query (.get (cStr key))).reply
        (Session.getConverted default convert session key environment .empty) ↔
      getter.Copes stod (environment.query (.get (cStr key))).reply := by
  rw [survives_getConverted_iff pointer live answers]
  cases (environment.query (.get (cStr key))).reply with
  | none => simp [Getter.Copes, converts]
  | some reply =>
      cases reply with
      | string text =>
          rw [Getter.Copes, ← strings text]
          simp [RedisReply.str?]
      | error text | status text =>
          rw [Getter.Copes, ← others (bytesOf text)]
          simp [RedisReply.str?]
      | nil | integer => simp [Getter.Copes, converts, RedisReply.str?]

private theorem getBool_strings (text : List UInt8) :
    (∃ value, (stoi (cText text)).map (fun number => decide (number ≠ 0)) =
          .ok value ∧
        (value = false ∨ ∃ number, numeral? (cText text) = some number ∧
          (-intMax - 1 ≤ number ∧ number ≤ intMax) ∧
          value = decide (number ≠ 0))) ↔
      ∃ number, numeral? (cText text) = some number ∧
        -intMax - 1 ≤ number ∧ number ≤ intMax := by
  constructor
  · rintro ⟨value, converted, _⟩
    obtain ⟨number, read, within, _⟩ := map_convertWithin_iff.mp converted
    exact ⟨number, read, within⟩
  · rintro ⟨number, read, within⟩
    exact ⟨_, map_convertWithin_iff.mpr ⟨number, read, within, rfl⟩,
      .inr ⟨number, read, within, rfl⟩⟩

private theorem getBool_others (text : List UInt8) :
    (stoi (cText text)).map (fun number => decide (number ≠ 0)) = .ok false ↔
      numeral? (cText text) = some 0 := by
  constructor
  · intro converted
    obtain ⟨number, read, _, isZero⟩ := map_convertWithin_iff.mp converted
    have zero : number = 0 := by simpa using isZero.symm
    rw [read, zero]
  · intro read
    exact map_convertWithin_iff.mpr ⟨0, read, by decide, rfl⟩

end

/-- Every getter, on every live context, survives exactly the replies that it
copes with. -/
theorem getter_survives_iff (stod : List UInt8 → Except ConversionFault Float)
    (data : List UInt8) (session : Session) (handle : Nat)
    (pointer : session.context = some handle)
    (live : session.contexts.Live handle) (key : String)
    (environment : Environment) (answers : environment.Answers)
    (getter : Getter) :
    Survives (getter.default data) (getter.Denotes stod)
        (environment.query (.get (cStr key))).reply
        (getter.call stod data session key environment .empty) ↔
      getter.Copes stod (environment.query (.get (cStr key))).reply := by
  cases getter with
  | getBinary =>
      rw [Getter.default, Getter.call]
      refine (survives_getBinary_iff pointer live answers data).trans ?_
      cases (environment.query (.get (cStr key))).reply with
      | none => simp [Getter.Copes]
      | some reply =>
          cases reply <;> simp [Getter.Copes, Getter.ReadsString, Getter.ReadsDefault]
  | getBool =>
      exact survives_iff_copes pointer live answers stod (by simp)
        getBool_strings getBool_others
  | getLReal =>
      refine survives_iff_copes pointer live answers stod (by simp) ?_
        (fun _ => Iff.rfl)
      intro text
      constructor
      · rintro ⟨value, converted, _⟩
        exact ⟨value, converted⟩
      · rintro ⟨value, converted⟩
        exact ⟨value, converted, .inr converted⟩
  | getString =>
      refine survives_iff_copes pointer live answers stod (by simp) ?_ ?_
      · intro text
        exact ⟨fun _ => trivial, fun _ => ⟨_, rfl, .inr rfl⟩⟩
      · intro text
        constructor
        · intro converted
          exact Except.ok.inj converted
        · intro empty
          exact congrArg Except.ok empty
  | getDInt =>
      exact survives_iff_copes pointer live answers stod (by simp)
        castsInteger_int32.readsInteger castsInteger_int32.readsZero
  | getUDInt =>
      exact survives_iff_copes pointer live answers stod (by simp)
        castsInteger_uint32.readsInteger castsInteger_uint32.readsZero
  | getSInt =>
      exact survives_iff_copes pointer live answers stod (by simp)
        castsInteger_int8.readsInteger castsInteger_int8.readsZero
  | getUSInt =>
      exact survives_iff_copes pointer live answers stod (by simp)
        castsInteger_uint8.readsInteger castsInteger_uint8.readsZero
  | getLInt =>
      exact survives_iff_copes pointer live answers stod (by simp)
        castsInteger_int64.readsInteger castsInteger_int64.readsZero
  | getULInt =>
      exact survives_iff_copes pointer live answers stod (by simp)
        castsInteger_uint64.readsInteger castsInteger_uint64.readsZero

/-- A server that gives this reply to every query, or none at all. -/
def replying (reply : Option RedisReply) : Environment :=
  { connect := fun _ => .connected
    query := fun _ => { reply := reply, err := reply.isNone }
    set := fun _ => SetOutcome.lost false
    append := fun _ => false
    nextReply := none }

private theorem replying_answers (reply : Option RedisReply) :
    (replying reply).Answers := by
  intro query other replied
  cases replied
  rfl

def openSession : Session := (blank (some true)).openContext .connected

/-- A text that is no number, a conversion that accepts none. -/
def noFloat (_ : List UInt8) : Except ConversionFault Float :=
  .error .invalidArgument

theorem getter_survives_iff_missing :
    Survives (Getter.getString.default []) (Getter.getString.Denotes noFloat)
        ((replying (some .nil)).query (.get (cStr "modbus_data:plc:level"))).reply
        (Getter.getString.call noFloat [] openSession "modbus_data:plc:level"
          (replying (some .nil)) .empty) ↔
      Getter.getString.Copes noFloat
        ((replying (some .nil)).query
          (.get (cStr "modbus_data:plc:level"))).reply :=
  getter_survives_iff noFloat [] openSession 0 rfl (by decide)
    "modbus_data:plc:level" (replying (some .nil)) (replying_answers _)
    .getString

/-- A missing key, a text that is no number, a number that is too large for the
type, and a lost connection for `getBinary`. -/
theorem not_survives_missing :
    ¬Survives (0 : Int32) (DenotesInteger int32) (some .nil)
        (Session.getDInt openSession "modbus_data:plc:level"
          (replying (some .nil)) .empty) ∧
      ¬Survives (0 : Int64) (DenotesInteger int64)
        (some (.string (bytesOf "n/a")))
        (Session.getLInt openSession "modbus_data:plc:level"
          (replying (some (.string (bytesOf "n/a")))) .empty) ∧
      ¬Survives (0 : UInt8) (DenotesInteger uint8)
        (some (.string (bytesOf "300")))
        (Session.getUSInt openSession "modbus_data:plc:level"
          (replying (some (.string (bytesOf "300")))) .empty) ∧
      ¬Survives (false, []) (fun text value => value = (true, text)) none
        (Session.getBinary [] openSession "modbus_data:plc:level"
          (replying none) .empty) := by
  refine ⟨?_, ?_, ?_, ?_⟩
  · rintro ⟨_, next, value, returned, _⟩
    cases returned
  · rintro ⟨_, next, value, returned, _⟩
    cases returned
  · rintro ⟨_, next, value, returned, wrong⟩
    have wrapped : value = 44 := by
      cases returned
      decide
    subst wrapped
    rcases wrong with isDefault | ⟨text, same, denotes⟩
    · cases isDefault
    · cases same
      have read : numeral? (cText (bytesOf "300")) = some 44 := denotes
      exact absurd read (by decide)
  · rintro ⟨_, next, value, returned, wrong⟩
    cases returned
    rcases wrong with isDefault | ⟨text, impossible, _⟩
    · cases isDefault
    · cases impossible

end DataGateway.Redis
