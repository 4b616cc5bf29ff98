import Mathlib.Algebra.Order.Group.Unbundled.Int
import Mathlib.Tactic.Common

/-!
# Machine integer types

A type with one value for each residue of a modulus, each of which stands for
the integer of its residue in a fixed interval about zero.  A cast to it keeps
an integer of the interval and wraps every other.
-/

namespace DataGateway.Foundation

structure IntegerType (α : Type) where
  toInt : α → Int
  ofInt : Int → α
  low : Int
  modulus : Int
  zeroInside : low ≤ 0 ∧ 0 < low + modulus
  bounds : ∀ value, low ≤ toInt value ∧ toInt value < low + modulus
  wraps : ∀ number, modulus ∣ toInt (ofInt number) - number
  exact : ∀ value, ofInt (toInt value) = value

namespace IntegerType

variable {α : Type} (type : IntegerType α)

def InRange (number : Int) : Prop :=
  type.low ≤ number ∧ number < type.low + type.modulus

theorem eq_of_dvd {first second : Int} (firstInside : type.InRange first)
    (secondInside : type.InRange second)
    (congruent : type.modulus ∣ first - second) : first = second := by
  obtain ⟨least, below⟩ := firstInside
  obtain ⟨otherLeast, otherBelow⟩ := secondInside
  have small : |first - second| < type.modulus := by
    apply abs_lt.mpr
    constructor <;> omega
  have none := Int.eq_zero_of_abs_lt_dvd congruent small
  omega

theorem toInt_ofInt_iff (number : Int) :
    type.toInt (type.ofInt number) = number ↔ type.InRange number := by
  constructor
  · intro same
    rw [← same]
    exact type.bounds _
  · intro inside
    exact type.eq_of_dvd (type.bounds _) inside (type.wraps number)

theorem ofInt_eq_zero_iff (number : Int) :
    type.ofInt number = type.ofInt 0 ↔ type.modulus ∣ number := by
  have zero : type.toInt (type.ofInt 0) = 0 :=
    (type.toInt_ofInt_iff 0).mpr type.zeroInside
  have wraps := type.wraps number
  constructor
  · intro same
    rw [same, zero] at wraps
    simpa using wraps
  · intro divides
    have residue : type.modulus ∣ type.toInt (type.ofInt number) - 0 := by
      have sum := Int.dvd_add wraps divides
      simpa using sum
    have same := type.eq_of_dvd (type.bounds _) type.zeroInside residue
    have exact := type.exact (type.ofInt number)
    rw [← exact, same]

/-- A conversion that reads some integers and casts them to the type gives the
integer itself or zero exactly for those in range and the multiples of the
modulus. -/
theorem cast_faithful_iff (number : Int) :
    (type.ofInt number = type.ofInt 0 ∨
        number = type.toInt (type.ofInt number)) ↔
      type.InRange number ∨ type.modulus ∣ number := by
  rw [type.ofInt_eq_zero_iff, eq_comm, type.toInt_ofInt_iff]
  exact Or.comm

end IntegerType

def int8 : IntegerType Int8 :=
  { toInt := Int8.toInt
    ofInt := Int8.ofInt
    low := -128
    modulus := 256
    zeroInside := by omega
    bounds := by
      intro value
      have least := Int8.le_toInt value
      have below := Int8.toInt_lt value
      omega
    wraps := by
      intro number
      rw [Int8.toInt_ofInt]
      exact Int.dvd_bmod_sub_self
    exact := fun value => Int8.ofInt_toInt value }

def int32 : IntegerType Int32 :=
  { toInt := Int32.toInt
    ofInt := Int32.ofInt
    low := -2147483648
    modulus := 4294967296
    zeroInside := by omega
    bounds := by
      intro value
      have least := Int32.le_toInt value
      have below := Int32.toInt_lt value
      omega
    wraps := by
      intro number
      rw [Int32.toInt_ofInt]
      exact Int.dvd_bmod_sub_self
    exact := fun value => Int32.ofInt_toInt value }

def int64 : IntegerType Int64 :=
  { toInt := Int64.toInt
    ofInt := Int64.ofInt
    low := -9223372036854775808
    modulus := 18446744073709551616
    zeroInside := by omega
    bounds := by
      intro value
      have least := Int64.le_toInt value
      have below := Int64.toInt_lt value
      omega
    wraps := by
      intro number
      rw [Int64.toInt_ofInt]
      exact Int.dvd_bmod_sub_self
    exact := fun value => Int64.ofInt_toInt value }

def uint8 : IntegerType UInt8 :=
  { toInt := fun value => value.toNat
    ofInt := fun number => UInt8.ofNat (number % 256).toNat
    low := 0
    modulus := 256
    zeroInside := by omega
    bounds := by
      intro value
      have below := value.toNat_lt
      omega
    wraps := by
      intro number
      rw [UInt8.toNat_ofNat']
      omega
    exact := by
      intro value
      apply UInt8.toNat_inj.mp
      have below := value.toNat_lt
      rw [UInt8.toNat_ofNat']
      omega }

def uint32 : IntegerType UInt32 :=
  { toInt := fun value => value.toNat
    ofInt := fun number => UInt32.ofNat (number % 4294967296).toNat
    low := 0
    modulus := 4294967296
    zeroInside := by omega
    bounds := by
      intro value
      have below := value.toNat_lt
      omega
    wraps := by
      intro number
      rw [UInt32.toNat_ofNat']
      omega
    exact := by
      intro value
      apply UInt32.toNat_inj.mp
      have below := value.toNat_lt
      rw [UInt32.toNat_ofNat']
      omega }

def uint64 : IntegerType UInt64 :=
  { toInt := fun value => value.toNat
    ofInt := fun number => UInt64.ofNat (number % 18446744073709551616).toNat
    low := 0
    modulus := 18446744073709551616
    zeroInside := by omega
    bounds := by
      intro value
      have below := value.toNat_lt
      omega
    wraps := by
      intro number
      rw [UInt64.toNat_ofNat']
      omega
    exact := by
      intro value
      apply UInt64.toNat_inj.mp
      have below := value.toNat_lt
      rw [UInt64.toNat_ofNat']
      omega }

theorem uint8_ofNat_mod (number : Int) :
    UInt8.ofNat (number % 18446744073709551616).toNat = uint8.ofInt number := by
  apply UInt8.toNat_inj.mp
  simp only [uint8, UInt8.toNat_ofNat']
  omega

theorem uint32_ofNat_mod (number : Int) :
    UInt32.ofNat (number % 18446744073709551616).toNat =
      uint32.ofInt number := by
  apply UInt32.toNat_inj.mp
  simp only [uint32, UInt32.toNat_ofNat']
  omega

end DataGateway.Foundation
