import Mathlib.Data.Nat.Bitwise
import Mathlib.Tactic.Common

/-!
# Numbers of 32 bits in two words

A number of 32 bits is stored in two words of 16 bits, in one of two orders.
Splitting the number that two words are joined to gives the words back, for each
order.
-/

namespace DataGateway.Foundation

inductive WordOrder
  | highFirst
  | lowFirst
  deriving DecidableEq, Repr

def lowWord (number : UInt32) : UInt16 := number.toUInt16

def highWord (number : UInt32) : UInt16 := (number >>> 16).toUInt16

def joinWords (low high : UInt16) : UInt32 :=
  low.toUInt32 ||| (high.toUInt32 <<< 16)

/-- The first and the second word of a number. -/
def WordOrder.split (order : WordOrder) (number : UInt32) : UInt16 × UInt16 :=
  match order with
  | .highFirst => (highWord number, lowWord number)
  | .lowFirst => (lowWord number, highWord number)

def WordOrder.join (order : WordOrder) (first second : UInt16) : UInt32 :=
  match order with
  | .highFirst => joinWords second first
  | .lowFirst => joinWords first second

theorem toNat_lowWord (number : UInt32) :
    (lowWord number).toNat = number.toNat % 2 ^ 16 := by
  simp [lowWord]

theorem toNat_highWord (number : UInt32) :
    (highWord number).toNat = number.toNat / 2 ^ 16 := by
  have below : number.toNat < 2 ^ 32 := number.toNat_lt
  simp only [highWord, UInt32.toNat_toUInt16, UInt32.toNat_shiftRight]
  rw [Nat.shiftRight_eq_div_pow]
  apply Nat.mod_eq_of_lt
  simp only [UInt32.reduceToNat, Nat.reduceMod]
  omega

theorem toNat_joinWords (low high : UInt16) :
    (joinWords low high).toNat = low.toNat + 2 ^ 16 * high.toNat := by
  have lowBelow : low.toNat < 2 ^ 16 := low.toNat_lt
  have highBelow : high.toNat < 2 ^ 16 := high.toNat_lt
  have shifted : (high.toUInt32 <<< 16).toNat = high.toNat <<< 16 := by
    simp only [UInt32.toNat_shiftLeft, UInt16.toNat_toUInt32]
    apply Nat.mod_eq_of_lt
    simp only [UInt32.reduceToNat, Nat.reduceMod, Nat.shiftLeft_eq]
    omega
  rw [joinWords, UInt32.toNat_or, shifted, UInt16.toNat_toUInt32, Nat.or_comm,
    ← Nat.shiftLeft_add_eq_or_of_lt lowBelow, Nat.shiftLeft_eq]
  omega

theorem joinWords_eq_iff {low high : UInt16} {number : UInt32} :
    joinWords low high = number ↔
      low = lowWord number ∧ high = highWord number := by
  have lowBelow : low.toNat < 2 ^ 16 := low.toNat_lt
  rw [← UInt32.toNat_inj, ← UInt16.toNat_inj, ← UInt16.toNat_inj,
    toNat_joinWords, toNat_lowWord, toNat_highWord]
  omega

theorem WordOrder.split_join (order : WordOrder) (first second : UInt16) :
    order.split (order.join first second) = (first, second) := by
  cases order with
  | highFirst =>
      obtain ⟨low, high⟩ := joinWords_eq_iff.mp (Eq.refl (joinWords second first))
      exact Prod.ext high.symm low.symm
  | lowFirst =>
      obtain ⟨low, high⟩ := joinWords_eq_iff.mp (Eq.refl (joinWords first second))
      exact Prod.ext low.symm high.symm

theorem toUInt32_eq_iff {word : UInt16} {number : UInt32} :
    word.toUInt32 = number ↔ word = lowWord number ∧ highWord number = 0 := by
  have below : word.toNat < 2 ^ 16 := word.toNat_lt
  rw [← UInt32.toNat_inj, ← UInt16.toNat_inj, ← UInt16.toNat_inj,
    toNat_lowWord, toNat_highWord, UInt16.toNat_toUInt32, UInt16.toNat_zero]
  omega

theorem words_zero_iff {number : UInt32} :
    lowWord number = 0 ∧ highWord number = 0 ↔ number = 0 := by
  rw [← UInt32.toNat_inj, ← UInt16.toNat_inj, ← UInt16.toNat_inj,
    toNat_lowWord, toNat_highWord, UInt16.toNat_zero, UInt32.toNat_zero]
  omega

/-- Widening the first word gives the number back only if the second word holds
nothing. -/
theorem WordOrder.toUInt32_first_eq_iff (order : WordOrder) (number : UInt32) :
    (order.split number).1.toUInt32 = number ↔
      match order with
      | .lowFirst => highWord number = 0
      | .highFirst => number = 0 := by
  rw [toUInt32_eq_iff]
  cases order with
  | lowFirst => simp [split]
  | highFirst =>
      rw [← words_zero_iff]
      simp only [split]
      constructor
      · intro both
        exact ⟨both.1.symm.trans both.2, both.2⟩
      · intro both
        exact ⟨both.2.trans both.1.symm, both.2⟩

/-- Joining the words with the low one first gives the number back if they are
in that order, or if their order makes no difference. -/
theorem WordOrder.joinWords_split_eq_iff (order : WordOrder) (number : UInt32) :
    joinWords (order.split number).1 (order.split number).2 = number ↔
      order = .lowFirst ∨ lowWord number = highWord number := by
  rw [joinWords_eq_iff]
  cases order with
  | lowFirst => simp [split]
  | highFirst =>
      simp only [split, reduceCtorEq, false_or]
      constructor
      · intro both
        exact both.2
      · intro same
        exact ⟨same.symm, same⟩

end DataGateway.Foundation
