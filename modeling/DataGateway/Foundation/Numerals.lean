import Mathlib.Data.List.TakeWhile

/-!
# Decimal numerals in byte strings

How C prints an integer in decimal and how `std::stoi` and its relatives read
one back: white space, a sign and as many digits as there are.  Where `long`
has 64 bits, what is printed for a value is read as that value.
-/

namespace DataGateway.Foundation

/-- The bytes of a text that has one character for each byte. -/
def bytesOf (text : String) : List UInt8 :=
  text.toList.map Char.toUInt8

/-- A byte string as a C function reads it. -/
def cText (text : List UInt8) : List UInt8 :=
  text.takeWhile (· ≠ 0)

def isSpace (byte : UInt8) : Bool :=
  byte == 32 || (9 ≤ byte.toNat && byte.toNat ≤ 13)

def isDigit (byte : UInt8) : Bool :=
  48 ≤ byte.toNat && byte.toNat ≤ 57

def digitsValue (digits : List UInt8) : Nat :=
  digits.foldl (fun value digit => 10 * value + (digit.toNat - 48)) 0

/-- The number that the text begins with. -/
def magnitude? (text : List UInt8) : Option Nat :=
  let digits := text.takeWhile isDigit
  if digits.isEmpty then none else some (digitsValue digits)

/-- The integer that the text begins with, after white space and a sign. -/
def numeral? (text : List UInt8) : Option Int :=
  match text.dropWhile isSpace with
  | [] => none
  | first :: rest =>
      if first = 45 then (magnitude? rest).map fun (value : Nat) => -(value : Int)
      else if first = 43 then (magnitude? rest).map fun (value : Nat) => (value : Int)
      else (magnitude? (first :: rest)).map fun (value : Nat) => (value : Int)

inductive ConversionFault
  | invalidArgument
  | outOfRange
  deriving DecidableEq, Repr

/-- The common part of the conversions: no digits is an invalid argument. -/
def convertWithin (low high : Int) (text : List UInt8) :
    Except ConversionFault Int :=
  match numeral? text with
  | none => .error .invalidArgument
  | some value =>
      if low ≤ value ∧ value ≤ high then .ok value else .error .outOfRange

def intMax : Int := 2147483647

def longMax : Int := 9223372036854775807

def ulongMax : Int := 18446744073709551615

def stoi (text : List UInt8) : Except ConversionFault Int :=
  convertWithin (-intMax - 1) intMax text

def stol (text : List UInt8) : Except ConversionFault Int :=
  convertWithin (-longMax - 1) longMax text

def stoll (text : List UInt8) : Except ConversionFault Int :=
  convertWithin (-longMax - 1) longMax text

/-- A minus sign negates the unsigned value. -/
def stoul (text : List UInt8) : Except ConversionFault Nat :=
  (convertWithin (-ulongMax) ulongMax text).map
    fun value => (value % (ulongMax + 1)).toNat

def stoull (text : List UInt8) : Except ConversionFault Nat :=
  (convertWithin (-ulongMax) ulongMax text).map
    fun value => (value % (ulongMax + 1)).toNat

theorem convertWithin_eq_ok_iff {low high value : Int} {text : List UInt8} :
    convertWithin low high text = .ok value ↔
      numeral? text = some value ∧ low ≤ value ∧ value ≤ high := by
  unfold convertWithin
  cases numeral? text with
  | none => simp
  | some other =>
      by_cases inside : low ≤ other ∧ other ≤ high
      · simp only [if_pos inside, Except.ok.injEq, Option.some.injEq]
        constructor
        · intro same
          exact ⟨same, same ▸ inside⟩
        · exact And.left
      · simp only [if_neg inside, reduceCtorEq, Option.some.injEq, false_iff,
          not_and]
        intro same
        exact same ▸ fun least most => inside ⟨least, most⟩

/-- The decimal digits of a number, as `%u` prints them. -/
def decimal (value : Nat) : List UInt8 :=
  if value < 10 then [(48 + value).toUInt8]
  else decimal (value / 10) ++ [(48 + value % 10).toUInt8]

/-- `%d`. -/
def signedDecimal : Int → List UInt8
  | .ofNat value => decimal value
  | .negSucc value => 45 :: decimal (value + 1)

theorem toNat_digit {digit : Nat} (small : digit < 10) :
    (48 + digit).toUInt8.toNat = 48 + digit := by
  simp
  omega

theorem isDigit_digit {digit : Nat} (small : digit < 10) :
    isDigit (48 + digit).toUInt8 = true := by
  simp only [isDigit, toNat_digit small]
  simp
  omega

theorem digitsValue_append (digits : List UInt8) (digit : UInt8) :
    digitsValue (digits ++ [digit]) =
      10 * digitsValue digits + (digit.toNat - 48) := by
  simp [digitsValue]

theorem digitsValue_decimal (value : Nat) :
    digitsValue (decimal value) = value := by
  induction value using Nat.strongRecOn with
  | ind value induction =>
      rw [decimal]
      split
      · next small =>
          simp only [digitsValue, List.foldl_cons, List.foldl_nil,
            toNat_digit small]
          omega
      · rw [digitsValue_append, induction (value / 10) (by omega),
          toNat_digit (Nat.mod_lt value (by omega))]
        omega

theorem isDigit_of_mem_decimal (value : Nat) :
    ∀ byte ∈ decimal value, isDigit byte = true := by
  induction value using Nat.strongRecOn with
  | ind value induction =>
      intro byte member
      rw [decimal] at member
      split at member
      · next small =>
          rw [List.mem_singleton.mp member]
          exact isDigit_digit small
      · rcases List.mem_append.mp member with earlier | last
        · exact induction (value / 10) (by omega) byte earlier
        · rw [List.mem_singleton.mp last]
          exact isDigit_digit (Nat.mod_lt value (by omega))

theorem decimal_ne_nil (value : Nat) : decimal value ≠ [] := by
  rw [decimal]
  split <;> simp

theorem takeWhile_decimal (value : Nat) :
    (decimal value).takeWhile isDigit = decimal value := by
  rw [List.takeWhile_eq_self_iff]
  exact isDigit_of_mem_decimal value

theorem magnitude?_decimal (value : Nat) :
    magnitude? (decimal value) = some value := by
  have digits : (decimal value).isEmpty = false := by
    simpa using decimal_ne_nil value
  simp [magnitude?, takeWhile_decimal, digits, digitsValue_decimal]

theorem digit_cases {byte : UInt8} (digit : isDigit byte = true) :
    isSpace byte = false ∧ byte ≠ 45 ∧ byte ≠ 43 ∧ byte ≠ 0 := by
  simp only [isDigit, Bool.and_eq_true, decide_eq_true_eq] at digit
  refine ⟨?_, ?_, ?_, ?_⟩
  · simp only [isSpace, Bool.or_eq_false_iff, Bool.and_eq_false_iff,
      decide_eq_false_iff_not, beq_eq_false_iff_ne]
    refine ⟨?_, .inr (by omega)⟩
    rintro rfl
    simp at digit
  · rintro rfl
    simp at digit
  · rintro rfl
    simp at digit
  · rintro rfl
    simp at digit

theorem numeral?_decimal (value : Nat) :
    numeral? (decimal value) = some (value : Int) := by
  have all := isDigit_of_mem_decimal value
  have read := magnitude?_decimal value
  cases digits : decimal value with
  | nil => exact (decimal_ne_nil value digits).elim
  | cons first rest =>
      rw [digits] at all read
      obtain ⟨space, minus, plus, _⟩ := digit_cases (all first List.mem_cons_self)
      simp [numeral?, List.dropWhile, space, minus, plus, read]

theorem numeral?_signedDecimal (value : Int) :
    numeral? (signedDecimal value) = some value := by
  cases value with
  | ofNat value => exact numeral?_decimal value
  | negSucc value =>
      have minus : isSpace 45 = false := by decide
      simp only [signedDecimal, numeral?, List.dropWhile, minus, if_true,
        magnitude?_decimal, Option.map_some, Option.some.injEq]
      exact (Int.negSucc_eq value).symm

/-- Printed numbers have no NUL, so C reads all of them. -/
theorem cText_signedDecimal (value : Int) :
    cText (signedDecimal value) = signedDecimal value := by
  rw [cText, List.takeWhile_eq_self_iff]
  intro byte member
  have nonzero : byte ≠ 0 := by
    cases value with
    | ofNat value =>
        exact (digit_cases (isDigit_of_mem_decimal value byte member)).2.2.2
    | negSucc value =>
        rcases List.mem_cons.mp member with sign | digit
        · rw [sign]
          decide
        · exact (digit_cases (isDigit_of_mem_decimal (value + 1) byte digit)).2.2.2
  simpa using nonzero

theorem cText_of_noNul {text : List UInt8} (noNul : 0 ∉ text) :
    cText text = text := by
  rw [cText, List.takeWhile_eq_self_iff]
  intro byte member
  have nonzero : byte ≠ 0 := by
    rintro rfl
    exact noNul member
  simpa using nonzero

end DataGateway.Foundation
