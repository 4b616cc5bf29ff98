import Mathlib.Tactic.Common

/-!
# Calls on a keyed store

A call names at most one key and changes what is stored there, given what was
stored.  What a sequence of calls leaves at a key depends on the calls with
that key alone.
-/

namespace DataGateway.Foundation

structure KeyedCall (κ ν : Type*) where
  key : Option κ
  effect : Option ν → Option ν

namespace KeyedCall

variable {κ ν μ : Type*} [DecidableEq κ]

def apply (call : KeyedCall κ ν) (entries : κ → Option ν) : κ → Option ν :=
  fun key =>
    if call.key = some key then call.effect (entries key) else entries key

def applyAll (entries : κ → Option ν) (calls : List (KeyedCall κ ν)) :
    κ → Option ν :=
  calls.foldl (fun entries call => call.apply entries) entries

@[simp] theorem applyAll_nil (entries : κ → Option ν) :
    applyAll entries [] = entries := rfl

@[simp] theorem applyAll_cons (entries : κ → Option ν) (call : KeyedCall κ ν)
    (calls : List (KeyedCall κ ν)) :
    applyAll entries (call :: calls) = applyAll (call.apply entries) calls := rfl

theorem apply_of_key {call : KeyedCall κ ν} {key : κ}
    (same : call.key = some key) (entries : κ → Option ν) :
    call.apply entries key = call.effect (entries key) :=
  if_pos same

theorem apply_of_ne {call : KeyedCall κ ν} {key : κ}
    (different : call.key ≠ some key) (entries : κ → Option ν) :
    call.apply entries key = entries key :=
  if_neg different

/-- A view of what is stored is kept by two sequences of calls whose members
agree on it one by one. -/
theorem view_applyAll {Call : Type*} (view : ν → μ)
    (concrete : Call → KeyedCall κ ν) (abstract : Call → KeyedCall κ μ)
    {calls : List Call}
    (sameKey : ∀ call ∈ calls, (concrete call).key = (abstract call).key)
    (agree : ∀ call ∈ calls, ∀ entry,
      ((concrete call).effect entry).map view =
        (abstract call).effect (entry.map view))
    (entries : κ → Option ν) (key : κ) :
    (applyAll entries (calls.map concrete) key).map view =
      applyAll (fun key => (entries key).map view) (calls.map abstract) key := by
  induction calls generalizing entries with
  | nil => rfl
  | cons call calls induction =>
      simp only [List.map_cons, applyAll_cons]
      rw [induction
        (fun other member => sameKey other (List.mem_cons_of_mem _ member))
        (fun other member => agree other (List.mem_cons_of_mem _ member))]
      have headKey := sameKey call List.mem_cons_self
      have step : (fun key => ((concrete call).apply entries key).map view) =
          (abstract call).apply fun key => (entries key).map view := by
        funext key
        unfold apply
        rw [headKey]
        split
        · exact agree call List.mem_cons_self (entries key)
        · rfl
      rw [step]

/-- What every call keeps of the entry it changes holds of every entry. -/
theorem forall_applyAll (property : κ → ν → Prop)
    {calls : List (KeyedCall κ ν)} {entries : κ → Option ν}
    (start : ∀ key value, entries key = some value → property key value)
    (preserved : ∀ call ∈ calls, ∀ key entry, call.key = some key →
      (∀ value, entry = some value → property key value) →
      ∀ value, call.effect entry = some value → property key value) :
    ∀ key value, applyAll entries calls key = some value →
      property key value := by
  induction calls generalizing entries with
  | nil => exact start
  | cons call calls induction =>
      rw [applyAll_cons]
      apply induction
      · intro key value stored
        by_cases same : call.key = some key
        · rw [apply_of_key same] at stored
          exact preserved call List.mem_cons_self key _ same
            (fun value => start key value) value stored
        · rw [apply_of_ne same] at stored
          exact start key value stored
      · intro other member
        exact preserved other (List.mem_cons_of_mem _ member)

end KeyedCall

end DataGateway.Foundation
