import Mathlib.Init

/-!
# Runs of a step function that may fault

A component is a step function: it consumes an input, produces an output and
a next state, or faults.  A fault ends the run.  `EachStep` states a property
of every transition of one run; the lemmas below reduce it to an invariant
and to a fact about a single step.
-/

namespace DataGateway.Foundation

variable {State Input Output Fault : Type*}

def run (step : State → Input → Except Fault (State × Output)) :
    State → List Input → Except Fault State
  | state, [] => .ok state
  | state, input :: inputs =>
      match step state input with
      | .ok (next, _) => run step next inputs
      | .error fault => .error fault

/-- `property` holds of every transition that the run performs: the state
before it, its input and its result.  Nothing is asked after a fault. -/
def EachStep (step : State → Input → Except Fault (State × Output))
    (property : State → Input → Except Fault (State × Output) → Prop) :
    State → List Input → Prop
  | _, [] => True
  | state, input :: inputs =>
      property state input (step state input) ∧
        ∀ next output, step state input = .ok (next, output) →
          EachStep step property next inputs

section

variable {step : State → Input → Except Fault (State × Output)}
  {property other : State → Input → Except Fault (State × Output) → Prop}

theorem run_append (state : State) (first second : List Input) :
    run step state (first ++ second) =
      match run step state first with
      | .ok middle => run step middle second
      | .error fault => .error fault := by
  induction first generalizing state with
  | nil => rfl
  | cons input inputs induction =>
      simp only [List.cons_append, run]
      cases step state input with
      | error fault => rfl
      | ok result => exact induction result.1

/-- `EachStep` speaks of every transition reached: the state before it is the
end of a completed shorter run. -/
theorem eachStep_iff_reached {state : State} {inputs : List Input} :
    EachStep step property state inputs ↔
      ∀ before input after middle,
        inputs = before ++ input :: after →
        run step state before = .ok middle →
        property middle input (step middle input) := by
  induction inputs generalizing state with
  | nil => simp [EachStep]
  | cons head tail induction =>
      constructor
      · intro each before input after middle split reached
        cases before with
        | nil =>
            cases split
            cases reached
            exact each.1
        | cons first before =>
            cases split
            simp only [run] at reached
            cases result : step state head with
            | error fault => simp [result] at reached
            | ok pair =>
                simp only [result] at reached
                exact induction.mp (each.2 pair.1 pair.2 result)
                  before input after middle rfl reached
      · intro reached
        refine ⟨reached [] head tail state rfl rfl, ?_⟩
        intro next output result
        apply induction.mpr
        intro before input after middle split completed
        refine reached (head :: before) input after middle (by simp [split]) ?_
        simp only [run, result]
        exact completed

theorem EachStep.cons {state next : State} {input : Input} {output : Output}
    {inputs : List Input} (holds : property state input (step state input))
    (stepped : step state input = .ok (next, output))
    (rest : EachStep step property next inputs) :
    EachStep step property state (input :: inputs) := by
  refine ⟨holds, ?_⟩
  intro other value same
  cases stepped.symm.trans same
  exact rest

theorem eachStep_append {state : State} {first second : List Input} :
    EachStep step property state (first ++ second) ↔
      EachStep step property state first ∧
        ∀ middle, run step state first = .ok middle →
          EachStep step property middle second := by
  induction first generalizing state with
  | nil =>
      constructor
      · intro each
        refine ⟨trivial, ?_⟩
        intro middle same
        cases same
        exact each
      · intro each
        exact each.2 state rfl
  | cons input inputs induction =>
      simp only [List.cons_append, EachStep, run]
      cases result : step state input with
      | error fault => simp
      | ok pair =>
          constructor
          · intro each
            have rest := induction.mp (each.2 pair.1 pair.2 rfl)
            refine ⟨⟨each.1, ?_⟩, rest.2⟩
            intro next output same
            cases same
            exact rest.1
          · intro each
            refine ⟨each.1.1, ?_⟩
            intro next output same
            cases same
            exact induction.mpr ⟨each.1.2 _ _ rfl, each.2⟩

theorem not_eachStep_of_reached {state middle : State} {input : Input}
    {before : List Input} (after : List Input)
    (reached : run step state before = .ok middle)
    (fails : ¬property middle input (step middle input)) :
    ¬EachStep step property state (before ++ input :: after) := by
  intro each
  exact fails (eachStep_iff_reached.mp each before input after middle rfl reached)

/-- Two properties of transitions agree along a run when they agree in every
state of an invariant that the first of them keeps. -/
theorem eachStep_congr (invariant : State → Prop)
    (preserved : ∀ state input next output, invariant state →
      property state input (step state input) →
      step state input = .ok (next, output) → invariant next)
    (agree : ∀ state input, invariant state →
      (property state input (step state input) ↔
        other state input (step state input)))
    {state : State} {inputs : List Input} (start : invariant state) :
    EachStep step property state inputs ↔
      EachStep step other state inputs := by
  induction inputs generalizing state with
  | nil => exact Iff.rfl
  | cons input inputs induction =>
      have atHead := agree state input start
      constructor
      · intro each
        refine ⟨atHead.mp each.1, ?_⟩
        intro next output result
        have kept := preserved state input next output start each.1 result
        exact (induction kept).mp (each.2 next output result)
      · intro each
        have headHolds := atHead.mpr each.1
        refine ⟨headHolds, ?_⟩
        intro next output result
        have kept := preserved state input next output start headHolds result
        exact (induction kept).mpr (each.2 next output result)

/-- A run whose steps all meet a condition satisfies a property, provided the
condition keeps an invariant and implies the property under it. -/
theorem EachStep.of_condition (invariant : State → Prop)
    (sound : ∀ state input, invariant state →
      property state input (step state input) →
      other state input (step state input))
    (preserved : ∀ state input next output, invariant state →
      property state input (step state input) →
      step state input = .ok (next, output) → invariant next)
    {state : State} {inputs : List Input} (start : invariant state)
    (each : EachStep step property state inputs) :
    EachStep step other state inputs := by
  induction inputs generalizing state with
  | nil => trivial
  | cons input inputs induction =>
      refine ⟨sound state input start each.1, ?_⟩
      intro next output result
      have kept := preserved state input next output start each.1 result
      exact induction kept (each.2 next output result)

/-- What every step under a condition preserves holds at the end of a run
whose steps meet the condition. -/
theorem EachStep.invariant_reached (invariant : State → Prop)
    (preserved : ∀ state input next output, invariant state →
      property state input (step state input) →
      step state input = .ok (next, output) → invariant next)
    {state final : State} {inputs : List Input} (start : invariant state)
    (each : EachStep step property state inputs)
    (reached : run step state inputs = .ok final) : invariant final := by
  induction inputs generalizing state with
  | nil =>
      cases reached
      exact start
  | cons input inputs induction =>
      simp only [run] at reached
      cases result : step state input with
      | error fault => simp [result] at reached
      | ok pair =>
          simp only [result] at reached
          have kept := preserved state input pair.1 pair.2 start each.1 result
          exact induction kept (each.2 pair.1 pair.2 result) reached

/-- What every step preserves holds at the end of a run. -/
theorem run_invariant (invariant : State → Prop)
    (preserved : ∀ state input next output, invariant state →
      step state input = .ok (next, output) → invariant next)
    {state final : State} {inputs : List Input} (start : invariant state)
    (reached : run step state inputs = .ok final) : invariant final := by
  have each : EachStep step (fun _ _ _ => True) state inputs := by
    apply eachStep_iff_reached.mpr
    intros
    trivial
  apply each.invariant_reached invariant _ start reached
  intro state input next output holds _ stepped
  exact preserved state input next output holds stepped

end

end DataGateway.Foundation
