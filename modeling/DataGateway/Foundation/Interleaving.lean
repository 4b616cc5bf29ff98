import DataGateway.Foundation.Runs
import Mathlib.Data.List.Basic
import Mathlib.Logic.Function.Basic

/-!
# Components with a shared log

Every component steps a state of its own and adds entries to a log that all
of them share.  A run of the system is an interleaving of runs of the
components, and each of them sees its own run: neither its states nor its
entries nor the question whether it faults depend on the others.
-/

namespace DataGateway.Foundation

variable {ι State Input Entry Fault κ : Type*} [DecidableEq ι] [DecidableEq κ]

/-- The items of one component in a list for all of them. -/
def ofComponent {α : Type*} (component : ι) (items : List (ι × α)) : List α :=
  items.filterMap fun item => if item.1 = component then some item.2 else none

/-- The states of all components and the shared log, newest entry first. -/
structure System (ι State Entry : Type*) where
  states : ι → State
  log : List (ι × Entry)

namespace System

def step (own : State → Input → Except Fault (State × List Entry))
    (system : System ι State Entry) (input : ι × Input) :
    Except Fault (System ι State Entry × Unit) :=
  match own (system.states input.1) input.2 with
  | .error fault => .error fault
  | .ok (next, entries) =>
      .ok ({ states := Function.update system.states input.1 next
             log := entries.map (fun entry => (input.1, entry)) ++ system.log }, ())

/-- One component with a log that nobody else writes. -/
def aloneStep (own : State → Input → Except Fault (State × List Entry))
    (component : State × List Entry) (input : Input) :
    Except Fault ((State × List Entry) × Unit) :=
  match own component.1 input with
  | .error fault => .error fault
  | .ok (next, entries) => .ok ((next, entries ++ component.2), ())

/-- What a component knows of the system. -/
def view (system : System ι State Entry) (component : ι) : State × List Entry :=
  (system.states component, ofComponent component system.log)

end System

section Items

variable {α : Type*} {component other : ι} {items : List (ι × α)}

@[simp] theorem ofComponent_nil : ofComponent component ([] : List (ι × α)) = [] :=
  rfl

@[simp] theorem ofComponent_own {item : α} :
    ofComponent component ((component, item) :: items) =
      item :: ofComponent component items := by
  simp [ofComponent]

theorem ofComponent_other {item : α} (different : other ≠ component) :
    ofComponent component ((other, item) :: items) =
      ofComponent component items := by
  simp [ofComponent, different]

@[simp] theorem ofComponent_append {first second : List (ι × α)} :
    ofComponent component (first ++ second) =
      ofComponent component first ++ ofComponent component second :=
  List.filterMap_append

@[simp] theorem mem_ofComponent {item : α} :
    item ∈ ofComponent component items ↔ (component, item) ∈ items := by
  simp only [ofComponent, List.mem_filterMap]
  constructor
  · rintro ⟨⟨owner, entry⟩, member, chosen⟩
    by_cases own : owner = component
    · subst own
      simp only [if_true, Option.some.injEq] at chosen
      exact chosen ▸ member
    · simp [own] at chosen
  · intro member
    exact ⟨_, member, by simp⟩

theorem ofComponent_tagged_own {entries : List α} :
    ofComponent component (entries.map fun entry => (component, entry)) =
      entries := by
  induction entries with
  | nil => rfl
  | cons entry entries induction =>
      simp [induction]

theorem ofComponent_tagged_other {entries : List α}
    (different : other ≠ component) :
    ofComponent component (entries.map fun entry => (other, entry)) = [] := by
  induction entries with
  | nil => rfl
  | cons entry entries induction =>
      rw [List.map_cons, ofComponent_other different, induction]

/-- The newest entry with a key is that of the only component that writes it. -/
theorem find?_ofComponent (key : α → κ) {sought : κ}
    (owned : ∀ item ∈ items, key item.2 = sought → item.1 = component) :
    (items.find? fun item => key item.2 = sought).map Prod.snd =
      (ofComponent component items).find? fun entry => key entry = sought := by
  induction items with
  | nil => rfl
  | cons item items induction =>
      obtain ⟨owner, entry⟩ := item
      have rest := induction fun item member =>
        owned item (List.mem_cons_of_mem _ member)
      by_cases same : key entry = sought
      · have own : owner = component := owned _ List.mem_cons_self same
        subst own
        simp [same]
      · by_cases own : owner = component
        · subst own
          simpa [same] using rest
        · rw [ofComponent_other own]
          simpa [same] using rest

end Items

namespace System

section

variable {own : State → Input → Except Fault (State × List Entry)}
  {system final : System ι State Entry}

theorem view_stepped_own {component : ι} {next : State} {entries : List Entry} :
    view { states := Function.update system.states component next
           log := entries.map (fun entry => (component, entry)) ++ system.log }
        component =
      (next, entries ++ (system.view component).2) := by
  simp [view, ofComponent_tagged_own]

theorem view_stepped_other {component other : ι} {next : State}
    {entries : List Entry} (different : other ≠ component) :
    view { states := Function.update system.states other next
           log := entries.map (fun entry => (other, entry)) ++ system.log }
        component = system.view component := by
  simp [view, ofComponent_tagged_other different,
    Function.update_of_ne (Ne.symm different)]

/-- In a run of the system every component performs its own run. -/
theorem run_component {inputs : List (ι × Input)}
    (reached : run (step own) system inputs = .ok final) (component : ι) :
    run (aloneStep own) (system.view component) (ofComponent component inputs) =
      .ok (final.view component) := by
  induction inputs generalizing system with
  | nil =>
      cases reached
      rfl
  | cons input inputs induction =>
      obtain ⟨owner, input⟩ := input
      simp only [run, step] at reached
      cases result : own (system.states owner) input with
      | error fault => simp [result] at reached
      | ok pair =>
          obtain ⟨next, entries⟩ := pair
          simp only [result] at reached
          have rest := induction reached
          by_cases same : owner = component
          · subst same
            rw [view_stepped_own] at rest
            rw [ofComponent_own]
            simp only [run, aloneStep, view, result]
            exact rest
          · rw [view_stepped_other same] at rest
            rw [ofComponent_other same]
            exact rest

/-- An interleaving completes if and only if each component completes its part
of it alone. -/
theorem run_completes_iff {inputs : List (ι × Input)} :
    (∃ final, run (step own) system inputs = .ok final) ↔
      ∀ component, ∃ last, run (aloneStep own) (system.view component)
        (ofComponent component inputs) = .ok last := by
  constructor
  · rintro ⟨final, reached⟩ component
    exact ⟨_, run_component reached component⟩
  · intro alone
    induction inputs generalizing system with
    | nil => exact ⟨system, rfl⟩
    | cons input inputs induction =>
        obtain ⟨owner, input⟩ := input
        obtain ⟨last, ownRun⟩ := alone owner
        rw [ofComponent_own] at ownRun
        cases result : own (system.states owner) input with
        | error fault => simp [run, aloneStep, view, result] at ownRun
        | ok pair =>
            obtain ⟨next, entries⟩ := pair
            simp only [run, aloneStep, view, result] at ownRun
            have rest : ∀ component, ∃ last, run (aloneStep own)
                (view { states := Function.update system.states owner next
                        log := entries.map (fun entry => (owner, entry)) ++
                          system.log } component)
                (ofComponent component inputs) = .ok last := by
              intro component
              by_cases same : owner = component
              · subst same
                rw [view_stepped_own]
                exact ⟨last, ownRun⟩
              · rw [view_stepped_other same]
                obtain ⟨other, otherRun⟩ := alone component
                rw [ofComponent_other same] at otherRun
                exact ⟨other, otherRun⟩
            obtain ⟨final, reached⟩ := induction rest
            exact ⟨final, by simpa only [run, step, result] using reached⟩

/-- Every new entry of the log comes from an input of its component. -/
theorem mem_log_of_run {inputs : List (ι × Input)}
    (reached : run (step own) system inputs = .ok final) {item : ι × Entry}
    (member : item ∈ final.log) :
    item ∈ system.log ∨ ∃ input state next entries, (item.1, input) ∈ inputs ∧
      own state input = .ok (next, entries) ∧ item.2 ∈ entries := by
  induction inputs generalizing system with
  | nil =>
      cases reached
      exact Or.inl member
  | cons input inputs induction =>
      obtain ⟨owner, input⟩ := input
      simp only [run, step] at reached
      cases result : own (system.states owner) input with
      | error fault => simp [result] at reached
      | ok pair =>
          obtain ⟨next, entries⟩ := pair
          simp only [result] at reached
          rcases induction reached with earlier | later
          · rcases List.mem_append.mp earlier with added | before
            · obtain ⟨entry, inside, rfl⟩ := List.mem_map.mp added
              exact Or.inr ⟨input, _, next, entries, List.mem_cons_self, result,
                inside⟩
            · exact Or.inl before
          · obtain ⟨source, state, after, emitted, listed, stepped, inside⟩ := later
            exact Or.inr ⟨source, state, after, emitted,
              List.mem_cons_of_mem _ listed, stepped, inside⟩

end

end System

end DataGateway.Foundation
