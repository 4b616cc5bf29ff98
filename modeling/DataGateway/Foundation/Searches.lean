import Mathlib.Tactic.Common

/-!
# Loops that may fault

Two kinds of loops over a list whose body may fault: one that returns at the
first item for which its body has a value, and one that collects what its body
gives.  `Computes` says when an action completes and with which value; the
lemmas below derive it for a loop from its body.
-/

namespace DataGateway.Foundation

section

variable {Fault α β : Type}

def firstReturn (body : α → Except Fault (Option β)) :
    List α → Except Fault (Option β)
  | [] => .ok none
  | item :: rest =>
      match body item with
      | .error fault => .error fault
      | .ok (some value) => .ok (some value)
      | .ok none => firstReturn body rest

def collect (body : α → Except Fault (List β)) : List α → Except Fault (List β)
  | [] => .ok []
  | item :: rest => do
      let found ← body item
      let more ← collect body rest
      return found ++ more

/-- The property holds of every item up to the first one that stops. -/
def UpTo (stops property : α → Prop) (items : List α) : Prop :=
  ∀ before item after, items = before ++ item :: after →
    (∀ other ∈ before, ¬stops other) → property item

/-- The action completes exactly if it is safe, and then with the value. -/
structure Computes (action : Except Fault α) (safe : Prop) (value : α) : Prop where
  ok : safe → action = .ok value
  safe_of_ok : ∀ result, action = .ok result → safe

end

section

variable {Fault α β : Type}

theorem upTo_nil (stops property : α → Prop) : UpTo stops property [] := by
  intro before item after split
  cases before <;> cases split

theorem upTo_cons_iff {stops property : α → Prop} {item : α} {rest : List α} :
    UpTo stops property (item :: rest) ↔
      property item ∧ (¬stops item → UpTo stops property rest) := by
  constructor
  · intro upTo
    constructor
    · exact upTo [] item rest rfl (by simp)
    · intro passes before other after split quiet
      apply upTo (item :: before) other after (by rw [split, List.cons_append])
      intro earlier member
      rcases List.mem_cons.mp member with same | later
      · exact same ▸ passes
      · exact quiet earlier later
  · intro both before other after split quiet
    obtain ⟨head, tail⟩ := both
    cases before with
    | nil =>
        cases split
        exact head
    | cons first before =>
        cases split
        apply tail (quiet item List.mem_cons_self) before other after rfl
        intro earlier member
        exact quiet earlier (List.mem_cons_of_mem _ member)

theorem upTo_of_forall {stops property : α → Prop} {items : List α}
    (all : ∀ item ∈ items, property item) : UpTo stops property items := by
  intro before item after split _
  apply all
  rw [split]
  exact List.mem_append_right _ List.mem_cons_self

namespace Computes

variable {action : Except Fault α} {safe : Prop} {value : α}

theorem pure (value : α) : Computes (.ok value : Except Fault α) True value :=
  { ok := fun _ => rfl
    safe_of_ok := fun _ _ => trivial }

theorem fault (fault : Fault) (value : α) :
    Computes (.error fault : Except Fault α) False value :=
  { ok := False.elim
    safe_of_ok := fun result same => by cases same }

theorem completes_iff (computes : Computes action safe value) :
    (∃ result, action = .ok result) ↔ safe := by
  constructor
  · intro completes
    obtain ⟨result, same⟩ := completes
    exact computes.safe_of_ok result same
  · intro isSafe
    exact ⟨value, computes.ok isSafe⟩

theorem eq_of_ok (computes : Computes action safe value) {result : α}
    (done : action = .ok result) : result = value := by
  have same := computes.ok (computes.safe_of_ok result done)
  exact Except.ok.inj (done.symm.trans same)

theorem congr {otherSafe : Prop} {otherValue : α}
    (computes : Computes action safe value) (sameSafe : safe ↔ otherSafe)
    (sameValue : value = otherValue) : Computes action otherSafe otherValue :=
  { ok := fun holds => sameValue ▸ computes.ok (sameSafe.mpr holds)
    safe_of_ok := fun result done =>
      sameSafe.mp (computes.safe_of_ok result done) }

theorem map (computes : Computes action safe value) (change : α → β) :
    Computes (action.map change) safe (change value) := by
  constructor
  · intro isSafe
    rw [computes.ok isSafe]
    rfl
  · intro result done
    cases finished : action with
    | error fault =>
        rw [finished] at done
        cases done
    | ok inner => exact computes.safe_of_ok inner finished

theorem bind {next : α → Except Fault β} {nextSafe : Prop} {nextValue : β}
    (computes : Computes action safe value)
    (nextComputes : Computes (next value) nextSafe nextValue) :
    Computes (action >>= next) (safe ∧ nextSafe) nextValue := by
  constructor
  · intro both
    rw [computes.ok both.1]
    exact nextComputes.ok both.2
  · intro result done
    cases finished : action with
    | error fault =>
        rw [finished] at done
        cases done
    | ok inner =>
        have same := computes.eq_of_ok finished
        rw [finished, same] at done
        exact ⟨computes.safe_of_ok inner finished,
          nextComputes.safe_of_ok result done⟩

theorem bind_pure (computes : Computes action safe value) (change : α → β) :
    Computes (action >>= fun result => Pure.pure (change result)) safe
      (change value) := by
  apply (computes.bind (pure (change value))).congr
  · exact and_iff_left trivial
  · rfl

theorem ite {test : Prop} [Decidable test] {other : Except Fault α}
    {otherSafe : Prop} {otherValue : α} (computes : Computes action safe value)
    (otherComputes : Computes other otherSafe otherValue) :
    Computes (if test then action else other)
      ((test → safe) ∧ (¬test → otherSafe))
      (if test then value else otherValue) := by
  by_cases holds : test
  · rw [if_pos holds, if_pos holds]
    exact computes.congr (by simp [holds]) rfl
  · rw [if_neg holds, if_neg holds]
    exact otherComputes.congr (by simp [holds]) rfl

theorem firstReturn {body : α → Except Fault (Option β)} {isSafe : α → Prop}
    {values : α → Option β} {items : List α}
    (computes : ∀ item ∈ items, Computes (body item) (isSafe item) (values item)) :
    Computes (Foundation.firstReturn body items)
      (UpTo (fun item => (values item).isSome) isSafe items)
      (items.findSome? values) := by
  induction items with
  | nil => exact (pure none).congr (iff_of_true trivial (upTo_nil _ _)) rfl
  | cons item items induction =>
      have head := computes item List.mem_cons_self
      have tail := induction fun other member =>
        computes other (List.mem_cons_of_mem _ member)
      constructor
      · intro upTo
        obtain ⟨headSafe, tailSafe⟩ := upTo_cons_iff.mp upTo
        simp only [Foundation.firstReturn, head.ok headSafe, List.findSome?_cons]
        cases found : values item with
        | some result => rfl
        | none =>
            apply tail.ok
            exact tailSafe (by simp [found])
      · intro result done
        simp only [Foundation.firstReturn] at done
        refine upTo_cons_iff.mpr ?_
        cases finished : body item with
        | error fault =>
            rw [finished] at done
            cases done
        | ok found =>
            have same := head.eq_of_ok finished
            refine ⟨head.safe_of_ok found finished, ?_⟩
            intro passes
            rw [finished, same] at done
            cases none : values item with
            | some other => simp [none] at passes
            | none =>
                rw [none] at done
                exact tail.safe_of_ok result done

/-- Where the body has the first of the results it found, so has the loop. -/
theorem firstReturn_head {body : α → Except Fault (Option β)}
    {isSafe stops : α → Prop} {found : α → List β} {items : List α}
    (stops_iff : ∀ item, stops item ↔ found item ≠ [])
    (computes : ∀ item ∈ items,
      Computes (body item) (isSafe item) (found item).head?) :
    Computes (Foundation.firstReturn body items) (UpTo stops isSafe items)
      (items.flatMap found).head? := by
  apply (firstReturn computes).congr
  · have same : (fun item => ((found item).head?).isSome = true) = stops := by
      funext item
      rw [List.isSome_head?, eq_iff_iff, stops_iff]
    rw [same]
  · exact List.head?_flatMap.symm

theorem collect {body : α → Except Fault (List β)} {isSafe : α → Prop}
    {values : α → List β} {items : List α}
    (computes : ∀ item ∈ items, Computes (body item) (isSafe item) (values item)) :
    Computes (Foundation.collect body items) (∀ item ∈ items, isSafe item)
      (items.flatMap values) := by
  induction items with
  | nil => exact (pure []).congr (by simp) rfl
  | cons item items induction =>
      have head := computes item List.mem_cons_self
      have tail := induction fun other member =>
        computes other (List.mem_cons_of_mem _ member)
      have joined : Computes (Foundation.collect body (item :: items))
          (isSafe item ∧ (∀ other ∈ items, isSafe other) ∧ True)
          (values item ++ items.flatMap values) := by
        apply head.bind
        apply tail.bind
        exact pure _
      exact joined.congr (by simp) rfl

end Computes

end

end DataGateway.Foundation
