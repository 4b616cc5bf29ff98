import Mathlib.Data.List.Forall2
import Mathlib.Logic.Function.Basic
import Mathlib.Tactic.Common

/-!
# Ingesting a list into a table

Nodes are parsed one after the other and every item goes into a table under its
key at once, until the first node that the parser stops at.  What is left in
the table are the items accepted before that node, laid over the earlier table
with the last item of a key winning.
-/

namespace DataGateway.Foundation

section

variable {Node Item Key Stop : Type*} [DecidableEq Key]

/-- The last item with the wanted key. -/
def lastWith? (key : Item → Key) (wanted : Key) : List Item → Option Item
  | [] => none
  | item :: rest =>
      (lastWith? key wanted rest).or (if key item = wanted then some item else none)

def overlay (key : Item → Key) (table : Key → Option Item) :
    List Item → Key → Option Item
  | [] => table
  | item :: rest =>
      overlay key (Function.update table (key item) (some item)) rest

/-- Every item of the table stands under its own key. -/
def Keyed (key : Item → Key) (table : Key → Option Item) : Prop :=
  ∀ wanted item, table wanted = some item → key item = wanted

/-- The table after the loop, and what stopped it if it did not reach the
end. -/
def ingest (parse : Node → Except Stop Item) (key : Item → Key)
    (table : Key → Option Item) : List Node → (Key → Option Item) × Option Stop
  | [] => (table, none)
  | node :: rest =>
      match parse node with
      | .error stop => (table, some stop)
      | .ok item =>
          ingest parse key (Function.update table (key item) (some item)) rest

def firstStop (parse : Node → Except Stop Item) : List Node → Option Stop
  | [] => none
  | node :: rest =>
      match parse node with
      | .error stop => some stop
      | .ok _ => firstStop parse rest

/-- The items of the nodes before the first stop. -/
def acceptedItems (parse : Node → Except Stop Item) : List Node → List Item
  | [] => []
  | node :: rest =>
      match parse node with
      | .error _ => []
      | .ok item => item :: acceptedItems parse rest

def fromFirstStop (parse : Node → Except Stop Item) : List Node → List Node
  | [] => []
  | node :: rest =>
      match parse node with
      | .error _ => node :: rest
      | .ok _ => fromFirstStop parse rest

/-- Every node has an identity, and the table holds under it the item that the
last node with this identity describes. -/
def Reflects (parse : Node → Except Stop Item) (identity : Node → Option Key)
    (table : Key → Option Item) (nodes : List Node) : Prop :=
  ∀ node ∈ nodes, ∃ wanted last item, identity node = some wanted ∧
    lastWith? identity (some wanted) nodes = some last ∧
    parse last = .ok item ∧ table wanted = some item

/-- What comes from the first stop on only repeats accepted items: the last
node of each identity describes the item that was accepted last for it. -/
def RepeatsAccepted (parse : Node → Except Stop Item) (key : Item → Key)
    (identity : Node → Option Key) (nodes : List Node) : Prop :=
  ∀ node ∈ fromFirstStop parse nodes, ∃ wanted last item,
    identity node = some wanted ∧
    lastWith? identity (some wanted) (fromFirstStop parse nodes) = some last ∧
    parse last = .ok item ∧
    lastWith? key wanted (acceptedItems parse nodes) = some item

end

section

variable {Node Item Key Stop : Type*} [DecidableEq Key]
  {parse : Node → Except Stop Item} {key : Item → Key}

theorem lastWith?_append (wanted : Key) (first second : List Item) :
    lastWith? key wanted (first ++ second) =
      (lastWith? key wanted second).or (lastWith? key wanted first) := by
  induction first with
  | nil => simp [lastWith?]
  | cons item first induction =>
      simp only [List.cons_append, lastWith?, induction, Option.or_assoc]

theorem lastWith?_isSome_of_mem (key : Item → Key) {item : Item}
    {items : List Item} (member : item ∈ items) :
    (lastWith? key (key item) items).isSome := by
  induction items with
  | nil => cases member
  | cons head items induction =>
      rcases List.mem_cons.mp member with same | later
      · subst same
        simp [lastWith?]
      · simp [lastWith?, induction later]

theorem lastWith?_some {wanted : Key} {items : List Item} {item : Item}
    (found : lastWith? key wanted items = some item) :
    item ∈ items ∧ key item = wanted := by
  induction items with
  | nil => cases found
  | cons head items induction =>
      rcases Option.or_eq_some_iff.mp found with later | here
      · obtain ⟨member, same⟩ := induction later
        exact ⟨List.mem_cons_of_mem head member, same⟩
      · by_cases same : key head = wanted
        · rw [if_pos same] at here
          cases here.2
          exact ⟨List.mem_cons_self, same⟩
        · rw [if_neg same] at here
          cases here.2

theorem lastWith?_append_of_mem {first second : List Item} {item : Item}
    (member : item ∈ second) :
    lastWith? key (key item) (first ++ second) =
      lastWith? key (key item) second := by
  rw [lastWith?_append]
  exact Option.or_of_isSome (lastWith?_isSome_of_mem key member)

theorem lastWith?_append_of_absent {wanted : Key} {first second : List Item}
    (absent : ∀ item ∈ second, key item ≠ wanted) :
    lastWith? key wanted (first ++ second) = lastWith? key wanted first := by
  rw [lastWith?_append]
  cases found : lastWith? key wanted second with
  | none => exact Option.none_or
  | some item =>
      obtain ⟨member, same⟩ := lastWith?_some found
      exact (absent item member same).elim

theorem overlay_apply (table : Key → Option Item) (items : List Item)
    (wanted : Key) :
    overlay key table items wanted =
      (lastWith? key wanted items).or (table wanted) := by
  induction items generalizing table with
  | nil => simp [overlay, lastWith?]
  | cons item items induction =>
      simp only [overlay, induction, lastWith?, Option.or_assoc]
      congr 1
      by_cases same : key item = wanted
      · subst same
        simp
      · have other : wanted ≠ key item := fun equal => same equal.symm
        simp [same, other]

theorem Keyed.overlay {table : Key → Option Item} (keyed : Keyed key table)
    (items : List Item) : Keyed key (overlay key table items) := by
  intro wanted item entry
  rw [overlay_apply] at entry
  rcases Option.or_eq_some_iff.mp entry with found | kept
  · exact (lastWith?_some found).2
  · exact keyed wanted item kept.2

theorem overlay_comm {first second : List Item}
    (disjoint : ∀ item ∈ first, ∀ other ∈ second, key item ≠ key other)
    (table : Key → Option Item) :
    overlay key
        (overlay key table first) second =
      overlay key
        (overlay key table second) first := by
  funext wanted
  simp only [overlay_apply]
  cases inFirst : lastWith? key wanted first with
  | none => simp
  | some item =>
      cases inSecond : lastWith? key wanted second with
      | none => simp
      | some other =>
          obtain ⟨member, same⟩ := lastWith?_some inFirst
          obtain ⟨otherMember, otherSame⟩ := lastWith?_some inSecond
          exact (disjoint item member other otherMember
            (same.trans otherSame.symm)).elim

theorem overlay_idem (table : Key → Option Item) (items : List Item) :
    overlay key
        (overlay key table items) items =
      overlay key table items := by
  funext wanted
  simp only [overlay_apply]
  cases lastWith? key wanted items with
  | none => simp
  | some item => simp

theorem ingest_eq (table : Key → Option Item) (nodes : List Node) :
    ingest parse key table nodes =
      (overlay key table (acceptedItems parse nodes), firstStop parse nodes) := by
  induction nodes generalizing table with
  | nil => rfl
  | cons node nodes induction =>
      cases parsed : parse node with
      | error stop => simp [ingest, acceptedItems, firstStop, parsed, overlay]
      | ok item =>
          simp [ingest, acceptedItems, firstStop, parsed, overlay, induction]

theorem ingest_apply (table : Key → Option Item) (nodes : List Node)
    (wanted : Key) :
    (ingest parse key table nodes).1 wanted =
      (lastWith? key wanted (acceptedItems parse nodes)).or (table wanted) := by
  rw [ingest_eq]
  exact overlay_apply table (acceptedItems parse nodes) wanted

theorem accepted_split (parse : Node → Except Stop Item) (nodes : List Node) :
    ∃ before, nodes = before ++ fromFirstStop parse nodes ∧
      List.Forall₂ (fun node item => parse node = .ok item) before
        (acceptedItems parse nodes) := by
  induction nodes with
  | nil => exact ⟨[], rfl, List.Forall₂.nil⟩
  | cons node nodes induction =>
      cases parsed : parse node with
      | error stop =>
          refine ⟨[], ?_, ?_⟩
          · simp [fromFirstStop, parsed]
          · simp [acceptedItems, parsed]
      | ok item =>
          obtain ⟨before, split, accepted⟩ := induction
          refine ⟨node :: before, ?_, ?_⟩
          · simp only [fromFirstStop, parsed, List.cons_append]
            exact congrArg (node :: ·) split
          · simp only [acceptedItems, parsed]
            exact List.Forall₂.cons parsed accepted

/-- A node contributes its item if and only if all nodes before it are
parsed. -/
theorem getElem?_acceptedItems_iff {before after : List Node} {node : Node}
    {item : Item} :
    (acceptedItems parse (before ++ node :: after))[before.length]? = some item ↔
      (∀ other ∈ before, ∃ item, parse other = .ok item) ∧
        parse node = .ok item := by
  induction before with
  | nil =>
      cases parsed : parse node with
      | error stop => simp [acceptedItems, parsed]
      | ok item => simp [acceptedItems, parsed]
  | cons head before induction =>
      cases parsed : parse head with
      | error stop => simp [acceptedItems, parsed]
      | ok item =>
          simp only [List.cons_append, acceptedItems, parsed, List.length_cons,
            List.getElem?_cons_succ, induction, List.forall_mem_cons,
            Except.ok.injEq, exists_eq', true_and]

theorem exists_parsed_of_mem {nodes : List Node} {item : Item}
    (member : item ∈ acceptedItems parse nodes) :
    ∃ node ∈ nodes, parse node = .ok item := by
  induction nodes with
  | nil => cases member
  | cons node nodes induction =>
      cases parsed : parse node with
      | error stop => simp [acceptedItems, parsed] at member
      | ok head =>
          simp only [acceptedItems, parsed] at member
          rcases List.mem_cons.mp member with here | later
          · subst here
            exact ⟨node, List.mem_cons_self, parsed⟩
          · obtain ⟨other, inside, accepted⟩ := induction later
            exact ⟨other, List.mem_cons_of_mem node inside, accepted⟩

theorem parsed_of_accepted {nodes : List Node} {items : List Item}
    (accepted : List.Forall₂ (fun node item => parse node = .ok item) nodes items) :
    ∀ node ∈ nodes, ∃ item, parse node = .ok item := by
  induction accepted with
  | nil => simp
  | @cons node item nodes items parsed accepted induction =>
      intro other member
      rcases List.mem_cons.mp member with same | later
      · exact ⟨item, same ▸ parsed⟩
      · exact induction other later

/-- Among accepted nodes, the last node of an identity describes the last item
under the same key. -/
theorem lastWith?_accepted {identity : Node → Option Key}
    (identified : ∀ node item, parse node = .ok item →
      identity node = some (key item))
    {nodes : List Node} {items : List Item}
    (accepted : List.Forall₂ (fun node item => parse node = .ok item) nodes items)
    (wanted : Key) :
    Option.Rel (fun node item => parse node = .ok item)
      (lastWith? identity (some wanted) nodes) (lastWith? key wanted items) := by
  induction accepted with
  | nil => exact Option.Rel.none
  | @cons node item nodes items parsed accepted induction =>
      have sameKey : identity node = some wanted ↔ key item = wanted := by
        rw [identified node item parsed, Option.some.injEq]
      simp only [lastWith?, sameKey]
      cases found : lastWith? identity (some wanted) nodes with
      | some last =>
          rw [found] at induction
          cases kept : lastWith? key wanted items with
          | none =>
              rw [kept] at induction
              cases induction
          | some lastItem =>
              rw [kept] at induction
              simpa using induction
      | none =>
          rw [found] at induction
          cases kept : lastWith? key wanted items with
          | some lastItem =>
              rw [kept] at induction
              cases induction
          | none =>
              by_cases here : key item = wanted
              · simpa [here] using Option.Rel.some parsed
              · simp [here]

/-- Under the identity of an accepted node the last accepted node describes the
last accepted item. -/
theorem exists_described_of_accepted {identity : Node → Option Key}
    (identified : ∀ node item, parse node = .ok item →
      identity node = some (key item))
    {nodes : List Node} {items : List Item}
    (accepted : List.Forall₂ (fun node item => parse node = .ok item) nodes items)
    {node : Node} (member : node ∈ nodes) :
    ∃ wanted last item, identity node = some wanted ∧
      lastWith? identity (some wanted) nodes = some last ∧
      parse last = .ok item ∧ lastWith? key wanted items = some item := by
  obtain ⟨described, parsed⟩ := parsed_of_accepted accepted node member
  have known := identified node described parsed
  obtain ⟨last, found⟩ := Option.isSome_iff_exists.mp
    (lastWith?_isSome_of_mem identity member)
  rw [known] at found
  have related := lastWith?_accepted identified accepted (key described)
  rw [found] at related
  cases kept : lastWith? key (key described) items with
  | none =>
      rw [kept] at related
      cases related
  | some item =>
      rw [kept] at related
      cases related with
      | some lastParsed =>
          exact ⟨key described, last, item, known, found, lastParsed, kept⟩

/-- Whatever the table held before, it reflects all nodes after the loop if
and only if the nodes from the first stop on add nothing new. -/
theorem reflects_ingest_iff (identity : Node → Option Key)
    (identified : ∀ node item, parse node = .ok item →
      identity node = some (key item))
    (nodes : List Node) :
    (∀ table, Reflects parse identity (ingest parse key table nodes).1 nodes) ↔
      RepeatsAccepted parse key identity nodes := by
  obtain ⟨before, split, accepted⟩ := accepted_split parse nodes
  have lastInTail : ∀ node ∈ fromFirstStop parse nodes,
      lastWith? identity (identity node) nodes =
        lastWith? identity (identity node) (fromFirstStop parse nodes) := by
    intro node member
    conv => lhs; rw [split]
    exact lastWith?_append_of_mem member
  constructor
  · intro reflects node member
    have inNodes : node ∈ nodes := by
      rw [split]
      exact List.mem_append_right before member
    obtain ⟨wanted, last, item, known, found, parsed, entry⟩ :=
      reflects (fun _ => none) node inNodes
    refine ⟨wanted, last, item, known, ?_, parsed, ?_⟩
    · rw [← known, ← lastInTail node member, known]
      exact found
    · rw [ingest_apply, Option.or_none] at entry
      exact entry
  · intro repeats table node member
    by_cases repeated : ∃ other ∈ fromFirstStop parse nodes,
        identity other = identity node
    · obtain ⟨other, inTail, sameIdentity⟩ := repeated
      obtain ⟨wanted, last, item, known, found, parsed, kept⟩ :=
        repeats other inTail
      refine ⟨wanted, last, item, sameIdentity ▸ known, ?_, parsed, ?_⟩
      · rw [← known, lastInTail other inTail, known]
        exact found
      · rw [ingest_apply, kept]
        rfl
    · -- The identity occurs among the accepted nodes only.
      have inBefore : node ∈ before := by
        rw [split] at member
        rcases List.mem_append.mp member with early | late
        · exact early
        · exact (repeated ⟨node, late, rfl⟩).elim
      obtain ⟨wanted, last, item, known, found, parsed, kept⟩ :=
        exists_described_of_accepted identified accepted inBefore
      refine ⟨wanted, last, item, known, ?_, parsed, ?_⟩
      · have absent : ∀ other ∈ fromFirstStop parse nodes,
            identity other ≠ some wanted := by
          intro other late same
          exact repeated ⟨other, late, same.trans known.symm⟩
        rw [split, lastWith?_append_of_absent absent]
        exact found
      · rw [ingest_apply, kept]
        rfl

end

end DataGateway.Foundation
