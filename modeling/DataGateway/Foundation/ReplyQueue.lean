import Mathlib.Data.List.Basic
import Mathlib.Tactic.Common

/-!
# Channels that reply in order

A client numbers its requests in the order in which it sends them, and the
channel delivers the replies in that order.  A request whose reply the client
does not wait for leaves an undelivered exchange behind, so a later request
that waits for a reply receives the oldest undelivered one.  The lemmas below
say when that is its own.
-/

namespace DataGateway.Foundation

/-- A request, its place in the order of sending, and the reply to it. -/
structure Exchange (Request Reply : Type*) where
  number : Nat
  request : Request
  reply : Reply

/-- `undelivered` holds the exchanges whose replies are still to come, oldest
first. -/
structure Channel (Request Reply : Type*) where
  issued : Nat
  undelivered : List (Exchange Request Reply)
  ordered : undelivered.Pairwise (·.number < ·.number)
  earlier : ∀ exchange ∈ undelivered, exchange.number < issued

namespace Channel

variable {Request Reply : Type*}

def empty : Channel Request Reply :=
  { issued := 0
    undelivered := []
    ordered := List.Pairwise.nil
    earlier := by simp }

/-- The exchange that a request sent now starts. -/
def fresh (channel : Channel Request Reply) (request : Request)
    (reply : Reply) : Exchange Request Reply :=
  { number := channel.issued
    request := request
    reply := reply }

def append (channel : Channel Request Reply) (request : Request)
    (reply : Reply) : Channel Request Reply :=
  { issued := channel.issued + 1
    undelivered := channel.undelivered ++ [channel.fresh request reply]
    ordered := by
      apply List.pairwise_append.mpr
      refine ⟨channel.ordered, List.pairwise_singleton _ _, ?_⟩
      intro exchange member newest same
      cases List.mem_singleton.mp same
      exact channel.earlier exchange member
    earlier := by
      intro exchange member
      rcases List.mem_append.mp member with older | newest
      · exact Nat.lt_succ_of_lt (channel.earlier exchange older)
      · cases List.mem_singleton.mp newest
        exact Nat.lt_succ_self _ }

/-- The oldest undelivered exchange is delivered; `none` when there is nothing
to wait for. -/
def deliver? (channel : Channel Request Reply) :
    Option (Exchange Request Reply × Channel Request Reply) :=
  match split : channel.undelivered with
  | [] => none
  | oldest :: later =>
      some (oldest,
        { issued := channel.issued
          undelivered := later
          ordered := (List.pairwise_cons.mp (split ▸ channel.ordered)).2
          earlier := by
            intro exchange member
            apply channel.earlier
            rw [split]
            exact List.mem_cons_of_mem _ member })

section

variable {channel rest : Channel Request Reply} {request : Request}
  {reply : Reply} {exchange : Exchange Request Reply}

@[simp] theorem empty_undelivered :
    (empty : Channel Request Reply).undelivered = [] := rfl

@[simp] theorem append_undelivered :
    (channel.append request reply).undelivered =
      channel.undelivered ++ [channel.fresh request reply] := rfl

theorem deliver?_eq_none_iff :
    channel.deliver? = none ↔ channel.undelivered = [] := by
  unfold deliver?
  split
  · next split => simp [split]
  · next split => simp [split]

theorem deliver?_eq_some (delivered : channel.deliver? = some (exchange, rest)) :
    channel.undelivered = exchange :: rest.undelivered := by
  unfold deliver? at delivered
  split at delivered
  · cases delivered
  · next split =>
      cases delivered
      exact split

theorem deliver?_append_ne_none (channel : Channel Request Reply)
    (request : Request) (reply : Reply) :
    (channel.append request reply).deliver? ≠ none := by
  intro none
  have nothing := deliver?_eq_none_iff.mp none
  simp at nothing

/-- A request that waits receives the reply to itself exactly when no earlier
reply is undelivered. -/
theorem deliver?_append_own_iff
    (delivered : (channel.append request reply).deliver? = some (exchange, rest)) :
    exchange = channel.fresh request reply ↔ channel.undelivered = [] := by
  have split := deliver?_eq_some delivered
  rw [append_undelivered] at split
  constructor
  · intro own
    cases undelivered : channel.undelivered with
    | nil => rfl
    | cons oldest later =>
        rw [undelivered, List.cons_append] at split
        injection split with oldestOwn _
        have older : oldest.number < channel.issued := by
          apply channel.earlier
          rw [undelivered]
          exact List.mem_cons_self
        rw [oldestOwn, own] at older
        exact absurd older (Nat.lt_irrefl _)
  · intro drained
    rw [drained, List.nil_append] at split
    injection split with own _
    exact own.symm

/-- Waiting for a reply on a drained channel leaves it drained. -/
theorem deliver?_append_drained (drained : channel.undelivered = [])
    (delivered : (channel.append request reply).deliver? = some (exchange, rest)) :
    rest.undelivered = [] := by
  have split := deliver?_eq_some delivered
  rw [append_undelivered, drained, List.nil_append] at split
  injection split with _ nothing
  exact nothing.symm

end

end Channel

end DataGateway.Foundation
