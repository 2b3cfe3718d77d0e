import Mathlib.Data.List.Basic
import Mathlib.Logic.Function.Basic

/-!
# Sequence domains

A receiver follows the numbers of several domains on their own.  In a reliable domain it takes the
next number and nothing else; in an unreliable one it takes any number that is not behind the ones
it has taken, and passes over the others.

`InOrder` says that a receiver takes every arrival of a list.  Then no number of a domain comes
twice, and those of a reliable domain are `0, 1, 2, …` (`InOrder.pairwise`, `InOrder.range`).
-/

namespace Rclweb
namespace SequenceDomain

/-- A number that arrives in a domain. -/
structure Arrival (κ : Type) where
  domain : κ
  reliable : Bool
  sequence : ℕ
  deriving DecidableEq, Repr

/-- What a receiver does with an arrival. -/
inductive Disposition where
  | deliver
  | drop
  | fail
  deriving DecidableEq, Repr

variable {κ : Type} [DecidableEq κ]

/-- **The receiver's rule**, `next` being the first number of the domain it has not passed. -/
def disposition (next : κ → ℕ) (a : Arrival κ) : Disposition :=
  if a.reliable then
    if a.sequence = next a.domain then .deliver else .fail
  else if next a.domain ≤ a.sequence then .deliver else .drop

/-- The numbers after an arrival. -/
def advance (next : κ → ℕ) (a : Arrival κ) : κ → ℕ :=
  match disposition next a with
  | .deliver => Function.update next a.domain (a.sequence + 1)
  | _ => next

/-- **Every arrival of a list is taken.** -/
def InOrder : (κ → ℕ) → List (Arrival κ) → Prop
  | _, [] => True
  | next, a :: as => disposition next a = .deliver ∧ InOrder (advance next a) as

/-- The numbers of one domain, in the order of their arrival. -/
def sequences (d : κ) (as : List (Arrival κ)) : List ℕ :=
  (as.filter fun a => a.domain = d).map (·.sequence)

variable {next : κ → ℕ} {a : Arrival κ} {as : List (Arrival κ)} {d : κ}

omit [DecidableEq κ] in
theorem le_of_deliver (h : disposition next a = .deliver) : next a.domain ≤ a.sequence := by
  unfold disposition at h
  split_ifs at h with hreliable heq hle
  · exact Nat.le_of_eq heq.symm
  · exact hle

theorem advance_of_deliver (h : disposition next a = .deliver) :
    advance next a = Function.update next a.domain (a.sequence + 1) := by
  rw [advance, h]

theorem sequences_cons_self (h : a.domain = d) :
    sequences d (a :: as) = a.sequence :: sequences d as := by
  rw [sequences, List.filter_cons_of_pos (by simpa using h)]
  rfl

theorem sequences_cons_of_ne (h : a.domain ≠ d) : sequences d (a :: as) = sequences d as := by
  rw [sequences, List.filter_cons_of_neg (by simpa using h)]
  rfl

/-- No number is behind the ones that were passed. -/
theorem InOrder.le_of_mem (h : InOrder next as) {n : ℕ} (hn : n ∈ sequences d as) :
    next d ≤ n := by
  induction as generalizing next with
  | nil => exact absurd hn List.not_mem_nil
  | cons a as ih =>
    have hle := le_of_deliver h.1
    have hrest := ih h.2
    rw [advance_of_deliver h.1] at hrest
    by_cases hd : a.domain = d
    · rw [sequences_cons_self hd] at hn
      rcases List.mem_cons.mp hn with rfl | hn
      · rwa [hd] at hle
      · have hlt := hrest hn
        rw [← hd, Function.update_self] at hlt
        rw [← hd]
        omega
    · rw [sequences_cons_of_ne hd] at hn
      have hlt := hrest hn
      rwa [Function.update_of_ne (Ne.symm hd)] at hlt

/-- **The numbers of a domain grow**, so none is taken twice. -/
theorem InOrder.pairwise (h : InOrder next as) (d : κ) :
    (sequences d as).Pairwise (· < ·) := by
  induction as generalizing next with
  | nil => exact List.Pairwise.nil
  | cons a as ih =>
    by_cases hd : a.domain = d
    · rw [sequences_cons_self hd]
      refine List.Pairwise.cons (fun n hn => ?_) (ih h.2)
      have hle := h.2.le_of_mem hn
      rw [advance_of_deliver h.1, ← hd, Function.update_self] at hle
      omega
    · rw [sequences_cons_of_ne hd]
      exact ih h.2

/-- **The numbers of a reliable domain leave no gap.** -/
theorem InOrder.range (h : InOrder next as)
    (hreliable : ∀ a ∈ as, a.domain = d → a.reliable = true) :
    sequences d as = List.range' (next d) (sequences d as).length := by
  induction as generalizing next with
  | nil => rfl
  | cons a as ih =>
    have hrest := ih h.2 fun b hb => hreliable b (List.mem_cons_of_mem a hb)
    rw [advance_of_deliver h.1] at hrest
    by_cases hd : a.domain = d
    · have hseq : a.sequence = next d := by
        have hdeliver := h.1
        rw [disposition, if_pos (hreliable a List.mem_cons_self hd)] at hdeliver
        split_ifs at hdeliver with heq
        rwa [hd] at heq
      rw [← hd, Function.update_self, hd] at hrest
      rw [sequences_cons_self hd, hseq, List.length_cons, List.range'_succ, ← hseq, ← hrest]
    · rw [Function.update_of_ne (Ne.symm hd)] at hrest
      rw [sequences_cons_of_ne hd]
      exact hrest

end SequenceDomain
end Rclweb
