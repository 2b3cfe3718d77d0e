import Mathlib.Logic.Relation
import Rclweb.Library.Numbering

/-!
# An outbox of numbered streams

A sender counts the messages of every key and lets them wait in one queue for all keys, from
which they are taken in order.  Messages of *lossy* keys may be dropped while they wait, and
their numbers may be used up in vain; the others go through.

What a run keeps (`Outbox.InOrder.reaches`) is about the messages that were not lost, whether
they still wait or not: their numbers increase under every key, and under a key that is not
lossy they are all numbers so far.
-/

namespace Rclweb
namespace Numbering

variable {κ : Type} [DecidableEq κ]

theorem ofKey_append (k : κ) (l l' : List (κ × ℕ)) :
    ofKey k (l ++ l') = ofKey k l ++ ofKey k l' := by
  simp [ofKey]

/-- **An outbox**: the next number of every key, the messages that wait and the ones that were
taken, oldest first. -/
structure Outbox (κ : Type) where
  next : κ → ℕ
  queue : List (κ × ℕ)
  taken : List (κ × ℕ)

namespace Outbox

/-- Nothing sent yet. -/
def empty : Outbox κ := ⟨fun _ => 0, [], []⟩

/-- What is not lost. -/
def kept (o : Outbox κ) : List (κ × ℕ) := o.taken ++ o.queue

/-- Use up the next number of a key. -/
def count (o : Outbox κ) (k : κ) : Outbox κ :=
  { o with next := Function.update o.next k (o.next k + 1) }

/-- **One step.**  Only numbers and messages of lossy keys are lost. -/
inductive Step (lossy : κ → Prop) : Outbox κ → Outbox κ → Prop
  | push (o : Outbox κ) (k : κ) :
      Step lossy o { o.count k with queue := o.queue ++ [(k, o.next k)] }
  | skip (o : Outbox κ) (k : κ) : lossy k → Step lossy o (o.count k)
  | drop (o : Outbox κ) (m : κ × ℕ) (rest : List (κ × ℕ)) :
      o.queue = m :: rest → lossy m.1 → Step lossy o { o with queue := rest }
  | take (o : Outbox κ) (m : κ × ℕ) (rest : List (κ × ℕ)) :
      o.queue = m :: rest → Step lossy o { o with queue := rest, taken := o.taken ++ [m] }

/-- **The numbers are in order**, and complete under the keys that are not lossy. -/
structure InOrder (lossy : κ → Prop) (o : Outbox κ) : Prop where
  increasing : ∀ k, (ofKey k o.kept).Pairwise (· < ·)
  below : ∀ k, ∀ n ∈ ofKey k o.kept, n < o.next k
  complete : ∀ k, ¬ lossy k → ofKey k o.kept = List.range (o.next k)

variable {lossy : κ → Prop} {o o' : Outbox κ}

theorem inOrder_empty : InOrder lossy (empty : Outbox κ) where
  increasing _ := .nil
  below _ _ h := nomatch h
  complete _ _ := rfl

theorem InOrder.push (h : o.InOrder lossy) (k : κ) :
    InOrder lossy { o.count k with queue := o.queue ++ [(k, o.next k)] } := by
  set o' : Outbox κ := { o.count k with queue := o.queue ++ [(k, o.next k)] }
  have hkept : o'.kept = o.kept ++ [(k, o.next k)] := (List.append_assoc ..).symm
  have hself : ofKey k o'.kept = ofKey k o.kept ++ [o.next k] := by
    rw [hkept, ofKey_append, ofKey_cons_self, ofKey_nil]
  have hother (k' : κ) (hk : k' ≠ k) : ofKey k' o'.kept = ofKey k' o.kept := by
    rw [hkept, ofKey_append, ofKey_cons_of_ne (Ne.symm hk), ofKey_nil, List.append_nil]
  have hnext : o'.next k = o.next k + 1 := Function.update_self ..
  have hnext' (k' : κ) (hk : k' ≠ k) : o'.next k' = o.next k' := Function.update_of_ne hk ..
  refine ⟨fun k' => ?_, fun k' => ?_, fun k' hlossy => ?_⟩ <;> by_cases hk : k' = k
  · subst hk
    rw [hself, List.pairwise_append]
    refine ⟨h.increasing k', List.pairwise_singleton .., fun n hn m hm => ?_⟩
    rw [List.mem_singleton.mp hm]
    exact h.below k' n hn
  · rw [hother k' hk]
    exact h.increasing k'
  · subst hk
    rw [hself, hnext]
    intro n hn
    rcases List.mem_append.mp hn with hn | hn
    · exact (h.below k' n hn).trans (Nat.lt_succ_self _)
    · rw [List.mem_singleton.mp hn]
      exact Nat.lt_succ_self _
  · rw [hother k' hk, hnext' k' hk]
    exact h.below k'
  · subst hk
    rw [hself, hnext, h.complete k' hlossy, List.range_succ]
  · rw [hother k' hk, hnext' k' hk]
    exact h.complete k' hlossy

theorem InOrder.skip (h : o.InOrder lossy) {k : κ} (hk : lossy k) : (o.count k).InOrder lossy where
  increasing := h.increasing
  below k' n hn := by
    refine (h.below k' n hn).trans_le ?_
    show o.next k' ≤ Function.update o.next k (o.next k + 1) k'
    by_cases hkk : k' = k
    · subst hkk
      rw [Function.update_self]
      exact Nat.le_succ _
    · rw [Function.update_of_ne hkk]
  complete k' hlossy := by
    have hkk : k' ≠ k := fun h => hlossy (h ▸ hk)
    exact (h.complete k' hlossy).trans (congrArg List.range (Function.update_of_ne hkk ..).symm)

theorem InOrder.drop (h : o.InOrder lossy) {m : κ × ℕ} {rest : List (κ × ℕ)}
    (hqueue : o.queue = m :: rest) (hm : lossy m.1) : InOrder lossy { o with queue := rest } := by
  have hkept : o.kept = o.taken ++ m :: rest := by rw [kept, hqueue]
  have hsub (k : κ) : (ofKey k (o.taken ++ rest)).Sublist (ofKey k o.kept) := by
    rw [hkept]
    exact ((((List.sublist_cons_self m rest).append_left o.taken).filter _).map _)
  refine ⟨fun k => (h.increasing k).sublist (hsub k),
    fun k n hn => h.below k n ((hsub k).subset hn), fun k hlossy => ?_⟩
  have hk : m.1 ≠ k := fun hmk => hlossy (hmk ▸ hm)
  have hcomplete := h.complete k hlossy
  rw [hkept, ofKey_append, show m = (m.1, m.2) from rfl, ofKey_cons_of_ne hk] at hcomplete
  rw [← hcomplete]
  exact ofKey_append ..

theorem InOrder.take (h : o.InOrder lossy) {m : κ × ℕ} {rest : List (κ × ℕ)}
    (hqueue : o.queue = m :: rest) :
    InOrder lossy { o with queue := rest, taken := o.taken ++ [m] } := by
  set o' : Outbox κ := { o with queue := rest, taken := o.taken ++ [m] }
  have hkept : o'.kept = o.kept := by
    rw [kept, kept, hqueue]
    exact List.append_assoc ..
  exact ⟨fun k => hkept ▸ h.increasing k, fun k => hkept ▸ h.below k,
    fun k hlossy => hkept ▸ h.complete k hlossy⟩

theorem InOrder.step (h : o.InOrder lossy) (hstep : Step lossy o o') : o'.InOrder lossy := by
  cases hstep with
  | push k => exact h.push k
  | skip k hk => exact h.skip hk
  | drop m rest hqueue hm => exact h.drop hqueue hm
  | take m rest hqueue => exact h.take hqueue

/-- **The order is kept by every run.** -/
theorem InOrder.reaches (h : o.InOrder lossy)
    (hsteps : Relation.ReflTransGen (Step lossy) o o') : o'.InOrder lossy := by
  induction hsteps with
  | refl => exact h
  | tail _ hstep ih => exact ih.step hstep

/-- Any number of lossy messages can be dropped in a row. -/
theorem reaches_drop (o : Outbox κ) (n : ℕ) (h : ∀ m ∈ o.queue.take n, lossy m.1) :
    Relation.ReflTransGen (Step lossy) o { o with queue := o.queue.drop n } := by
  induction n generalizing o with
  | zero => exact .refl
  | succ n ih =>
    obtain ⟨next, queue, taken⟩ := o
    cases queue with
    | nil => exact .refl
    | cons m rest =>
      refine .head (.drop _ m rest rfl (h m List.mem_cons_self)) ?_
      exact ih ⟨next, rest, taken⟩ fun m' hm' => h m' (List.mem_cons_of_mem _ hm')

/-- What was taken under a key that is not lossy is `0, 1, 2, …`. -/
theorem InOrder.taken_eq (h : o.InOrder lossy) {k : κ} (hk : ¬ lossy k) :
    ofKey k o.taken = List.range (ofKey k o.taken).length := by
  have hcomplete := h.complete k hk
  rw [kept, ofKey_append] at hcomplete
  have hstart : ofKey k o.taken <+: List.range (o.next k) := ⟨_, hcomplete⟩
  have hle : (ofKey k o.taken).length ≤ o.next k := by simpa using hstart.length_le
  conv_lhs => rw [List.prefix_iff_eq_take.mp hstart, List.take_range, Nat.min_eq_left hle]

/-- What was taken under any key increases. -/
theorem InOrder.taken_increasing (h : o.InOrder lossy) (k : κ) :
    (ofKey k o.taken).Pairwise (· < ·) := by
  have hincreasing := h.increasing k
  rw [kept, ofKey_append, List.pairwise_append] at hincreasing
  exact hincreasing.1

end Outbox
end Numbering
end Rclweb
