import Mathlib.Data.List.Infix
import Mathlib.Data.List.Nodup
import Mathlib.Data.Nat.Notation

/-!
# Numbered requests and their replies

A transport numbers the requests of a client from one and delivers each reply at any later time,
once, with the number of its request.  What is delivered waits in order of arrival until the client
takes it.  The transport does not know which request a taken reply is meant for: a client that
takes the first reply gets the reply to its own request exactly when no earlier one is in front of
it.
-/

namespace Rclweb
namespace RequestReply

/-- A reply, with the number of the request it answers. -/
structure Reply (α : Type) where
  number : ℕ
  message : α

/-- **The transport between a client and its service**: how many requests were sent, the replies
delivered so far, and how many of them were taken. -/
structure Transport (α : Type) where
  sent : ℕ
  delivered : List (Reply α)
  taken : ℕ
  taken_le : taken ≤ delivered.length
  numbered : ∀ r ∈ delivered, 0 < r.number ∧ r.number ≤ sent
  once : (delivered.map (·.number)).Nodup

namespace Transport

variable {α : Type} (t : Transport α)

/-- Nothing sent yet. -/
def empty : Transport α := ⟨0, [], 0, Nat.le_refl _, fun _ h => absurd h List.not_mem_nil, List.nodup_nil⟩

/-- The replies that wait to be taken. -/
def queued : List (Reply α) := t.delivered.drop t.taken

/-- A request that was sent and has no reply so far. -/
def Unanswered (n : ℕ) : Prop := 0 < n ∧ n ≤ t.sent ∧ n ∉ t.delivered.map (·.number)

instance (n : ℕ) : Decidable (t.Unanswered n) :=
  inferInstanceAs (Decidable (0 < n ∧ n ≤ t.sent ∧ n ∉ t.delivered.map (·.number)))

/-- One more request, whose number is the new count. -/
def send : Transport α :=
  ⟨t.sent + 1, t.delivered, t.taken, t.taken_le,
    fun r hr => ⟨(t.numbered r hr).1, (t.numbered r hr).2.trans (Nat.le_succ _)⟩, t.once⟩

/-- A reply arrives.  Only an unanswered request can be replied to. -/
def deliver (r : Reply α) : Transport α :=
  if h : t.Unanswered r.number then
    { t with
      delivered := t.delivered ++ [r]
      taken_le := t.taken_le.trans (List.length_append ▸ Nat.le_add_right _ _)
      numbered := by
        intro s hs
        rcases List.mem_append.mp hs with hs | hs
        · exact t.numbered s hs
        · rw [List.mem_singleton.mp hs]
          exact ⟨h.1, h.2.1⟩
      once := by
        rw [List.map_append]
        exact t.once.append (List.nodup_singleton _)
          (List.disjoint_singleton.mpr h.2.2) }
  else t

/-- The first reply that waits, and the transport without it. -/
def take : Option (Reply α × Transport α) :=
  if h : t.taken < t.delivered.length then
    some (t.delivered[t.taken], { t with taken := t.taken + 1, taken_le := h })
  else none

/-! ## What a client can tell -/

variable {t}

/-- The reply to a request is the only one with its number. -/
theorem eq_of_number_eq {r r' : Reply α} (hr : r ∈ t.delivered) (hr' : r' ∈ t.delivered)
    (h : r.number = r'.number) : r = r' :=
  List.inj_on_of_nodup_map t.once hr hr' h

@[simp] theorem sent_send : t.send.sent = t.sent + 1 := rfl

@[simp] theorem queued_send : t.send.queued = t.queued := rfl

theorem sent_deliver (r : Reply α) : (t.deliver r).sent = t.sent := by
  unfold deliver
  split <;> rfl

theorem queued_of_take_eq_none (h : t.take = none) : t.queued = [] := by
  unfold take at h
  split at h
  · cases h
  · next hle => exact List.drop_eq_nil_iff.mpr (Nat.le_of_not_lt hle)

end Transport
end RequestReply
end Rclweb
