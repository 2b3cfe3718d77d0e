import Mathlib.Logic.Function.Basic
import Rclweb.Library.Acts
import Rclweb.Library.RequestReply

/-!
# The ROS clients

`SerializedClient` and `ActionClient` of `rcl.rs` send a request through rcl and then take
responses until one is there or the deadline has passed.  rcl is the transport of
`RequestReply`, one for each service behind the client; everything else that rcl, the clock and the
interleaved pump decide in a turn of the loop is read from the turn.

The backend takes a client out of its table for as long as a call of it runs, so the calls on one
client come one after the other.  Responses arrive at any time, also between the calls.
-/

namespace Rclweb
namespace Ros

open RequestReply

/-- An error of an rcl call. -/
structure RclError where
  ret : ℤ
  message : String

def rclTimeout : ℤ := 2

def rclActionGoalRejected : ℤ := 2101

/-- The transports of a client, one for each of its services. -/
abbrev Client (κ α : Type) := κ → Transport α

/-- **One turn of a take loop**: the responses that arrive before the take, what the pump returns,
the time that remains until the deadline, and what waiting and taking return. -/
structure Turn (κ α : Type) where
  arrivals : List (κ × Reply α)
  pump : Except RclError Unit
  remaining : ℕ
  wait : Except RclError Unit
  take : Except RclError Unit

section Loop

variable {κ α : Type} [DecidableEq κ]

/-- A response arrives at its service. -/
def Client.arrive (c : Client κ α) (arrival : κ × Reply α) : Client κ α :=
  Function.update c arrival.1 ((c arrival.1).deliver arrival.2)

def Client.arriveAll (c : Client κ α) (arrivals : List (κ × Reply α)) : Client κ α :=
  arrivals.foldl Client.arrive c

def Client.send (c : Client κ α) (k : κ) : Client κ α := Function.update c k (c k).send

/-- Everything that arrives during the turns of a loop. -/
def arrivals (turns : List (Turn κ α)) : List (κ × Reply α) := turns.flatMap (·.arrivals)

/-- **The take loop**: each turn pumps, gives up once the deadline has passed, waits, and takes the
first response; the header is never compared with anything.  The turns end when time does. -/
def waitAndTake (timedOut : String) (pump : Turn κ α → Except RclError Unit) (k : κ) :
    Client κ α → List (Turn κ α) → Client κ α × Except RclError (Reply α)
  | c, [] => (c, .error ⟨rclTimeout, timedOut⟩)
  | c, turn :: turns =>
    let c := c.arriveAll turn.arrivals
    match pump turn with
    | .error err => (c, .error err)
    | .ok () =>
      if turn.remaining = 0 then (c, .error ⟨rclTimeout, timedOut⟩)
      else
        match turn.wait, turn.take with
        | .error err, _ => (c, .error err)
        | .ok (), .error err => (c, .error err)
        | .ok (), .ok () =>
          match (c k).take with
          -- the take failed because nothing is there: once more
          | none => waitAndTake timedOut pump k c turns
          | some (response, rest) => (Function.update c k rest, .ok response)

/-! ## Service clients -/

/-- What happens around one call: whether the messages can be made and the request sent, and the
turns of its loop. -/
structure Call (α : Type) where
  prepared : Except RclError Unit
  sent : Except RclError Unit
  turns : List (Turn Unit α)

/-- **How a call ends**: the number its own request got, if it was sent, and what it returns. -/
structure Outcome where
  seq : Option ℕ
  result : Except RclError (List UInt8)

abbrev SerializedClient (α : Type) := Client Unit α

/-- `call_with_pump`. -/
def SerializedClient.callWithPump (serializeMessage : α → Except RclError (List UInt8))
    (c : SerializedClient α) (call : Call α) : SerializedClient α × Outcome :=
  match call.prepared, call.sent with
  | .error err, _ => (c, ⟨none, .error err⟩)
  | .ok (), .error err => (c, ⟨none, .error err⟩)
  | .ok (), .ok () =>
    let c := Client.send c ()
    let seq := (c ()).sent
    match waitAndTake "service call timed out" Turn.pump () c call.turns with
    | (c, .error err) => (c, ⟨some seq, .error err⟩)
    | (c, .ok response) => (c, ⟨some seq, serializeMessage response.message⟩)

/-! ## Action clients -/

/-- The services of an action that a client sends requests to. -/
inductive ActionService
  | sendGoal
  | getResult
  | cancelGoal
deriving DecidableEq

/-- What happens around one goal: the two requests and their loops. -/
structure Goal (α : Type) where
  prepared : Except RclError Unit
  goalSent : Except RclError Unit
  goalTurns : List (Turn ActionService α)
  resultSent : Except RclError Unit
  resultTurns : List (Turn ActionService α)

/-- What happens around one cancel. -/
structure Cancel (α : Type) where
  prepared : Except RclError Unit
  sent : Except RclError Unit
  turns : List (Turn ActionService α)

abbrev ActionClient (α : Type) := Client ActionService α

/-- `send_goal_result_with_pump`.  The number is the one of the result request. -/
def ActionClient.sendGoalResultWithPump (serializeMessage : α → Except RclError (List UInt8))
    (accepted : α → Bool) (c : ActionClient α) (goal : Goal α) : ActionClient α × Outcome :=
  match goal.prepared, goal.goalSent with
  | .error err, _ => (c, ⟨none, .error err⟩)
  | .ok (), .error err => (c, ⟨none, .error err⟩)
  | .ok (), .ok () =>
    match waitAndTake "action goal response timed out" Turn.pump .sendGoal
      (Client.send c .sendGoal) goal.goalTurns with
    | (c, .error err) => (c, ⟨none, .error err⟩)
    | (c, .ok response) =>
      if accepted response.message = false then
        (c, ⟨none, .error ⟨rclActionGoalRejected, "action goal rejected"⟩⟩)
      else
        match goal.resultSent with
        | .error err => (c, ⟨none, .error err⟩)
        | .ok () =>
          let c := Client.send c .getResult
          let seq := (c .getResult).sent
          match waitAndTake "action result response timed out" Turn.pump .getResult c
            goal.resultTurns with
          | (c, .error err) => (c, ⟨some seq, .error err⟩)
          | (c, .ok response) => (c, ⟨some seq, serializeMessage response.message⟩)

/-- `cancel_goal`; its loop does not pump. -/
def ActionClient.cancelGoal (serializeMessage : α → Except RclError (List UInt8))
    (c : ActionClient α) (cancel : Cancel α) : ActionClient α × Outcome :=
  match cancel.prepared, cancel.sent with
  | .error err, _ => (c, ⟨none, .error err⟩)
  | .ok (), .error err => (c, ⟨none, .error err⟩)
  | .ok (), .ok () =>
    let c := Client.send c .cancelGoal
    let seq := (c .cancelGoal).sent
    match waitAndTake "action cancel response timed out" (fun _ => .ok ()) .cancelGoal c
      cancel.turns with
    | (c, .error err) => (c, ⟨some seq, .error err⟩)
    | (c, .ok response) => (c, ⟨some seq, serializeMessage response.message⟩)

end Loop

end Ros
end Rclweb
