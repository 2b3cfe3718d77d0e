import Rclweb.Gateway.Backend
import Rclweb.Library.Acts
import Rclweb.Library.Table
import Rclweb.Ros.Rcl

/-!
# The servers of the ROS thread

One thread owns the service servers and the action servers of all connections.  It takes requests,
goals, result requests and cancels from ROS and hands the first, second and last kind to the
connection through a bounded queue, and it executes the commands of the connections.  An act below
is one turn of a take loop, one command, or something a connection does; a connection runs
concurrently, so its acts may come between any two turns.

What rcl returns is part of the act.  `taken`, `delivered`, `seen` and `answered` record what
happened and are read by no function.  The counters of entities and operations are natural numbers.
-/

namespace Rclweb
namespace Ros

open Gateway (BackendError ServiceRequest ActionInbound sampleHeaderPrefix)

/-- The identity of a ROS request. -/
structure RequestHeader where
  writerGuid : List UInt8
  sequenceNumber : ℤ
  deriving DecidableEq

/-- The sending end of a bounded channel, with what waits in it. -/
structure Sink (α : Type) where
  capacity : ℕ
  queue : List α
  closed : Bool

namespace Sink

variable {α : Type} (s : Sink α)

/-- The receiver listens and there is a free place. -/
def HasRoom : Prop := s.closed = false ∧ s.queue.length < s.capacity

instance : Decidable s.HasRoom :=
  inferInstanceAs (Decidable (s.closed = false ∧ s.queue.length < s.capacity))

/-- `try_send`: whether it went in. -/
def trySend (a : α) : Sink α × Bool :=
  if s.HasRoom then ({ s with queue := s.queue ++ [a] }, true) else (s, false)

end Sink

/-- The reserved header in front of a payload. -/
def prefixed (payload : List UInt8) : List UInt8 := List.replicate sampleHeaderPrefix 0 ++ payload

/-- The operation id of a count. -/
def operationIdOf (count : ℕ) : OperationId :=
  ⟨List.replicate 8 0 ++ BigEndian.toBytes 8 count, by simp⟩

/-- A service server; `pending` are the requests that wait for a response. -/
structure ServiceEntry where
  channelId : UInt32
  sink : ℕ
  pending : Table OperationId RequestHeader
  nextOpid : ℕ

/-- A goal that was accepted. -/
structure GoalSlot where
  handle : ℕ
  pendingResultHeader : Option RequestHeader
  resultCdr : Option (List UInt8)
  succeeded : Bool

structure ActionServerEntry where
  channelId : UInt32
  sink : ℕ
  goals : Table OperationId GoalSlot

/-- Something that was removed from ROS for a channel. -/
inductive Item where
  | request (entity : ℕ) (header : RequestHeader)
  | goal (entity : ℕ) (uuid : OperationId)
  | cancel (entity : ℕ) (uuid : OperationId)

/-- **The servers, and the queues of the connections.** -/
structure Worker where
  nextEntity : ℕ
  services : Table ℕ ServiceEntry
  actionServers : Table ℕ ActionServerEntry
  requests : ℕ → Sink ServiceRequest
  actions : ℕ → Sink ActionInbound
  /-- What was removed from ROS while the connection of its channel listened. -/
  taken : List Item
  /-- What was put into the queue of a connection. -/
  delivered : List Item
  /-- The requests among them, with the operation id under which the browser sees them. -/
  seen : List (ℕ × OperationId × RequestHeader)
  /-- The requests that rcl took a response for. -/
  answered : List (ℕ × OperationId)

/-- What taking a message does: nothing is there, it fails, or the message is removed from ROS and
then serialized, which may fail. -/
inductive Take (α : Type) where
  | nothing
  | failed (err : RclError)
  | removed (item : α) (cdr : Except RclError (List UInt8))

namespace Worker

variable (w : Worker)

/-- Something was removed from ROS for a channel whose connection may be gone. -/
def take (item : Item) (closed : Bool) : Worker :=
  if closed then w else { w with taken := w.taken ++ [item] }

/-! ## The take loops -/

/-- A turn of `pump_ready_services`. -/
def takeRequest (entity : ℕ) (result : Take RequestHeader) : Worker :=
  match w.services.find? entity with
  | none => w
  | some entry =>
    match result with
    | .nothing | .failed _ => w
    | .removed header (.error _) => w.take (.request entity header) (w.requests entry.sink).closed
    | .removed header (.ok cdr) =>
      let w := w.take (.request entity header) (w.requests entry.sink).closed
      let count := entry.nextOpid + 1
      let operationId := operationIdOf count
      let w := { w with
        services := w.services.set entity
          { entry with pending := entry.pending.set operationId header, nextOpid := count } }
      match (w.requests entry.sink).trySend ⟨entry.channelId, operationId, prefixed cdr⟩ with
      | (_, false) => w
      | (sink, true) =>
        { w with
          requests := Function.update w.requests entry.sink sink
          delivered := w.delivered ++ [Item.request entity header]
          seen := w.seen ++ [(entity, operationId, header)] }

/-- A turn of the goal loop of `pump_one_action_server`.  `accepted` is what `accept_goal`
returns. -/
def takeGoal (entity : ℕ) (result : Take (RequestHeader × OperationId))
    (accepted : Except RclError ℕ) : Worker :=
  match w.actionServers.find? entity with
  | none => w
  | some entry =>
    match result with
    | .nothing | .failed _ => w
    | .removed (_, uuid) (.error _) => w.take (.goal entity uuid) (w.actions entry.sink).closed
    | .removed (_, uuid) (.ok goalCdr) =>
      let w := w.take (.goal entity uuid) (w.actions entry.sink).closed
      match accepted with
      | .error _ => w
      | .ok handle =>
        let w := { w with
          actionServers := w.actionServers.set entity
            { entry with goals := entry.goals.set uuid ⟨handle, none, none, false⟩ } }
        match (w.actions entry.sink).trySend
          ⟨false, entry.channelId, uuid, prefixed goalCdr⟩ with
        | (_, false) => w
        | (sink, true) =>
          { w with
            actions := Function.update w.actions entry.sink sink
            delivered := w.delivered ++ [Item.goal entity uuid] }

/-- A turn of the result loop of `pump_one_action_server`: a goal whose result is known is finished
and answered, for another the request is kept. -/
def takeResultRequest (entity : ℕ) (result : Except RclError (Option (RequestHeader × OperationId)))
    (succeedGoal : Except RclError Unit) : Worker :=
  match w.actionServers.find? entity, result with
  | some entry, .ok (some (header, uuid)) =>
    match entry.goals.find? uuid with
    | none => w
    | some slot =>
      let setSlot := fun slot : GoalSlot => { w with
        actionServers := w.actionServers.set entity
          { entry with goals := entry.goals.set uuid slot } }
      match slot.resultCdr with
      | none => setSlot { slot with pendingResultHeader := some header }
      | some _ =>
        let slot := { slot with pendingResultHeader := none }
        match slot.succeeded, succeedGoal with
        | false, .ok () => setSlot { slot with succeeded := true }
        | _, _ => setSlot slot
  | _, _ => w

/-- A turn of the cancel loop of `pump_one_action_server`.  The header of the cancel is dropped. -/
def takeCancel (entity : ℕ) (result : Take (RequestHeader × OperationId)) : Worker :=
  match w.actionServers.find? entity with
  | none => w
  | some entry =>
    match result with
    | .nothing | .failed _ => w
    | .removed (_, uuid) (.error _) => w.take (.cancel entity uuid) (w.actions entry.sink).closed
    | .removed (_, uuid) (.ok cdr) =>
      let w := w.take (.cancel entity uuid) (w.actions entry.sink).closed
      match (w.actions entry.sink).trySend ⟨true, entry.channelId, uuid, prefixed cdr⟩ with
      | (_, false) => w
      | (sink, true) =>
        { w with
          actions := Function.update w.actions entry.sink sink
          delivered := w.delivered ++ [Item.cancel entity uuid] }

/-! ## The commands -/

def createService (channelId : UInt32) (sink : ℕ) : Worker :=
  let entity := w.nextEntity + 1
  { w with nextEntity := entity, services := w.services.set entity ⟨channelId, sink, ∅, 0⟩ }

def createActionServer (channelId : UInt32) (sink : ℕ) : Worker :=
  let entity := w.nextEntity + 1
  { w with nextEntity := entity, actionServers := w.actionServers.set entity ⟨channelId, sink, ∅⟩ }

/-- An error of rcl, for the connection. -/
def mapRclError (err : RclError) : BackendError := ⟨13, err.message⟩

/-- `send_service_response`: the request is forgotten before rcl is asked to send.  `sent` is what
rcl says. -/
def sendServiceResponse (entity : ℕ) (operationId : OperationId) (sent : Except RclError Unit) :
    Worker × Except BackendError Unit :=
  match w.services.find? entity with
  | none => (w, .error ⟨13, "unknown service server entity"⟩)
  | some entry =>
    match entry.pending.find? operationId with
    | none => (w, .error ⟨13, "unknown service operation_id"⟩)
    | some _ =>
      let w := { w with
        services := w.services.set entity
          { entry with pending := entry.pending.remove operationId } }
      match sent with
      | .error err => (w, .error (mapRclError err))
      | .ok () => ({ w with answered := w.answered ++ [(entity, operationId)] }, .ok ())

/-- `send_action_result`: the result is kept, the goal is finished, and a result request that waits
is answered. -/
def sendActionResult (entity : ℕ) (operationId : OperationId) (payload : List UInt8)
    (succeedGoal sendResult : Except RclError Unit) : Worker × Except BackendError Unit :=
  match w.actionServers.find? entity with
  | none => (w, .error ⟨13, "unknown action server entity"⟩)
  | some entry =>
    match entry.goals.find? operationId with
    | none => (w, .error ⟨13, "unknown action goal operation_id"⟩)
    | some slot =>
      let setSlot := fun slot : GoalSlot => { w with
        actionServers := w.actionServers.set entity
          { entry with goals := entry.goals.set operationId slot } }
      let kept := { slot with resultCdr := some payload, pendingResultHeader := none }
      match slot.succeeded, succeedGoal with
      | false, .error err => (setSlot kept, .error (mapRclError err))
      | _, _ =>
        (setSlot { kept with succeeded := true },
          match slot.pendingResultHeader, sendResult with
          | some _, .error err => .error (mapRclError err)
          | _, _ => .ok ())

def destroyEntity (entity : ℕ) : Worker :=
  { w with
    services := w.services.remove entity
    actionServers := w.actionServers.remove entity }

end Worker

/-- **What happens around the servers.** -/
inductive Act where
  | takeRequest (entity : ℕ) (result : Take RequestHeader)
  | takeGoal (entity : ℕ) (result : Take (RequestHeader × OperationId))
      (accepted : Except RclError ℕ)
  | takeResultRequest (entity : ℕ)
      (result : Except RclError (Option (RequestHeader × OperationId)))
      (succeedGoal : Except RclError Unit)
  | takeCancel (entity : ℕ) (result : Take (RequestHeader × OperationId))
  | createService (channelId : UInt32) (sink : ℕ)
  | createActionServer (channelId : UInt32) (sink : ℕ)
  | sendServiceResponse (entity : ℕ) (operationId : OperationId) (sent : Except RclError Unit)
  | sendActionResult (entity : ℕ) (operationId : OperationId) (payload : List UInt8)
      (succeedGoal sendResult : Except RclError Unit)
  | destroy (entity : ℕ)
  /-- A connection takes the next request or action out of its queue. -/
  | consumeRequest (connection : ℕ)
  | consumeAction (connection : ℕ)
  /-- A connection stops listening. -/
  | leave (connection : ℕ)

namespace Worker

/-- The connections listen to queues of the given capacities, and there is no server yet. -/
def initial (capacity : ℕ → ℕ) : Worker where
  nextEntity := 0
  services := ∅
  actionServers := ∅
  requests connection := ⟨capacity connection, [], false⟩
  actions connection := ⟨capacity connection, [], false⟩
  taken := []
  delivered := []
  seen := []
  answered := []

/-- **One act.** -/
def step (w : Worker) : Act → Worker
  | .takeRequest entity result => w.takeRequest entity result
  | .takeGoal entity result accepted => w.takeGoal entity result accepted
  | .takeResultRequest entity result succeedGoal => w.takeResultRequest entity result succeedGoal
  | .takeCancel entity result => w.takeCancel entity result
  | .createService channelId sink => w.createService channelId sink
  | .createActionServer channelId sink => w.createActionServer channelId sink
  | .sendServiceResponse entity operationId sent =>
    (w.sendServiceResponse entity operationId sent).1
  | .sendActionResult entity operationId payload succeedGoal sendResult =>
    (w.sendActionResult entity operationId payload succeedGoal sendResult).1
  | .destroy entity => w.destroyEntity entity
  | .consumeRequest connection =>
    let sink := w.requests connection
    { w with
      requests := Function.update w.requests connection { sink with queue := sink.queue.tail } }
  | .consumeAction connection =>
    let sink := w.actions connection
    { w with
      actions := Function.update w.actions connection { sink with queue := sink.queue.tail } }
  | .leave connection =>
    { w with
      requests := Function.update w.requests connection
        { w.requests connection with closed := true }
      actions := Function.update w.actions connection
        { w.actions connection with closed := true } }

end Worker

end Ros
end Rclweb
