import Rclweb.Library.Table
import Rclweb.Worker.Messages

/-!
# The I/O worker

The worker owns the host.  `onmessage` matches each message of the page to a call of the host, and
`onEvent` each event of the host to a message for the page.  Which request an answer belongs to is
kept in between: channels that are being opened by channel id, operations by channel and operation
id, and a session under the number of the last `connect` or `reconnect`.

A call of the host that polls the engine delivers events before it returns or throws, so a message
is handled in two steps, `receive` up to the call and `complete` behind it.  Creating the host is
awaited, and other messages are handled in the meantime.
-/

namespace Rclweb
namespace Worker

open Engine Rclweb.Types

/-- **Calls of the host.** -/
inductive HostCall where
  | create (wasmUrl : String)
  | connect (url : String) (options : ConnectOptions)
  | reconnect (url : String)
  | subscribe (request : TopicRequest)
  | publish (request : TopicRequest)
  | sendSample (channelId : ℕ) (data : String)
  | sendPointCloud2 (channelId : ℕ) (message : PointCloud2)
  | sendGenerated (channelId : ℕ) (typeName : String) (value : List UInt8)
  | unsubscribe (correlation : List UInt8) (channelId : ℕ)
  | openService (request : EndpointRequest)
  | callService (request : OperationRequest)
  | sendServiceResponse (request : OperationRequest)
  | openAction (request : EndpointRequest)
  | sendActionGoal (request : OperationRequest)
  | cancelAction (channelId : ℕ) (operationId : List UInt8)
  | sendActionFeedback (request : OperationRequest)
  | sendActionResult (request : OperationRequest)
  | sendActionStatus (request : OperationRequest)
  | releaseLease (leaseId : UInt32)
  | dispose
  deriving DecidableEq, Repr

/-- The four kinds of channels the worker opens. -/
inductive Opening where
  | subscribe
  | publish
  | service
  | action
  deriving DecidableEq, Repr

/-- The two kinds of operations the worker starts. -/
inductive Operation where
  | call
  | goal
  deriving DecidableEq, Repr

/-- **The state of the worker.**  `pending` is the maps `pendingSubscribe`, `pendingPublish`,
`pendingService` and `pendingAction`, `operations` is `pendingCalls` and `pendingActionResults`.
A message is in `handling` while the host is called for it. -/
structure IoWorker where
  host : Bool := false
  connectUrl : String := ""
  connectRequestId : ℕ := 0
  pending : Opening → Table ℕ ℕ := fun _ => ∅
  operations : Operation → Table (ℕ × List UInt8) ℕ := fun _ => ∅
  channelTypes : Table ℕ String := ∅
  creating : Option ℕ := none
  handling : Option MainToWorker := none
  calls : List HostCall := []
  posted : List WorkerToMain := []

/-- What the host makes of the payload of a sample. -/
structure SampleReading where
  hostView : Option BufferView := none
  generated : Option GeneratedMessage := none
  stringData : Option String := none
  pointCloud2 : Option PointCloud2 := none

/-- What the host makes of the payload of an event. -/
structure Payload where
  copied : List UInt8 := []
  sample : SampleReading := {}

/-- `Number(n)` of a bigint: the closest double. -/
def number (n : ℕ) : ℕ :=
  if n < 2 ^ 53 then n
  else
    let unit := 2 ^ (n.log2 - 52)
    let down := n / unit
    let rest := n % unit
    (if unit < 2 * rest ∨ unit = 2 * rest ∧ down % 2 = 1 then down + 1 else down) * unit

def isGeneratedMsgType (typeName : String) : Bool :=
  typeName == primitiveScalarsTypeName || typeName == nestedSampleTypeName ||
    typeName == collectionsTypeName

def isPointCloud2Type (typeName : Option String) : Bool :=
  typeName == some "sensor_msgs/msg/PointCloud2" || typeName == some "sensor_msgs/PointCloud2"

namespace IoWorker

variable (s : IoWorker)

def post (msg : WorkerToMain) : IoWorker := { s with posted := s.posted ++ [msg] }

def call (c : HostCall) : IoWorker := { s with calls := s.calls ++ [c] }

/-! ## Events of the host -/

/-- A body the host kept goes to the page as it is, without its lease. -/
def transferHostCdr (channelId : ℕ) (leaseId : UInt32) (view : BufferView) (kind : HostCdrKind) :
    IoWorker :=
  (s.call (.releaseLease leaseId)).post (.sampleHostCdr channelId kind view)

def deliverSample (channelId : ℕ) (leaseId : UInt32) (reading : SampleReading) : IoWorker :=
  if !s.host then s
  else
    let typeName := s.channelTypes.find? channelId
    if typeName.any isGeneratedMsgType then
      let typeName := typeName.getD ""
      match reading.hostView with
      | some view => s.transferHostCdr channelId leaseId view (.generated typeName)
      | none =>
        let s := s.call (.releaseLease leaseId)
        match reading.generated with
        | some message => s.post (.sampleGenerated channelId leaseId typeName message)
        | none => s
    else
      let isPointCloud2 := isPointCloud2Type typeName
      match reading.hostView with
      | some view =>
        s.transferHostCdr channelId leaseId view (if isPointCloud2 then .pointcloud2 else .string)
      | none =>
        match if isPointCloud2 then none else reading.stringData with
        | some data => s.post (.sample channelId leaseId data)
        | none =>
          let s := s.call (.releaseLease leaseId)
          match reading.pointCloud2 with
          | some message => s.post (.samplePointCloud2 channelId leaseId message)
          | none => s

/-- Answer the request that opens a channel, or number 0 when there is none. -/
def opened (kind : Opening) (channelId : UInt32) (answer : ℕ → WorkerToMain) : IoWorker :=
  { s.post (answer (((s.pending kind).find? channelId.toNat).getD 0)) with
    pending := Function.update s.pending kind ((s.pending kind).remove channelId.toNat) }

/-- Answer the request that started an operation, or number 0 when there is none. -/
def finished (op : Operation) (event : OperationEvent)
    (answer : (requestId channelId : ℕ) → (operationId payload : List UInt8) → WorkerToMain)
    (payload : List UInt8) : IoWorker :=
  let key := (event.channelId.toNat, event.operationId)
  let requestId := ((s.operations op).find? key).getD 0
  { (s.call (.releaseLease event.leaseId)).post
      (answer requestId event.channelId.toNat event.operationId payload) with
    operations := Function.update s.operations op ((s.operations op).remove key) }

/-- An operation event without a request. -/
def told (event : OperationEvent)
    (message : (channelId : ℕ) → (operationId payload : List UInt8) → WorkerToMain)
    (payload : List UInt8) : IoWorker :=
  (s.call (.releaseLease event.leaseId)).post
    (message event.channelId.toNat event.operationId payload)

/-- **The event switch.** -/
def onEvent (payload : Payload) : AppEvent → IoWorker
  | .sessionReady _ _ _ => s.post (.connected s.connectRequestId)
  | .subscribed channelId topic typeName =>
    s.opened .subscribe channelId fun r => .subscribed r channelId.toNat topic typeName
  | .subscribeFailed channelId code message =>
    s.opened .subscribe channelId fun r => .subscribeFailed r channelId.toNat code.toNat message
  | .published channelId topic typeName qosReliability =>
    s.opened .publish channelId fun r =>
      .published r channelId.toNat topic typeName qosReliability.toNat
  | .publishFailed channelId code message =>
    s.opened .publish channelId fun r => .publishFailed r channelId.toNat code.toNat message
  | .sample channelId leaseId _ _ _ => s.deliverSample channelId.toNat leaseId payload.sample
  | .serviceReady channelId name typeName client =>
    s.opened .service channelId fun r => .serviceReady r channelId.toNat name typeName client
  | .serviceFailed channelId code message =>
    s.opened .service channelId fun r => .serviceFailed r channelId.toNat code.toNat message
  | .serviceResponse event => s.finished .call event .serviceResponse payload.copied
  | .serviceRequest event => s.told event .serviceRequest payload.copied
  | .actionReady channelId name typeName client =>
    s.opened .action channelId fun r => .actionReady r channelId.toNat name typeName client
  | .actionFailed channelId code message =>
    s.opened .action channelId fun r => .actionFailed r channelId.toNat code.toNat message
  | .actionGoal event => s.told event .actionGoal payload.copied
  | .actionFeedback event => s.told event .actionFeedback payload.copied
  | .actionResult event => s.finished .goal event .actionResult payload.copied
  | .actionStatus event => s.told event .actionStatus payload.copied
  | .graphSnapshot generation nodesJson endpointsJson =>
    s.post (.graphSnapshot (number generation.toNat) nodesJson endpointsJson)
  | .graphDelta generation => s.post (.graphDelta (number generation.toNat))
  | .operationCancelled channelId code message =>
    s.post (.operationCancelled channelId.toNat code.toNat message)
  | .error _ message => s.post (.error none message)
  | .closed _ => s.post (.closed none)
  | .bootstrapComplete _ | .heartbeat _ => s

def onTransportError (message : String) : IoWorker := s.post (.error none message)

def onClosed : IoWorker := s.post (.closed none)

def onPollEnd : IoWorker := s.post .telemetry

/-! ## Messages of the page -/

/-- Remember who opens a channel and of what type it is, and ask the host; that only queues a
command, so the message is handled with it. -/
def opens (kind : Opening) (requestId channelId : ℕ) (typeName : String) (c : HostCall) :
    IoWorker :=
  { s.call c with
    pending := Function.update s.pending kind ((s.pending kind).set channelId requestId)
    channelTypes := s.channelTypes.set channelId typeName }

/-- Call the host for a message. -/
def calling (msg : MainToWorker) (c : HostCall) : IoWorker :=
  { s.call c with handling := some msg }

/-- Remember who starts an operation, and call the host. -/
def starts (op : Operation) (msg : MainToWorker) (requestId : ℕ) (request : OperationRequest)
    (c : HostCall) : IoWorker :=
  { s.calling msg c with
    operations := Function.update s.operations op
      ((s.operations op).set (request.channelId, request.operationId) requestId) }

/-- The worker without its host. -/
def closed (requestId : ℕ) : IoWorker :=
  { s with host := false, channelTypes := ∅ }.post (.closed (some requestId))

/-- **A message, up to the call of the host.** -/
def receive (msg : MainToWorker) : IoWorker :=
  match msg with
  | .init requestId wasmUrl => { s.call (.create wasmUrl) with creating := some requestId }
  | .releaseLease leaseId => if s.host then s.calling msg (.releaseLease leaseId) else s
  | .close requestId => if s.host then s.calling msg .dispose else s.closed requestId
  | _ =>
    if !s.host then s.post (.error msg.requestId? "host not initialized")
    else
      match msg with
      | .connect requestId url options =>
        { s with connectRequestId := requestId, connectUrl := url }.calling msg
          (.connect url options)
      | .reconnect requestId =>
        if s.connectUrl = "" then s.post (.error (some requestId) "reconnect without prior connect")
        else
          { s with
            connectRequestId := requestId
            pending := fun _ => ∅
            operations := fun _ => ∅ }.calling msg (.reconnect s.connectUrl)
      | .subscribe requestId request =>
        s.opens .subscribe requestId request.channelId request.typeName (.subscribe request)
      | .publish requestId request =>
        s.opens .publish requestId request.channelId request.typeName (.publish request)
      | .sendSample _ channelId data => s.calling msg (.sendSample channelId data)
      | .sendPointCloud2 _ channelId message => s.calling msg (.sendPointCloud2 channelId message)
      | .sendGenerated _ channelId typeName value =>
        s.calling msg (.sendGenerated channelId typeName value)
      | .unsubscribe _ channelId correlation =>
        { s with channelTypes := s.channelTypes.remove channelId }.call
          (.unsubscribe correlation channelId)
      | .openService requestId request =>
        s.opens .service requestId request.channelId request.typeName (.openService request)
      | .callService requestId request =>
        s.starts .call msg requestId request (.callService request)
      | .sendServiceResponse _ request => s.calling msg (.sendServiceResponse request)
      | .openAction requestId request =>
        s.opens .action requestId request.channelId request.typeName (.openAction request)
      | .sendActionGoal requestId request =>
        s.starts .goal msg requestId request (.sendActionGoal request)
      | .cancelAction _ channelId operationId =>
        s.calling msg (.cancelAction channelId operationId)
      | .sendActionFeedback _ request => s.calling msg (.sendActionFeedback request)
      | .sendActionResult _ request => s.calling msg (.sendActionResult request)
      | .sendActionStatus _ request => s.calling msg (.sendActionStatus request)
      | _ => s

/-- **Behind the call of the host**, which has returned or thrown. -/
def complete (thrown : Option String) : IoWorker :=
  match s.handling with
  | none => s
  | some msg =>
    let s := { s with handling := none }
    match thrown with
    | some message => s.post (.error msg.requestId? message)
    | none =>
      match msg with
      | .sendSample r _ _ | .sendPointCloud2 r _ _ | .sendGenerated r _ _ _
      | .sendServiceResponse r _ | .cancelAction r _ _ | .sendActionFeedback r _
      | .sendActionResult r _ | .sendActionStatus r _ => s.post (.ack r)
      | .close r => s.closed r
      | _ => s

/-- Behind the creation of the host, which has returned or thrown. -/
def created (thrown : Option String) : IoWorker :=
  let s' := { s with creating := none }
  match thrown with
  | some message => s'.post (.error s.creating message)
  | none => { s' with host := true }.post .ready

end IoWorker

/-! ## The worker among its callers -/

/-- **The worker and what it depends on**: how many requests the page has numbered and which of
them it awaits, the request that the next session answers, and whether the connection still brings
answers. -/
structure System where
  worker : IoWorker := {}
  count : ℕ := 0
  awaited : List ℕ := []
  connecting : Option ℕ := none
  up : Bool := false

/-- What happens to the worker. -/
inductive Act where
  | message (msg : MainToWorker)
  | complete (thrown : Option String)
  | created (thrown : Option String)
  | event (event : AppEvent) (payload : Payload)
  | sample (channelId : ℕ) (leaseId : UInt32) (reading : SampleReading)
  | transportError (message : String)
  | closed
  | pollEnd
  | lost

def MainToWorker.isInit : MainToWorker → Bool
  | .init _ _ => true
  | _ => false

/-- The request of a message that connects. -/
def MainToWorker.connects? : MainToWorker → Option ℕ
  | .connect r _ _ | .reconnect r => some r
  | _ => none

/-- The events that answer a request are caused by the peer. -/
def answers : AppEvent → Bool
  | .sessionReady _ _ _ | .subscribed _ _ _ | .subscribeFailed _ _ _ | .published _ _ _ _
  | .publishFailed _ _ _ | .serviceReady _ _ _ _ | .serviceFailed _ _ _ | .actionReady _ _ _ _
  | .actionFailed _ _ _ => true
  | _ => false

def isSessionReady : AppEvent → Bool
  | .sessionReady _ _ _ => true
  | _ => false

namespace System

variable (s : System)

/-- The page numbers its requests one after the other and begins with the only `init`. -/
def Posts (msg : MainToWorker) : Prop :=
  (∀ r, msg.requestId? = some r → r = s.count + 1) ∧ (msg.isInit = true → s.count = 0)

def receive (msg : MainToWorker) : System :=
  { s with
    worker := s.worker.receive msg
    count := if msg.requestId?.isSome then s.count + 1 else s.count
    awaited := if msg.awaited then s.awaited ++ msg.requestId?.toList else s.awaited }

/-- A host that has begun to connect answers the request with its session. -/
def complete (thrown : Option String) : System :=
  let s' := { s with worker := s.worker.complete thrown }
  match thrown, s.worker.handling.bind MainToWorker.connects? with
  | none, some r => { s' with connecting := some r, up := true }
  | _, _ => s'

def deliver (event : AppEvent) (payload : Payload) : System :=
  { s with
    worker := s.worker.onEvent payload event
    connecting := if isSessionReady event then none else s.connecting }

end System

/-- **One step.**  The worker handles its messages one at a time, and the host delivers events while
it is called and in between; answers arrive while the connection is up. -/
inductive Step : System → Act → System → Prop
  | message (s : System) (msg : MainToWorker) :
      s.worker.handling = none → s.Posts msg → Step s (.message msg) (s.receive msg)
  | complete (s : System) (thrown : Option String) :
      s.worker.handling.isSome = true → Step s (.complete thrown) (s.complete thrown)
  | created (s : System) (thrown : Option String) :
      s.worker.creating.isSome = true →
      Step s (.created thrown) { s with worker := s.worker.created thrown }
  | event (s : System) (event : AppEvent) (payload : Payload) :
      s.worker.host = true → (answers event = true → s.up = true) →
      Step s (.event event payload) (s.deliver event payload)
  | sample (s : System) (channelId : ℕ) (leaseId : UInt32) (reading : SampleReading) :
      s.worker.host = true →
      Step s (.sample channelId leaseId reading)
        { s with worker := s.worker.deliverSample channelId leaseId reading }
  | transportError (s : System) (message : String) :
      Step s (.transportError message) { s with worker := s.worker.onTransportError message }
  | closed (s : System) : Step s .closed { s with worker := s.worker.onClosed }
  | pollEnd (s : System) : Step s .pollEnd { s with worker := s.worker.onPollEnd }
  | lost (s : System) : Step s .lost { s with up := false }

/-- **Runs whose steps all meet a condition.** -/
def Reaches (P : System → Act → Prop) : System → System → Prop :=
  Relation.ReflTransGen fun s t => ∃ act, P s act ∧ Step s act t

end Worker
end Rclweb
