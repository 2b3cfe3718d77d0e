import Rclweb.Client.InlineClient

/-!
# The client in front of the I/O worker

`WorkerClient` posts messages to the worker and handles those that come back.  One table holds every
promise, under the number of its request; opening a channel tracks it at once, and a rejection
forgets it again.
-/

namespace Rclweb
namespace Client

open Worker

/-- What a rejection does before the promise is rejected. -/
inductive Cleanup where
  | nothing
  | channel (channelId : ℕ)
  | service (channelId : ℕ)
  | action (channelId : ℕ)
  deriving DecidableEq, Repr

structure PendingRequest where
  promise : ℕ
  cleanup : Cleanup := .nothing
  deriving DecidableEq, Repr

inductive WorkerTaskKind where
  | create
  | close
  | reconnect
  | autoReconnect
  deriving DecidableEq, Repr

/-- What an async method waits for: the answer to a request, or a channel that is opened again. -/
inductive WorkerStage where
  | initializing (promise : ℕ)
  | requested (promise : ℕ)
  | reopening (record : ChannelRecord) (promise : ℕ) (rest : List ChannelRecord)
  deriving DecidableEq, Repr

/-- The promise that is waited for. -/
def WorkerStage.promise : WorkerStage → ℕ
  | .initializing promise | .requested promise | .reopening _ promise _ => promise

structure WorkerTask where
  kind : WorkerTaskKind
  stage : WorkerStage
  deriving DecidableEq, Repr

/-- **The client.**  Behind its own fields: whether the worker was terminated, the tasks under the
promises they settle, the service requests that were handed to their handler and those it has not
answered, the promises that were made and those that are settled, the messages that were posted and
the calls of handlers. -/
structure WorkerClient where
  url : String := ""
  options : ReconnectOptions := {}
  connectOptions : ConnectOptions := {}
  pending : InsertionMap ℕ PendingRequest := ∅
  nextRequest : ℕ := 1
  nextChannel : ℕ := 1
  handlers : InsertionMap ℕ ℕ := ∅
  serviceHandlers : InsertionMap ℕ ℕ := ∅
  actionFeedback : InsertionMap ℕ ℕ := ∅
  actionStatus : InsertionMap ℕ ℕ := ∅
  actionServerHandlers : InsertionMap ℕ ActionServerHandlers := ∅
  inflightByChannel : InsertionMap ℕ (List ℕ) := ∅
  channels : InsertionMap ℕ ChannelRecord := ∅
  graphHandlers : List ℕ := []
  graph : GraphView := {}
  reconnectAttempts : ℕ := 0
  reconnecting : Bool := false
  terminated : Bool := false
  tasks : InsertionMap ℕ WorkerTask := ∅
  answering : InsertionMap ℕ (ℕ × List UInt8) := ∅
  requests : ℕ := 0
  promises : ℕ := 0
  settled : InsertionMap ℕ Settlement := ∅
  posted : List MainToWorker := []
  told : List Invocation := []

/-- The message that publishes. -/
def publishMessage (requestId channelId : ℕ) (typeName : String) (message : SampleMessage) :
    Except String MainToWorker :=
  if typeName = pointCloud2TypeName then
    match message.cloud with
    | some cloud => .ok (.sendPointCloud2 requestId channelId cloud)
    | none => .error "PointCloud2 publish requires a PointCloud2 message"
  else if isGeneratedMsgType typeName then
    message.generated.map (.sendGenerated requestId channelId typeName)
  else
    match message.text with
    | some data => .ok (.sendSample requestId channelId data)
    | none => .error "String publish requires \x7b data: string \x7d"

namespace WorkerClient

variable (s : WorkerClient)

def post (msg : MainToWorker) : WorkerClient := { s with posted := s.posted ++ [msg] }

def tell (invocation : Invocation) : WorkerClient := { s with told := s.told ++ [invocation] }

/-- Make a promise; it has the number `s.promises`. -/
def newPromise : WorkerClient := { s with promises := s.promises + 1 }

def settle (promise : ℕ) (outcome : Settlement) : WorkerClient :=
  { s with settled := settleIn s.settled promise outcome }

def cleanUp : Cleanup → WorkerClient
  | .nothing => s
  | .channel channelId => { s with channels := s.channels.remove channelId }
  | .service channelId =>
    { s with
      channels := s.channels.remove channelId
      serviceHandlers := s.serviceHandlers.remove channelId }
  | .action channelId =>
    { s with
      channels := s.channels.remove channelId
      actionServerHandlers := s.actionServerHandlers.remove channelId }

/-- `pending.reject` -/
def reject (pending : PendingRequest) (message : String) : WorkerClient :=
  (s.cleanUp pending.cleanup).settle pending.promise (.rejected message)

/-- Number a request, note its promise and post it. -/
def request (msg : ℕ → MainToWorker) (cleanup : Cleanup) : WorkerClient :=
  { s.newPromise with
    nextRequest := s.nextRequest + 1
    pending := s.pending.set s.nextRequest ⟨s.promises, cleanup⟩ }.post (msg s.nextRequest)

/-- Resolve the promise of a request, when there is one. -/
def answer (requestId : ℕ) (value : Value) : WorkerClient :=
  match s.pending.find? requestId with
  | none => s
  | some pending =>
    { s.settle pending.promise (.resolved value) with pending := s.pending.remove requestId }

/-- Reject the promise of a request, when there is one. -/
def refuse (requestId : ℕ) (message : String) : WorkerClient :=
  match s.pending.find? requestId with
  | none => s
  | some pending =>
    { s.reject pending message with pending := s.pending.remove requestId }

/-! ## Opening channels -/

/-- The id of a channel that is opened: that of the record, or the next one. -/
def channelIdFor (reuse : Option ℕ) : ℕ := reuse.getD s.nextChannel

/-- Count the id that was taken. -/
def allocate (reuse : Option ℕ) : WorkerClient :=
  { s with nextChannel := if reuse.isSome then s.nextChannel else s.nextChannel + 1 }

def track (record : ChannelRecord) : WorkerClient :=
  { s with channels := s.channels.set record.channelId record }

def subscribe (topic typeName : String) (qos : QosOptions) (reuse : Option ℕ) : WorkerClient :=
  let channelId := s.channelIdFor reuse
  ((s.allocate reuse).track { kind := .subscribe, topic, typeName, qos, channelId }).request
    (.subscribe · (InlineClient.topicRequest 0xb0 topic typeName qos channelId))
    (.channel channelId)

def publish (topic typeName : String) (qos : QosOptions) (reuse : Option ℕ) : WorkerClient :=
  let channelId := s.channelIdFor reuse
  ((s.allocate reuse).track { kind := .publish, topic, typeName, qos, channelId }).request
    (.publish · (InlineClient.topicRequest 0xd0 topic typeName qos channelId))
    (.channel channelId)

def createServiceClient (name typeName : String) (reuse : Option ℕ) : WorkerClient :=
  let channelId := s.channelIdFor reuse
  ((s.allocate reuse).track
    { kind := .serviceClient, topic := name, typeName, qos := {}, channelId }).request
    (.openService · ⟨channelId, name, typeName, true, openTag 0xe0 channelId⟩) (.channel channelId)

def createServiceServer (name typeName : String) (handler : ℕ) (reuse : Option ℕ) :
    WorkerClient :=
  let channelId := s.channelIdFor reuse
  ({ s.allocate reuse with
      serviceHandlers := s.serviceHandlers.set channelId handler }.track
    { kind := .serviceServer, topic := name, typeName, qos := {}, channelId,
      serviceHandler := some handler }).request
    (.openService · ⟨channelId, name, typeName, false, openTag 0xe1 channelId⟩)
    (.service channelId)

def createActionClient (name typeName : String) (reuse : Option ℕ) : WorkerClient :=
  let channelId := s.channelIdFor reuse
  ((s.allocate reuse).track
    { kind := .actionClient, topic := name, typeName, qos := {}, channelId }).request
    (.openAction · ⟨channelId, name, typeName, true, openTag 0xe2 channelId⟩) (.channel channelId)

def createActionServer (name typeName : String) (handlers : ActionServerHandlers)
    (reuse : Option ℕ) : WorkerClient :=
  let channelId := s.channelIdFor reuse
  ({ s.allocate reuse with
      actionServerHandlers := s.actionServerHandlers.set channelId handlers }.track
    { kind := .actionServer, topic := name, typeName, qos := {}, channelId,
      actionHandlers := some handlers }).request
    (.openAction · ⟨channelId, name, typeName, false, openTag 0xe3 channelId⟩) (.action channelId)

/-- `reopenTrackedChannels`, for one record. -/
def openRecord (record : ChannelRecord) : WorkerClient :=
  match record.kind with
  | .subscribe => s.subscribe record.topic record.typeName record.qos record.channelId
  | .publish => s.publish record.topic record.typeName record.qos record.channelId
  | .serviceClient => s.createServiceClient record.topic record.typeName record.channelId
  | .serviceServer =>
    s.createServiceServer record.topic record.typeName (record.serviceHandler.getD emptyHandler)
      record.channelId
  | .actionClient => s.createActionClient record.topic record.typeName record.channelId
  | .actionServer =>
    s.createActionServer record.topic record.typeName (record.actionHandlers.getD {})
      record.channelId

/-! ## Handles -/

/-- `Subscription.onMessage` -/
def onMessage (channelId handler : ℕ) : WorkerClient :=
  { s with
    handlers := s.handlers.set channelId handler
    channels :=
      match s.channels.find? channelId with
      | some record => s.channels.set channelId { record with handler := some handler }
      | none => s.channels }

/-- What `unsubscribe`, `unadvertise` and the four methods `close` forget. -/
def forget (kind : ChannelKind) (channelId : ℕ) : WorkerClient :=
  let s := { s with channels := s.channels.remove channelId }
  match kind with
  | .subscribe => { s with handlers := s.handlers.remove channelId }
  | .publish | .serviceClient => s
  | .serviceServer => { s with serviceHandlers := s.serviceHandlers.remove channelId }
  | .actionClient =>
    { s with
      actionFeedback := s.actionFeedback.remove channelId
      actionStatus := s.actionStatus.remove channelId }
  | .actionServer => { s with actionServerHandlers := s.actionServerHandlers.remove channelId }

def closeChannel (kind : ChannelKind) (channelId : ℕ) : WorkerClient :=
  (s.forget kind channelId).request (.unsubscribe · channelId (closeTag kind)) .nothing

/-- `Publisher.publish` -/
def send (channelId : ℕ) (typeName : String) (message : SampleMessage) : WorkerClient :=
  match publishMessage s.nextRequest channelId typeName message with
  | .ok msg => s.request (fun _ => msg) .nothing
  | .error thrown => s.newPromise.settle s.promises (.rejected thrown)

def trackInflight (channelId requestId : ℕ) : WorkerClient :=
  { s with
    inflightByChannel := s.inflightByChannel.set channelId
      (((s.inflightByChannel.find? channelId).getD []).insert requestId) }

def clearInflight (channelId requestId : ℕ) : WorkerClient :=
  match s.inflightByChannel.find? channelId with
  | none => s
  | some inflight =>
    { s with
      inflightByChannel :=
        if inflight.erase requestId = [] then s.inflightByChannel.remove channelId
        else s.inflightByChannel.set channelId (inflight.erase requestId) }

def callService (channelId : ℕ) (operationId request : List UInt8) : WorkerClient :=
  (s.trackInflight channelId s.nextRequest).request
    (.callService · ⟨channelId, operationId, request⟩) .nothing

def sendActionGoal (channelId : ℕ) (operationId goal : List UInt8) : WorkerClient :=
  (s.trackInflight channelId s.nextRequest).request
    (.sendActionGoal · ⟨channelId, operationId, goal⟩) .nothing

/-! ## Reconnecting -/

/-- Reject one entry after the other. -/
def rejectAll (message : String) (pending : List PendingRequest) : WorkerClient :=
  pending.foldl (fun s p => s.reject p message) s

def rejectInflight (message : String) : WorkerClient :=
  { s.rejectAll message s.pending.values with pending := ∅, inflightByChannel := ∅ }

/-- **Begin to reconnect**: ask the worker to. -/
def reconnect (kind : WorkerTaskKind) : WorkerClient :=
  let began := ({ s with reconnecting := true }.rejectInflight "session reconnected").newPromise
  { began.request .reconnect .nothing with
    tasks := began.tasks.set s.promises ⟨kind, .requested began.promises⟩ }

def autoReconnect : WorkerClient :=
  if s.options.max ≤ s.reconnectAttempts ∨ s.url = "" then s
  else { s with reconnectAttempts := s.reconnectAttempts + 1 }.reconnect .autoReconnect

/-- The end of an async method that waited. -/
def finish (id : ℕ) (kind : WorkerTaskKind) : WorkerClient :=
  let s := { s with tasks := s.tasks.remove id }.settle id (.resolved .done)
  match kind with
  | .create => s
  | .close => { s with terminated := true }
  | .reconnect => { s with reconnecting := false }
  | .autoReconnect => { s with reconnecting := false, reconnectAttempts := 0 }

/-- An async method throws. -/
def fail (id : ℕ) (kind : WorkerTaskKind) (message : String) : WorkerClient :=
  let s := { s with tasks := s.tasks.remove id }.settle id (.rejected message)
  match kind with
  | .create | .close => s
  | .reconnect | .autoReconnect => { s with reconnecting := false }

/-- Open the next record, or finish. -/
def reopen (id : ℕ) (kind : WorkerTaskKind) : List ChannelRecord → WorkerClient
  | [] => s.finish id kind
  | record :: rest =>
    { s.openRecord record with
      tasks := s.tasks.set id ⟨kind, .reopening record s.promises rest⟩ }

/-- Take the tracked channels and open them again. -/
def reopenChannels (id : ℕ) (kind : WorkerTaskKind) : WorkerClient :=
  { s with channels := ∅ }.reopen id kind s.channels.values

/-- The handler of a subscription that was opened again. -/
def rehandle (record : ChannelRecord) (value : Value) : WorkerClient :=
  match record.kind, record.handler, value with
  | .subscribe, some handler, .channel _ _ _ channelId => s.onMessage channelId handler
  | _, _, _ => s

/-- **A task goes on**, when what it waits for has come. -/
def resume (id : ℕ) : WorkerClient :=
  match s.tasks.find? id with
  | none => s
  | some ⟨kind, stage⟩ =>
    match s.settled.find? stage.promise with
    | none => s
    | some (.rejected message) => s.fail id kind message
    | some (.resolved value) =>
      match stage, kind with
      | .initializing _, _ =>
        { s.request (.connect · s.url s.connectOptions) .nothing with
          tasks := s.tasks.set id ⟨kind, .requested s.promises⟩ }
      | .requested _, .create | .requested _, .close => s.finish id kind
      | .requested _, .reconnect | .requested _, .autoReconnect => s.reopenChannels id kind
      | .reopening record _ rest, _ => (s.rehandle record value).reopen id kind rest

/-! ## Messages of the worker -/

/-- `ready` resolves the first request. -/
def ready : WorkerClient :=
  match s.pending.keys.find? fun id => 1 ≤ id with
  | none => s
  | some requestId => s.answer requestId .done

/-- A subscription is open: its record takes the names of the answer. -/
def subscribed (requestId channelId : ℕ) (topic typeName : String) : WorkerClient :=
  match s.pending.find? requestId with
  | none => s
  | some _ =>
    { s with
      channels :=
        match s.channels.find? channelId with
        | some record => s.channels.set channelId { record with topic, typeName }
        | none => s.channels }.answer requestId (.channel .subscribe topic typeName channelId)

def emitGraph : WorkerClient :=
  { s with told := s.told ++ s.graphHandlers.map fun handler => .graph handler s.graph }

/-- The handler of the application, when there is one. -/
def deliver (handler : Option ℕ) (invocation : ℕ → Invocation) : WorkerClient :=
  match handler with
  | some handler => s.tell (invocation handler)
  | none => s

def serviceRequest (channelId : ℕ) (operationId payload : List UInt8) : WorkerClient :=
  match s.serviceHandlers.find? channelId with
  | none => s
  | some handler =>
    { s with
      requests := s.requests + 1
      answering := s.answering.set s.requests (channelId, operationId) }.tell
      (.request handler payload operationId)

def operationCancelled (channelId : ℕ) (message : String) : WorkerClient :=
  let s' := ((s.inflightByChannel.find? channelId).getD []).foldl
    (fun s requestId => s.refuse requestId message) s
  { s' with inflightByChannel := s.inflightByChannel.remove channelId }

def onClosed : WorkerClient :=
  if !s.reconnecting && s.options.reconnect && s.url ≠ "" then s.autoReconnect else s

/-- **The message switch.**  `decoded` is what a body that comes as it is is read as. -/
def onWorker (decoded : Option SampleContent) : WorkerToMain → WorkerClient
  | .ready => s.ready
  | .connected requestId => s.answer requestId .done
  | .subscribed requestId channelId topic typeName =>
    s.subscribed requestId channelId topic typeName
  | .subscribeFailed requestId _ code message =>
    s.refuse requestId (failure "subscribe failed" code message)
  | .published requestId channelId topic typeName _ =>
    s.answer requestId (.channel .publish topic typeName channelId)
  | .publishFailed requestId _ code message =>
    s.refuse requestId (failure "publish failed" code message)
  | .sample channelId leaseId data =>
    match s.handlers.find? channelId with
    | none => s.post (.releaseLease leaseId)
    | some handler => s.tell (.sample handler (.text data) leaseId)
  | .sampleHostCdr channelId _ _ =>
    match decoded with
    | none => s
    | some content => s.deliver (s.handlers.find? channelId) (.sample · content 0)
  | .samplePointCloud2 channelId leaseId message =>
    s.deliver (s.handlers.find? channelId) (.sample · (.cloud message) leaseId)
  | .sampleGenerated channelId leaseId _ message =>
    s.deliver (s.handlers.find? channelId) (.sample · (.generated message) leaseId)
  | .serviceReady requestId channelId name typeName client =>
    s.answer requestId
      (.channel (if client then .serviceClient else .serviceServer) name typeName channelId)
  | .serviceFailed requestId _ code message =>
    s.refuse requestId (failure "service failed" code message)
  | .serviceResponse requestId channelId _ payload =>
    (s.clearInflight channelId requestId).answer requestId (.bytes payload)
  | .serviceRequest channelId operationId payload => s.serviceRequest channelId operationId payload
  | .actionReady requestId channelId name typeName client =>
    s.answer requestId
      (.channel (if client then .actionClient else .actionServer) name typeName channelId)
  | .actionFailed requestId _ code message =>
    s.refuse requestId (failure "action failed" code message)
  | .actionGoal channelId operationId payload =>
    s.deliver ((s.actionServerHandlers.find? channelId).bind (·.onGoal))
      (.goal · payload operationId)
  | .actionFeedback channelId operationId payload =>
    s.deliver (s.actionFeedback.find? channelId) (.feedback · payload operationId)
  | .actionResult requestId channelId _ payload =>
    (s.clearInflight channelId requestId).answer requestId (.bytes payload)
  | .actionStatus channelId operationId payload =>
    s.deliver (s.actionStatus.find? channelId) (.status · payload operationId)
  | .graphSnapshot generation nodesJson endpointsJson =>
    { s with
      graph := {
        generation
        nodes := (parseGraph nodesJson endpointsJson).1
        endpoints := (parseGraph nodesJson endpointsJson).2 } }.emitGraph
  | .graphDelta generation => { s with graph := { s.graph with generation } }.emitGraph
  | .operationCancelled channelId code message =>
    s.operationCancelled channelId (failure "operation cancelled" code message)
  | .error (some requestId) message => s.refuse requestId message
  | .error none _ => s
  | .ack requestId => s.answer requestId .done
  | .telemetry => s
  | .closed (some requestId) => s.answer requestId .done
  | .closed none => s.onClosed

/-- The handler of a service request has answered or thrown, at once or later. -/
def answered (id : ℕ) (answer : Except String (List UInt8)) : WorkerClient :=
  match s.answering.find? id with
  | none => s
  | some (channelId, operationId) =>
    let s := { s with answering := s.answering.remove id }
    match answer with
    | .ok response =>
      { s with nextRequest := s.nextRequest + 1 }.post
        (.sendServiceResponse s.nextRequest ⟨channelId, operationId, response⟩)
    | .error _ => s

/-! ## Calls of the application -/

/-- `close` asks the worker to close, and ends it behind the answer. -/
def close : WorkerClient :=
  let closing := { s with options := { s.options with reconnect := false } }.newPromise
  { closing.request .close .nothing with
    tasks := s.tasks.set s.promises ⟨.close, .requested closing.promises⟩ }

def onGraph (handler : ℕ) : WorkerClient :=
  let s := { s with
    graphHandlers := if handler ∈ s.graphHandlers then s.graphHandlers
      else s.graphHandlers ++ [handler] }
  if 0 < s.graph.generation then s.tell (.graph handler s.graph) else s

/-- **A call of the application.** -/
def app : AppCall → WorkerClient
  | .reconnect => s.reconnect .reconnect
  | .close => s.close
  | .subscribe topic typeName qos => s.subscribe topic typeName qos none
  | .publish topic typeName qos => s.publish topic typeName qos none
  | .createServiceClient name typeName => s.createServiceClient name typeName none
  | .createServiceServer name typeName handler => s.createServiceServer name typeName handler none
  | .createActionClient name typeName => s.createActionClient name typeName none
  | .createActionServer name typeName handlers => s.createActionServer name typeName handlers none
  | .onGraph handler => s.onGraph handler
  | .onMessage channelId _ handler => s.onMessage channelId handler
  | .send channelId typeName message => s.send channelId typeName message
  | .call channelId operationId request => s.callService channelId operationId request
  | .sendGoal channelId operationId goal => s.sendActionGoal channelId operationId goal
  | .cancel channelId operationId => s.request (.cancelAction · channelId operationId) .nothing
  | .onFeedback channelId handler =>
    { s with actionFeedback := s.actionFeedback.set channelId handler }
  | .onStatus channelId handler => { s with actionStatus := s.actionStatus.set channelId handler }
  | .sendFeedback channelId operationId feedback =>
    s.request (.sendActionFeedback · ⟨channelId, operationId, feedback⟩) .nothing
  | .sendResult channelId operationId result =>
    s.request (.sendActionResult · ⟨channelId, operationId, result⟩) .nothing
  | .sendStatus channelId operationId status =>
    s.request (.sendActionStatus · ⟨channelId, operationId, status⟩) .nothing
  | .closeChannel kind channelId => s.closeChannel kind channelId

/-- `WorkerClient.create`: ask for the host, then connect. -/
def create (url wasmUrl : String) (options : ReconnectOptions) (connectOptions : ConnectOptions) :
    WorkerClient :=
  let s := { url, options, connectOptions : WorkerClient }.newPromise
  { s.request (.init · wasmUrl) .nothing with tasks := s.tasks.set 0 ⟨.create, .initializing 1⟩ }

end WorkerClient

/-- **What happens to the client.** -/
inductive WorkerAct where
  | app (call : AppCall)
  | message (msg : WorkerToMain) (decoded : Option SampleContent)
  | resume (id : ℕ)
  | answered (id : ℕ) (answer : Except String (List UInt8))

/-- A worker that was ended sends nothing more. -/
def WorkerClient.step (s : WorkerClient) : WorkerAct → WorkerClient
  | .app call => s.app call
  | .message msg decoded => if s.terminated then s else s.onWorker decoded msg
  | .resume id => s.resume id
  | .answered id answer => s.answered id answer

end Client
end Rclweb
