import Rclweb.Client.Types
import Rclweb.Library.Acts

/-!
# The client on the page's own thread

`InlineClient` calls the host itself, and the host's callbacks call it.  `flushSync` delivers the
events of a poll before it returns, so what a method does behind it may meet another state: the rest
of the method is a `Frame`, and `returned` goes on with the innermost one.  An async method that
waits for a promise is a `Task`, which `resume` goes on with.

Acts may come in any order.  A page makes fewer runs: nothing else happens while a handler runs, and
tasks go on before the next message of the transport.
-/

namespace Rclweb
namespace Client

open Engine Worker

/-- An open of a topic that waits for its answer. -/
structure PendingTopic where
  promise : ℕ
  topic : String
  typeName : String
  qos : QosOptions
  deriving DecidableEq, Repr

structure PendingService where
  promise : ℕ
  name : String
  typeName : String
  client : Bool
  handler : Option ℕ := none
  deriving DecidableEq, Repr

structure PendingAction where
  promise : ℕ
  name : String
  typeName : String
  client : Bool
  handlers : Option ActionServerHandlers := none
  deriving DecidableEq, Repr

/-- What `bindSampleSink` makes for a handler. -/
structure SampleSink where
  typeName : String
  handler : ℕ
  deriving DecidableEq, Repr

/-- **The rest of a method behind `flushSync`.** -/
inductive Frame where
  | done (promise : ℕ)
  | response (key : ℕ × List UInt8) (promise : ℕ) (payload : List UInt8)
  | result (key : ℕ × List UInt8) (promise : ℕ) (payload : List UInt8)
  | request (handler channelId : ℕ) (operationId payload : List UInt8)
  | goal (handler : ℕ) (operationId payload : List UInt8)
  | feedback (handler : ℕ) (operationId payload : List UInt8)
  | status (handler : ℕ) (operationId payload : List UInt8)
  deriving DecidableEq, Repr

/-- What an async method waits for. -/
inductive Stage where
  | calling (thrown : Option String)
  | waiting (waiter : ℕ)
  | reopening (record : ChannelRecord) (promise : ℕ) (rest : List ChannelRecord)
  deriving DecidableEq, Repr

inductive TaskKind where
  | create
  | reconnect
  | autoReconnect
  deriving DecidableEq, Repr

structure Task where
  kind : TaskKind
  stage : Stage
  deriving DecidableEq, Repr

/-- **The client.**  Behind its own fields: the frames of the calls of `flushSync` that have not
returned, the tasks under the promises they settle, the service requests that were handed to their
handler and those it has not answered, the promises that were made and those that are settled, the
calls of the host and of handlers. -/
structure InlineClient where
  url : String := ""
  options : ReconnectOptions := {}
  sessionReady : Bool := false
  nextChannel : ℕ := 1
  sampleSinks : InsertionMap ℕ SampleSink := ∅
  channels : InsertionMap ℕ ChannelRecord := ∅
  pendingSubs : InsertionMap ℕ PendingTopic := ∅
  pendingPubs : InsertionMap ℕ PendingTopic := ∅
  pendingServices : InsertionMap ℕ PendingService := ∅
  pendingActions : InsertionMap ℕ PendingAction := ∅
  pendingCalls : InsertionMap (ℕ × List UInt8) ℕ := ∅
  pendingActionResults : InsertionMap (ℕ × List UInt8) ℕ := ∅
  serviceHandlers : InsertionMap ℕ ℕ := ∅
  actionFeedback : InsertionMap ℕ ℕ := ∅
  actionStatus : InsertionMap ℕ ℕ := ∅
  actionServerHandlers : InsertionMap ℕ ActionServerHandlers := ∅
  graphHandlers : List ℕ := []
  graph : GraphView := {}
  connectWaiters : List ℕ := []
  reconnectAttempts : ℕ := 0
  reconnecting : Bool := false
  frames : List Frame := []
  tasks : InsertionMap ℕ Task := ∅
  answering : InsertionMap ℕ (ℕ × List UInt8) := ∅
  requests : ℕ := 0
  promises : ℕ := 0
  settled : InsertionMap ℕ Settlement := ∅
  calls : List HostCall := []
  told : List Invocation := []

/-- Settle a promise, unless it is settled. -/
def settleIn (settled : InsertionMap ℕ Settlement) (promise : ℕ) (outcome : Settlement) :
    InsertionMap ℕ Settlement :=
  if (settled.find? promise).isSome then settled else settled.set promise outcome

/-- Settle promises one after the other. -/
def settleAll (settled : InsertionMap ℕ Settlement) (promises : List ℕ) (outcome : Settlement) :
    InsertionMap ℕ Settlement :=
  promises.foldl (fun settled promise => settleIn settled promise outcome) settled

/-- The text of an error of the engine. -/
def failure (what : String) (code : ℕ) (message : String) : String :=
  what ++ " (" ++ toString code ++ "): " ++ message

def stdMsgsStringTypeName : String := "std_msgs/msg/String"

def pointCloud2TypeName : String := "sensor_msgs/msg/PointCloud2"

/-- What the sink of a type makes of a sample; `none` when it cannot be read. -/
def SampleSink.content? (sink : SampleSink) (reading : SampleReading) : Option SampleContent :=
  if sink.typeName = stdMsgsStringTypeName then reading.stringData.map .text
  else if isPointCloud2Type (some sink.typeName) then reading.pointCloud2.map .cloud
  else if isGeneratedMsgType sink.typeName then reading.generated.map .generated
  else (reading.stringData.map .text).or (reading.pointCloud2.map .cloud)

/-- The call of the host that publishes a message. -/
def dispatchPublish (channelId : ℕ) (typeName : String) (message : SampleMessage) :
    Except String HostCall :=
  if typeName = pointCloud2TypeName then
    match message.cloud with
    | some cloud => .ok (.sendPointCloud2 channelId cloud)
    | none => .error "PointCloud2 publish requires a PointCloud2 message"
  else if isGeneratedMsgType typeName then
    message.generated.map (.sendGenerated channelId typeName)
  else
    match message.text with
    | some data => .ok (.sendSample channelId data)
    | none => .error "String publish requires \x7b data: string \x7d"

namespace InlineClient

variable (s : InlineClient)

def call (c : HostCall) : InlineClient := { s with calls := s.calls ++ [c] }

def tell (invocation : Invocation) : InlineClient := { s with told := s.told ++ [invocation] }

def resolve (promise : ℕ) (value : Value) : InlineClient :=
  { s with settled := settleIn s.settled promise (.resolved value) }

def reject (promise : ℕ) (message : String) : InlineClient :=
  { s with settled := settleIn s.settled promise (.rejected message) }

/-- Make a promise; it has the number `s.promises`. -/
def newPromise : InlineClient := { s with promises := s.promises + 1 }

/-- Call `flushSync`; the frame is what comes behind it. -/
def flushSync (frame : Frame) : InlineClient := { s with frames := frame :: s.frames }

/-! ## Opening channels -/

/-- The id of a channel that is opened: that of the record, or the next one. -/
def channelIdFor (reuse : Option ℕ) : ℕ := reuse.getD s.nextChannel

/-- Count the id that was taken. -/
def allocate (reuse : Option ℕ) : InlineClient :=
  { s with nextChannel := if reuse.isSome then s.nextChannel else s.nextChannel + 1 }

/-- What the host is asked for by `subscribe` and `publish`. -/
def topicRequest (base : ℕ) (topic typeName : String) (qos : QosOptions) (channelId : ℕ) :
    TopicRequest where
  topic := topic
  typeName := typeName
  channelId := channelId
  correlation := openTag base channelId
  qosReliability := some (qos.reliability.getD 1)
  qosDepth := some (qos.depth.getD defaultQosDepth)

def subscribe (topic typeName : String) (qos : QosOptions) (reuse : Option ℕ) : InlineClient :=
  let channelId := s.channelIdFor reuse
  { (s.allocate reuse).newPromise with
    pendingSubs := s.pendingSubs.set channelId ⟨s.promises, topic, typeName, qos⟩ }.call
      (.subscribe (topicRequest 0xb0 topic typeName qos channelId))

def publish (topic typeName : String) (qos : QosOptions) (reuse : Option ℕ) : InlineClient :=
  let channelId := s.channelIdFor reuse
  { (s.allocate reuse).newPromise with
    pendingPubs := s.pendingPubs.set channelId ⟨s.promises, topic, typeName, qos⟩ }.call
      (.publish (topicRequest 0xd0 topic typeName qos channelId))

/-- Open a service channel. -/
def openService (base : ℕ) (name typeName : String) (client : Bool) (handler reuse : Option ℕ) :
    InlineClient :=
  let channelId := s.channelIdFor reuse
  { (s.allocate reuse).newPromise with
    pendingServices :=
      s.pendingServices.set channelId ⟨s.promises, name, typeName, client, handler⟩ }.call
      (.openService ⟨channelId, name, typeName, client, openTag base channelId⟩)

def createServiceClient (name typeName : String) (reuse : Option ℕ) : InlineClient :=
  s.openService 0xe0 name typeName true none reuse

def createServiceServer (name typeName : String) (handler : ℕ) (reuse : Option ℕ) : InlineClient :=
  s.openService 0xe1 name typeName false (some handler) reuse

/-- Open an action channel. -/
def openAction (base : ℕ) (name typeName : String) (client : Bool)
    (handlers : Option ActionServerHandlers) (reuse : Option ℕ) : InlineClient :=
  let channelId := s.channelIdFor reuse
  { (s.allocate reuse).newPromise with
    pendingActions :=
      s.pendingActions.set channelId ⟨s.promises, name, typeName, client, handlers⟩ }.call
      (.openAction ⟨channelId, name, typeName, client, openTag base channelId⟩)

def createActionClient (name typeName : String) (reuse : Option ℕ) : InlineClient :=
  s.openAction 0xe2 name typeName true none reuse

def createActionServer (name typeName : String) (handlers : ActionServerHandlers)
    (reuse : Option ℕ) : InlineClient :=
  s.openAction 0xe3 name typeName false (some handlers) reuse

/-- `reopenTrackedChannels`, for one record. -/
def openRecord (record : ChannelRecord) : InlineClient :=
  match record.kind with
  | .subscribe => s.subscribe record.topic record.typeName record.qos record.channelId
  | .publish => s.publish record.topic record.typeName record.qos record.channelId
  | .serviceClient => s.createServiceClient record.topic record.typeName record.channelId
  | .serviceServer =>
    s.createServiceServer record.topic record.typeName (record.serviceHandler.getD emptyHandler)
      record.channelId
  | .actionClient => s.createActionClient record.topic record.typeName record.channelId
  | .actionServer =>
    s.createActionServer record.topic record.typeName (record.actionHandlers.getD {})
      record.channelId

/-! ## Handles -/

/-- `Subscription.onMessage` -/
def onMessage (channelId : ℕ) (typeName : String) (handler : ℕ) : InlineClient :=
  { s with
    sampleSinks := s.sampleSinks.set channelId ⟨typeName, handler⟩
    channels :=
      match s.channels.find? channelId with
      | some record => s.channels.set channelId { record with handler := some handler }
      | none => s.channels }

/-- What `unsubscribe`, `unadvertise` and the four methods `close` forget. -/
def forget (kind : ChannelKind) (channelId : ℕ) : InlineClient :=
  let s := { s with channels := s.channels.remove channelId }
  match kind with
  | .subscribe => { s with sampleSinks := s.sampleSinks.remove channelId }
  | .publish | .serviceClient => s
  | .serviceServer => { s with serviceHandlers := s.serviceHandlers.remove channelId }
  | .actionClient =>
    { s with
      actionFeedback := s.actionFeedback.remove channelId
      actionStatus := s.actionStatus.remove channelId }
  | .actionServer => { s with actionServerHandlers := s.actionServerHandlers.remove channelId }

def closeChannel (kind : ChannelKind) (channelId : ℕ) : InlineClient :=
  ((s.forget kind channelId).newPromise.call (.unsubscribe (closeTag kind) channelId)).flushSync
    (.done s.promises)

/-- `Publisher.publish` -/
def send (channelId : ℕ) (typeName : String) (message : SampleMessage) : InlineClient :=
  match dispatchPublish channelId typeName message with
  | .ok c => (s.newPromise.call c).flushSync (.done s.promises)
  | .error thrown => s.newPromise.reject s.promises thrown

def callService (channelId : ℕ) (operationId request : List UInt8) : InlineClient :=
  { s.newPromise with
    pendingCalls := s.pendingCalls.set (channelId, operationId) s.promises }.call
      (.callService ⟨channelId, operationId, request⟩)

def sendActionGoal (channelId : ℕ) (operationId goal : List UInt8) : InlineClient :=
  { s.newPromise with
    pendingActionResults := s.pendingActionResults.set (channelId, operationId) s.promises }.call
      (.sendActionGoal ⟨channelId, operationId, goal⟩)

/-! ## Reconnecting -/

def connectWaiter : InlineClient :=
  if s.sessionReady then s.newPromise.resolve s.promises .done
  else { s.newPromise with connectWaiters := s.connectWaiters ++ [s.promises] }

/-- The promises `rejectInflight` rejects, in its order. -/
def inflight : List ℕ :=
  s.pendingCalls.values ++ s.pendingActionResults.values ++
    s.pendingSubs.values.map PendingTopic.promise ++
    s.pendingPubs.values.map PendingTopic.promise ++
    s.pendingServices.values.map PendingService.promise ++
    s.pendingActions.values.map PendingAction.promise

def rejectInflight (message : String) : InlineClient :=
  { s with
    settled := settleAll s.settled s.inflight (.rejected message)
    pendingCalls := ∅
    pendingActionResults := ∅
    pendingSubs := ∅
    pendingPubs := ∅
    pendingServices := ∅
    pendingActions := ∅ }

/-- **Begin to reconnect**, up to the call of the host, which may throw. -/
def reconnect (kind : TaskKind) (thrown : Option String) : InlineClient :=
  if s.url = "" then
    s.newPromise.reject s.promises "reconnect requires a live WebSocket url"
  else
    let began := { s with reconnecting := true, sessionReady := false }.rejectInflight
      "session reconnected"
    { began.newPromise with
      tasks := s.tasks.set s.promises ⟨kind, .calling thrown⟩ }.call (.reconnect s.url)

def autoReconnect (thrown : Option String) : InlineClient :=
  if s.options.max ≤ s.reconnectAttempts ∨ s.url = "" then s
  else { s with reconnectAttempts := s.reconnectAttempts + 1 }.reconnect .autoReconnect thrown

/-- The end of an async method that waited. -/
def finish (id : ℕ) (kind : TaskKind) : InlineClient :=
  let s := { s with tasks := s.tasks.remove id }.resolve id .done
  match kind with
  | .create => s
  | .reconnect => { s with reconnecting := false }
  | .autoReconnect => { s with reconnecting := false, reconnectAttempts := 0 }

/-- A reconnect throws. -/
def fail (id : ℕ) (message : String) : InlineClient :=
  { s with tasks := s.tasks.remove id, reconnecting := false }.reject id message

/-- Open the next record, or finish. -/
def reopen (id : ℕ) (kind : TaskKind) : List ChannelRecord → InlineClient
  | [] => s.finish id kind
  | record :: rest =>
    { s.openRecord record with
      tasks := s.tasks.set id ⟨kind, .reopening record s.promises rest⟩ }

/-- Take the tracked channels and open them again. -/
def reopenChannels (id : ℕ) (kind : TaskKind) : InlineClient :=
  { s with channels := ∅ }.reopen id kind s.channels.values

/-- The handler of a subscription that was opened again. -/
def rehandle (record : ChannelRecord) (value : Value) : InlineClient :=
  match record.kind, record.handler, value with
  | .subscribe, some handler, .channel _ _ typeName channelId =>
    s.onMessage channelId typeName handler
  | _, _, _ => s

/-- **A task goes on**, when what it waits for has come. -/
def resume (id : ℕ) : InlineClient :=
  match s.tasks.find? id with
  | none => s
  | some ⟨_, .calling (some thrown)⟩ => s.fail id thrown
  | some ⟨kind, .calling none⟩ =>
    { s.connectWaiter with tasks := s.tasks.set id ⟨kind, .waiting s.promises⟩ }
  | some ⟨kind, .waiting waiter⟩ =>
    match s.settled.find? waiter with
    | none => s
    | some _ => if kind = .create then s.finish id kind else s.reopenChannels id kind
  | some ⟨kind, .reopening record promise rest⟩ =>
    match s.settled.find? promise with
    | none => s
    | some (.rejected message) => s.fail id message
    | some (.resolved value) => (s.rehandle record value).reopen id kind rest

/-! ## Callbacks of the host -/

def onTransportError (message : String) : InlineClient :=
  { s with
    settled := settleAll s.settled (s.pendingSubs.values.map PendingTopic.promise ++
      s.pendingPubs.values.map PendingTopic.promise) (.rejected message)
    pendingSubs := ∅
    pendingPubs := ∅ }

def onClosed (thrown : Option String) : InlineClient :=
  if s.reconnecting then s
  else if s.options.reconnect ∧ s.url ≠ "" then s.autoReconnect thrown
  else s

def deliverSample (channelId : ℕ) (leaseId : UInt32) (reading : SampleReading) : InlineClient :=
  match s.sampleSinks.find? channelId with
  | none => s.call (.releaseLease leaseId)
  | some sink =>
    match sink.content? reading with
    | none => s.call (.releaseLease leaseId)
    | some content => s.tell (.sample sink.handler content leaseId)

/-- A topic channel is open: track it and resolve its promise. -/
def topicOpened (kind : ChannelKind) (pending : PendingTopic) (channelId : ℕ)
    (topic typeName : String) : InlineClient :=
  { s with
    channels := s.channels.set channelId
      { kind, topic, typeName, qos := pending.qos, channelId } }.resolve pending.promise
      (.channel kind topic typeName channelId)

def serviceOpened (pending : PendingService) (channelId : ℕ) (name typeName : String) :
    InlineClient :=
  let kind : ChannelKind := if pending.client then .serviceClient else .serviceServer
  { s with
    channels := s.channels.set channelId
      { kind, topic := name, typeName, qos := {}, channelId, serviceHandler := pending.handler }
    serviceHandlers :=
      match pending.client, pending.handler with
      | false, some handler => s.serviceHandlers.set channelId handler
      | _, _ => s.serviceHandlers }.resolve pending.promise (.channel kind name typeName channelId)

def actionOpened (pending : PendingAction) (channelId : ℕ) (name typeName : String) :
    InlineClient :=
  let kind : ChannelKind := if pending.client then .actionClient else .actionServer
  { s with
    channels := s.channels.set channelId
      { kind, topic := name, typeName, qos := {}, channelId, actionHandlers := pending.handlers }
    actionServerHandlers :=
      match pending.client, pending.handlers with
      | false, some handlers => s.actionServerHandlers.set channelId handlers
      | _, _ => s.actionServerHandlers }.resolve pending.promise
      (.channel kind name typeName channelId)

/-- Release the lease of an operation event whose payload has been copied, and flush. -/
def released (event : OperationEvent) (frame : Option Frame) : InlineClient :=
  match frame with
  | some frame => (s.call (.releaseLease event.leaseId)).flushSync frame
  | none => s.call (.releaseLease event.leaseId)

def emitGraph : InlineClient :=
  { s with told := s.told ++ s.graphHandlers.map fun handler => .graph handler s.graph }

/-- Whether a pending operation is one of a channel: `key.startsWith(channelId + ":")`. -/
def ofChannel (channelId : ℕ) (entry : (ℕ × List UInt8) × ℕ) : Bool := entry.1.1 = channelId

def operationCancelled (channelId : ℕ) (message : String) : InlineClient :=
  { s with
    settled := settleAll s.settled
      (((s.pendingCalls.filter (ofChannel channelId)).values) ++
        (s.pendingActionResults.filter (ofChannel channelId)).values) (.rejected message)
    pendingCalls := s.pendingCalls.filter fun entry => !ofChannel channelId entry
    pendingActionResults := s.pendingActionResults.filter fun entry => !ofChannel channelId entry }

/-- **The event switch.** -/
def onEvent (payload : Payload) : AppEvent → InlineClient
  | .sessionReady _ _ _ =>
    { s with
      sessionReady := true
      settled := settleAll s.settled s.connectWaiters (.resolved .done)
      connectWaiters := [] }
  | .subscribed channelId topic typeName =>
    match s.pendingSubs.find? channelId.toNat with
    | none => s
    | some pending =>
      { s with pendingSubs := s.pendingSubs.remove channelId.toNat }.topicOpened .subscribe pending
        channelId.toNat topic typeName
  | .subscribeFailed channelId code message =>
    match s.pendingSubs.find? channelId.toNat with
    | none => s
    | some pending =>
      { s with pendingSubs := s.pendingSubs.remove channelId.toNat }.reject pending.promise
        (failure "subscribe failed" code.toNat message)
  | .published channelId topic typeName _ =>
    match s.pendingPubs.find? channelId.toNat with
    | none => s
    | some pending =>
      { s with pendingPubs := s.pendingPubs.remove channelId.toNat }.topicOpened .publish pending
        channelId.toNat topic typeName
  | .publishFailed channelId code message =>
    match s.pendingPubs.find? channelId.toNat with
    | none => s
    | some pending =>
      { s with pendingPubs := s.pendingPubs.remove channelId.toNat }.reject pending.promise
        (failure "publish failed" code.toNat message)
  | .sample channelId leaseId _ _ _ => s.deliverSample channelId.toNat leaseId payload.sample
  | .serviceReady channelId name typeName _ =>
    match s.pendingServices.find? channelId.toNat with
    | none => s
    | some pending =>
      { s with pendingServices := s.pendingServices.remove channelId.toNat }.serviceOpened pending
        channelId.toNat name typeName
  | .serviceFailed channelId code message =>
    match s.pendingServices.find? channelId.toNat with
    | none => s
    | some pending =>
      { s with pendingServices := s.pendingServices.remove channelId.toNat }.reject pending.promise
        (failure "service failed" code.toNat message)
  | .serviceResponse event =>
    let key := (event.channelId.toNat, event.operationId)
    s.released event ((s.pendingCalls.find? key).map (.response key · payload.copied))
  | .serviceRequest event =>
    s.released event ((s.serviceHandlers.find? event.channelId.toNat).map
      (.request · event.channelId.toNat event.operationId payload.copied))
  | .actionReady channelId name typeName _ =>
    match s.pendingActions.find? channelId.toNat with
    | none => s
    | some pending =>
      { s with pendingActions := s.pendingActions.remove channelId.toNat }.actionOpened pending
        channelId.toNat name typeName
  | .actionFailed channelId code message =>
    match s.pendingActions.find? channelId.toNat with
    | none => s
    | some pending =>
      { s with pendingActions := s.pendingActions.remove channelId.toNat }.reject pending.promise
        (failure "action failed" code.toNat message)
  | .actionGoal event =>
    s.released event (((s.actionServerHandlers.find? event.channelId.toNat).bind (·.onGoal)).map
      (.goal · event.operationId payload.copied))
  | .actionFeedback event =>
    s.released event ((s.actionFeedback.find? event.channelId.toNat).map
      (.feedback · event.operationId payload.copied))
  | .actionResult event =>
    let key := (event.channelId.toNat, event.operationId)
    s.released event ((s.pendingActionResults.find? key).map (.result key · payload.copied))
  | .actionStatus event =>
    s.released event ((s.actionStatus.find? event.channelId.toNat).map
      (.status · event.operationId payload.copied))
  | .graphSnapshot generation nodesJson endpointsJson =>
    { s with
      graph := {
        generation := number generation.toNat
        nodes := (parseGraph nodesJson endpointsJson).1
        endpoints := (parseGraph nodesJson endpointsJson).2 } }.emitGraph
  | .graphDelta generation =>
    { s with graph := { s.graph with generation := number generation.toNat } }.emitGraph
  | .operationCancelled channelId code message =>
    s.operationCancelled channelId.toNat (failure "operation cancelled" code.toNat message)
  | .bootstrapComplete _ | .heartbeat _ | .error _ _ | .closed _ => s

/-- **`flushSync` returns** to the innermost frame. -/
def returned : InlineClient :=
  match s.frames with
  | [] => s
  | .done promise :: frames => { s with frames }.resolve promise .done
  | .response key promise payload :: frames =>
    { s with frames, pendingCalls := s.pendingCalls.remove key }.resolve promise (.bytes payload)
  | .result key promise payload :: frames =>
    { s with frames, pendingActionResults := s.pendingActionResults.remove key }.resolve promise
      (.bytes payload)
  | .request handler channelId operationId payload :: frames =>
    { s with
      frames
      requests := s.requests + 1
      answering := s.answering.set s.requests (channelId, operationId) }.tell
      (.request handler payload operationId)
  | .goal handler operationId payload :: frames =>
    { s with frames }.tell (.goal handler payload operationId)
  | .feedback handler operationId payload :: frames =>
    { s with frames }.tell (.feedback handler payload operationId)
  | .status handler operationId payload :: frames =>
    { s with frames }.tell (.status handler payload operationId)

/-- The handler of a service request has answered or thrown, at once or later. -/
def answered (id : ℕ) (answer : Except String (List UInt8)) : InlineClient :=
  match s.answering.find? id with
  | none => s
  | some (channelId, operationId) =>
    let s := { s with answering := s.answering.remove id }
    match answer with
    | .ok response => s.call (.sendServiceResponse ⟨channelId, operationId, response⟩)
    | .error _ => s

/-! ## Calls of the application -/

/-- `close` disposes of the host, which flushes the engine's close. -/
def close : InlineClient :=
  ({ s with options := { s.options with reconnect := false } }.newPromise.call .dispose).flushSync
    (.done s.promises)

def onGraph (handler : ℕ) : InlineClient :=
  let s := { s with
    graphHandlers := if handler ∈ s.graphHandlers then s.graphHandlers
      else s.graphHandlers ++ [handler] }
  if 0 < s.graph.generation then s.tell (.graph handler s.graph) else s

/-- **A call of the application.**  The host may throw in a reconnect. -/
def app (thrown : Option String) : AppCall → InlineClient
  | .reconnect => s.reconnect .reconnect thrown
  | .close => s.close
  | .subscribe topic typeName qos => s.subscribe topic typeName qos none
  | .publish topic typeName qos => s.publish topic typeName qos none
  | .createServiceClient name typeName => s.createServiceClient name typeName none
  | .createServiceServer name typeName handler => s.createServiceServer name typeName handler none
  | .createActionClient name typeName => s.createActionClient name typeName none
  | .createActionServer name typeName handlers => s.createActionServer name typeName handlers none
  | .onGraph handler => s.onGraph handler
  | .onMessage channelId typeName handler => s.onMessage channelId typeName handler
  | .send channelId typeName message => s.send channelId typeName message
  | .call channelId operationId request => s.callService channelId operationId request
  | .sendGoal channelId operationId goal => s.sendActionGoal channelId operationId goal
  | .cancel channelId operationId => s.call (.cancelAction channelId operationId)
  | .onFeedback channelId handler =>
    { s with actionFeedback := s.actionFeedback.set channelId handler }
  | .onStatus channelId handler => { s with actionStatus := s.actionStatus.set channelId handler }
  | .sendFeedback channelId operationId feedback =>
    s.call (.sendActionFeedback ⟨channelId, operationId, feedback⟩)
  | .sendResult channelId operationId result =>
    s.call (.sendActionResult ⟨channelId, operationId, result⟩)
  | .sendStatus channelId operationId status =>
    s.call (.sendActionStatus ⟨channelId, operationId, status⟩)
  | .closeChannel kind channelId => s.closeChannel kind channelId

/-- `InlineClient.create`: connect, and wait for the session. -/
def create (url : String) (options : ReconnectOptions) (connect : ConnectOptions) : InlineClient :=
  let s := ({ url, options : InlineClient }.newPromise.call (.connect url connect)).connectWaiter
  { s with tasks := s.tasks.set 0 ⟨.create, .waiting 1⟩ }

end InlineClient

/-- **What happens to the client.** -/
inductive InlineAct where
  | app (call : AppCall) (thrown : Option String)
  | event (event : AppEvent) (payload : Payload)
  | sample (channelId : ℕ) (leaseId : UInt32) (reading : SampleReading)
  | transportError (message : String)
  | closed (thrown : Option String)
  | returned
  | resume (id : ℕ)
  | answered (id : ℕ) (answer : Except String (List UInt8))

def InlineClient.step (s : InlineClient) : InlineAct → InlineClient
  | .app call thrown => s.app thrown call
  | .event event payload => s.onEvent payload event
  | .sample channelId leaseId reading => s.deliverSample channelId leaseId reading
  | .transportError message => s.onTransportError message
  | .closed thrown => s.onClosed thrown
  | .returned => s.returned
  | .resume id => s.resume id
  | .answered id answer => s.answered id answer

end Client
end Rclweb
