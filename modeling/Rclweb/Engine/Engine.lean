import Rclweb.Engine.Control
import Rclweb.Engine.Fields
import Rclweb.Protocol.Encode

/-!
# The client engine

The synchronous connection engine of the browser client.  One poll turn takes a bounded
batch of host events and returns outbound frames, application events and released buffers;
`Turn` is the engine together with the outcome collected so far, and every handler is a
function on turns.

Counters that only count the engine's own steps (`controlSeqOut`, `heartbeatCounter`, the
operation sequences) are natural numbers, cast where they go on the wire; the ids the host
can set are exact.  Telemetry is left out: nothing reads it.
-/

namespace Rclweb

open Rclweb.Frame Control

namespace Engine

def heartbeatIntervalMs : UInt64 := 15000

/-- `u32::saturating_add(1)`. -/
def saturatingSucc32 (n : UInt32) : UInt32 := if n = 0xffffffff then n else n + 1

/-- `u64::saturating_add`. -/
def saturatingAdd (a b : UInt64) : UInt64 :=
  if b ≤ 0xffffffffffffffff - a then a + b else 0xffffffffffffffff

inductive PendingKind where
  | subscribe
  | publish
  | serviceClient
  | serviceServer
  | actionClient
  | actionServer
  deriving DecidableEq, Repr, Inhabited

/-- What is remembered of a channel between its OpenChannel and the answer. -/
structure PendingOpen where
  kind : PendingKind
  topic : String
  typeName : String
  qosReliability : UInt8
  deriving DecidableEq, Repr

structure ActivePublish where
  topic : String
  typeName : String
  reliable : Bool
  seqOut : ℕ
  deriving DecidableEq, Repr

/-- `ActiveService` and `ActiveAction`: one sequence for the whole channel, and the last
sequence of each operation, which nothing reads back. -/
structure ActiveOperations where
  name : String
  typeName : String
  client : Bool
  nextSeq : ℕ
  seqOut : Table OperationId ℕ

/-- Inbound bytes that leases may point into; `declaredLen` is the size the header claims. -/
structure RetainedBuffer where
  bytes : List UInt8
  declaredLen : ℕ
  leaseRefs : UInt32
  ingestDone : Bool
  deriving DecidableEq, Repr

structure Lease where
  bufferId : UInt32
  payloadOffset : ℕ
  payloadLen : ℕ
  deriving DecidableEq, Repr

end Engine

open Engine in
/-- **The connection engine of a client.** -/
structure ClientEngine where
  session : Session := .new .client
  controlSeqOut : ℕ := 0
  controlSeqIn : ℕ := 0
  nextBufferId : UInt32 := 1
  nextLeaseId : UInt32 := 1
  retained : Table UInt32 RetainedBuffer := ∅
  leases : Table UInt32 Lease := ∅
  pendingOpens : Table UInt32 PendingOpen := ∅
  activeSubscribes : Table UInt32 PendingOpen := ∅
  activePublishes : Table UInt32 ActivePublish := ∅
  activeServices : Table UInt32 ActiveOperations := ∅
  activeActions : Table UInt32 ActiveOperations := ∅
  supportRowId : String := "J-FT"
  started : Bool := false
  closed : Bool := false
  lastTimerMs : Option UInt64 := none
  nextHeartbeatMs : Option UInt64 := none
  heartbeatCounter : ℕ := 0

namespace Engine

/-- An engine and the outcome of the running poll turn. -/
structure Turn where
  engine : ClientEngine
  outcome : PollOutcome

namespace Turn

/-- Change the engine only. -/
def modify (t : Turn) (f : ClientEngine → ClientEngine) : Turn := { t with engine := f t.engine }

/-- Push an application event. -/
def emit (t : Turn) (event : AppEvent) : Turn :=
  { t with outcome := { t.outcome with events := t.outcome.events ++ [event] } }

/-- Close the engine and tell the host why. -/
def fail (t : Turn) (code : UInt8) (message : String) : Turn :=
  (((t.modify fun e => { e with closed := true }).emit (.error code message)).emit
    (.closed t.engine.session.phase))

/-- Queue one outbound message; beyond the bound it is dropped. -/
def pushOutbound (t : Turn) (bytes : List UInt8) : Turn :=
  if maxOutboundPerPoll ≤ t.outcome.outbound.length then t
  else
    { engine := { t.engine with nextBufferId := saturatingSucc32 t.engine.nextBufferId }
      outcome :=
        { t.outcome with
          outbound := t.outcome.outbound ++ [⟨t.engine.nextBufferId, bytes⟩] } }

/-- Parse an outbound frame and record it; `none` when either fails. -/
def recordFrame (t : Turn) (bytes : List UInt8) : Option Turn :=
  match parseFrame bytes defaultOptions with
  | .error _ => none
  | .ok frame =>
    match t.engine.session.recordSendFrame frame with
    | (.error _, _) => none
    | (.ok _, session) => some (t.modify fun e => { e with session := session })

/-- **Encode, self-parse, record and queue a control message.** -/
def pushControl (t : Turn) (message : CborValue) : Option Turn :=
  match Encode.encodeControlFrame 0 (UInt64.ofNat t.engine.controlSeqOut) message with
  | .error _ => none
  | .ok bytes =>
    (t.recordFrame bytes).map fun t =>
      (t.modify fun e => { e with controlSeqOut := e.controlSeqOut + 1 }).pushOutbound bytes

def pushBootstrapOutbound (t : Turn) (bytes : List UInt8) : Option Turn :=
  match Bootstrap.parseBootstrap bytes with
  | .error _ => none
  | .ok record =>
    match t.engine.session.recordSendBootstrap record with
    | (.error _, _) => none
    | (.ok _, session) =>
      some ((t.modify fun e => { e with session := session }).pushOutbound bytes)

/-! ## Commands -/

/-- The failure event of a channel of the given kind. -/
def openFailed (kind : PendingKind) (channelId : UInt32) (code : UInt8) (message : String) :
    AppEvent :=
  match kind with
  | .subscribe => .subscribeFailed channelId code message
  | .publish => .publishFailed channelId code message
  | .serviceClient | .serviceServer => .serviceFailed channelId code message
  | .actionClient | .actionServer => .actionFailed channelId code message

/-- The event of a Phase 1 root without schema material, if that is what the type is. -/
def schemaUnavailable (lib : Library) (t : Turn) (typeName : String) (channelId : UInt32)
    (kind : PendingKind) : Option AppEvent :=
  match lib.lookupPhase1RootForOpen typeName t.engine.supportRowId with
  | .ok () => none
  | .error err => some (openFailed kind channelId (err.wireErrorCode.getD 10) err.message)

/-- Send an OpenChannel and remember the channel as pending. -/
def pushOpen (t : Turn) (message : CborValue) (failure : String) (channelId : UInt32)
    (pending : PendingOpen) : Turn :=
  match t.pushControl message with
  | none => t.fail 1 failure
  | some t =>
    t.modify fun e => { e with pendingOpens := e.pendingOpens.set channelId pending }

def openChannelCmd (lib : Library) (t : Turn) (options : TopicOptions) (operationKind : UInt64)
    (kind : PendingKind) : Turn :=
  match schemaUnavailable lib t options.typeName options.channelId kind with
  | some event => t.emit event
  | none =>
    let depth := if options.qosDepth = 0 then defaultQosDepth else options.qosDepth
    t.pushOpen
      (openTopic lib options.correlation options.channelId operationKind options.topic
        options.typeName options.qosReliability.toUInt64 depth options.domainId
        t.engine.supportRowId)
      "open_channel_encode_failed" options.channelId
      ⟨kind, options.topic, options.typeName, options.qosReliability⟩

/-- `OpenService` and `OpenAction`, given the message to send. -/
def openEndpoint (lib : Library) (t : Turn) (options : EndpointOptions) (kind : PendingKind)
    (message : CborValue) (failure : String) : Turn :=
  match schemaUnavailable lib t options.typeName options.channelId kind with
  | some event => t.emit event
  | none =>
    t.pushOpen message failure options.channelId ⟨kind, options.name, options.typeName, 1⟩

/-- The header of an application frame of the engine. -/
def appHeader (opcode : UInt8) (reliable : Bool) (channelId : UInt32) (sequence : ℕ) :
    FrameHeader :=
  ⟨0, opcode, if reliable then flagRosReliable else 0, channelId, UInt64.ofNat sequence, 0, 2, 0⟩

def sendSamplePayload (t : Turn) (channelId : UInt32) (payload : List UInt8) : Turn :=
  match t.engine.activePublishes.find? channelId with
  | none => t.emit (.publishFailed channelId 25 "publish_channel_not_ready")
  | some pub =>
    match Encode.encodeFrame (appHeader opcodeRosSample pub.reliable channelId pub.seqOut) []
        payload with
    | .error _ => t.emit (.publishFailed channelId 1 "sample_frame_encode_failed")
    | .ok bytes =>
      match parseFrame bytes defaultOptions with
      | .error _ => t.emit (.publishFailed channelId 1 "sample_frame_parse_failed")
      | .ok frame =>
        match t.engine.session.recordSendFrame frame with
        | (.error _, _) => t.emit (.publishFailed channelId 25 "sample_frame_record_failed")
        | (.ok _, session) =>
          (t.modify fun e =>
            { e with
              session := session
              activePublishes :=
                e.activePublishes.set channelId { pub with seqOut := pub.seqOut + 1 } }).pushOutbound
            bytes

def sendSample (lib : Library) (t : Turn) (channelId : UInt32) (stringData : String) : Turn :=
  match lib.encodeStdMsgsString stringData with
  | none => t.emit (.publishFailed channelId 1 "cdr_encode_failed")
  | some payload => t.sendSamplePayload channelId payload

/-- The channel-wide sequence of the next operation frame, which is used up at once. -/
def takeOperationSequence (t : Turn) (channelId : UInt32) (operationId : OperationId) :
    Option (ℕ × Turn) :=
  let use (a : ActiveOperations) : ActiveOperations :=
    { a with nextSeq := a.nextSeq + 1, seqOut := a.seqOut.set operationId a.nextSeq }
  match t.engine.activeServices.find? channelId with
  | some svc =>
    some (svc.nextSeq, t.modify fun e =>
      { e with activeServices := e.activeServices.set channelId (use svc) })
  | none =>
    match t.engine.activeActions.find? channelId with
    | some act =>
      some (act.nextSeq, t.modify fun e =>
        { e with activeActions := e.activeActions.set channelId (use act) })
    | none => none

/-- The event of an operation on a channel that is not active. -/
def operationNotReady (t : Turn) (channelId : UInt32) : AppEvent :=
  match (t.engine.pendingOpens.find? channelId).map PendingOpen.kind with
  | some .actionClient | some .actionServer =>
    .actionFailed channelId 25 "action_channel_not_ready"
  | _ => .serviceFailed channelId 25 "service_action_channel_not_ready"

/-- The OPERATION_ID extension of an operation. -/
def operationIdExtension (operationId : OperationId) : R2wpExtension :=
  ⟨Extension.operationIdExtensionType, true, operationId.1⟩

/-- **Send a service or action frame.**  The sequence is used up even when the frame is not
sent after all. -/
def sendServiceActionFrame (t : Turn) (channelId : UInt32) (opcode : UInt8)
    (operationId : OperationId) (payload : List UInt8) (reliable : Bool) : Turn :=
  match t.takeOperationSequence channelId operationId with
  | none => t.emit (t.operationNotReady channelId)
  | some (sequence, t) =>
    match Encode.encodeExtensionArea [operationIdExtension operationId] with
    | .error _ => t.emit (.serviceFailed channelId 1 "operation_id_encode_failed")
    | .ok area =>
      match Encode.encodeFrame (appHeader opcode reliable channelId sequence) area payload with
      | .error _ => t.emit (.serviceFailed channelId 1 "service_action_frame_encode_failed")
      | .ok bytes =>
        match parseFrame bytes defaultOptions with
        | .error _ => t.emit (.serviceFailed channelId 1 "service_action_frame_parse_failed")
        | .ok frame =>
          match t.engine.session.recordSendFrame frame with
          | (.error _, _) =>
            t.emit (.serviceFailed channelId 25 "service_action_frame_record_failed")
          | (.ok _, session) =>
            (t.modify fun e => { e with session := session }).pushOutbound bytes

/-- Host value to CDR for generated sections; other payloads pass through. -/
def encodeOpPayload (lib : Library) (t : Turn) (channelId : UInt32) (op : GeneratedOpKind)
    (bytes : List UInt8) : Option (List UInt8) :=
  let typeName := ((t.engine.activeServices.find? channelId).map (·.typeName)).or
    ((t.engine.activeActions.find? channelId).map (·.typeName))
  match typeName.bind (generatedOpTypeName · op) with
  | none => some bytes
  | some typeSection => lib.encodeHostValue typeSection bytes

/-- Encode an operation payload and send it. -/
def sendOperation (lib : Library) (t : Turn) (channelId : UInt32) (op : GeneratedOpKind)
    (opcode : UInt8) (operationId : OperationId) (bytes : List UInt8) (reliable : Bool)
    (failure : AppEvent) : Turn :=
  match encodeOpPayload lib t channelId op bytes with
  | some payload => t.sendServiceActionFrame channelId opcode operationId payload reliable
  | none => t.emit failure

def failService (channelId : UInt32) : AppEvent := .serviceFailed channelId 1 "cdr_encode_failed"
def failAction (channelId : UInt32) : AppEvent := .actionFailed channelId 1 "cdr_encode_failed"

/-- The hello a client starts with; binary WebSocket is always offered. -/
def startHello (transferableArraybuffer webtransport : Bool) : ClientHello :=
  ⟨[0], ⟨webtransport, true, none⟩, ⟨transferableArraybuffer, false⟩, ⟨none, none, none, none⟩, []⟩

def start (t : Turn) (transferableArraybuffer webtransport : Bool) : Turn :=
  if t.engine.started then t
  else
    let t := t.modify fun e => { e with started := true }
    match Encode.encodeClientHello (startHello transferableArraybuffer webtransport) with
    | .error _ => t.fail 1 "client_hello_encode_failed"
    | .ok bytes =>
      match t.pushBootstrapOutbound bytes with
      | none => t.fail 1 "client_hello_record_failed"
      | some t => t

def unsubscribe (t : Turn) (correlation : ByteArrayOf 16) (channelId : UInt32) : Turn :=
  match t.pushControl (closeChannel correlation channelId) with
  | none => t.fail 1 "close_channel_encode_failed"
  | some t =>
    t.modify fun e =>
      { e with
        pendingOpens := e.pendingOpens.remove channelId
        activeSubscribes := e.activeSubscribes.remove channelId
        activePublishes := e.activePublishes.remove channelId
        activeServices := e.activeServices.remove channelId
        activeActions := e.activeActions.remove channelId }

/-- **Handle one application command.** -/
def handleCommand (lib : Library) (t : Turn) : AppCommand → Turn
  | .start transferable webtransport => t.start transferable webtransport
  | .authenticate correlation scheme token =>
    (t.pushControl (Engine.authenticate correlation scheme token)).getD
      (t.fail 1 "authenticate_encode_failed")
  | .subscribe options => openChannelCmd lib t options 0 .subscribe
  | .publish options => openChannelCmd lib t options 1 .publish
  | .sendSample channelId stringData => sendSample lib t channelId stringData
  | .sendPointCloud2 channelId view =>
    match lib.encodePointCloud2 view with
    | some payload => t.sendSamplePayload channelId payload
    | none => t.emit (.publishFailed channelId 1 "cdr_encode_failed")
  | .sendGenerated channelId typeName value =>
    match lib.encodeHostValue typeName value with
    | some payload => t.sendSamplePayload channelId payload
    | none => t.emit (.publishFailed channelId 1 "cdr_encode_failed")
  | .openService options =>
    openEndpoint lib t options (if options.client then .serviceClient else .serviceServer)
      (openService lib options t.engine.supportRowId) "open_service_encode_failed"
  | .callService channelId operationId request =>
    sendOperation lib t channelId .request opcodeServiceRequest operationId request true
      (failService channelId)
  | .sendServiceResponse channelId operationId response =>
    sendOperation lib t channelId .response opcodeServiceResponse operationId response true
      (failService channelId)
  | .openAction options =>
    openEndpoint lib t options (if options.client then .actionClient else .actionServer)
      (openAction lib options t.engine.supportRowId) "open_action_encode_failed"
  | .sendActionGoal channelId operationId goal =>
    sendOperation lib t channelId .goal opcodeActionGoal operationId goal true
      (failAction channelId)
  | .cancelAction channelId operationId =>
    t.sendServiceActionFrame channelId opcodeActionCancel operationId [] true
  | .sendActionFeedback channelId operationId feedback =>
    sendOperation lib t channelId .feedback opcodeActionFeedback operationId feedback false
      (failAction channelId)
  | .sendActionResult channelId operationId result =>
    sendOperation lib t channelId .result opcodeActionResult operationId result true
      (failAction channelId)
  | .sendActionStatus channelId operationId status =>
    t.sendServiceActionFrame channelId opcodeActionStatus operationId status false
  | .unsubscribe correlation channelId => t.unsubscribe correlation channelId
  | .close =>
    (t.modify fun e => { e with closed := true }).emit (.closed t.engine.session.phase)

/-! ## Inbound bytes -/

/-- The size the header claims, when the bytes are a whole frame or just its prefix. -/
def retainDeclaredLen (bytes : List UInt8) : ℕ :=
  if bytes.length < frameHeaderLength then bytes.length
  else
    let extensionLen := readBe bytes 28 2
    let total := frameHeaderLength + extensionLen + readBe bytes 24 4
    if bytes.length = total ∨ bytes.length = frameHeaderLength + extensionLen then total
    else bytes.length

/-- Keep inbound bytes under a buffer id, chosen by the host or else by the engine. -/
def retain (t : Turn) (bufferId : UInt32) (bytes : List UInt8) : UInt32 × Turn :=
  let buffer : RetainedBuffer := ⟨bytes, retainDeclaredLen bytes, 0, false⟩
  if bufferId = 0 then
    let id := t.engine.nextBufferId
    (id, t.modify fun e =>
      { e with nextBufferId := saturatingSucc32 id, retained := e.retained.set id buffer })
  else
    (bufferId, t.modify fun e =>
      { e with
        retained := e.retained.set bufferId buffer
        nextBufferId := max e.nextBufferId (saturatingSucc32 bufferId) })

def failProtocol (t : Turn) (err : ProtocolError) : Turn := t.fail (UInt8.ofNat err.code) err.reason

def handleBootstrap (t : Turn) (bytes : List UInt8) : Turn :=
  match Bootstrap.parseBootstrap bytes with
  | .error err => t.failProtocol err
  | .ok record =>
    match t.engine.session.ingestBootstrap record with
    | (.error err, _) => t.failProtocol err
    | (.ok effects, session) =>
      let t := t.modify fun e => { e with session := session }
      if effects.bootstrapFailed then
        ((t.modify fun e => { e with closed := true }).emit (.error 1 "bootstrap_failed")).emit
          (.closed session.phase)
      else if effects.enteredSelectedPlane then
        t.emit (.bootstrapComplete (session.selectedWireVersion.getD 0))
      else t

def handleSessionReady (t : Turn) (fields : Fields) : Turn :=
  let supportRow := (fieldText fields 8).getD "J-FT"
  let t := (t.modify fun e => { e with supportRowId := supportRow }).emit
    (.sessionReady supportRow ((fieldDomain fields).getD 0) ((fieldText fields 7).getD ""))
  match t.engine.lastTimerMs with
  | some now =>
    t.modify fun e => { e with nextHeartbeatMs := some (saturatingAdd now heartbeatIntervalMs) }
  | none => t

/-- What is assumed of a channel that was answered without having been opened here. -/
def PendingOpen.assumed : PendingOpen := ⟨.subscribe, "", "", 1⟩

/-- A successful ChannelReady moves the channel to the table of its kind. -/
def activate (t : Turn) (channelId : UInt32) (pending : PendingOpen) (effectiveRel : UInt8) :
    Turn :=
  let operations (client : Bool) : ActiveOperations :=
    ⟨pending.topic, pending.typeName, client, 0, ∅⟩
  let service (client : Bool) : Turn :=
    (t.emit (.serviceReady channelId pending.topic pending.typeName client)).modify fun e =>
      { e with activeServices := e.activeServices.set channelId (operations client) }
  let action (client : Bool) : Turn :=
    (t.emit (.actionReady channelId pending.topic pending.typeName client)).modify fun e =>
      { e with activeActions := e.activeActions.set channelId (operations client) }
  match pending.kind with
  | .subscribe =>
    (t.emit (.subscribed channelId pending.topic pending.typeName)).modify fun e =>
      { e with
        activeSubscribes :=
          e.activeSubscribes.set channelId { pending with qosReliability := effectiveRel } }
  | .publish =>
    (t.emit (.published channelId pending.topic pending.typeName effectiveRel)).modify fun e =>
      { e with
        activePublishes := e.activePublishes.set channelId
          ⟨pending.topic, pending.typeName, effectiveRel != 2, 0⟩ }
  | .serviceClient => service true
  | .serviceServer => service false
  | .actionClient => action true
  | .actionServer => action false

def handleChannelReady (t : Turn) (fields : Fields) (effects : SessionEffects) : Turn :=
  let channelId :=
    (effects.channelFailed.or ((fieldUint fields 29).map UInt64.toUInt32)).getD 0
  let result := (fieldUint fields 33).getD 3
  let pending := t.engine.pendingOpens.find? channelId
  let t := t.modify fun e => { e with pendingOpens := e.pendingOpens.remove channelId }
  if result = 0 ∨ result = 2 then
    let pending := pending.getD PendingOpen.assumed
    t.activate channelId pending
      ((fieldEffectiveReliability fields).getD pending.qosReliability)
  else
    let (code, message) := channelReadyErrorBody fields
    t.emit (openFailed ((pending.map (·.kind)).getD .subscribe) channelId code message)

/-- A heartbeat is reported and answered. -/
def handleHeartbeat (t : Turn) (fields : Fields) : Turn :=
  let t := (t.emit (.heartbeat ((fieldUint fields 40).getD 0))).modify fun e =>
    { e with heartbeatCounter := e.heartbeatCounter + 1 }
  (t.pushControl (heartbeat (UInt64.ofNat t.engine.heartbeatCounter))).getD t

def handleError (t : Turn) (fields : Fields) (effects : SessionEffects) : Turn :=
  if effects.sessionError then
    t.fail ((fieldUint fields 48).getD 25).toUInt8 ((fieldText fields 51).getD "session_error")
  else
    match effects.operationCancelled, effects.channelFailed with
    | some channelId, _ =>
      t.emit (.operationCancelled channelId ((fieldUint fields 48).getD 15).toUInt8
        ((fieldText fields 51).getD "operation_cancelled"))
    | none, some channelId =>
      let (code, message) := channelReadyErrorBody fields
      let code := ((fieldUint fields 48).getD code.toUInt64).toUInt8
      let message := (fieldText fields 51).getD message
      let kind := (t.engine.pendingOpens.find? channelId).map (·.kind)
      (t.modify fun e => { e with pendingOpens := e.pendingOpens.remove channelId }).emit
        (openFailed (kind.getD .subscribe) channelId code message)
    | none, none => t

/-- **React to an accepted control message.** -/
def handleControl (t : Turn) (msg : ControlMessage) (effects : SessionEffects) : Turn :=
  if msg.kind = kindSessionReady then
    if effects.enteredReady then t.handleSessionReady msg.fields else t
  else if msg.kind = kindChannelReady then t.handleChannelReady msg.fields effects
  else if msg.kind = kindHeartbeat then t.handleHeartbeat msg.fields
  else if msg.kind = kindGraphSnapshot then
    match effects.graphSnapshot with
    | some generation =>
      t.emit (.graphSnapshot generation (graphNodesJson msg.fields) (graphEndpointsJson msg.fields))
    | none => t
  else if msg.kind = kindGraphDelta then
    match effects.graphDelta with
    | some generation => t.emit (.graphDelta generation)
    | none => t
  else if msg.kind = kindError then t.handleError msg.fields effects
  else t

/-- What is so of every reaction is so of the one to the message at hand. -/
theorem handleControl_cases {t : Turn} {msg : ControlMessage} {effects : SessionEffects}
    {P : Turn → Prop} (hready : P (t.handleSessionReady msg.fields))
    (hchannel : msg.kind = kindChannelReady → P (t.handleChannelReady msg.fields effects))
    (hheartbeat : msg.kind = kindHeartbeat → P (t.handleHeartbeat msg.fields))
    (hsnapshot : ∀ generation nodes endpoints,
      P (t.emit (.graphSnapshot generation nodes endpoints)))
    (hdelta : ∀ generation, P (t.emit (.graphDelta generation)))
    (herror : msg.kind = kindError → P (t.handleError msg.fields effects)) (hother : P t) :
    P (t.handleControl msg effects) := by
  unfold handleControl
  refine iteInduction (fun _ => iteInduction (fun _ => hready) fun _ => hother) fun _ => ?_
  refine iteInduction hchannel fun _ => iteInduction hheartbeat fun _ => ?_
  refine iteInduction (fun _ => ?_) fun _ => iteInduction (fun _ => ?_) fun _ =>
    iteInduction herror fun _ => hother
  · cases effects.graphSnapshot with
    | none => exact hother
    | some generation => exact hsnapshot generation _ _
  · cases effects.graphDelta with
    | none => exact hother
    | some generation => exact hdelta generation

/-- Issue a lease on the payload of a frame held in a buffer. -/
def issueLease (t : Turn) (bufferId : UInt32) (frame : DecodedFrame) : UInt32 × Turn :=
  let id := t.engine.nextLeaseId
  let lease : Lease := ⟨bufferId, payloadStart frame, frame.payloadLen.toNat⟩
  (id, t.modify fun e =>
    { e with
      nextLeaseId := saturatingSucc32 id
      retained :=
        match e.retained.find? bufferId with
        | some buf =>
          e.retained.set bufferId { buf with leaseRefs := saturatingSucc32 buf.leaseRefs }
        | none => e.retained
      leases := e.leases.set id lease })

/-- Whether the payload a frame declares lies outside the buffer. -/
def payloadOutOfBounds (frame : DecodedFrame) (declaredLen : ℕ) : Bool :=
  decide (declaredLen < payloadStart frame + frame.payloadLen.toNat)

/-- The text of a string sample, decoded here when the payload is at hand and the host does
not decode it itself. -/
def sampleText (lib : Library) (wasm32 : Bool) (t : Turn) (frame : DecodedFrame)
    (payload : List UInt8) : Option String :=
  if wasm32 then none
  else if payload.length = frame.payloadLen.toNat then
    let typeName :=
      ((t.engine.activeSubscribes.find? frame.channelId).map (·.typeName)).getD ""
    if typeName = "std_msgs/msg/String" ∨ typeName = "std_msgs/String" ∨ typeName = "" then
      lib.decodeStdMsgsString payload
    else none
  else none

def handleSample (lib : Library) (wasm32 : Bool) (t : Turn) (bufferId : UInt32)
    (frame : DecodedFrame) (declaredLen : ℕ) : Turn :=
  match frame.payload with
  | .control _ => t
  | .application payload =>
    if payloadOutOfBounds frame declaredLen then t.fail 25 "sample_payload_out_of_bounds"
    else
      let text := sampleText lib wasm32 t frame payload
      let (leaseId, t) := t.issueLease bufferId frame
      t.emit (.sample frame.channelId leaseId frame.sequence frame.sourceTimeNs text)

/-- The event of an inbound operation frame. -/
def operationEvent (opcode : UInt8) (event : OperationEvent) : Option AppEvent :=
  if opcode = opcodeServiceRequest then some (.serviceRequest event)
  else if opcode = opcodeServiceResponse then some (.serviceResponse event)
  else if opcode = opcodeActionGoal then some (.actionGoal event)
  else if opcode = opcodeActionFeedback then some (.actionFeedback event)
  else if opcode = opcodeActionResult then some (.actionResult event)
  else if opcode = opcodeActionStatus then some (.actionStatus event)
  else none

/-- There are six events of operations. -/
theorem operationEvent_cases {opcode : UInt8} {op : OperationEvent} {event : AppEvent}
    (h : operationEvent opcode op = some event) :
    event = .serviceRequest op ∨ event = .serviceResponse op ∨ event = .actionGoal op ∨
      event = .actionFeedback op ∨ event = .actionResult op ∨ event = .actionStatus op := by
  have hsome {e : AppEvent} (he : some e = some event) : event = e := (Option.some.inj he).symm
  unfold operationEvent at h
  rcases ite_eq_iff.mp h with ⟨-, h⟩ | ⟨-, h⟩
  · exact .inl (hsome h)
  rcases ite_eq_iff.mp h with ⟨-, h⟩ | ⟨-, h⟩
  · exact .inr (.inl (hsome h))
  rcases ite_eq_iff.mp h with ⟨-, h⟩ | ⟨-, h⟩
  · exact .inr (.inr (.inl (hsome h)))
  rcases ite_eq_iff.mp h with ⟨-, h⟩ | ⟨-, h⟩
  · exact .inr (.inr (.inr (.inl (hsome h))))
  rcases ite_eq_iff.mp h with ⟨-, h⟩ | ⟨-, h⟩
  · exact .inr (.inr (.inr (.inr (.inl (hsome h)))))
  rcases ite_eq_iff.mp h with ⟨-, h⟩ | ⟨-, h⟩
  · exact .inr (.inr (.inr (.inr (.inr (hsome h)))))
  cases h

/-- Drop a lease. -/
def releaseLease (t : Turn) (leaseId : UInt32) : Turn :=
  match t.engine.leases.find? leaseId with
  | none => t
  | some lease =>
    t.modify fun e =>
      { e with
        leases := e.leases.remove leaseId
        retained :=
          match e.retained.find? lease.bufferId with
          | some buf =>
            e.retained.set lease.bufferId { buf with leaseRefs := buf.leaseRefs - min buf.leaseRefs 1 }
          | none => e.retained }

def handleServiceAction (t : Turn) (bufferId : UInt32) (frame : DecodedFrame)
    (declaredLen : ℕ) : Turn :=
  match frame.payload with
  | .control _ => t
  | .application _ =>
    if payloadOutOfBounds frame declaredLen then t.fail 25 "service_action_payload_out_of_bounds"
    else if frame.opcode = opcodeActionCancel then t
    else
      let operationId :=
        (frameOperationId frame).or
          (if frame.opcode = opcodeActionStatus then some OperationId.zero.1 else none)
      match operationId with
      | none => t.fail 25 "missing_operation_id"
      | some operationId =>
        let (leaseId, t) := t.issueLease bufferId frame
        match operationEvent frame.opcode ⟨frame.channelId, operationId, leaseId, frame.sequence⟩ with
        | some event => t.emit event
        | none => t.releaseLease leaseId

/-- **Handle a selected-version frame.** -/
def handleFrame (lib : Library) (wasm32 : Bool) (t : Turn) (bufferId : UInt32)
    (bytes : List UInt8) : Turn :=
  let declaredLen := retainDeclaredLen bytes
  match parseFrameDeclared bytes declaredLen defaultOptions with
  | .error err => t.failProtocol err
  | .ok frame =>
    match t.engine.session.ingestFrame frame with
    | (.error err, _) => t.failProtocol err
    | (.ok effects, session) =>
      let t := t.modify fun e => { e with session := session }
      if frame.opcode = opcodeControlCbor then
        if frame.sequence ≠ UInt64.ofNat t.engine.controlSeqIn then
          t.fail 25 "control_sequence_mismatch"
        else
          let t := t.modify fun e => { e with controlSeqIn := e.controlSeqIn + 1 }
          match frame.payload with
          | .control msg => t.handleControl msg effects
          | .application _ => t.fail 25 "missing_control_payload"
      else if frame.opcode = opcodeRosSample then
        handleSample lib wasm32 t bufferId frame declaredLen
      else if Transition.isServiceOrActionOpcode frame.opcode then
        t.handleServiceAction bufferId frame declaredLen
      else t

/-- **Handle one inbound WebSocket message.** -/
def handleWsBytes (lib : Library) (wasm32 : Bool) (t : Turn) (bufferId : UInt32)
    (bytes : List UInt8) : Turn :=
  let (id, t) := t.retain bufferId bytes
  let t :=
    if t.engine.session.phase.inSelectedPlane then handleFrame lib wasm32 t id bytes
    else t.handleBootstrap bytes
  t.modify fun e =>
    { e with
      retained :=
        match e.retained.find? id with
        | some buf => e.retained.set id { buf with ingestDone := true }
        | none => e.retained }

/-! ## Poll turns -/

def handleTimer (t : Turn) (nowMs : UInt64) : Turn :=
  let t := t.modify fun e => { e with lastTimerMs := some nowMs }
  let rearm (t : Turn) : Turn :=
    t.modify fun e => { e with nextHeartbeatMs := some (saturatingAdd nowMs heartbeatIntervalMs) }
  if !t.engine.session.phase.isReady then t
  else
    match t.engine.nextHeartbeatMs with
    | none => rearm t
    | some deadline =>
      if deadline ≤ nowMs then
        let t := t.modify fun e => { e with heartbeatCounter := e.heartbeatCounter + 1 }
        rearm ((t.pushControl (heartbeat (UInt64.ofNat t.engine.heartbeatCounter))).getD t)
      else t

/-- **Handle one host event.** -/
def handleEvent (lib : Library) (wasm32 : Bool) (t : Turn) : HostEvent → Turn
  | .command cmd => handleCommand lib t cmd
  | .wsBytes bufferId bytes => handleWsBytes lib wasm32 t bufferId bytes
  | .timer nowMs => t.handleTimer nowMs
  | .releaseLease leaseId => t.releaseLease leaseId

/-- Handle a batch in order, up to the event that closes the engine. -/
def handleEvents (lib : Library) (wasm32 : Bool) : Turn → List HostEvent → Turn
  | t, [] => t
  | t, event :: events =>
    let t := handleEvent lib wasm32 t event
    if t.engine.closed then t else handleEvents lib wasm32 t events

/-- Give back the buffers no lease points into. -/
def sweepReleased (t : Turn) : Turn :=
  let idle := t.engine.retained.keys.filterMap fun id =>
    (t.engine.retained.find? id).bind fun buf =>
      if buf.ingestDone && buf.leaseRefs == 0 then
        some (⟨id, UInt32.ofNat buf.bytes.length⟩ : ReleasedBuffer)
      else none
  { engine :=
      { t.engine with
        retained := idle.foldl (fun table b => table.remove b.bufferId) t.engine.retained }
    outcome := { t.outcome with releasedBuffers := t.outcome.releasedBuffers ++ idle } }

end Turn
end Engine

namespace ClientEngine

open Engine Turn

/-- **One host turn.** -/
def poll (lib : Library) (wasm32 : Bool) (engine : ClientEngine) (events : List HostEvent) :
    ClientEngine × PollOutcome :=
  if engine.closed then
    (engine, { events := [.closed engine.session.phase] })
  else
    let t := handleEvents lib wasm32 ⟨engine, {}⟩ (events.take maxHostEventsPerPoll)
    let t := t.sweepReleased
    (t.engine, { t.outcome with nextDeadlineMs := t.engine.nextHeartbeatMs })

/-! ## Leases -/

/-- Which retained buffer backs a lease. -/
def leaseBufferId (e : ClientEngine) (leaseId : UInt32) : Option UInt32 :=
  (e.leases.find? leaseId).map (·.bufferId)

/-- The payload of a lease, unless it lives on the host. -/
def leasePayloadView (e : ClientEngine) (leaseId : UInt32) : Option (List UInt8) :=
  match e.leases.find? leaseId with
  | none => none
  | some lease =>
    match e.retained.find? lease.bufferId with
    | none => none
    | some buf =>
      if lease.payloadOffset + lease.payloadLen ≤ buf.bytes.length then
        some ((buf.bytes.drop lease.payloadOffset).take lease.payloadLen)
      else none

/-- What the host is told of a payload: a view into the engine's memory or, under a null pointer,
the length of bytes the host kept itself. -/
inductive PayloadAbi where
  | view (bytes : List UInt8)
  | host (len : UInt32)
  deriving DecidableEq, Repr

def leasePayloadAbi (e : ClientEngine) (leaseId : UInt32) : PayloadAbi :=
  match e.leases.find? leaseId with
  | none => .host 0
  | some lease =>
    match e.leasePayloadView leaseId with
    | some view => .view view
    | none => .host (UInt32.ofNat lease.payloadLen)

end ClientEngine
end Rclweb
