import Rclweb.Gateway.Budgets
import Rclweb.Gateway.Control
import Rclweb.Session.Session

/-!
# One gateway connection

The handlers of a connection: bootstrap, authentication, channels, and the application
frames of topics, services and actions.  `Turn` is the connection state with the outcome of
the running handler; a handler that asks the backend is a program that returns a turn.

Every outbound control or operation frame is parsed and recorded before it is queued.  The
source asserts in debug builds that this succeeds; `assertFailed` records that an assertion
would have fired.  Counters that only count this side's own steps are natural numbers, cast
where they go on the wire; `seqIn` follows the peer and is exact.
-/

namespace Rclweb

open Rclweb.Frame Control

namespace Gateway

/-- **What the gateway keeps of an active channel.** -/
structure ChannelRuntime where
  kind : OperationKind
  entity : EntityId
  reliable : Bool
  transientLocal : Bool
  priority : UInt8
  seqOut : ℕ
  seqIn : UInt64
  opSeqOut : Table OperationId ℕ
  opSeqIn : Table OperationId ℕ

/-- **The state of one connection.** -/
structure ConnState where
  session : Session := .new .server
  serverHello : Option ServerHello := none
  controlSeqOut : ℕ := 0
  controlSeqIn : ℕ := 0
  heartbeatCounter : ℕ := 0
  channels : Table UInt32 ChannelRuntime := ∅
  graphGeneration : Option UInt64 := none
  /-- The effective identity from Authenticate, which access control looks at. -/
  subject : String := anonymousSubject

/-- What a handler wants sent, and whether the connection closes after it. -/
structure Outcome where
  outbound : List (List UInt8) := []
  close : Bool := false
  assertFailed : Bool := false
  deriving DecidableEq, Repr

/-- A connection and the outcome of the running handler. -/
structure Turn where
  conn : ConnState
  outcome : Outcome := {}

def bootstrapErrorCodes : List UInt8 := [1, 2, 4, 16, 24, 25]

def bootstrapErrorCode (err : ProtocolError) : UInt8 :=
  let code := UInt8.ofNat err.code
  if bootstrapErrorCodes.contains code then code else 1

/-- Wire error codes are 1 to 28 without 20. -/
def wireErrorCode (err : ProtocolError) : UInt8 :=
  let code := UInt8.ofNat err.code
  if 1 ≤ code ∧ code ≤ 28 ∧ code ≠ 20 then code else 25

/-- The 16-byte value of an OPERATION_ID extension. -/
def operationIdOf (ext : R2wpExtension) : Option OperationId :=
  if h : ext.value.length = 16 then
    if ext.typeId = Extension.operationIdExtensionType then some ⟨ext.value, h⟩ else none
  else none

def frameOperationId (frame : DecodedFrame) : Option OperationId :=
  frame.extensions.findSome? operationIdOf

def fieldUint (msg : ControlMessage) (key : UInt64) : Option UInt64 :=
  match msg.get key with
  | some (.unsigned v) => some v
  | _ => none

def fieldBytes (msg : ControlMessage) (key : UInt64) : Option (List UInt8) :=
  match msg.get key with
  | some (.bytes b) => some b
  | _ => none

def fieldText (msg : ControlMessage) (key : UInt64) : Option String :=
  match msg.get key with
  | some (.text t) => some t
  | _ => none

/-- The payload as a slice of the inbound bytes. -/
def framePayloadBytes (inbound : List UInt8) (frame : DecodedFrame) : List UInt8 :=
  (inbound.drop (sampleHeaderPrefix + frame.extensionLen.toNat)).take frame.payloadLen.toNat

variable {jwt : JwtLibrary}

namespace Turn

def modify (t : Turn) (f : ConnState → ConnState) : Turn := { t with conn := f t.conn }

def close (t : Turn) : Turn := { t with outcome := { t.outcome with close := true } }

/-- The outcome of a frame that did not parse or was not recorded. -/
def assertionFailed (t : Turn) : Turn :=
  { t with outcome := { t.outcome with close := true, assertFailed := true } }

def queue (t : Turn) (bytes : List UInt8) : Turn :=
  { t with outcome := { t.outcome with outbound := t.outcome.outbound ++ [bytes] } }

/-- The session after an outbound frame was parsed and recorded. -/
def recorded (t : Turn) (bytes : List UInt8) : Option Session :=
  match parseFrame bytes defaultOptions with
  | .error _ => none
  | .ok frame =>
    match t.conn.session.recordSendFrame frame with
    | (.error _, _) => none
    | (.ok _, session) => some session

/-- **Encode, self-parse, record and queue a control message.** -/
def pushControl (t : Turn) (message : CborValue) : Turn × Bool :=
  match Encode.encodeControlFrame 0 (UInt64.ofNat t.conn.controlSeqOut) message with
  | .error _ => (t.close, false)
  | .ok bytes =>
    match t.recorded bytes with
    | none => (t.assertionFailed, false)
    | some session =>
      ((t.modify fun c =>
        { c with session := session, controlSeqOut := c.controlSeqOut + 1 }).queue bytes, true)

/-- **Encode, self-parse, record and queue an operation frame.** -/
def pushAppFrame (t : Turn) (header : FrameHeader) (operationId : Option OperationId)
    (payload : List UInt8) : Turn :=
  let area : Except EncodeError (List UInt8) :=
    match operationId with
    | some opid =>
      Encode.encodeExtensionArea [⟨Extension.operationIdExtensionType, true, opid.1⟩]
    | none => .ok []
  match area with
  | .error _ => t.close
  | .ok area =>
    match Encode.encodeFrame header area payload with
    | .error _ => t.close
    | .ok bytes =>
      match t.recorded bytes with
      | none => t.assertionFailed
      | some session => (t.modify fun c => { c with session := session }).queue bytes

def pushBootstrapError (t : Turn) (code : UInt8) (message : String) : Turn :=
  match Encode.encodeBootstrapError ⟨code, some message, none⟩ with
  | .ok bytes => (t.queue bytes).close
  | .error _ => t.close

/-- Report a protocol error to the peer and close. -/
def failSession (t : Turn) (err : ProtocolError) : Turn :=
  if t.conn.session.phase.inSelectedPlane then
    (t.pushControl (sessionError (wireErrorCode err) err.reason)).1.close
  else (t.pushBootstrapError (bootstrapErrorCode err) err.reason).close

/-! ## Bootstrap -/

def handleBootstrap (config : GatewayConfig jwt) (active : ActiveTransport) (t : Turn)
    (bytes : List UInt8) : Turn :=
  match Bootstrap.parseBootstrap bytes with
  | .error err => t.pushBootstrapError (bootstrapErrorCode err) err.reason
  | .ok record =>
    match t.conn.session.ingestBootstrap record with
    | (.error err, _) => t.pushBootstrapError (bootstrapErrorCode err) err.reason
    | (.ok _, session) =>
      let t := t.modify fun c => { c with session := session }
      match record with
      | .clientHello hello =>
        match negotiateServerHello hello config active with
        | .error code => t.pushBootstrapError code "hello_negotiation_failed"
        | .ok serverHello =>
          match Encode.encodeServerHello serverHello with
          | .error _ => t.close
          | .ok response =>
            match session.recordSendBootstrap (.serverHello serverHello) with
            | (.error _, _) => t.assertionFailed
            | (.ok _, session) =>
              (t.modify fun c =>
                { c with session := session, serverHello := some serverHello }).queue response
      | _ => t.close

/-! ## Control messages -/

/-- Ask for the graph and send it as a snapshot of the given generation. -/
def pushGraphSnapshot (config : GatewayConfig jwt) (t : Turn) (generation : UInt64) : Task Turn :=
  .await .graphView fun
    | .error err => .pure (t.pushControl (sessionError err.code err.message)).1.close
    | .ok view =>
      match t.pushControl (graphSnapshot config zeroCorrelation generation view) with
      | (t, true) => .pure (t.modify fun c => { c with graphGeneration := some generation })
      | (t, false) => .pure t

def pushGraphDeltaForEndpoint (config : GatewayConfig jwt) (t : Turn)
    (endpoint : GraphEndpointInfo) : Turn :=
  match t.conn.graphGeneration with
  | none => t
  | some base =>
    let generation := Transition.saturatingSucc base
    match t.pushControl (graphDelta config zeroCorrelation base generation
        [graphDeltaAddEndpoint endpoint config.supportRow]) with
    | (t, true) => t.modify fun c => { c with graphGeneration := some generation }
    | (t, false) => t

/-- **Authenticate**: decide, fix the subject, answer SessionReady and send the graph. -/
def handleAuthenticate (config : GatewayConfig jwt) (sessionId : ByteArrayOf 32) (t : Turn)
    (msg : ControlMessage) : Task Turn :=
  let correlation := (fieldBytes msg 2).getD zeroCorrelation
  let decision := authenticate config ((fieldBytes msg 17).getD [])
  if !decision.allow then
    .pure (t.pushControl (sessionErrorWithCorrelation correlation authenticationFailed
      decision.reason)).1.close
  else
    match t.conn.serverHello with
    | none => .pure t.close
    | some serverHello =>
      let t := t.modify fun c => { c with subject := decision.subject }
      match t.pushControl (sessionReady config serverHello correlation sessionId.1
          decision.subject) with
      | (t, false) => .pure t
      | (t, true) => t.pushGraphSnapshot config 1

/-- The kind an OpenChannel asks for. -/
def openKind (msg : ControlMessage) : Option OperationKind :=
  match fieldUint msg 30 with
  | some 0 => some .topicSubscribe
  | some 1 => some .topicPublish
  | some 2 => some .serviceClient
  | some 3 => some .serviceServer
  | some 4 => some .actionClient
  | some 5 => some .actionServer
  | _ => none

/-- Why an OpenChannel cannot be served by this gateway, if it cannot. -/
def openFailure (config : GatewayConfig jwt) (msg : ControlMessage) : Option (UInt8 × String) :=
  if fieldText msg 8 ≠ some config.supportRow.id then some (25, "support_row_mismatch")
  else if fieldUint msg 9 ≠ some config.domainId.toUInt64 then some (12, "domain_not_served")
  else if fieldUint msg 5 ≠ some 1 then some (8, "unsupported_payload_encoding")
  else none

/-- Services and actions are always reliable. -/
def runtimeReliable (kind : OperationKind) (qos : EffectiveQos) : Bool :=
  if kind.isService || kind.isAction then true else qos.reliable

/-- The successful answer to an OpenChannel of a kind. -/
def channelReadyOf (config : GatewayConfig jwt) (kind : OperationKind) (correlation : List UInt8)
    (channelId : UInt32) (priority : UInt8) (qos : EffectiveQos) : CborValue :=
  if kind.isService then channelReadyServiceAllow config correlation channelId priority
  else if kind.isAction then channelReadyActionAllow config correlation channelId priority
  else channelReadyAllow config correlation channelId priority qos

/-- Answer an OpenChannel whose entity was created, and announce the endpoint. -/
def channelCreated (config : GatewayConfig jwt) (t : Turn) (correlation : List UInt8)
    (kind : OperationKind) (spec : ChannelSpec) (priority : UInt8) (entity : EntityId) :
    Task Turn :=
  let t := t.modify fun c =>
    { c with
      channels := c.channels.set spec.channelId
        ⟨kind, entity, runtimeReliable kind spec.qos, spec.qos.transientLocal, priority, 0, 0,
          ∅, ∅⟩ }
  match t.pushControl (channelReadyOf config kind correlation spec.channelId priority spec.qos) with
  | (t, false) =>
    match t.conn.channels.find? spec.channelId with
    | some runtime =>
      .await (.destroy runtime.entity) fun _ =>
        .pure (t.modify fun c => { c with channels := c.channels.remove spec.channelId })
    | none => .pure t
  | (t, true) =>
    .await .graphView fun
      | .error _ => .pure t
      | .ok view =>
        match view.endpoints.find? fun ep =>
            ep.name == spec.topic && ep.typeName == spec.typeName with
        | some endpoint => .pure (t.pushGraphDeltaForEndpoint config endpoint)
        | none => .pure t

/-- **OpenChannel**: check the row, the domain and the encoding, then the access policy, then
create the entity and answer. -/
def openChannel (config : GatewayConfig jwt) (t : Turn) (channelId : UInt32)
    (msg : ControlMessage) : Task Turn :=
  let correlation := (fieldBytes msg 2).getD zeroCorrelation
  match openKind msg with
  | none => .pure t.close
  | some kind =>
    let topic := (fieldText msg 31).getD ""
    let typeName := (fieldText msg 4).getD ""
    let priority := ((fieldUint msg 32).getD 2).toUInt8
    match openFailure config msg with
    | some (code, reason) =>
      .pure (t.pushControl (channelReadyError correlation channelId code reason)).1
    | none =>
      if !aclAdmits config t.conn.subject kind topic then
        .pure (t.pushControl (channelReadyError correlation channelId permissionDenied
          "permission_denied")).1
      else
        let requested : RequestedQos := ((msg.get 11).map RequestedQos.fromWire).getD {}
        let spec : ChannelSpec := ⟨channelId, topic, typeName, resolveEffective requested⟩
        .await (.create kind spec) fun
          | .ok entity => t.channelCreated config correlation kind spec priority entity
          | .error err =>
            .pure (t.pushControl (channelReadyError correlation channelId err.code
              err.message)).1

/-- CloseChannel destroys the entity of the channel. -/
def handleCloseChannel (t : Turn) (effects : SessionEffects) : Task Turn :=
  match effects.channelClosed with
  | none => .pure t
  | some channelId =>
    match t.conn.channels.find? channelId with
    | none => .pure t
    | some runtime =>
      .await (.destroy runtime.entity) fun _ =>
        .pure (t.modify fun c => { c with channels := c.channels.remove channelId })

/-- A heartbeat is answered. -/
def handleHeartbeat (t : Turn) : Turn :=
  let t := t.modify fun c => { c with heartbeatCounter := c.heartbeatCounter + 1 }
  (t.pushControl (heartbeat (UInt64.ofNat t.conn.heartbeatCounter))).1

/-- **React to an accepted control message.** -/
def handleControl (config : GatewayConfig jwt) (sessionId : ByteArrayOf 32) (t : Turn)
    (msg : ControlMessage) (effects : SessionEffects) : Task Turn :=
  if msg.kind = kindAuthenticate then t.handleAuthenticate config sessionId msg
  else if msg.kind = kindOpenChannel then
    match effects.channelOpened with
    | some channelId => t.openChannel config channelId msg
    | none => .pure t
  else if msg.kind = kindCloseChannel then t.handleCloseChannel effects
  else if msg.kind = kindHeartbeat then .pure t.handleHeartbeat
  else if msg.kind = kindError then .pure (if effects.sessionError then t.close else t)
  else .pure t

/-- What is so of every reaction is so of the one to the message at hand. -/
theorem handleControl_cases {config : GatewayConfig jwt} {sessionId : ByteArrayOf 32} {t : Turn}
    {msg : ControlMessage} {effects : SessionEffects} {P : Task Turn → Prop}
    (hauthenticate : P (t.handleAuthenticate config sessionId msg))
    (hopen : ∀ channelId, P (t.openChannel config channelId msg))
    (hclose : P (t.handleCloseChannel effects))
    (hheartbeat : msg.kind = kindHeartbeat → P (.pure t.handleHeartbeat))
    (herror : P (.pure t.close)) (hother : P (.pure t)) :
    P (t.handleControl config sessionId msg effects) := by
  unfold handleControl
  refine iteInduction (fun _ => hauthenticate) fun _ => ?_
  refine iteInduction (fun _ => ?_) fun _ => iteInduction (fun _ => hclose) fun _ => ?_
  · cases effects.channelOpened with
    | none => exact hother
    | some channelId => exact hopen channelId
  · refine iteInduction hheartbeat fun _ => iteInduction (fun _ => ?_) fun _ => hother
    cases effects.sessionError with
    | false => exact hother
    | true => exact herror

/-! ## Application frames -/

/-- Change what is kept of a channel. -/
def setRuntime (t : Turn) (channelId : UInt32) (runtime : ChannelRuntime) : Turn :=
  t.modify fun c => { c with channels := c.channels.set channelId runtime }

/-- Report a backend failure on a channel. -/
def pushChannelError (t : Turn) (channelId : UInt32) (err : BackendError) : Turn :=
  (t.pushControl (channelError channelId err.code err.message)).1

/-- An operation whose success is silent. -/
def reportFailure (t : Turn) (channelId : UInt32) : Except BackendError Unit → Task Turn
  | .ok () => .pure t
  | .error err => .pure (t.pushChannelError channelId err)

/-- The sequence check of a published sample: the channel after it, or nothing when the
sample is stale; `none` is a mismatch on a reliable channel. -/
def admitSampleIn (runtime : ChannelRuntime) (sequence : UInt64) :
    Option (Option ChannelRuntime) :=
  if runtime.reliable then
    if sequence ≠ runtime.seqIn then none
    else some (some { runtime with seqIn := runtime.seqIn + 1 })
  else if runtime.seqIn ≤ sequence then some (some { runtime with seqIn := sequence + 1 })
  else some none

def handlePublishSample (t : Turn) (frame : DecodedFrame) (inbound : List UInt8) : Task Turn :=
  match t.conn.channels.find? frame.channelId with
  | none => .pure t.close
  | some runtime =>
    if (frame.flags &&& flagRosReliable != 0) ≠ runtime.reliable then
      .pure (t.failSession (.unsupportedFlags "ros_reliable_iff_effective" 2 23))
    else if frame.flags &&& flagRetained ≠ 0 ∧ !runtime.transientLocal then
      .pure (t.failSession (.unsupportedFlags "retained_requires_transient_local" 2 24))
    else
      match admitSampleIn runtime frame.sequence with
      | none => .pure (t.failSession (.protocolViolation "reliable_sequence_mismatch" 8 25))
      | some none => .pure t
      | some (some runtime) =>
        let t := t.setRuntime frame.channelId runtime
        match frame.payload with
        | .control _ => .pure t.close
        | .application _ =>
          .await (.publish runtime.entity (framePayloadBytes inbound frame))
            (t.reportFailure frame.channelId)

/-- The next outbound sequence of an operation, and the channel after it. -/
def nextOpSeqOut (runtime : ChannelRuntime) (opid : OperationId) : ℕ × ChannelRuntime :=
  let seq := (runtime.opSeqOut.find? opid).getD 0
  (seq, { runtime with opSeqOut := runtime.opSeqOut.set opid (seq + 1) })

/-- Admit the exact next inbound sequence of an operation. -/
def admitOpSeqIn (runtime : ChannelRuntime) (opid : OperationId) (sequence : UInt64) :
    Option ChannelRuntime :=
  let entry := (runtime.opSeqIn.find? opid).getD 0
  if sequence ≠ UInt64.ofNat entry then none
  else some { runtime with opSeqIn := runtime.opSeqIn.set opid (entry + 1) }

/-- The header of an operation frame of the gateway. -/
def opHeader (opcode : UInt8) (channelId : UInt32) (sequence : ℕ) (priority : UInt8) :
    FrameHeader :=
  ⟨0, opcode, flagRosReliable, channelId, UInt64.ofNat sequence, 0, priority, 0⟩

/-- Send a frame of an operation with its next sequence. -/
def pushOperation (t : Turn) (channelId : UInt32) (runtime : ChannelRuntime) (opcode : UInt8)
    (opid : OperationId) (payload : List UInt8) : Turn :=
  let (seq, runtime') := nextOpSeqOut runtime opid
  (t.setRuntime channelId runtime').pushAppFrame
    (opHeader opcode channelId seq runtime.priority) (some opid) payload

/-- The reply to a request that was answered: the response frame, or a channel Error. -/
def replyOperation (t : Turn) (channelId : UInt32) (opcode : UInt8) (opid : OperationId) :
    Except BackendError (List UInt8) → Task Turn
  | .error err => .pure (t.pushChannelError channelId err)
  | .ok response =>
    match t.conn.channels.find? channelId with
    | none => .pure t
    | some runtime => .pure (t.pushOperation channelId runtime opcode opid response)

/-- What a service frame asks of the backend. -/
def serviceTask (t : Turn) (runtime : ChannelRuntime) (frame : DecodedFrame)
    (opid : OperationId) (payload : List UInt8) : Task Turn :=
  if runtime.kind = .serviceClient ∧ frame.opcode = opcodeServiceRequest then
    .await (.call runtime.entity opid payload)
      (t.replyOperation frame.channelId opcodeServiceResponse opid)
  else if runtime.kind = .serviceServer ∧ frame.opcode = opcodeServiceResponse then
    .await (.sendServiceResponse runtime.entity opid payload) (t.reportFailure frame.channelId)
  else .pure t

/-- What an action frame asks of the backend. -/
def actionTask (t : Turn) (runtime : ChannelRuntime) (frame : DecodedFrame)
    (opid : OperationId) (payload : List UInt8) : Task Turn :=
  if runtime.kind = .actionClient ∧ frame.opcode = opcodeActionGoal then
    .await (.sendActionGoal runtime.entity opid payload)
      (t.replyOperation frame.channelId opcodeActionResult opid)
  else if runtime.kind = .actionClient ∧ frame.opcode = opcodeActionCancel then
    .await (.cancelAction runtime.entity opid payload) (t.reportFailure frame.channelId)
  else if runtime.kind = .actionServer ∧ frame.opcode = opcodeActionFeedback then
    .await (.sendActionFeedback runtime.entity opid payload) (t.reportFailure frame.channelId)
  else if runtime.kind = .actionServer ∧ frame.opcode = opcodeActionResult then
    .await (.sendActionResult runtime.entity opid payload) (t.reportFailure frame.channelId)
  else if runtime.kind = .actionServer ∧ frame.opcode = opcodeActionStatus then
    .await (.sendActionStatus runtime.entity opid payload) (t.reportFailure frame.channelId)
  else .pure t

/-- The gates service and action frames share; `task` is what the frame asks of the backend. -/
def handleOperation (task : Turn → ChannelRuntime → DecodedFrame → OperationId → List UInt8 → Task Turn)
    (t : Turn) (frame : DecodedFrame) (inbound : List UInt8) : Task Turn :=
  match t.conn.channels.find? frame.channelId with
  | none => .pure t.close
  | some runtime =>
    match frameOperationId frame with
    | none => .pure (t.failSession (.protocolViolation "missing_operation_id" 0 25))
    | some opid =>
      match admitOpSeqIn runtime opid frame.sequence with
      | none => .pure (t.failSession (.protocolViolation "reliable_sequence_mismatch" 8 25))
      | some runtime =>
        let t := t.setRuntime frame.channelId runtime
        match frame.payload with
        | .control _ => .pure t.close
        | .application _ => task t runtime frame opid (framePayloadBytes inbound frame)

def handleServiceFrame (t : Turn) (frame : DecodedFrame) (inbound : List UInt8) : Task Turn :=
  handleOperation serviceTask t frame inbound

def handleActionFrame (t : Turn) (frame : DecodedFrame) (inbound : List UInt8) : Task Turn :=
  handleOperation actionTask t frame inbound

/-! ## Inbound bytes -/

/-- What an accepted frame asks for. -/
def dispatch (config : GatewayConfig jwt) (sessionId : ByteArrayOf 32) (t : Turn)
    (frame : DecodedFrame) (inbound : List UInt8) (effects : SessionEffects) : Task Turn :=
  if frame.opcode = opcodeControlCbor then
    if frame.sequence ≠ UInt64.ofNat t.conn.controlSeqIn then
      .pure (t.failSession (.protocolViolation "control_sequence_mismatch" 8 25))
    else
      let t := t.modify fun c => { c with controlSeqIn := c.controlSeqIn + 1 }
      match frame.payload with
      | .control msg => t.handleControl config sessionId msg effects
      | .application _ => .pure t.close
  else if frame.opcode = opcodeRosSample then t.handlePublishSample frame inbound
  else if frame.opcode = opcodeServiceRequest ∨ frame.opcode = opcodeServiceResponse then
    t.handleServiceFrame frame inbound
  else if frame.opcode = opcodeActionGoal ∨ frame.opcode = opcodeActionCancel ∨
      frame.opcode = opcodeActionFeedback ∨ frame.opcode = opcodeActionResult ∨
      frame.opcode = opcodeActionStatus then t.handleActionFrame frame inbound
  else .pure t

def handleFrame (config : GatewayConfig jwt) (sessionId : ByteArrayOf 32) (t : Turn)
    (bytes : List UInt8) : Task Turn :=
  match parseFrame bytes defaultOptions with
  | .error err => .pure (t.failSession err)
  | .ok frame =>
    match t.conn.session.ingestFrame frame with
    | (.error err, _) => .pure (t.failSession err)
    | (.ok effects, session) =>
      (t.modify fun c => { c with session := session }).dispatch config sessionId frame bytes
        effects

end Turn

namespace ConnState

/-- **Handle one inbound message.**  `sessionId` is what `new_session_id` returns, should the
message be an Authenticate. -/
def handleInbound (config : GatewayConfig jwt) (active : ActiveTransport)
    (sessionId : ByteArrayOf 32) (conn : ConnState) (bytes : List UInt8) : Task Turn :=
  if conn.session.phase.isTerminal then .pure (Turn.close ⟨conn, {}⟩)
  else if !conn.session.phase.inSelectedPlane then
    .pure (Turn.handleBootstrap config active ⟨conn, {}⟩ bytes)
  else Turn.handleFrame config sessionId ⟨conn, {}⟩ bytes

/-- **Fill in the header of a subscription sample**, without parsing or recording it. -/
def frameSample (conn : ConnState) (sample : SubscriptionSample) :
    Option (List UInt8 × ConnState) :=
  match conn.channels.find? sample.channelId with
  | none => none
  | some runtime =>
    if runtime.kind ≠ .topicSubscribe then none
    else
      let payloadLen := sample.frameBuf.length - sampleHeaderPrefix
      let header : FrameHeader :=
        ⟨0, opcodeRosSample, if runtime.reliable then flagRosReliable else 0, sample.channelId,
          UInt64.ofNat runtime.seqOut, 0, runtime.priority, 0⟩
      match Encode.writeFrameHeader header (UInt32.ofNat payloadLen) 0 sample.frameBuf with
      | .error _ => none
      | .ok bytes =>
        some (bytes,
          { conn with
            channels :=
              conn.channels.set sample.channelId { runtime with seqOut := runtime.seqOut + 1 } })

/-- **Admit a subscription sample** into the write queue. -/
def admitSample (conn : ConnState) (queue : SampleWriteQueue) (sample : SubscriptionSample) :
    ConnState × SampleWriteQueue :=
  match conn.channels.find? sample.channelId with
  | none => (conn, queue)
  | some runtime =>
    if runtime.kind ≠ .topicSubscribe then (conn, queue)
    else if runtime.reliable && !queue.tryReserveReliable sample.frameBuf.length then (conn, queue)
    else
      match conn.frameSample sample with
      | none => (conn, queue)
      | some (frame, conn) =>
        if runtime.reliable then (conn, queue.pushReliable sample.channelId frame)
        else (conn, queue.admitBestEffort sample.channelId frame)

/-- Send a frame of the backend on a channel of the given kind. -/
def pushInbound (conn : ConnState) (kind : OperationKind) (channelId : UInt32) (opcode : UInt8)
    (opid : OperationId) (frameBuf : List UInt8) : Turn :=
  match conn.channels.find? channelId with
  | none => ⟨conn, {}⟩
  | some runtime =>
    if runtime.kind ≠ kind then ⟨conn, {}⟩
    else Turn.pushOperation ⟨conn, {}⟩ channelId runtime opcode opid (payloadOf frameBuf)

/-- Frame a service request for a service-server channel. -/
def pushServiceRequest (conn : ConnState) (request : ServiceRequest) : Turn :=
  conn.pushInbound .serviceServer request.channelId opcodeServiceRequest request.operationId
    request.frameBuf

/-- Frame a goal or a cancel for an action-server channel. -/
def pushActionInbound (conn : ConnState) (inbound : ActionInbound) : Turn :=
  conn.pushInbound .actionServer inbound.channelId
    (if inbound.isCancel then opcodeActionCancel else opcodeActionGoal) inbound.operationId
    inbound.frameBuf

/-- Destroy the given entities one after the other. -/
def destroyAll : List EntityId → Task Unit
  | [] => .pure ()
  | entity :: entities => .await (.destroy entity) fun _ => destroyAll entities

/-- Destroy what the connection still holds. -/
def teardown (conn : ConnState) : Task Unit :=
  destroyAll (conn.channels.entries.map fun e => e.2.entity)

end ConnState
end Gateway
end Rclweb
