import Rclweb.Gateway.Outbound

/-!
# What a connection queues

Samples apart, a connection queues four kinds of messages: the ServerHello it negotiated for a
ClientHello, a BootstrapError, one of the control messages it builds, and operation frames.  The
frames among them parse.  What it hands to the backend is cut out of a frame that was parsed.

`Turn.Queues` and `Relays` say this of a turn and of a handler; every handler satisfies it
(`ConnState.relays_handleInbound`).
-/

namespace Rclweb

open Rclweb.Frame Control Transition

namespace Gateway

variable {jwt : JwtLibrary}

/-- The payload an operation hands to the backend. -/
def BackendOp.payload? : BackendOp → Option (List UInt8)
  | publish _ payload | call _ _ payload | sendServiceResponse _ _ payload
  | sendActionGoal _ _ payload | cancelAction _ _ payload | sendActionFeedback _ _ payload
  | sendActionResult _ _ payload | sendActionStatus _ _ payload => some payload
  | create _ _ | graphView | destroy _ => none

/-- **The control messages a gateway builds.** -/
inductive Builds (config : GatewayConfig jwt) : CborValue → Prop
  | sessionReady (serverHello : ServerHello) (correlation sessionId : List UInt8)
      (identity : String) :
      Builds config (sessionReady config serverHello correlation sessionId identity)
  | graphSnapshot (generation : UInt64) (view : GraphView) :
      Builds config (graphSnapshot config zeroCorrelation generation view)
  | graphDelta (base generation : UInt64) (endpoint : GraphEndpointInfo) :
      Builds config (graphDelta config zeroCorrelation base generation
        [graphDeltaAddEndpoint endpoint config.supportRow])
  | channelReady (kind : OperationKind) (correlation : List UInt8) (channelId : UInt32)
      (priority : UInt8) (qos : EffectiveQos) :
      Builds config (Turn.channelReadyOf config kind correlation channelId priority qos)
  | channelReadyError (correlation : List UInt8) (channelId : UInt32) (code : UInt8)
      (message : String) : Builds config (channelReadyError correlation channelId code message)
  | heartbeat (counter : UInt64) : Builds config (heartbeat counter)
  | sessionError (correlation : List UInt8) (code : UInt8) (message : String) :
      Builds config (sessionErrorWithCorrelation correlation code message)
  | channelError (channelId : UInt32) (code : UInt8) (message : String) :
      Builds config (channelError channelId code message)

/-- **What a connection queues** after it took the given messages. -/
inductive Queued (config : GatewayConfig jwt) (active : ActiveTransport)
    (received : List (List UInt8)) : List UInt8 → Prop
  | serverHello {record bytes : List UInt8} {hello : ClientHello} {serverHello : ServerHello} :
      record ∈ received → Bootstrap.parseBootstrap record = .ok (.clientHello hello) →
        negotiateServerHello hello config active = .ok serverHello →
          Encode.encodeServerHello serverHello = .ok bytes → Queued config active received bytes
  | bootstrapError {err : BootstrapErrorRecord} {bytes : List UInt8} :
      Encode.encodeBootstrapError err = .ok bytes → Queued config active received bytes
  | control {message : CborValue} {sequence : UInt64} {bytes : List UInt8} {frame : DecodedFrame} :
      Builds config message → Encode.encodeControlFrame 0 sequence message = .ok bytes →
        parseFrame bytes defaultOptions = .ok frame → Queued config active received bytes
  | operation {header : FrameHeader} {area payload bytes : List UInt8} {frame : DecodedFrame} :
      header.opcode ∉ [opcodeControlCbor, opcodeRosSample] →
        Encode.encodeFrame header area payload = .ok bytes →
          parseFrame bytes defaultOptions = .ok frame → Queued config active received bytes

/-- More was received. -/
theorem Queued.mono {config : GatewayConfig jwt} {active : ActiveTransport}
    {received received' : List (List UInt8)} {bytes : List UInt8}
    (h : Queued config active received bytes) (hsub : received ⊆ received') :
    Queued config active received' bytes := by
  cases h with
  | serverHello hmem hparse hnegotiate hbytes =>
    exact .serverHello (hsub hmem) hparse hnegotiate hbytes
  | bootstrapError hbytes => exact .bootstrapError hbytes
  | control hbuilds hbytes hparse => exact .control hbuilds hbytes hparse
  | operation hopcode hbytes hparse => exact .operation hopcode hbytes hparse

/-! ## Turns -/

namespace Turn

variable {config : GatewayConfig jwt} {active : ActiveTransport} {received : List (List UInt8)}
  {t : Turn}

/-- Every message of the turn is one a connection queues. -/
def Queues (config : GatewayConfig jwt) (active : ActiveTransport) (received : List (List UInt8))
    (t : Turn) : Prop := ∀ b ∈ t.outcome.outbound, Queued config active received b

theorem Queues.queue (h : t.Queues config active received) {bytes : List UInt8}
    (hbytes : Queued config active received bytes) :
    (t.queue bytes).Queues config active received := by
  intro b hb
  rcases List.mem_append.mp hb with hb | hb
  · exact h b hb
  · exact List.mem_singleton.mp hb ▸ hbytes

theorem Queues.modify (h : t.Queues config active received) (f : ConnState → ConnState) :
    (t.modify f).Queues config active received := h

theorem Queues.close (h : t.Queues config active received) :
    t.close.Queues config active received := h

theorem Queues.assertionFailed (h : t.Queues config active received) :
    t.assertionFailed.Queues config active received := h

/-- A message that is built. -/
theorem Queues.pushControl (h : t.Queues config active received) {message : CborValue}
    (hbuilds : Builds config message) :
    (t.pushControl message).1.Queues config active received := by
  unfold Turn.pushControl
  split
  · exact h.close
  · next bytes hbytes =>
    split
    · exact h.assertionFailed
    · next session hrecorded =>
      obtain ⟨frame, effects, hparse, -⟩ := parse_of_recorded hrecorded
      exact (h.modify _).queue (.control hbuilds hbytes hparse)

theorem Queues.pushAppFrame (h : t.Queues config active received) {header : FrameHeader}
    (hopcode : header.opcode ∉ [opcodeControlCbor, opcodeRosSample])
    (operationId : Option OperationId) (payload : List UInt8) :
    (t.pushAppFrame header operationId payload).Queues config active received := by
  unfold Turn.pushAppFrame
  dsimp only
  split
  · exact h.close
  · split
    · exact h.close
    · next bytes hbytes =>
      split
      · exact h.assertionFailed
      · next session hrecorded =>
        obtain ⟨frame, effects, hparse, -⟩ := parse_of_recorded hrecorded
        exact (h.modify _).queue (.operation hopcode hbytes hparse)

theorem Queues.pushBootstrapError (h : t.Queues config active received) (code : UInt8)
    (message : String) : (t.pushBootstrapError code message).Queues config active received := by
  unfold Turn.pushBootstrapError
  split
  · next bytes hbytes => exact (h.queue (.bootstrapError hbytes)).close
  · exact h.close

theorem Queues.failSession (h : t.Queues config active received) (err : ProtocolError) :
    (t.failSession err).Queues config active received := by
  unfold Turn.failSession
  split_ifs
  · exact (h.pushControl (.sessionError _ _ _)).close
  · exact (h.pushBootstrapError _ _).close

theorem Queues.handleBootstrap (h : t.Queues config active received) {bytes : List UInt8}
    (hbytes : bytes ∈ received) :
    (t.handleBootstrap config active bytes).Queues config active received := by
  unfold Turn.handleBootstrap
  split
  · exact h.pushBootstrapError _ _
  · next record hparse =>
    split
    · exact h.pushBootstrapError _ _
    · dsimp only
      split
      · split
        · exact (h.modify _).pushBootstrapError _ _
        · next serverHello hnegotiate =>
          split
          · exact (h.modify _).close
          · next response hresponse =>
            split
            · exact (h.modify _).assertionFailed
            · exact ((h.modify _).modify _).queue
                (.serverHello hbytes hparse hnegotiate hresponse)
      · exact (h.modify _).close

theorem Queues.pushGraphDelta (h : t.Queues config active received)
    (endpoint : GraphEndpointInfo) :
    (t.pushGraphDeltaForEndpoint config endpoint).Queues config active received := by
  unfold Turn.pushGraphDeltaForEndpoint
  split
  · exact h
  · next base _ =>
    have hpush := h.pushControl (.graphDelta base (saturatingSucc base) endpoint)
    dsimp only
    split
    · next u hu =>
      rw [hu] at hpush
      exact hpush.modify _
    · next u hu =>
      rw [hu] at hpush
      exact hpush

theorem Queues.pushOperation (h : t.Queues config active received) (channelId : UInt32)
    (runtime : ChannelRuntime) {opcode : UInt8}
    (hopcode : opcode ∉ [opcodeControlCbor, opcodeRosSample]) (opid : OperationId)
    (payload : List UInt8) :
    (t.pushOperation channelId runtime opcode opid payload).Queues config active received :=
  (h.modify _).pushAppFrame hopcode _ _

end Turn

/-! ## Handlers -/

/-- **A handler relays**: what it hands to the backend is no longer than a frame payload may be,
and what it returns has queued what a connection queues. -/
abbrev Relays (config : GatewayConfig jwt) (active : ActiveTransport)
    (received : List (List UInt8)) (history : List BackendEvent) (task : Task Turn) : Prop :=
  Program.Ensures (fun _ _ => True)
    (fun _ op => ∀ payload ∈ op.payload?, payload.length ≤ framePayloadMaxBytes)
    (fun _ t => t.Queues config active received) history task

namespace Turn

variable {config : GatewayConfig jwt} {active : ActiveTransport} {received : List (List UInt8)}
  {history : List BackendEvent} {t : Turn}

/-- An operation that hands over no payload. -/
theorem relays_await {op : BackendOp} (hop : op.payload? = none)
    {next : op.Answer → Task Turn}
    (hnext : ∀ answer history', Relays config active received history' (next answer)) :
    Relays config active received history (.await op next) := by
  refine ⟨fun payload hpayload => ?_, fun answer _ => hnext answer _⟩
  rw [hop] at hpayload
  cases hpayload

/-- An operation that hands over a payload that is short enough. -/
theorem relays_payload {op : BackendOp} {payload : List UInt8} (hop : op.payload? = some payload)
    (hlen : payload.length ≤ framePayloadMaxBytes) {next : op.Answer → Task Turn}
    (hnext : ∀ answer history', Relays config active received history' (next answer)) :
    Relays config active received history (.await op next) := by
  refine ⟨fun payload' hpayload => ?_, fun answer _ => hnext answer _⟩
  rw [hop] at hpayload
  exact Option.some.inj hpayload ▸ hlen

theorem Queues.relays_pushGraphSnapshot (h : t.Queues config active received)
    (generation : UInt64) :
    Relays config active received history (t.pushGraphSnapshot config generation) := by
  refine relays_await rfl fun answer history' => ?_
  rcases answer with err | view
  · exact (h.pushControl (.sessionError _ _ _)).close
  · have hpush := h.pushControl (.graphSnapshot generation view)
    dsimp only
    split
    · next u hu =>
      rw [hu] at hpush
      exact hpush.modify _
    · next u hu =>
      rw [hu] at hpush
      exact hpush

theorem Queues.relays_handleAuthenticate (h : t.Queues config active received)
    (sessionId : ByteArrayOf 32) (msg : ControlMessage) :
    Relays config active received history (t.handleAuthenticate config sessionId msg) := by
  unfold Turn.handleAuthenticate
  dsimp only
  split
  · exact (h.pushControl (.sessionError _ _ _)).close
  · split
    · exact h.close
    · next serverHello _ =>
      set decision := authenticate config ((fieldBytes msg 17).getD [])
      have hpush := (h.modify fun c => { c with subject := decision.subject }).pushControl
        (.sessionReady serverHello ((fieldBytes msg 2).getD zeroCorrelation)
          sessionId.1 decision.subject)
      split
      · next u hu =>
        rw [hu] at hpush
        exact hpush
      · next u hu =>
        rw [hu] at hpush
        exact hpush.relays_pushGraphSnapshot 1

theorem Queues.relays_channelCreated (h : t.Queues config active received)
    (correlation : List UInt8) (kind : OperationKind) (spec : ChannelSpec) (priority : UInt8)
    (entity : EntityId) :
    Relays config active received history
      (t.channelCreated config correlation kind spec priority entity) := by
  unfold Turn.channelCreated
  dsimp only
  have hpush := (h.modify fun c =>
    { c with
      channels := c.channels.set spec.channelId
        ⟨kind, entity, runtimeReliable kind spec.qos, spec.qos.transientLocal, priority, 0, 0,
          ∅, ∅⟩ }).pushControl
    (.channelReady kind correlation spec.channelId priority spec.qos)
  split
  · next u hu =>
    rw [hu] at hpush
    split
    · exact relays_await rfl fun _ _ => hpush.modify _
    · exact hpush
  · next u hu =>
    rw [hu] at hpush
    refine relays_await rfl fun answer history' => ?_
    rcases answer with err | view
    · exact hpush
    · dsimp only
      split
      · exact hpush.pushGraphDelta _
      · exact hpush

theorem Queues.relays_openChannel (h : t.Queues config active received) (channelId : UInt32)
    (msg : ControlMessage) :
    Relays config active received history (t.openChannel config channelId msg) := by
  unfold Turn.openChannel
  dsimp only
  split
  · exact h.close
  · split
    · exact h.pushControl (.channelReadyError _ _ _ _)
    · split_ifs
      · exact h.pushControl (.channelReadyError _ _ _ _)
      · refine relays_await rfl fun answer history' => ?_
        rcases answer with err | entity
        · exact h.pushControl (.channelReadyError _ _ _ _)
        · exact h.relays_channelCreated _ _ _ _ entity

theorem Queues.relays_handleCloseChannel (h : t.Queues config active received)
    (effects : SessionEffects) :
    Relays config active received history (t.handleCloseChannel effects) := by
  unfold Turn.handleCloseChannel
  split
  · exact h
  · split
    · exact h
    · exact relays_await rfl fun _ _ => h.modify _

theorem Queues.relays_handleControl (h : t.Queues config active received)
    (sessionId : ByteArrayOf 32) (msg : ControlMessage) (effects : SessionEffects) :
    Relays config active received history (t.handleControl config sessionId msg effects) := by
  refine Turn.handleControl_cases (h.relays_handleAuthenticate sessionId msg)
    (fun _ => h.relays_openChannel _ msg) (h.relays_handleCloseChannel effects)
    (fun _ => ?_) h.close h
  exact (h.modify _).pushControl (.heartbeat _)

/-! ### Application frames -/

theorem Queues.relays_reportFailure (h : t.Queues config active received) (channelId : UInt32)
    (answer : Except BackendError Unit) :
    Relays config active received history (t.reportFailure channelId answer) := by
  unfold Turn.reportFailure
  split
  · exact h
  · exact h.pushControl (.channelError _ _ _)

theorem Queues.relays_replyOperation (h : t.Queues config active received) (channelId : UInt32)
    {opcode : UInt8} (hopcode : opcode ∉ [opcodeControlCbor, opcodeRosSample])
    (opid : OperationId) (answer : Except BackendError (List UInt8)) :
    Relays config active received history (t.replyOperation channelId opcode opid answer) := by
  unfold Turn.replyOperation
  split
  · exact h.pushControl (.channelError _ _ _)
  · split
    · exact h
    · exact h.pushOperation _ _ hopcode _ _

/-- The payload of a frame is cut out of the bytes at the length the header says. -/
theorem length_framePayloadBytes {bytes : List UInt8} {frame : DecodedFrame}
    (hframe : frame.payloadLen.toNat ≤ framePayloadMaxBytes) :
    (framePayloadBytes bytes frame).length ≤ framePayloadMaxBytes := by
  rw [framePayloadBytes, List.length_take]
  exact (min_le_left _ _).trans hframe

theorem Queues.relays_handlePublishSample (h : t.Queues config active received)
    {frame : DecodedFrame} (hframe : frame.payloadLen.toNat ≤ framePayloadMaxBytes)
    (inbound : List UInt8) :
    Relays config active received history (t.handlePublishSample frame inbound) := by
  unfold Turn.handlePublishSample
  split
  · exact h.close
  · split_ifs
    · exact h.failSession _
    · exact h.failSession _
    · split
      · exact h.failSession _
      · exact h
      · dsimp only
        split
        · exact (h.modify _).close
        · exact relays_payload rfl (length_framePayloadBytes hframe) fun answer history' =>
            (h.modify _).relays_reportFailure _ answer

theorem Queues.relays_serviceTask (h : t.Queues config active received) (runtime : ChannelRuntime)
    (frame : DecodedFrame) (opid : OperationId) {payload : List UInt8}
    (hpayload : payload.length ≤ framePayloadMaxBytes) :
    Relays config active received history (t.serviceTask runtime frame opid payload) := by
  unfold Turn.serviceTask
  split_ifs
  · exact relays_payload rfl hpayload fun answer _ =>
      h.relays_replyOperation _ (by decide) opid answer
  · exact relays_payload rfl hpayload fun answer _ => h.relays_reportFailure _ answer
  · exact h

theorem Queues.relays_actionTask (h : t.Queues config active received) (runtime : ChannelRuntime)
    (frame : DecodedFrame) (opid : OperationId) {payload : List UInt8}
    (hpayload : payload.length ≤ framePayloadMaxBytes) :
    Relays config active received history (t.actionTask runtime frame opid payload) := by
  unfold Turn.actionTask
  split_ifs
  · exact relays_payload rfl hpayload fun answer _ =>
      h.relays_replyOperation _ (by decide) opid answer
  · exact relays_payload rfl hpayload fun answer _ => h.relays_reportFailure _ answer
  · exact relays_payload rfl hpayload fun answer _ => h.relays_reportFailure _ answer
  · exact relays_payload rfl hpayload fun answer _ => h.relays_reportFailure _ answer
  · exact relays_payload rfl hpayload fun answer _ => h.relays_reportFailure _ answer
  · exact h

theorem Queues.relays_handleOperation (h : t.Queues config active received)
    {frame : DecodedFrame}
    {task : Turn → ChannelRuntime → DecodedFrame → OperationId → List UInt8 → Task Turn}
    (htask : ∀ (u : Turn) runtime opid payload, u.Queues config active received →
      payload.length ≤ framePayloadMaxBytes →
        Relays config active received history (task u runtime frame opid payload))
    (hframe : frame.payloadLen.toNat ≤ framePayloadMaxBytes) (inbound : List UInt8) :
    Relays config active received history (handleOperation task t frame inbound) := by
  unfold Turn.handleOperation
  split
  · exact h.close
  · split
    · exact h.failSession _
    · split
      · exact h.failSession _
      · dsimp only
        split
        · exact (h.modify _).close
        · exact htask _ _ _ _ (h.modify _) (length_framePayloadBytes hframe)

/-! ### Inbound bytes -/

theorem Queues.relays_dispatch (h : t.Queues config active received) (sessionId : ByteArrayOf 32)
    {frame : DecodedFrame} (hframe : frame.payloadLen.toNat ≤ framePayloadMaxBytes)
    (inbound : List UInt8) (effects : SessionEffects) :
    Relays config active received history
      (t.dispatch config sessionId frame inbound effects) := by
  unfold Turn.dispatch
  split
  · split
    · exact h.failSession _
    · dsimp only
      split
      · exact (h.modify _).relays_handleControl sessionId _ effects
      · exact (h.modify _).close
  · split
    · exact h.relays_handlePublishSample hframe inbound
    · split
      · exact h.relays_handleOperation
          (fun _ _ _ _ hu hpayload => hu.relays_serviceTask _ _ _ hpayload) hframe inbound
      · split
        · exact h.relays_handleOperation
            (fun _ _ _ _ hu hpayload => hu.relays_actionTask _ _ _ hpayload) hframe inbound
        · exact h

/-- The header of a frame that parses is within the limits. -/
theorem payloadLen_of_parse {bytes : List UInt8} {frame : DecodedFrame}
    (h : parseFrame bytes defaultOptions = .ok frame) :
    frame.payloadLen.toNat ≤ framePayloadMaxBytes ∧
      (frame.opcode = opcodeControlCbor → frame.payloadLen.toNat ≤ controlPayloadMaxBytes) := by
  unfold parseFrame parseFrameDeclared at h
  split_ifs at h
  simp only [bind_eq_ok] at h
  obtain ⟨_, hlengths, _, -, _, -, _, -, _, -, _, -, exts, -, _, -, payload, -, hframe⟩ := h
  obtain rfl := Except.ok.inj hframe
  unfold checkLengths at hlengths
  split_ifs at hlengths with hversion harea hpayload hcontrol
  exact ⟨not_lt.mp hpayload, fun hopcode => not_lt.mp fun hgt => hcontrol ⟨hopcode, hgt⟩⟩

theorem Queues.relays_handleFrame (h : t.Queues config active received)
    (sessionId : ByteArrayOf 32) (bytes : List UInt8) :
    Relays config active received history (t.handleFrame config sessionId bytes) := by
  unfold Turn.handleFrame
  split
  · exact h.failSession _
  · next frame hparse =>
    split
    · exact h.failSession _
    · exact (h.modify _).relays_dispatch sessionId (payloadLen_of_parse hparse).1 bytes _

end Turn

/-- **Every handler relays.** -/
theorem ConnState.relays_handleInbound {config : GatewayConfig jwt} {active : ActiveTransport}
    {received : List (List UInt8)} {history : List BackendEvent} {bytes : List UInt8}
    (hbytes : bytes ∈ received) (sessionId : ByteArrayOf 32) (conn : ConnState) :
    Relays config active received history (conn.handleInbound config active sessionId bytes) := by
  have hnone : (Turn.mk conn {}).Queues config active received := by
    intro b hb
    cases hb
  unfold ConnState.handleInbound
  split_ifs
  · exact hnone.close
  · exact hnone.handleBootstrap hbytes
  · exact hnone.relays_handleFrame sessionId bytes

/-- A frame of the backend is queued like any other. -/
theorem ConnState.queues_pushInbound {config : GatewayConfig jwt} {active : ActiveTransport}
    {received : List (List UInt8)} (conn : ConnState) (kind : OperationKind) (channelId : UInt32)
    {opcode : UInt8} (hopcode : opcode ∉ [opcodeControlCbor, opcodeRosSample])
    (opid : OperationId) (frameBuf : List UInt8) :
    (conn.pushInbound kind channelId opcode opid frameBuf).Queues config active received := by
  have hnone : (Turn.mk conn {}).Queues config active received := by
    intro b hb
    cases hb
  unfold pushInbound
  split
  · exact hnone
  · split_ifs
    · exact hnone
    · exact hnone.pushOperation _ _ hopcode _ _

end Gateway
end Rclweb
