import Rclweb.Gateway.Connection
import Rclweb.Protocol.ControlFrame

/-!
# What the gateway sends

The gateway sends a heartbeat in one case only: as the answer to one.  Whatever else it takes,
none of the messages it queues is a heartbeat (`ensures_noHeartbeat`); a heartbeat in turn on a
ready connection is answered by exactly one (`handleInbound_heartbeat`).
-/

namespace Rclweb

open Rclweb.Frame Control Transition

namespace Gateway

variable {jwt : JwtLibrary}

namespace Turn

/-- No message of the turn is a heartbeat. -/
def NoHeartbeat (t : Turn) : Prop := ∀ b ∈ t.outcome.outbound, ¬ IsHeartbeat b

variable {t : Turn}

theorem NoHeartbeat.queue (h : t.NoHeartbeat) {bytes : List UInt8} (hbytes : ¬ IsHeartbeat bytes) :
    (t.queue bytes).NoHeartbeat := by
  intro b hb
  rcases List.mem_append.mp hb with hb | hb
  · exact h b hb
  · exact List.mem_singleton.mp hb ▸ hbytes

theorem NoHeartbeat.modify (h : t.NoHeartbeat) (f : ConnState → ConnState) :
    (t.modify f).NoHeartbeat := h

theorem NoHeartbeat.close (h : t.NoHeartbeat) : t.close.NoHeartbeat := h

theorem NoHeartbeat.assertionFailed (h : t.NoHeartbeat) : t.assertionFailed.NoHeartbeat := h

/-- What was recorded of outbound bytes was parsed first. -/
theorem parse_of_recorded {bytes : List UInt8} {session : Session}
    (h : t.recorded bytes = some session) :
    ∃ frame effects, parseFrame bytes defaultOptions = .ok frame ∧
      t.conn.session.recordSendFrame frame = (.ok effects, session) := by
  unfold recorded at h
  split at h
  · cases h
  · next frame hparse =>
    split at h
    · cases h
    · next effects s hrecord => exact ⟨frame, effects, hparse, Option.some.inj h ▸ hrecord⟩

/-- A control message of another kind is not a heartbeat. -/
theorem NoHeartbeat.pushControl (h : t.NoHeartbeat) {raw : List (UInt64 × CborValue)} {k : UInt64}
    (hk : raw.lookup 1 = some (.unsigned k)) (hkind : k.toUInt8 ≠ kindHeartbeat) :
    (t.pushControl (.map raw)).1.NoHeartbeat := by
  unfold Turn.pushControl
  split
  · exact h.close
  · next bytes hbytes =>
    split
    · exact h.assertionFailed
    · next session hrecorded =>
      obtain ⟨frame, effects, hparse, -⟩ := parse_of_recorded hrecorded
      obtain ⟨msg, payloadLen, hsendable, rfl⟩ := sendable_of_parse hbytes hparse
      have hmsg := (hsendable.keeps hk).1
      refine (h.modify _).queue (not_isHeartbeat_of_parse hparse ?_)
      rintro msg' ⟨rfl⟩
      rw [hmsg]
      exact hkind

/-- A frame of another opcode is not a heartbeat. -/
theorem NoHeartbeat.pushAppFrame (h : t.NoHeartbeat) {header : FrameHeader}
    {operationId : Option OperationId} {payload : List UInt8}
    (hopcode : header.opcode ≠ opcodeControlCbor) :
    (t.pushAppFrame header operationId payload).NoHeartbeat := by
  unfold Turn.pushAppFrame
  dsimp only
  split
  · exact h.close
  · split
    · exact h.close
    · next bytes hbytes =>
      split
      · exact h.assertionFailed
      · next session hrecorded =>
        obtain ⟨frame, effects, hparse, -⟩ := parse_of_recorded hrecorded
        refine (h.modify _).queue (not_isHeartbeat_of_parse hparse ?_)
        rintro msg hmsg
        rw [payload_of_parse hbytes hopcode hparse] at hmsg
        cases hmsg

theorem NoHeartbeat.pushBootstrapError (h : t.NoHeartbeat) (code : UInt8) (message : String) :
    (t.pushBootstrapError code message).NoHeartbeat := by
  unfold Turn.pushBootstrapError
  split
  · next bytes hbytes => exact (h.queue (not_isHeartbeat_of_bootstrap hbytes)).close
  · exact h.close

theorem NoHeartbeat.failSession (h : t.NoHeartbeat) (err : ProtocolError) :
    (t.failSession err).NoHeartbeat := by
  unfold Turn.failSession
  split_ifs
  · exact (h.pushControl rfl (by decide)).close
  · exact (h.pushBootstrapError _ _).close

theorem NoHeartbeat.handleBootstrap (h : t.NoHeartbeat) (config : GatewayConfig jwt)
    (active : ActiveTransport) (bytes : List UInt8) :
    (t.handleBootstrap config active bytes).NoHeartbeat := by
  unfold Turn.handleBootstrap
  split
  · exact h.pushBootstrapError _ _
  · split
    · exact h.pushBootstrapError _ _
    · dsimp only
      split
      · split
        · exact (h.modify _).pushBootstrapError _ _
        · split
          · exact (h.modify _).close
          · next hbytes =>
            split
            · exact (h.modify _).assertionFailed
            · exact ((h.modify _).modify _).queue (not_isHeartbeat_of_bootstrap hbytes)
      · exact (h.modify _).close

/-! ## Handlers that ask the backend -/

/-- However the backend answers, the program returns a turn without a heartbeat. -/
def EndsQuiet (task : Task Turn) : Prop := ∀ events t, Program.Returns task events t → t.NoHeartbeat

theorem NoHeartbeat.pure (h : t.NoHeartbeat) : EndsQuiet (.pure t) := by
  rintro events u ⟨⟩
  exact h

theorem EndsQuiet.await {op : BackendOp} {next : op.Answer → Task Turn}
    (h : ∀ answer, EndsQuiet (next answer)) : EndsQuiet (.await op next) := by
  intro events u hrun
  cases hrun with
  | await answer hrest => exact h answer _ u hrest

theorem NoHeartbeat.pushGraphSnapshot (h : t.NoHeartbeat) (config : GatewayConfig jwt)
    (generation : UInt64) : EndsQuiet (t.pushGraphSnapshot config generation) := by
  refine .await fun answer => ?_
  rcases answer with err | view
  · exact (h.pushControl rfl (by decide)).close.pure
  · have hpush : (t.pushControl (graphSnapshot config zeroCorrelation generation view)).1.NoHeartbeat :=
      h.pushControl rfl (by decide)
    dsimp only
    split
    · next u hu => exact (show u.NoHeartbeat from by rw [hu] at hpush; exact hpush).modify _ |>.pure
    · next u hu => exact (show u.NoHeartbeat from by rw [hu] at hpush; exact hpush).pure

theorem NoHeartbeat.pushGraphDeltaForEndpoint (h : t.NoHeartbeat) (config : GatewayConfig jwt)
    (endpoint : GraphEndpointInfo) : (t.pushGraphDeltaForEndpoint config endpoint).NoHeartbeat := by
  unfold Turn.pushGraphDeltaForEndpoint
  split
  · exact h
  · next base _ =>
    have hpush : (t.pushControl (graphDelta config zeroCorrelation base (saturatingSucc base)
        [graphDeltaAddEndpoint endpoint config.supportRow])).1.NoHeartbeat :=
      h.pushControl rfl (by decide)
    dsimp only
    split
    · next u hu => rw [hu] at hpush; exact hpush.modify _
    · next u hu => rw [hu] at hpush; exact hpush

theorem NoHeartbeat.handleAuthenticate (h : t.NoHeartbeat) (config : GatewayConfig jwt)
    (sessionId : ByteArrayOf 32) (msg : ControlMessage) :
    EndsQuiet (t.handleAuthenticate config sessionId msg) := by
  unfold Turn.handleAuthenticate
  dsimp only
  split
  · exact (h.pushControl rfl (by decide)).close.pure
  · split
    · exact h.close.pure
    · next serverHello _ =>
      have hpush : ((t.modify fun c =>
          { c with subject := (authenticate config ((fieldBytes msg 17).getD [])).subject }).pushControl
            (sessionReady config serverHello ((fieldBytes msg 2).getD zeroCorrelation) sessionId.1
              (authenticate config ((fieldBytes msg 17).getD [])).subject)).1.NoHeartbeat :=
        (h.modify _).pushControl rfl (by decide)
      split
      · next u hu => rw [hu] at hpush; exact hpush.pure
      · next u hu => rw [hu] at hpush; exact hpush.pushGraphSnapshot config 1

theorem NoHeartbeat.channelReadyOf (h : t.NoHeartbeat) (config : GatewayConfig jwt)
    (kind : OperationKind) (correlation : List UInt8) (channelId : UInt32) (priority : UInt8)
    (qos : EffectiveQos) :
    (t.pushControl
      (channelReadyOf config kind correlation channelId priority qos)).1.NoHeartbeat := by
  unfold Turn.channelReadyOf
  split_ifs <;> exact h.pushControl rfl (by decide)

theorem NoHeartbeat.channelCreated (h : t.NoHeartbeat) (config : GatewayConfig jwt)
    (correlation : List UInt8) (kind : OperationKind) (spec : ChannelSpec) (priority : UInt8)
    (entity : EntityId) :
    EndsQuiet (t.channelCreated config correlation kind spec priority entity) := by
  unfold Turn.channelCreated
  dsimp only
  have hpush := (h.modify fun c =>
    { c with
      channels := c.channels.set spec.channelId
        ⟨kind, entity, runtimeReliable kind spec.qos, spec.qos.transientLocal, priority, 0, 0,
          ∅, ∅⟩ }).channelReadyOf config kind correlation spec.channelId priority spec.qos
  split
  · next u hu =>
    rw [hu] at hpush
    split
    · exact .await fun _ => (hpush.modify _).pure
    · exact hpush.pure
  · next u hu =>
    rw [hu] at hpush
    refine .await fun answer => ?_
    rcases answer with err | view
    · exact hpush.pure
    · dsimp only
      split
      · exact (hpush.pushGraphDeltaForEndpoint config _).pure
      · exact hpush.pure

theorem NoHeartbeat.openChannel (h : t.NoHeartbeat) (config : GatewayConfig jwt)
    (channelId : UInt32) (msg : ControlMessage) :
    EndsQuiet (t.openChannel config channelId msg) := by
  unfold Turn.openChannel
  dsimp only
  split
  · exact h.close.pure
  · split
    · exact (h.pushControl rfl (by decide)).pure
    · split_ifs
      · exact (h.pushControl rfl (by decide)).pure
      · refine .await fun answer => ?_
        rcases answer with err | entity
        · exact (h.pushControl rfl (by decide)).pure
        · exact h.channelCreated config _ _ _ _ entity

theorem NoHeartbeat.handleCloseChannel (h : t.NoHeartbeat) (effects : SessionEffects) :
    EndsQuiet (t.handleCloseChannel effects) := by
  unfold Turn.handleCloseChannel
  split
  · exact h.pure
  · split
    · exact h.pure
    · exact .await fun _ => (h.modify _).pure

/-- Of the control messages only a heartbeat is answered by one. -/
theorem NoHeartbeat.handleControl (h : t.NoHeartbeat) (config : GatewayConfig jwt)
    (sessionId : ByteArrayOf 32) (msg : ControlMessage) (effects : SessionEffects)
    (hkind : msg.kind ≠ kindHeartbeat) :
    EndsQuiet (t.handleControl config sessionId msg effects) := by
  exact Turn.handleControl_cases (h.handleAuthenticate config sessionId msg)
    (fun _ => h.openChannel config _ msg) (h.handleCloseChannel effects)
    (fun hheartbeat => absurd hheartbeat hkind) h.close.pure h.pure

/-! ## Application frames -/

theorem NoHeartbeat.reportFailure (h : t.NoHeartbeat) (channelId : UInt32)
    (answer : Except BackendError Unit) : EndsQuiet (t.reportFailure channelId answer) := by
  unfold Turn.reportFailure
  split
  · exact h.pure
  · exact (h.pushControl rfl (by decide)).pure

theorem NoHeartbeat.handlePublishSample (h : t.NoHeartbeat) (frame : DecodedFrame)
    (inbound : List UInt8) : EndsQuiet (t.handlePublishSample frame inbound) := by
  unfold Turn.handlePublishSample
  split
  · exact h.close.pure
  · split_ifs
    · exact (h.failSession _).pure
    · exact (h.failSession _).pure
    · split
      · exact (h.failSession _).pure
      · exact h.pure
      · dsimp only
        split
        · exact (h.modify _).close.pure
        · exact .await fun answer => (h.modify _).reportFailure _ answer

theorem NoHeartbeat.pushOperation (h : t.NoHeartbeat) (channelId : UInt32)
    (runtime : ChannelRuntime) (opcode : UInt8) (opid : OperationId) (payload : List UInt8)
    (hopcode : opcode ≠ opcodeControlCbor) :
    (t.pushOperation channelId runtime opcode opid payload).NoHeartbeat :=
  (h.modify _).pushAppFrame hopcode

theorem NoHeartbeat.replyOperation (h : t.NoHeartbeat) (channelId : UInt32) (opcode : UInt8)
    (opid : OperationId) (hopcode : opcode ≠ opcodeControlCbor)
    (answer : Except BackendError (List UInt8)) :
    EndsQuiet (t.replyOperation channelId opcode opid answer) := by
  unfold Turn.replyOperation
  split
  · exact (h.pushControl rfl (by decide)).pure
  · split
    · exact h.pure
    · exact (h.pushOperation _ _ _ _ _ hopcode).pure

theorem NoHeartbeat.serviceTask (h : t.NoHeartbeat) (runtime : ChannelRuntime)
    (frame : DecodedFrame) (opid : OperationId) (payload : List UInt8) :
    EndsQuiet (t.serviceTask runtime frame opid payload) := by
  unfold Turn.serviceTask
  split_ifs
  · exact .await fun answer => h.replyOperation _ _ _ (by decide) answer
  · exact .await fun answer => h.reportFailure _ answer
  · exact h.pure

theorem NoHeartbeat.actionTask (h : t.NoHeartbeat) (runtime : ChannelRuntime)
    (frame : DecodedFrame) (opid : OperationId) (payload : List UInt8) :
    EndsQuiet (t.actionTask runtime frame opid payload) := by
  unfold Turn.actionTask
  split_ifs
  · exact .await fun answer => h.replyOperation _ _ _ (by decide) answer
  · exact .await fun answer => h.reportFailure _ answer
  · exact .await fun answer => h.reportFailure _ answer
  · exact .await fun answer => h.reportFailure _ answer
  · exact .await fun answer => h.reportFailure _ answer
  · exact h.pure

theorem NoHeartbeat.handleOperation (h : t.NoHeartbeat)
    {task : Turn → ChannelRuntime → DecodedFrame → OperationId → List UInt8 → Task Turn}
    (htask : ∀ t runtime frame opid payload, t.NoHeartbeat →
      EndsQuiet (task t runtime frame opid payload))
    (frame : DecodedFrame) (inbound : List UInt8) :
    EndsQuiet (handleOperation task t frame inbound) := by
  unfold Turn.handleOperation
  split
  · exact h.close.pure
  · split
    · exact (h.failSession _).pure
    · split
      · exact (h.failSession _).pure
      · dsimp only
        split
        · exact (h.modify _).close.pure
        · exact htask _ _ _ _ _ (h.modify _)

theorem NoHeartbeat.dispatch (h : t.NoHeartbeat) (config : GatewayConfig jwt)
    (sessionId : ByteArrayOf 32) (frame : DecodedFrame) (inbound : List UInt8)
    (effects : SessionEffects)
    (hframe : ∀ msg, frame.payload = .control msg → msg.kind ≠ kindHeartbeat) :
    EndsQuiet (t.dispatch config sessionId frame inbound effects) := by
  unfold Turn.dispatch
  split
  · split
    · exact (h.failSession _).pure
    · dsimp only
      split
      · next msg hpayload =>
        exact (h.modify _).handleControl config sessionId msg effects (hframe msg hpayload)
      · exact (h.modify _).close.pure
  · split
    · exact h.handlePublishSample frame inbound
    · split
      · exact h.handleOperation (fun _ _ _ _ _ h => h.serviceTask _ _ _ _) frame inbound
      · split
        · exact h.handleOperation (fun _ _ _ _ _ h => h.actionTask _ _ _ _) frame inbound
        · exact h.pure

/-- **Whatever is taken that is no heartbeat**, no heartbeat is sent. -/
theorem NoHeartbeat.handleFrame (h : t.NoHeartbeat) (config : GatewayConfig jwt)
    (sessionId : ByteArrayOf 32) (bytes : List UInt8) (hbytes : ¬ IsHeartbeat bytes) :
    EndsQuiet (t.handleFrame config sessionId bytes) := by
  unfold Turn.handleFrame
  split
  · exact (h.failSession _).pure
  · next frame hparse =>
    split
    · exact (h.failSession _).pure
    · exact (h.modify _).dispatch config sessionId frame bytes _ fun msg hpayload hkind =>
        hbytes ⟨_, frame, msg, hparse, hpayload, hkind⟩

end Turn

theorem ConnState.endsQuiet_handleInbound (config : GatewayConfig jwt) (active : ActiveTransport)
    (sessionId : ByteArrayOf 32) (conn : ConnState) (bytes : List UInt8)
    (hbytes : ¬ IsHeartbeat bytes) :
    Turn.EndsQuiet (conn.handleInbound config active sessionId bytes) := by
  have hnone : Turn.NoHeartbeat ⟨conn, {}⟩ := by
    intro b hb
    cases hb
  unfold ConnState.handleInbound
  split_ifs
  · exact hnone.close.pure
  · exact (hnone.handleBootstrap config active bytes).pure
  · exact hnone.handleFrame config sessionId bytes hbytes

/-! ## Answering a heartbeat -/

/-- A message that is sendable and recorded is queued, with the next sequence. -/
theorem Turn.pushControl_of_sendable (t : Turn) {message : CborValue} {msg : ControlMessage}
    (h : Sendable message msg) {effects : SessionEffects} {session : Session}
    (hrecord : ∀ payloadLen, t.conn.session.recordSendFrame
      (ofControl (UInt64.ofNat t.conn.controlSeqOut) payloadLen msg) = (.ok effects, session)) :
    ∃ bytes, Encode.encodeControlFrame 0 (UInt64.ofNat t.conn.controlSeqOut) message =
        .ok bytes ∧
      t.pushControl message = ((t.modify fun c =>
        { c with session := session, controlSeqOut := c.controlSeqOut + 1 }).queue bytes,
          true) := by
  obtain ⟨bytes, payloadLen, hbytes, hparse⟩ := h.parse (UInt64.ofNat t.conn.controlSeqOut)
  have hrecorded : t.recorded bytes = some session := by
    simp only [Turn.recorded, hparse, hrecord]
  refine ⟨bytes, hbytes, ?_⟩
  simp only [Turn.pushControl, hbytes, hrecorded]

/-- A control frame in turn reaches its handler. -/
theorem Turn.handleFrame_control (config : GatewayConfig jwt) (sessionId : ByteArrayOf 32)
    (t : Turn) {bytes : List UInt8} {frame : DecodedFrame} {msg : ControlMessage}
    {effects : SessionEffects} {session : Session}
    (hparse : parseFrame bytes defaultOptions = .ok frame)
    (hopcode : frame.opcode = opcodeControlCbor) (hpayload : frame.payload = .control msg)
    (hingest : t.conn.session.ingestFrame frame = (.ok effects, session))
    (hseq : frame.sequence = UInt64.ofNat t.conn.controlSeqIn) :
    t.handleFrame config sessionId bytes =
      (t.modify fun c =>
        { c with session := session, controlSeqIn := c.controlSeqIn + 1 }).handleControl config
          sessionId msg effects := by
  unfold Turn.handleFrame
  rw [hparse]
  dsimp only
  rw [hingest]
  dsimp only
  unfold Turn.dispatch
  rw [if_pos hopcode, if_neg (by rw [hseq]; exact not_not_intro rfl), hpayload]
  rfl

/-- **A heartbeat in turn is answered by a heartbeat.** -/
theorem ConnState.handleInbound_heartbeat (config : GatewayConfig jwt) (active : ActiveTransport)
    (sessionId : ByteArrayOf 32) (conn : ConnState) {bytes : List UInt8} {frame : DecodedFrame}
    {msg : ControlMessage} (hready : conn.session.phase = .ready)
    (hparse : parseFrame bytes defaultOptions = .ok frame)
    (hopcode : frame.opcode = opcodeControlCbor) (hpayload : frame.payload = .control msg)
    (hkind : msg.kind = kindHeartbeat)
    (hseq : frame.sequence = UInt64.ofNat conn.controlSeqIn) :
    ∃ out counter,
      conn.handleInbound config active sessionId bytes =
        .pure ⟨{ conn with
          controlSeqIn := conn.controlSeqIn + 1
          controlSeqOut := conn.controlSeqOut + 1
          heartbeatCounter := conn.heartbeatCounter + 1 }, { outbound := [out] }⟩ ∧
      Encode.encodeControlFrame 0 (UInt64.ofNat conn.controlSeqOut) (heartbeatMessage counter) =
        .ok out := by
  have hingest := Session.ingestFrame_heartbeat hready hopcode hpayload hkind
  have hphase : conn.handleInbound config active sessionId bytes =
      Turn.handleFrame config sessionId ⟨conn, {}⟩ bytes := by
    unfold ConnState.handleInbound
    rw [hready, if_neg (by decide), if_neg (by decide)]
  set t : Turn := Turn.modify ⟨conn, {}⟩ fun c =>
    { c with session := conn.session, controlSeqIn := c.controlSeqIn + 1 }
  have hcontrol : t.handleControl config sessionId msg { heartbeat := true } =
      .pure t.handleHeartbeat := by
    unfold Turn.handleControl
    rw [hkind, if_neg (by decide), if_neg (by decide), if_neg (by decide), if_pos rfl]
  obtain ⟨hb, hsendable, hhb⟩ :=
    sendable_heartbeat (UInt64.ofNat (conn.heartbeatCounter + 1))
  obtain ⟨out, hout, hpush⟩ := Turn.pushControl_of_sendable
    (t.modify fun c => { c with heartbeatCounter := c.heartbeatCounter + 1 }) hsendable
    fun _ => Session.recordSendFrame_heartbeat hready rfl rfl hhb
  have hanswer : t.handleHeartbeat = _ := congrArg Prod.fst hpush
  rw [hphase, Turn.handleFrame_control config sessionId _ hparse hopcode hpayload hingest hseq,
    hcontrol, hanswer]
  exact ⟨out, _, rfl, hout⟩

end Gateway
end Rclweb
