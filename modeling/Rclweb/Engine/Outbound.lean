import Rclweb.Engine.Engine
import Rclweb.Protocol.ControlFrame

/-!
# What a poll turn sends

Inbound bytes make the engine send something in one case only: a heartbeat is answered.
Every other handler leaves the outbound messages alone (`poll_outbound_of_not_heartbeat`), and
a heartbeat on a ready connection is answered by exactly one (`poll_heartbeat`).
-/

namespace Rclweb

open Rclweb.Frame Control Transition

/-- The part of an engine its peer depends on. -/
structure Link where
  session : Session
  closed : Bool
  controlSeqIn : ℕ
  controlSeqOut : ℕ

def ClientEngine.link (e : ClientEngine) : Link :=
  ⟨e.session, e.closed, e.controlSeqIn, e.controlSeqOut⟩

namespace Engine

namespace Turn

variable (t : Turn)

/-! ## Outbound messages of the handlers -/

@[simp] theorem outbound_modify (f : ClientEngine → ClientEngine) :
    (t.modify f).outcome = t.outcome := rfl

@[simp] theorem outbound_emit (event : AppEvent) :
    (t.emit event).outcome.outbound = t.outcome.outbound := rfl

@[simp] theorem engine_emit (event : AppEvent) : (t.emit event).engine = t.engine := rfl

@[simp] theorem engine_modify (f : ClientEngine → ClientEngine) :
    (t.modify f).engine = f t.engine := rfl

@[simp] theorem outbound_fail (code : UInt8) (message : String) :
    (t.fail code message).outcome.outbound = t.outcome.outbound := rfl

@[simp] theorem outbound_failProtocol (err : ProtocolError) :
    (t.failProtocol err).outcome.outbound = t.outcome.outbound := rfl

@[simp] theorem outbound_retain (bufferId : UInt32) (bytes : List UInt8) :
    (t.retain bufferId bytes).2.outcome = t.outcome := by
  unfold retain
  dsimp only
  split_ifs <;> rfl

@[simp] theorem outbound_issueLease (bufferId : UInt32) (frame : DecodedFrame) :
    (t.issueLease bufferId frame).2.outcome = t.outcome := rfl

@[simp] theorem outbound_releaseLease (leaseId : UInt32) :
    (t.releaseLease leaseId).outcome = t.outcome := by
  unfold releaseLease
  split <;> rfl

theorem outbound_handleBootstrap (bytes : List UInt8) :
    (t.handleBootstrap bytes).outcome.outbound = t.outcome.outbound := by
  unfold handleBootstrap
  split
  · rfl
  · split
    · rfl
    · dsimp only
      split_ifs <;> rfl

theorem outbound_handleSessionReady (fields : Fields) :
    (t.handleSessionReady fields).outcome.outbound = t.outcome.outbound := by
  unfold handleSessionReady
  dsimp only
  split <;> rfl

theorem outbound_activate (channelId : UInt32) (pending : PendingOpen) (rel : UInt8) :
    (t.activate channelId pending rel).outcome.outbound = t.outcome.outbound := by
  unfold activate
  dsimp only
  split <;> rfl

theorem outbound_handleChannelReady (fields : Fields) (effects : SessionEffects) :
    (t.handleChannelReady fields effects).outcome.outbound = t.outcome.outbound := by
  unfold handleChannelReady
  dsimp only
  split_ifs
  · rw [outbound_activate]
    rfl
  · rfl

theorem outbound_handleError (fields : Fields) (effects : SessionEffects) :
    (t.handleError fields effects).outcome.outbound = t.outcome.outbound := by
  unfold handleError
  split_ifs
  · rfl
  · split <;> rfl

/-- Of the control messages only heartbeats are answered. -/
theorem outbound_handleControl (msg : ControlMessage) (effects : SessionEffects)
    (hkind : msg.kind ≠ kindHeartbeat) :
    (t.handleControl msg effects).outcome.outbound = t.outcome.outbound := by
  exact handleControl_cases (P := fun u => u.outcome.outbound = t.outcome.outbound)
    (t.outbound_handleSessionReady msg.fields)
    (fun _ => t.outbound_handleChannelReady msg.fields effects)
    (fun hheartbeat => absurd hheartbeat hkind) (fun _ _ _ => rfl) (fun _ => rfl)
    (fun _ => t.outbound_handleError msg.fields effects) rfl

theorem outbound_handleSample (lib : Library) (wasm32 : Bool) (bufferId : UInt32)
    (frame : DecodedFrame) (declaredLen : ℕ) :
    (handleSample lib wasm32 t bufferId frame declaredLen).outcome.outbound =
      t.outcome.outbound := by
  unfold handleSample
  split
  · rfl
  · split_ifs <;> rfl

theorem outbound_handleServiceAction (bufferId : UInt32) (frame : DecodedFrame)
    (declaredLen : ℕ) :
    (t.handleServiceAction bufferId frame declaredLen).outcome.outbound =
      t.outcome.outbound := by
  unfold handleServiceAction
  split
  · rfl
  · by_cases hbounds : payloadOutOfBounds frame declaredLen
    · rw [if_pos hbounds]
      rfl
    rw [if_neg hbounds]
    by_cases hcancel : frame.opcode = opcodeActionCancel
    · rw [if_pos hcancel]
    rw [if_neg hcancel]
    dsimp only
    split
    · rfl
    · split <;> simp

theorem outbound_handleFrame (lib : Library) (wasm32 : Bool) (bufferId : UInt32)
    (bytes : List UInt8) (hbytes : ¬ IsHeartbeat bytes) :
    (handleFrame lib wasm32 t bufferId bytes).outcome.outbound = t.outcome.outbound := by
  unfold handleFrame
  dsimp only
  split
  · rfl
  · next frame hparse =>
    split
    · rfl
    · split_ifs
      · rfl
      · split
        · next msg hpayload =>
          exact outbound_handleControl _ msg _ fun hkind =>
            hbytes ⟨_, frame, msg, hparse, hpayload, hkind⟩
        · rfl
      · exact outbound_handleSample ..
      · exact outbound_handleServiceAction ..
      · rfl

theorem outbound_handleWsBytes (lib : Library) (wasm32 : Bool) (bufferId : UInt32)
    (bytes : List UInt8) (hbytes : ¬ IsHeartbeat bytes) :
    (handleWsBytes lib wasm32 t bufferId bytes).outcome.outbound = t.outcome.outbound := by
  unfold handleWsBytes
  dsimp only
  rw [outbound_modify]
  split_ifs
  · rw [outbound_handleFrame _ _ _ _ _ hbytes, outbound_retain]
  · rw [outbound_handleBootstrap, outbound_retain]

/-! ## Sending a control message -/

/-- Handling the buffers leaves the connection alone. -/
@[simp] theorem link_retain (bufferId : UInt32) (bytes : List UInt8) :
    (t.retain bufferId bytes).2.engine.link = t.engine.link := by
  unfold retain
  dsimp only
  split_ifs <;> rfl

@[simp] theorem link_pushOutbound (bytes : List UInt8) :
    (t.pushOutbound bytes).engine.link = t.engine.link := by
  unfold pushOutbound
  split_ifs <;> rfl

theorem outbound_pushOutbound (bytes : List UInt8)
    (hroom : t.outcome.outbound.length < maxOutboundPerPoll) :
    (t.pushOutbound bytes).outcome.outbound =
      t.outcome.outbound ++ [⟨t.engine.nextBufferId, bytes⟩] := by
  rw [pushOutbound, if_neg (by omega)]

/-- A message that is sendable and recorded is queued, with the next sequence. -/
theorem pushControl_of_sendable {message : CborValue} {msg : ControlMessage}
    (h : Sendable message msg) {effects : SessionEffects} {session : Session}
    (hrecord : ∀ payloadLen, t.engine.session.recordSendFrame
      (ofControl (UInt64.ofNat t.engine.controlSeqOut) payloadLen msg) = (.ok effects, session)) :
    ∃ bytes, Encode.encodeControlFrame 0 (UInt64.ofNat t.engine.controlSeqOut) message =
        .ok bytes ∧
      t.pushControl message = some ((t.modify fun e =>
        { e with session := session, controlSeqOut := e.controlSeqOut + 1 }).pushOutbound
          bytes) := by
  obtain ⟨bytes, payloadLen, hbytes, hparse⟩ := h.parse (UInt64.ofNat t.engine.controlSeqOut)
  refine ⟨bytes, hbytes, ?_⟩
  simp only [pushControl, hbytes, recordFrame, hparse, hrecord, Option.map_some]
  rfl

/-! ## Answering a heartbeat -/

/-- What answering a heartbeat does: one heartbeat is queued, and its sequence used up. -/
structure AnswersHeartbeat (t' : Turn) : Prop where
  link : t'.engine.link =
    { t.engine.link with controlSeqOut := t.engine.controlSeqOut + 1 }
  outbound : ∃ counter bufferId bytes,
    t'.outcome.outbound = t.outcome.outbound ++ [⟨bufferId, bytes⟩] ∧
      Encode.encodeControlFrame 0 (UInt64.ofNat t.engine.controlSeqOut)
        (heartbeatMessage counter) = .ok bytes

/-- **A ready engine answers a heartbeat.** -/
theorem answersHeartbeat (fields : Fields) (hready : t.engine.session.phase = .ready)
    (hroom : t.outcome.outbound.length < maxOutboundPerPoll) :
    t.AnswersHeartbeat (t.handleHeartbeat fields) := by
  obtain ⟨msg, hsendable, hkind⟩ :=
    sendable_heartbeat (UInt64.ofNat (t.engine.heartbeatCounter + 1))
  obtain ⟨bytes, hbytes, hpush⟩ := pushControl_of_sendable
    ((t.emit (.heartbeat ((fieldUint fields 40).getD 0))).modify fun e =>
      { e with heartbeatCounter := e.heartbeatCounter + 1 }) hsendable
    fun _ => Session.recordSendFrame_heartbeat hready rfl rfl hkind
  have hanswer : t.handleHeartbeat fields = _ := congrArg (Option.getD · _) hpush
  rw [hanswer, Option.getD_some]
  exact ⟨by rw [link_pushOutbound]; rfl, _, _, bytes, outbound_pushOutbound _ _ hroom, hbytes⟩

end Turn
end Engine

namespace ClientEngine

open Engine Turn

/-- Polling one event. -/
theorem poll_singleton (lib : Library) (wasm32 : Bool) (e : ClientEngine) (event : HostEvent)
    (hopen : e.closed = false) :
    e.poll lib wasm32 [event] =
      ((handleEvent lib wasm32 ⟨e, {}⟩ event).sweepReleased.engine,
        { (handleEvent lib wasm32 ⟨e, {}⟩ event).sweepReleased.outcome with
          nextDeadlineMs :=
            (handleEvent lib wasm32 ⟨e, {}⟩ event).sweepReleased.engine.nextHeartbeatMs }) := by
  have hbatch : handleEvents lib wasm32 ⟨e, {}⟩ [event] = handleEvent lib wasm32 ⟨e, {}⟩ event := by
    simp [handleEvents]
  simp [poll, hopen, maxHostEventsPerPoll, hbatch]

/-- Bytes that parse as a whole frame claim no other size than they have. -/
theorem retainDeclaredLen_of_parse {bytes : List UInt8} {frame : DecodedFrame}
    {opts : FrameOptions} (h : parseFrame bytes opts = .ok frame) :
    retainDeclaredLen bytes = bytes.length := by
  unfold parseFrame parseFrameDeclared at h
  split_ifs at h with hshort
  simp only [bind_eq_ok] at h
  obtain ⟨_, -, _, htotal, -⟩ := h
  unfold checkTotal at htotal
  dsimp only at htotal
  split_ifs at htotal with hlen
  · rw [payloadStart, toNat_readHeader_extensionLen, toNat_readHeader_payloadLen] at hlen
    unfold retainDeclaredLen
    rw [if_neg hshort]
    dsimp only
    split_ifs <;> omega

/-- **Bytes that are no heartbeat are not answered.** -/
theorem poll_outbound_of_not_heartbeat (lib : Library) (wasm32 : Bool) (e : ClientEngine)
    (bufferId : UInt32) (bytes : List UInt8) (hopen : e.closed = false)
    (hbytes : ¬ IsHeartbeat bytes) :
    (e.poll lib wasm32 [.wsBytes bufferId bytes]).2.outbound = [] := by
  rw [poll_singleton lib wasm32 e _ hopen]
  exact outbound_handleWsBytes ⟨e, {}⟩ lib wasm32 bufferId bytes hbytes

/-- What a poll turn with one inbound message does to the connection is what `handleFrame`
does: keeping and giving back buffers does not matter to it. -/
theorem poll_wsBytes (lib : Library) (wasm32 : Bool) (e : ClientEngine) (bufferId : UInt32)
    (bytes : List UInt8) (hopen : e.closed = false)
    (hplane : e.session.phase.inSelectedPlane = true) :
    let r := Turn.retain ⟨e, {}⟩ bufferId bytes
    (e.poll lib wasm32 [.wsBytes bufferId bytes]).1.link =
        (handleFrame lib wasm32 r.2 r.1 bytes).engine.link ∧
      (e.poll lib wasm32 [.wsBytes bufferId bytes]).2.outbound =
        (handleFrame lib wasm32 r.2 r.1 bytes).outcome.outbound := by
  intro r
  have hsession : r.2.engine.session = e.session :=
    congrArg Link.session (link_retain ⟨e, {}⟩ bufferId bytes)
  obtain ⟨f, hevent, hf⟩ : ∃ f : ClientEngine → ClientEngine,
      handleWsBytes lib wasm32 ⟨e, {}⟩ bufferId bytes =
        (handleFrame lib wasm32 r.2 r.1 bytes).modify f ∧ ∀ e, (f e).link = e.link := by
    rw [← hsession] at hplane
    unfold handleWsBytes
    dsimp only
    rw [if_pos hplane]
    exact ⟨_, rfl, fun _ => rfl⟩
  rw [poll_singleton lib wasm32 e _ hopen, handleEvent, hevent]
  exact ⟨hf _, rfl⟩

/-- A control frame in turn reaches its handler. -/
theorem handleFrame_control (lib : Library) (wasm32 : Bool) {t : Turn} (bufferId : UInt32)
    {bytes : List UInt8} {frame : DecodedFrame} {msg : ControlMessage} {effects : SessionEffects}
    {session : Session} (hparse : parseFrame bytes defaultOptions = .ok frame)
    (hopcode : frame.opcode = opcodeControlCbor) (hpayload : frame.payload = .control msg)
    (hingest : t.engine.session.ingestFrame frame = (.ok effects, session))
    (hseq : frame.sequence = UInt64.ofNat t.engine.controlSeqIn) :
    handleFrame lib wasm32 t bufferId bytes =
      (t.modify fun e => { e with session := session, controlSeqIn := e.controlSeqIn + 1 }).handleControl
        msg effects := by
  unfold handleFrame
  dsimp only
  rw [retainDeclaredLen_of_parse hparse, ← parseFrame, hparse]
  dsimp only
  rw [hingest]
  dsimp only
  rw [if_pos hopcode, if_neg (by rw [hseq]; exact not_not_intro rfl), hpayload]
  rfl

/-- **A heartbeat in turn is answered by a heartbeat.** -/
theorem poll_heartbeat (lib : Library) (wasm32 : Bool) {e : ClientEngine} (bufferId : UInt32)
    {bytes : List UInt8} {frame : DecodedFrame} {msg : ControlMessage}
    (hready : e.session.phase = .ready) (hopen : e.closed = false)
    (hparse : parseFrame bytes defaultOptions = .ok frame)
    (hopcode : frame.opcode = opcodeControlCbor) (hpayload : frame.payload = .control msg)
    (hkind : msg.kind = kindHeartbeat)
    (hseq : frame.sequence = UInt64.ofNat e.controlSeqIn) :
    (e.poll lib wasm32 [.wsBytes bufferId bytes]).1.link =
        ⟨e.session, false, e.controlSeqIn + 1, e.controlSeqOut + 1⟩ ∧
      ∃ counter out,
        (e.poll lib wasm32 [.wsBytes bufferId bytes]).2.outbound.map (·.bytes) = [out] ∧
        Encode.encodeControlFrame 0 (UInt64.ofNat e.controlSeqOut) (heartbeatMessage counter) =
          .ok out := by
  obtain ⟨hlinkPoll, houtPoll⟩ := poll_wsBytes lib wasm32 e bufferId bytes hopen
    (by rw [hready]; rfl)
  set r := Turn.retain ⟨e, {}⟩ bufferId bytes
  have hlink : r.2.engine.link = e.link := link_retain ..
  have hsession : r.2.engine.session = e.session := congrArg Link.session hlink
  have hingest : r.2.engine.session.ingestFrame frame = (.ok { heartbeat := true }, e.session) := by
    rw [hsession]
    exact Session.ingestFrame_heartbeat hready hopcode hpayload hkind
  have hframe := handleFrame_control lib wasm32 r.1 hparse hopcode hpayload hingest
    (by rw [hseq]; exact congrArg UInt64.ofNat (congrArg Link.controlSeqIn hlink).symm)
  set u := r.2.modify fun c =>
    { c with session := e.session, controlSeqIn := c.controlSeqIn + 1 }
  have hcontrol : u.handleControl msg { heartbeat := true } = u.handleHeartbeat msg.fields := by
    unfold handleControl
    rw [hkind, if_neg (by decide), if_neg (by decide), if_pos rfl]
  have hulink : u.engine.link = ⟨e.session, false, e.controlSeqIn + 1, e.controlSeqOut⟩ := by
    have hclosed : r.2.engine.closed = e.closed := congrArg Link.closed hlink
    have hseqIn : r.2.engine.controlSeqIn = e.controlSeqIn := congrArg Link.controlSeqIn hlink
    have hseqOut : r.2.engine.controlSeqOut = e.controlSeqOut := congrArg Link.controlSeqOut hlink
    rw [← hopen, ← hclosed, ← hseqIn, ← hseqOut]
    rfl
  have huout : u.outcome.outbound = [] := congrArg PollOutcome.outbound (outbound_retain ..)
  obtain ⟨hanswer, counter, id, out, hout, hbytes⟩ := u.answersHeartbeat msg.fields
    hready
    (by rw [huout]; exact Nat.zero_lt_succ 63)
  have hseqOut : u.engine.controlSeqOut = e.controlSeqOut := congrArg Link.controlSeqOut hulink
  rw [hlinkPoll, houtPoll, hframe, hcontrol]
  refine ⟨?_, counter, out, ?_, ?_⟩
  · rw [hanswer, hulink, hseqOut]
  · rw [hout, huout]
    rfl
  · rw [← hseqOut]
    exact hbytes

end ClientEngine
end Rclweb
