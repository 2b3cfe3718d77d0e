import Rclweb.Engine.Runs
import Rclweb.Session.Lifecycle

/-!
# What a run sends

A frame is recorded by the session before it is queued, and the queue of a poll turn has a bound.
`recorded` is the record a host event adds to the session's account, read off the handlers; every
event adds one at most, so that the bound is never met and everything that was recorded is sent
(`map_outbound_poll`).

Control frames and the samples of a channel are numbered by counters that are used up when a
frame is recorded.  `ClientEngine.Numbered` ties the counters to what was sent so far, and every
handler keeps it.
-/

namespace Rclweb

open Rclweb.Frame Control Transition

namespace Engine

namespace Turn

/-! ## What is recorded -/

/-- The bytes of a frame, when the session records it. -/
def recordedFrame (t : Turn) (bytes : Except EncodeError (List UInt8)) : Option (List UInt8) :=
  match bytes with
  | .error _ => none
  | .ok bytes => (t.recordFrame bytes).map fun _ => bytes

def recordedControl (t : Turn) (message : CborValue) : Option (List UInt8) :=
  t.recordedFrame
    (Encode.encodeControlFrame 0 (UInt64.ofNat t.engine.controlSeqOut) message)

def recordedSample (t : Turn) (channelId : UInt32) (payload : List UInt8) :
    Option (List UInt8) :=
  match t.engine.activePublishes.find? channelId with
  | none => none
  | some pub =>
    t.recordedFrame (Encode.encodeFrame
      (appHeader opcodeRosSample pub.reliable channelId pub.seqOut) [] payload)

def recordedOperation (t : Turn) (channelId : UInt32) (opcode : UInt8)
    (operationId : OperationId) (payload : List UInt8) (reliable : Bool) :
    Option (List UInt8) :=
  match t.takeOperationSequence channelId operationId with
  | none => none
  | some (sequence, t) =>
    match Encode.encodeExtensionArea [operationIdExtension operationId] with
    | .error _ => none
    | .ok area =>
      t.recordedFrame
        (Encode.encodeFrame (appHeader opcode reliable channelId sequence) area payload)

/-- The hello is a bootstrap record and not a frame. -/
def recordedHello (t : Turn) (transferable webtransport : Bool) : Option (List UInt8) :=
  if t.engine.started then none
  else
    match Encode.encodeClientHello (startHello transferable webtransport) with
    | .error _ => none
    | .ok bytes => (t.pushBootstrapOutbound bytes).map fun _ => bytes

def recordedOpen (lib : Library) (t : Turn) (typeName : String) (channelId : UInt32)
    (kind : PendingKind) (message : CborValue) : Option (List UInt8) :=
  match schemaUnavailable lib t typeName channelId kind with
  | some _ => none
  | none => t.recordedControl message

def recordedTopic (lib : Library) (t : Turn) (options : TopicOptions) (operationKind : UInt64)
    (kind : PendingKind) : Option (List UInt8) :=
  recordedOpen lib t options.typeName options.channelId kind
    (openTopic lib options.correlation options.channelId operationKind options.topic
      options.typeName options.qosReliability.toUInt64
      (if options.qosDepth = 0 then defaultQosDepth else options.qosDepth) options.domainId
      t.engine.supportRowId)

def recordedPayload (lib : Library) (t : Turn) (channelId : UInt32) (op : GeneratedOpKind)
    (opcode : UInt8) (operationId : OperationId) (bytes : List UInt8) (reliable : Bool) :
    Option (List UInt8) :=
  (encodeOpPayload lib t channelId op bytes).bind fun payload =>
    t.recordedOperation channelId opcode operationId payload reliable

/-- **What a command records as sent.** -/
def recordedCommand (lib : Library) (t : Turn) : AppCommand → Option (List UInt8)
  | .start transferable webtransport => t.recordedHello transferable webtransport
  | .authenticate correlation scheme token =>
    t.recordedControl (Engine.authenticate correlation scheme token)
  | .subscribe options => recordedTopic lib t options 0 .subscribe
  | .publish options => recordedTopic lib t options 1 .publish
  | .sendSample channelId stringData =>
    (lib.encodeStdMsgsString stringData).bind (t.recordedSample channelId)
  | .sendPointCloud2 channelId view =>
    (lib.encodePointCloud2 view).bind (t.recordedSample channelId)
  | .sendGenerated channelId typeName value =>
    (lib.encodeHostValue typeName value).bind (t.recordedSample channelId)
  | .openService options =>
    recordedOpen lib t options.typeName options.channelId
      (if options.client then .serviceClient else .serviceServer)
      (openService lib options t.engine.supportRowId)
  | .callService channelId operationId request =>
    recordedPayload lib t channelId .request opcodeServiceRequest operationId request true
  | .sendServiceResponse channelId operationId response =>
    recordedPayload lib t channelId .response opcodeServiceResponse operationId response true
  | .openAction options =>
    recordedOpen lib t options.typeName options.channelId
      (if options.client then .actionClient else .actionServer)
      (openAction lib options t.engine.supportRowId)
  | .sendActionGoal channelId operationId goal =>
    recordedPayload lib t channelId .goal opcodeActionGoal operationId goal true
  | .cancelAction channelId operationId =>
    t.recordedOperation channelId opcodeActionCancel operationId [] true
  | .sendActionFeedback channelId operationId feedback =>
    recordedPayload lib t channelId .feedback opcodeActionFeedback operationId feedback false
  | .sendActionResult channelId operationId result =>
    recordedPayload lib t channelId .result opcodeActionResult operationId result true
  | .sendActionStatus channelId operationId status =>
    t.recordedOperation channelId opcodeActionStatus operationId status false
  | .unsubscribe correlation channelId =>
    t.recordedControl (closeChannel correlation channelId)
  | .close => none

/-- Inbound bytes are answered when they are a heartbeat in turn. -/
def recordedAnswer (t : Turn) (bytes : List UInt8) : Option (List UInt8) :=
  if t.engine.session.phase.inSelectedPlane then
    match parseFrameDeclared bytes (retainDeclaredLen bytes) defaultOptions with
    | .error _ => none
    | .ok frame =>
      match t.engine.session.ingestFrame frame with
      | (.error _, _) => none
      | (.ok _, session) =>
        if frame.opcode = opcodeControlCbor then
          if frame.sequence ≠ UInt64.ofNat t.engine.controlSeqIn then none
          else
            match frame.payload with
            | .application _ => none
            | .control msg =>
              if msg.kind = kindHeartbeat then
                (t.modify fun e => { e with session := session }).recordedControl
                  (heartbeat (UInt64.ofNat (t.engine.heartbeatCounter + 1)))
              else none
        else none
  else none

def recordedTimer (t : Turn) (nowMs : UInt64) : Option (List UInt8) :=
  if !t.engine.session.phase.isReady then none
  else
    match t.engine.nextHeartbeatMs with
    | none => none
    | some deadline =>
      if deadline ≤ nowMs then
        t.recordedControl (heartbeat (UInt64.ofNat (t.engine.heartbeatCounter + 1)))
      else none

/-- **What the session records as sent while a host event is handled**: the bytes of one message
at most. -/
def recorded (lib : Library) (t : Turn) : HostEvent → Option (List UInt8)
  | .command cmd => recordedCommand lib t cmd
  | .wsBytes _ bytes => t.recordedAnswer bytes
  | .timer nowMs => t.recordedTimer nowMs
  | .releaseLease _ => none

end Turn
end Engine

/-! ## Numbers and counters -/

/-- The sequence of a control frame. -/
def controlSequence? (bytes : List UInt8) : Option UInt64 :=
  match parseFrame bytes defaultOptions with
  | .error _ => none
  | .ok frame => if frame.opcode = opcodeControlCbor then some frame.sequence else none

/-- The sequence of a sample on a channel. -/
def sampleSequence? (channelId : UInt32) (bytes : List UInt8) : Option UInt64 :=
  match parseFrame bytes defaultOptions with
  | .error _ => none
  | .ok frame =>
    if frame.opcode = opcodeRosSample ∧ frame.channelId = channelId then some frame.sequence
    else none

/-- A channel on which nothing can have been sent yet. -/
def ChannelState.undecided (s : ChannelState) : Bool := s == .unused || s == .pending

/-- The first `n` sequences. -/
def firstSequences (n : ℕ) : List UInt64 := (List.range n).map UInt64.ofNat

theorem firstSequences_succ (n : ℕ) :
    firstSequences (n + 1) = firstSequences n ++ [UInt64.ofNat n] := by
  rw [firstSequences, List.range_succ, List.map_append]
  rfl

namespace ClientEngine

/-- **The counters agree with what was sent**: the sequences of the control frames, and of the
samples of every channel, are the first ones, and the next one is up. -/
structure Numbered (e : ClientEngine) (out : List (List UInt8)) : Prop where
  role : e.session.inner.role = .client
  control : out.filterMap controlSequence? = firstSequences e.controlSeqOut
  sample : ∀ id, ∃ n, out.filterMap (sampleSequence? id) = firstSequences n ∧
    (∀ pub, e.activePublishes.find? id = some pub → pub.seqOut = n) ∧
    ((e.session.channelState id).undecided = true →
      n = 0 ∧ e.activePublishes.find? id = none)

variable {e : ClientEngine} {out : List (List UInt8)}

theorem numbered_new : ({} : ClientEngine).Numbered [] where
  role := rfl
  control := rfl
  sample _ := ⟨0, rfl, nofun, fun _ => ⟨rfl, rfl⟩⟩

/-- A session in which no channel is undecided again. -/
theorem Numbered.session (h : e.Numbered out) {session : Session}
    (hrole : session.inner.role = e.session.inner.role)
    (hchannels : ∀ id, (session.channelState id).undecided = true →
      (e.session.channelState id).undecided = true) :
    ({ e with session := session } : ClientEngine).Numbered out := by
  refine ⟨hrole.trans h.role, h.control, fun id => ?_⟩
  obtain ⟨n, hn, hpub, hundecided⟩ := h.sample id
  exact ⟨n, hn, hpub, fun hid => hundecided (hchannels id hid)⟩

/-- Bytes that are neither a control frame nor a sample. -/
theorem Numbered.other (h : e.Numbered out) {bytes : List UInt8}
    (hcontrol : controlSequence? bytes = none) (hsample : ∀ id, sampleSequence? id bytes = none) :
    e.Numbered (out ++ [bytes]) := by
  refine ⟨h.role, ?_, fun id => ?_⟩
  · rw [List.filterMap_append, h.control, List.filterMap_cons_none hcontrol]
    exact List.append_nil _
  · obtain ⟨n, hn, hrest⟩ := h.sample id
    refine ⟨n, ?_, hrest⟩
    rw [List.filterMap_append, hn, List.filterMap_cons_none (hsample id)]
    exact List.append_nil _

/-- A control frame with the next sequence. -/
theorem Numbered.next (h : e.Numbered out) {bytes : List UInt8}
    (hcontrol : controlSequence? bytes = some (UInt64.ofNat e.controlSeqOut))
    (hsample : ∀ id, sampleSequence? id bytes = none) :
    ({ e with controlSeqOut := e.controlSeqOut + 1 } : ClientEngine).Numbered (out ++ [bytes]) := by
  refine ⟨h.role, ?_, fun id => ?_⟩
  · rw [List.filterMap_append, h.control, List.filterMap_cons_some hcontrol]
    exact (firstSequences_succ _).symm
  · obtain ⟨n, hn, hrest⟩ := h.sample id
    refine ⟨n, ?_, hrest⟩
    rw [List.filterMap_append, hn, List.filterMap_cons_none (hsample id)]
    exact List.append_nil _

/-- A sample with the next sequence of its channel. -/
theorem Numbered.publish (h : e.Numbered out) {id : UInt32} {pub : Engine.ActivePublish}
    (hpub : e.activePublishes.find? id = some pub) {bytes : List UInt8}
    (hcontrol : controlSequence? bytes = none)
    (hsample : ∀ id', sampleSequence? id' bytes =
      if id = id' then some (UInt64.ofNat pub.seqOut) else none) :
    ({ e with activePublishes := e.activePublishes.set id { pub with seqOut := pub.seqOut + 1 } } :
      ClientEngine).Numbered (out ++ [bytes]) := by
  refine ⟨h.role, ?_, fun id' => ?_⟩
  · rw [List.filterMap_append, h.control, List.filterMap_cons_none hcontrol]
    exact List.append_nil _
  · obtain ⟨n, hn, hseq, hundecided⟩ := h.sample id'
    have hid' := hsample id'
    by_cases hid : id = id'
    · subst hid
      rw [if_pos rfl, hseq pub hpub] at hid'
      refine ⟨n + 1, ?_, fun pub' hpub' => ?_, fun hstate => ?_⟩
      · rw [List.filterMap_append, hn, List.filterMap_cons_some hid']
        exact (firstSequences_succ n).symm
      · rw [show Table.find? _ id = _ from Table.find?_set_self ..] at hpub'
        rw [← Option.some.inj hpub', ← hseq pub hpub]
      · rw [(hundecided hstate).2] at hpub
        cases hpub
    · rw [if_neg hid] at hid'
      have hother : Table.find? (e.activePublishes.set id { pub with seqOut := pub.seqOut + 1 }) id' =
          e.activePublishes.find? id' := by rw [Table.find?_set, if_neg (Ne.symm hid)]
      refine ⟨n, ?_, fun pub' hpub' => hseq pub' (hother ▸ hpub'), fun hstate => ?_⟩
      · rw [List.filterMap_append, hn, List.filterMap_cons_none hid']
        exact List.append_nil _
      · exact ⟨(hundecided hstate).1, hother.trans (hundecided hstate).2⟩

/-- A channel is published on from now on. -/
theorem Numbered.activate (h : e.Numbered out) {session : Session}
    (hrole : session.inner.role = e.session.inner.role)
    (hchannels : ∀ id, (session.channelState id).undecided = true →
      (e.session.channelState id).undecided = true) {id : UInt32}
    (hbefore : (e.session.channelState id).undecided = true)
    (hafter : (session.channelState id).undecided = false) {pub : Engine.ActivePublish}
    (hpub : pub.seqOut = 0) :
    ({ e with session := session, activePublishes := e.activePublishes.set id pub } :
      ClientEngine).Numbered out := by
  refine ⟨hrole.trans h.role, h.control, fun id' => ?_⟩
  obtain ⟨n, hn, hseq, hundecided⟩ := h.sample id'
  refine ⟨n, hn, fun pub' hpub' => ?_, fun hstate => ?_⟩
  · rw [show Table.find? _ id' = _ from Table.find?_set ..] at hpub'
    split_ifs at hpub' with hid
    · rw [← Option.some.inj hpub', hpub, (hundecided (hid ▸ hbefore)).1]
    · exact hseq pub' hpub'
  · have hne : id' ≠ id := by
      intro heq
      rw [heq] at hstate
      exact absurd (hafter.symm.trans hstate) Bool.noConfusion
    obtain ⟨hzero, hnone⟩ := hundecided (hchannels id' hstate)
    refine ⟨hzero, ?_⟩
    show Table.find? (e.activePublishes.set id pub) id' = none
    rw [Table.find?_set, if_neg hne]
    exact hnone

/-- A channel is not published on any more. -/
theorem Numbered.remove (h : e.Numbered out) (id : UInt32) :
    ({ e with activePublishes := e.activePublishes.remove id } : ClientEngine).Numbered out := by
  refine ⟨h.role, h.control, fun id' => ?_⟩
  obtain ⟨n, hn, hseq, hundecided⟩ := h.sample id'
  have hfind : Table.find? (e.activePublishes.remove id) id' =
      if id' = id then none else e.activePublishes.find? id' := Table.find?_remove ..
  refine ⟨n, hn, fun pub hpub => ?_, fun hstate => ⟨(hundecided hstate).1, ?_⟩⟩
  · rw [show Table.find? _ id' = _ from hfind] at hpub
    split_ifs at hpub
    exact hseq pub hpub
  · rw [show Table.find? _ id' = _ from hfind, (hundecided hstate).2, ite_self]

/-- The part of an engine the numbers depend on. -/
structure Dial where
  session : Session
  controlSeqOut : ℕ
  activePublishes : Table UInt32 Engine.ActivePublish

def dial (e : ClientEngine) : Dial := ⟨e.session, e.controlSeqOut, e.activePublishes⟩

theorem Numbered.of_dial {e' : ClientEngine} (h : e.Numbered out) (hdial : e'.dial = e.dial) :
    e'.Numbered out := by
  have hsession : e'.session = e.session := congrArg Dial.session hdial
  have hcontrol : e'.controlSeqOut = e.controlSeqOut := congrArg Dial.controlSeqOut hdial
  have hpublishes : e'.activePublishes = e.activePublishes := congrArg Dial.activePublishes hdial
  refine ⟨hsession ▸ h.role, hcontrol ▸ h.control, fun id => ?_⟩
  rw [hpublishes, hsession]
  exact h.sample id

end ClientEngine

/-- A call of a session makes no channel undecided again. -/
theorem Session.undecided_call (s : Session) (c : Call) (id : UInt32)
    (h : ((s.call c).channelState id).undecided = true) :
    (s.channelState id).undecided = true := by
  rcases s.channelState_call c id with heq | hnext
  · rwa [heq] at h
  · generalize s.channelState id = a at *
    generalize (s.call c).channelState id = b at *
    cases hnext with
    | opened | readied | refused => rfl
    | shut => exact absurd h (by decide)

namespace Engine

namespace Turn

/-! ## Handlers -/

/-- **What was recorded was queued**, and the counters still agree with what was sent. -/
structure Sends (t u : Turn) (log : List (List UInt8)) : Prop where
  outbound : u.outcome.outbound.map (·.bytes) = t.outcome.outbound.map (·.bytes) ++ log
  numbered : ∀ out, t.engine.Numbered out → u.engine.Numbered (out ++ log)

variable {t u v : Turn}

theorem Sends.trans {log log' : List (List UInt8)} (h : t.Sends u log) (h' : u.Sends v log') :
    t.Sends v (log ++ log') := by
  refine ⟨?_, fun out hout => ?_⟩
  · rw [h'.outbound, h.outbound, List.append_assoc]
  · rw [← List.append_assoc]
    exact h'.numbered _ (h.numbered out hout)

/-- A handler that queues nothing. -/
theorem sends_nil (houtbound : u.outcome.outbound = t.outcome.outbound)
    (hnumbered : ∀ out, t.engine.Numbered out → u.engine.Numbered out) : t.Sends u [] := by
  refine ⟨?_, fun out hout => ?_⟩
  · rw [houtbound, List.append_nil]
  · rw [List.append_nil]
    exact hnumbered out hout

/-- A handler that does not touch the numbers. -/
theorem sends_of_dial (hdial : u.engine.dial = t.engine.dial)
    (houtbound : u.outcome.outbound = t.outcome.outbound) : t.Sends u [] :=
  sends_nil houtbound fun _ hout => hout.of_dial hdial

theorem Sends.refl (t : Turn) : t.Sends t [] := sends_of_dial rfl rfl

/-- After what does not touch the numbers. -/
theorem Sends.after {log : List (List UInt8)} (h : u.Sends v log)
    (hdial : u.engine.dial = t.engine.dial)
    (houtbound : u.outcome.outbound = t.outcome.outbound) : t.Sends v log :=
  (sends_of_dial hdial houtbound).trans h

/-- Before what does not touch the numbers. -/
theorem Sends.before {log : List (List UInt8)} (h : t.Sends u log)
    (hdial : v.engine.dial = u.engine.dial)
    (houtbound : v.outcome.outbound = u.outcome.outbound) : t.Sends v log :=
  List.append_nil log ▸ h.trans (sends_of_dial hdial houtbound)

/-- **Bytes that are queued**, when there is room. -/
theorem sends_pushOutbound {bytes : List UInt8}
    (hroom : t.outcome.outbound.length < maxOutboundPerPoll)
    (houtcome : u.outcome = t.outcome)
    (hnumbered : ∀ out, t.engine.Numbered out → u.engine.Numbered (out ++ [bytes])) :
    t.Sends (u.pushOutbound bytes) [bytes] := by
  have hqueue := outbound_pushOutbound u bytes (houtcome ▸ hroom)
  refine ⟨?_, fun out hout => ?_⟩
  · rw [hqueue, houtcome, List.map_append]
    rfl
  · refine (hnumbered out hout).of_dial ?_
    unfold pushOutbound
    split_ifs <;> rfl

theorem sends_fail (t : Turn) (code : UInt8) (message : String) :
    t.Sends (t.fail code message) [] := sends_of_dial rfl rfl

theorem sends_emit (t : Turn) (event : AppEvent) : t.Sends (t.emit event) [] :=
  sends_of_dial rfl rfl

/-! ## Frames -/

/-- A frame that is recorded parses, and changes the session. -/
theorem recordFrame_eq_some {bytes : List UInt8} (h : t.recordFrame bytes = some u) :
    ∃ frame effects session, parseFrame bytes defaultOptions = .ok frame ∧
      t.engine.session.recordSendFrame frame = (.ok effects, session) ∧
      u = t.modify fun e => { e with session := session } := by
  unfold recordFrame at h
  split at h
  · cases h
  · next frame hparse =>
    split at h
    · cases h
    · next effects session hrecord =>
      exact ⟨frame, effects, session, hparse, hrecord, (Option.some.inj h).symm⟩

/-- The session after a frame was recorded. -/
theorem numbered_recordSendFrame {e : ClientEngine} {out : List (List UInt8)}
    (h : e.Numbered out) {frame : DecodedFrame} {effects : SessionEffects} {session : Session}
    (hrecord : e.session.recordSendFrame frame = (.ok effects, session)) :
    ({ e with session := session } : ClientEngine).Numbered out := by
  refine h.session (Session.recordSendFrame_refines hrecord).1 fun id hid => ?_
  have hcall : e.session.call (.recordSend (.frame frame)) = session := congrArg Prod.snd hrecord
  exact e.session.undecided_call (.recordSend (.frame frame)) id (hcall ▸ hid)

theorem numbered_ingestFrame {e : ClientEngine} {out : List (List UInt8)}
    (h : e.Numbered out) {frame : DecodedFrame} {effects : SessionEffects} {session : Session}
    (hingest : e.session.ingestFrame frame = (.ok effects, session)) :
    ({ e with session := session } : ClientEngine).Numbered out := by
  refine h.session (Session.ingestFrame_refines hingest).1 fun id hid => ?_
  have hcall : e.session.call (.ingest (.frame frame)) = session := congrArg Prod.snd hingest
  exact e.session.undecided_call (.ingest (.frame frame)) id (hcall ▸ hid)

/-- What an application frame is encoded to is no control frame, and a sample when it is one. -/
theorem sequence_of_application {header : FrameHeader} {area payload bytes : List UInt8}
    {frame : DecodedFrame} (hbytes : Encode.encodeFrame header area payload = .ok bytes)
    (hparse : parseFrame bytes defaultOptions = .ok frame)
    (hopcode : header.opcode ≠ opcodeControlCbor) :
    controlSequence? bytes = none ∧ ∀ id, sampleSequence? id bytes =
      if header.opcode = opcodeRosSample ∧ header.channelId = id then some header.sequence
      else none := by
  obtain ⟨_, _, rfl⟩ := header_of_parse hbytes hparse
  rw [controlSequence?, hparse]
  refine ⟨if_neg hopcode, fun id => ?_⟩
  rw [sampleSequence?, hparse]
  rfl

/-- **Pushing a control message** sends what is recorded. -/
theorem sends_pushControl (hroom : t.outcome.outbound.length < maxOutboundPerPoll)
    (message : CborValue) :
    match t.pushControl message with
    | none => t.recordedControl message = none
    | some u => ∃ bytes, t.recordedControl message = some bytes ∧ t.Sends u [bytes] := by
  unfold pushControl recordedControl recordedFrame
  cases hbytes : Encode.encodeControlFrame 0 (UInt64.ofNat t.engine.controlSeqOut) message with
  | error err => rfl
  | ok bytes =>
    dsimp only
    cases hrecord : t.recordFrame bytes with
    | none => rfl
    | some v =>
      obtain ⟨frame, effects, session, hparse, hsession, rfl⟩ := recordFrame_eq_some hrecord
      obtain ⟨msg, payloadLen, -, rfl⟩ := sendable_of_parse hbytes hparse
      have hsequence : controlSequence? bytes = some (UInt64.ofNat t.engine.controlSeqOut) := by
        rw [controlSequence?, hparse]
        rfl
      have hsample (id : UInt32) : sampleSequence? id bytes = none := by
        rw [sampleSequence?, hparse]
        have hne : opcodeControlCbor ≠ opcodeRosSample := by decide
        exact if_neg fun h => hne h.1
      refine ⟨bytes, rfl, ?_⟩
      exact sends_pushOutbound hroom rfl fun out hout =>
        (numbered_recordSendFrame hout hsession).next hsequence hsample

/-- A control message, or else what is done without it. -/
theorem sends_pushControl_getD (hroom : t.outcome.outbound.length < maxOutboundPerPoll)
    (message : CborValue) (h : t.Sends u []) :
    t.Sends ((t.pushControl message).getD u) (t.recordedControl message).toList := by
  have hpush := sends_pushControl hroom message
  cases hresult : t.pushControl message with
  | none =>
    rw [hresult] at hpush
    rw [show t.recordedControl message = none from hpush]
    exact h
  | some v =>
    rw [hresult] at hpush
    obtain ⟨bytes, hrecorded, hsends⟩ := hpush
    rw [hrecorded]
    exact hsends

theorem sends_sendSamplePayload (hroom : t.outcome.outbound.length < maxOutboundPerPoll)
    (channelId : UInt32) (payload : List UInt8) :
    t.Sends (t.sendSamplePayload channelId payload)
      (t.recordedSample channelId payload).toList := by
  unfold sendSamplePayload recordedSample recordedFrame
  cases hpub : t.engine.activePublishes.find? channelId with
  | none => exact t.sends_emit _
  | some pub =>
    dsimp only
    cases hbytes : Encode.encodeFrame
        (appHeader opcodeRosSample pub.reliable channelId pub.seqOut) [] payload with
    | error err => exact t.sends_emit _
    | ok bytes =>
      dsimp only
      rw [recordFrame]
      cases hparse : parseFrame bytes defaultOptions with
      | error err => exact t.sends_emit _
      | ok frame =>
        dsimp only
        cases hrecord : t.engine.session.recordSendFrame frame with
        | mk result session =>
        cases result with
        | error err => exact t.sends_emit _
        | ok effects =>
          obtain ⟨hcontrol, hsample⟩ := sequence_of_application hbytes hparse
            (show opcodeRosSample ≠ opcodeControlCbor by decide)
          refine sends_pushOutbound hroom rfl fun out hout => ?_
          refine (numbered_recordSendFrame hout hrecord).publish hpub hcontrol
            fun id => (hsample id).trans ?_
          exact if_congr (and_iff_right rfl) rfl rfl

/-- Taking a number of the operations does not touch the others. -/
theorem dial_takeOperationSequence {channelId : UInt32} {operationId : OperationId} {n : ℕ}
    (h : t.takeOperationSequence channelId operationId = some (n, u)) :
    u.engine.dial = t.engine.dial ∧ u.outcome = t.outcome := by
  unfold takeOperationSequence at h
  dsimp only at h
  split at h
  · cases h
    exact ⟨rfl, rfl⟩
  · split at h
    · cases h
      exact ⟨rfl, rfl⟩
    · cases h

theorem sends_sendServiceActionFrame (hroom : t.outcome.outbound.length < maxOutboundPerPoll)
    (channelId : UInt32) {opcode : UInt8} (hopcode : isServiceOrActionOpcode opcode = true)
    (operationId : OperationId) (payload : List UInt8) (reliable : Bool) :
    t.Sends (t.sendServiceActionFrame channelId opcode operationId payload reliable)
      (t.recordedOperation channelId opcode operationId payload reliable).toList := by
  have hne : opcode ≠ opcodeControlCbor ∧ opcode ≠ opcodeRosSample := by
    constructor <;> intro heq <;> rw [heq] at hopcode <;> exact absurd hopcode (by decide)
  unfold sendServiceActionFrame recordedOperation
  cases htake : t.takeOperationSequence channelId operationId with
  | none => exact t.sends_emit _
  | some taken =>
    obtain ⟨sequence, u⟩ := taken
    obtain ⟨hdial, houtcome⟩ := dial_takeOperationSequence htake
    have houtbound : u.outcome.outbound = t.outcome.outbound := by rw [houtcome]
    refine Sends.after (u := u) ?_ hdial houtbound
    dsimp only
    cases harea : Encode.encodeExtensionArea [operationIdExtension operationId] with
    | error err => exact u.sends_emit _
    | ok area =>
      dsimp only
      unfold recordedFrame
      cases hbytes : Encode.encodeFrame (appHeader opcode reliable channelId sequence) area
          payload with
      | error err => exact u.sends_emit _
      | ok bytes =>
        dsimp only
        rw [recordFrame]
        cases hparse : parseFrame bytes defaultOptions with
        | error err => exact u.sends_emit _
        | ok frame =>
          dsimp only
          cases hrecord : u.engine.session.recordSendFrame frame with
          | mk result session =>
          cases result with
          | error err => exact u.sends_emit _
          | ok effects =>
            obtain ⟨hcontrol, hsample⟩ := sequence_of_application hbytes hparse hne.1
            refine sends_pushOutbound (houtbound ▸ hroom) rfl fun out hout => ?_
            refine (numbered_recordSendFrame hout hrecord).other hcontrol fun id =>
              (hsample id).trans (if_neg fun h => hne.2 h.1)

/-- A bootstrap record has no sequence. -/
theorem sequence_of_bootstrap {kind : UInt8} {payload : CborValue} {bytes : List UInt8}
    (h : Encode.bootstrapRecord kind payload = .ok bytes) :
    controlSequence? bytes = none ∧ ∀ id, sampleSequence? id bytes = none := by
  cases hparse : parseFrame bytes defaultOptions with
  | error err =>
    rw [controlSequence?, hparse]
    refine ⟨rfl, fun id => ?_⟩
    rw [sampleSequence?, hparse]
  | ok frame => exact absurd hparse (parse_ne_ok_of_bootstrap h _ frame)

theorem sends_start (hroom : t.outcome.outbound.length < maxOutboundPerPoll)
    (transferable webtransport : Bool) :
    t.Sends (t.start transferable webtransport)
      (t.recordedHello transferable webtransport).toList := by
  unfold start recordedHello
  split_ifs
  · exact .refl t
  · refine Sends.after (u := t.modify fun e => { e with started := true }) ?_ rfl rfl
    dsimp only
    cases hbytes : Encode.encodeClientHello (startHello transferable webtransport) with
    | error err => exact sends_fail _ _ _
    | ok bytes =>
      dsimp only
      unfold pushBootstrapOutbound
      cases hparse : Bootstrap.parseBootstrap bytes with
      | error err => exact sends_fail _ _ _
      | ok record =>
        dsimp only
        rw [engine_modify]
        dsimp only
        cases hrecord : t.engine.session.recordSendBootstrap record with
        | mk result session =>
        cases result with
        | error err => exact sends_fail _ _ _
        | ok effects =>
          obtain ⟨hcontrol, hsample⟩ := sequence_of_bootstrap hbytes
          refine sends_pushOutbound hroom rfl fun out hout => ?_
          have hcall : t.engine.session.call (.recordSend (.bootstrap record)) = session :=
            congrArg Prod.snd hrecord
          have hsession := hout.session (Session.channel_of_recordSendBootstrap hrecord).1
            fun id hid =>
              t.engine.session.undecided_call (.recordSend (.bootstrap record)) id (hcall ▸ hid)
          exact (hsession.other hcontrol hsample).of_dial rfl

/-! ## Commands -/

theorem sends_pushOpen (hroom : t.outcome.outbound.length < maxOutboundPerPoll)
    (message : CborValue) (failure : String) (channelId : UInt32) (pending : PendingOpen) :
    t.Sends (t.pushOpen message failure channelId pending) (t.recordedControl message).toList := by
  have hpush := sends_pushControl hroom message
  unfold pushOpen
  cases hresult : t.pushControl message with
  | none =>
    rw [hresult] at hpush
    rw [show t.recordedControl message = none from hpush]
    exact t.sends_fail _ _
  | some v =>
    rw [hresult] at hpush
    obtain ⟨bytes, hrecorded, hsends⟩ := hpush
    rw [hrecorded]
    exact hsends.before rfl rfl

theorem sends_openChannelCmd (hroom : t.outcome.outbound.length < maxOutboundPerPoll)
    (lib : Library) (options : TopicOptions) (operationKind : UInt64) (kind : PendingKind) :
    t.Sends (openChannelCmd lib t options operationKind kind)
      (recordedTopic lib t options operationKind kind).toList := by
  unfold openChannelCmd recordedTopic recordedOpen
  cases schemaUnavailable lib t options.typeName options.channelId kind with
  | some event => exact t.sends_emit event
  | none =>
    dsimp only
    exact sends_pushOpen hroom _ _ _ _

theorem sends_openEndpoint (hroom : t.outcome.outbound.length < maxOutboundPerPoll)
    (lib : Library) (options : EndpointOptions) (kind : PendingKind) (message : CborValue)
    (failure : String) :
    t.Sends (openEndpoint lib t options kind message failure)
      (recordedOpen lib t options.typeName options.channelId kind message).toList := by
  unfold openEndpoint recordedOpen
  cases schemaUnavailable lib t options.typeName options.channelId kind with
  | some event => exact t.sends_emit event
  | none => exact sends_pushOpen hroom _ _ _ _

theorem sends_sendOperation (hroom : t.outcome.outbound.length < maxOutboundPerPoll)
    (lib : Library) (channelId : UInt32) (op : GeneratedOpKind) {opcode : UInt8}
    (hopcode : isServiceOrActionOpcode opcode = true) (operationId : OperationId)
    (bytes : List UInt8) (reliable : Bool) (failure : AppEvent) :
    t.Sends (sendOperation lib t channelId op opcode operationId bytes reliable failure)
      (recordedPayload lib t channelId op opcode operationId bytes reliable).toList := by
  unfold sendOperation recordedPayload
  cases encodeOpPayload lib t channelId op bytes with
  | none => exact t.sends_emit _
  | some payload => exact sends_sendServiceActionFrame hroom _ hopcode _ _ _

theorem sends_unsubscribe (hroom : t.outcome.outbound.length < maxOutboundPerPoll)
    (correlation : ByteArrayOf 16) (channelId : UInt32) :
    t.Sends (t.unsubscribe correlation channelId)
      (t.recordedControl (closeChannel correlation channelId)).toList := by
  have hpush := sends_pushControl hroom (closeChannel correlation channelId)
  unfold unsubscribe
  cases hresult : t.pushControl (closeChannel correlation channelId) with
  | none =>
    rw [hresult] at hpush
    rw [show t.recordedControl _ = none from hpush]
    exact t.sends_fail _ _
  | some v =>
    rw [hresult] at hpush
    obtain ⟨bytes, hrecorded, hsends⟩ := hpush
    rw [hrecorded]
    refine ⟨hsends.outbound, fun out hout => ?_⟩
    exact ((hsends.numbered out hout).remove channelId).of_dial rfl

/-- **Commands send what they record.** -/
theorem sends_sendEncoded (hroom : t.outcome.outbound.length < maxOutboundPerPoll)
    (channelId : UInt32) (payload : Option (List UInt8)) (failure : AppEvent) :
    t.Sends (match payload with
      | some payload => t.sendSamplePayload channelId payload
      | none => t.emit failure) (payload.bind (t.recordedSample channelId)).toList := by
  cases payload with
  | none => exact t.sends_emit _
  | some payload => exact sends_sendSamplePayload hroom channelId payload

theorem sends_handleCommand (hroom : t.outcome.outbound.length < maxOutboundPerPoll)
    (lib : Library) (cmd : AppCommand) :
    t.Sends (handleCommand lib t cmd) (recordedCommand lib t cmd).toList := by
  cases cmd with
  | start transferable webtransport => exact sends_start hroom _ _
  | authenticate correlation scheme token =>
    exact sends_pushControl_getD hroom _ (t.sends_fail _ _)
  | subscribe options => exact sends_openChannelCmd hroom lib options _ _
  | publish options => exact sends_openChannelCmd hroom lib options _ _
  | sendSample channelId stringData =>
    show t.Sends (sendSample lib t channelId stringData)
      ((lib.encodeStdMsgsString stringData).bind (t.recordedSample channelId)).toList
    unfold sendSample
    cases lib.encodeStdMsgsString stringData with
    | none => exact t.sends_emit _
    | some payload => exact sends_sendSamplePayload hroom channelId payload
  | sendPointCloud2 channelId view => exact sends_sendEncoded hroom ..
  | sendGenerated channelId typeName value => exact sends_sendEncoded hroom ..
  | openService options => exact sends_openEndpoint hroom lib options _ _ _
  | openAction options => exact sends_openEndpoint hroom lib options _ _ _
  | callService | sendServiceResponse | sendActionGoal | sendActionFeedback | sendActionResult =>
    exact sends_sendOperation hroom lib _ _ (by decide) _ _ _ _
  | cancelAction | sendActionStatus =>
    exact sends_sendServiceActionFrame hroom _ (by decide) _ _ _
  | unsubscribe correlation channelId => exact sends_unsubscribe hroom _ _
  | close => exact sends_of_dial rfl rfl

/-! ## Inbound messages -/

/-- What is recorded depends on session and counters. -/
theorem recordedControl_of_dial (h : u.engine.dial = t.engine.dial) (message : CborValue) :
    u.recordedControl message = t.recordedControl message := by
  have hsession : u.engine.session = t.engine.session := congrArg ClientEngine.Dial.session h
  have hcontrol : u.engine.controlSeqOut = t.engine.controlSeqOut :=
    congrArg ClientEngine.Dial.controlSeqOut h
  unfold recordedControl recordedFrame recordFrame
  rw [hsession, hcontrol]
  cases Encode.encodeControlFrame 0 (UInt64.ofNat t.engine.controlSeqOut) message with
  | error err => rfl
  | ok bytes =>
    dsimp only
    cases parseFrame bytes defaultOptions with
    | error err => rfl
    | ok frame =>
      dsimp only
      cases t.engine.session.recordSendFrame frame with
      | mk result session => cases result <;> rfl

/-- A successful answer puts a channel that could not be published on in its table. -/
theorem numbered_activate {out : List (List UInt8)} {e : ClientEngine} (h : e.Numbered out)
    (hrole : u.engine.session.inner.role = e.session.inner.role)
    (hchannels : ∀ id, (u.engine.session.channelState id).undecided = true →
      (e.session.channelState id).undecided = true)
    (hcontrol : u.engine.controlSeqOut = e.controlSeqOut)
    (hpublishes : u.engine.activePublishes = e.activePublishes) {id : UInt32}
    (hbefore : (e.session.channelState id).undecided = true)
    (hafter : (u.engine.session.channelState id).undecided = false) (pending : PendingOpen)
    (rel : UInt8) : (u.activate id pending rel).engine.Numbered out := by
  have hquiet : u.engine.Numbered out := by
    refine (h.session hrole hchannels).of_dial ?_
    rw [ClientEngine.dial, hcontrol, hpublishes]
    rfl
  cases hkind : pending.kind with
  | publish =>
    have hactivated := h.activate hrole hchannels hbefore hafter
      (show (⟨pending.topic, pending.typeName, rel != 2, 0⟩ : Engine.ActivePublish).seqOut = 0
        from rfl)
    refine hactivated.of_dial ?_
    rw [activate, hkind, ← hpublishes]
    show ClientEngine.Dial.mk _ u.engine.controlSeqOut _ = ClientEngine.Dial.mk _ _ _
    rw [hcontrol]
    rfl
  | subscribe | serviceClient | serviceServer | actionClient | actionServer =>
    refine hquiet.of_dial ?_
    rw [activate, hkind]
    rfl

section Control

variable {frame : DecodedFrame} {msg : ControlMessage} {effects : SessionEffects}
  {session : Session}

/-- The engine after a control frame was taken, before it is reacted to. -/
abbrev taken (t : Turn) (session : Session) : Turn :=
  (t.modify fun e => { e with session := session }).modify fun e =>
    { e with controlSeqIn := e.controlSeqIn + 1 }

/-- Reactions that queue nothing, and do not touch the numbers. -/
theorem sends_taken (hingest : t.engine.session.ingestFrame frame = (.ok effects, session))
    (hdial : u.engine.dial = (t.taken session).engine.dial)
    (houtbound : u.outcome.outbound = t.outcome.outbound) : t.Sends u [] :=
  sends_nil houtbound fun _ hout =>
    (numbered_ingestFrame hout hingest).of_dial (hdial.trans rfl)

theorem dial_handleSessionReady (t : Turn) (fields : Fields) :
    (t.handleSessionReady fields).engine.dial = t.engine.dial := by
  unfold handleSessionReady
  dsimp only
  split <;> rfl

theorem dial_handleError (t : Turn) (fields : Fields) (effects : SessionEffects) :
    (t.handleError fields effects).engine.dial = t.engine.dial := by
  unfold handleError
  split_ifs
  · rfl
  · split <;> rfl

theorem sends_handleChannelReady
    (hingest : t.engine.session.ingestFrame frame = (.ok effects, session))
    (hopcode : frame.opcode = opcodeControlCbor) (hpayload : frame.payload = .control msg)
    {value : CborValue} (hvalid : validateControlMessage value = .ok msg)
    (hkind : msg.kind = kindChannelReady) :
    t.Sends ((t.taken session).handleChannelReady msg.fields effects) [] := by
  refine sends_nil (outbound_handleChannelReady _ _ _) fun out hout => ?_
  have happly := applyControl_channelReady hkind
    (Session.ingestFrame_control hopcode hpayload hingest)
  obtain ⟨id, kind, hpending, hid, hview⟩ := channel_of_answer hvalid hkind happly
  have hbefore : t.engine.session.channelState id = .pending := by
    rw [Session.channelState, SessionState.state_eq, hpending]
    rfl
  have hrole := (Session.ingestFrame_refines hingest).1
  have hchannels (id : UInt32) (h : (session.channelState id).undecided = true) :
      (t.engine.session.channelState id).undecided = true := by
    have hcall : t.engine.session.call (.ingest (.frame frame)) = session :=
      congrArg Prod.snd hingest
    exact t.engine.session.undecided_call (.ingest (.frame frame)) id (hcall ▸ h)
  unfold handleChannelReady
  dsimp only
  rw [hid]
  split_ifs with hsuccess
  · rw [if_pos hsuccess] at hview
    have hafter : session.channelState id = .active := by
      rw [Session.channelState, SessionState.state_eq, hview, View.setChannel_channel, if_pos rfl]
      rfl
    exact numbered_activate (u := (t.taken session).modify fun e =>
        { e with pendingOpens := e.pendingOpens.remove id }) hout hrole hchannels rfl rfl
      (by rw [hbefore]; rfl)
      (show (session.channelState id).undecided = false by rw [hafter]; rfl) _ _
  · exact (hout.session hrole hchannels).of_dial rfl

/-- **An accepted control message** is answered when it is a heartbeat. -/
theorem sends_handleControl (hroom : t.outcome.outbound.length < maxOutboundPerPoll)
    (hingest : t.engine.session.ingestFrame frame = (.ok effects, session))
    (hopcode : frame.opcode = opcodeControlCbor) (hpayload : frame.payload = .control msg)
    {value : CborValue} (hvalid : validateControlMessage value = .ok msg) :
    t.Sends ((t.taken session).handleControl msg effects)
      (if msg.kind = kindHeartbeat then
        (t.modify fun e => { e with session := session }).recordedControl
          (heartbeat (UInt64.ofNat (t.engine.heartbeatCounter + 1)))
      else none).toList := by
  by_cases hbeat : msg.kind = kindHeartbeat
  · have hcontrol : (t.taken session).handleControl msg effects =
        (t.taken session).handleHeartbeat msg.fields := by
      rw [handleControl, hbeat]
      rfl
    rw [hcontrol, if_pos hbeat, handleHeartbeat]
    generalize hw : (((t.taken session).emit
      (.heartbeat ((Engine.fieldUint msg.fields 40).getD 0))).modify fun e =>
        { e with heartbeatCounter := e.heartbeatCounter + 1 }) = w
    have hdial : w.engine.dial = (t.taken session).engine.dial := by
      rw [← hw]
      rfl
    have houtbound : w.outcome.outbound = t.outcome.outbound := by
      rw [← hw]
      rfl
    have hcounter : w.engine.heartbeatCounter = t.engine.heartbeatCounter + 1 := by
      rw [← hw]
      rfl
    rw [hcounter, ← recordedControl_of_dial (t := t.modify fun e => { e with session := session })
      (u := w) (hdial.trans rfl)]
    exact (sends_taken hingest hdial houtbound).trans
      (sends_pushControl_getD (houtbound ▸ hroom) _ (.refl w))
  · rw [if_neg hbeat]
    have houtbound := outbound_handleControl (t.taken session) msg effects hbeat
    by_cases hready : msg.kind = kindChannelReady
    · have hcontrol : (t.taken session).handleControl msg effects =
          (t.taken session).handleChannelReady msg.fields effects := by
        rw [handleControl, hready]
        rfl
      rw [hcontrol]
      exact sends_handleChannelReady hingest hopcode hpayload hvalid hready
    · refine sends_taken hingest ?_ houtbound
      exact handleControl_cases (P := fun u => u.engine.dial = (t.taken session).engine.dial)
        (dial_handleSessionReady _ _) (fun h => absurd h hready) (fun h => absurd h hbeat)
        (fun _ _ _ => rfl) (fun _ => rfl) (fun _ => dial_handleError _ _ _) rfl

end Control

/-- The numbers do not depend on samples and operations that come in. -/
theorem dial_handleSample (lib : Library) (wasm32 : Bool) (t : Turn) (bufferId : UInt32)
    (frame : DecodedFrame) (declaredLen : ℕ) :
    (handleSample lib wasm32 t bufferId frame declaredLen).engine.dial = t.engine.dial := by
  unfold handleSample
  split
  · rfl
  · split_ifs <;> rfl

theorem dial_releaseLease (t : Turn) (leaseId : UInt32) :
    (t.releaseLease leaseId).engine.dial = t.engine.dial := by
  unfold releaseLease
  split <;> rfl

theorem dial_handleServiceAction (t : Turn) (bufferId : UInt32) (frame : DecodedFrame)
    (declaredLen : ℕ) :
    (t.handleServiceAction bufferId frame declaredLen).engine.dial = t.engine.dial := by
  unfold handleServiceAction
  split
  · rfl
  · by_cases hbounds : payloadOutOfBounds frame declaredLen = true
    · rw [if_pos hbounds]
      rfl
    rw [if_neg hbounds]
    by_cases hcancel : frame.opcode = opcodeActionCancel
    · rw [if_pos hcancel]
    rw [if_neg hcancel]
    dsimp only
    split
    · rfl
    · split
      · rfl
      · exact dial_releaseLease _ _

theorem sends_handleBootstrap (bytes : List UInt8) : t.Sends (t.handleBootstrap bytes) [] := by
  refine sends_nil (t.outbound_handleBootstrap bytes) fun out hout => ?_
  unfold handleBootstrap
  split
  · exact hout.of_dial rfl
  · next record hparse =>
    split
    · exact hout.of_dial rfl
    · next effects session hingest =>
      have hcall : t.engine.session.call (.ingest (.bootstrap record)) = session :=
        congrArg Prod.snd hingest
      have hsession := hout.session (Session.channel_of_ingestBootstrap hingest).1 fun id hid =>
        t.engine.session.undecided_call (.ingest (.bootstrap record)) id (hcall ▸ hid)
      dsimp only
      split_ifs <;> exact hsession.of_dial rfl

/-- **A frame is answered when it is a heartbeat.** -/
theorem sends_handleFrame (hroom : t.outcome.outbound.length < maxOutboundPerPoll)
    (hplane : t.engine.session.phase.inSelectedPlane = true) (lib : Library) (wasm32 : Bool)
    (bufferId : UInt32) (bytes : List UInt8) :
    t.Sends (handleFrame lib wasm32 t bufferId bytes) (t.recordedAnswer bytes).toList := by
  unfold handleFrame recordedAnswer
  rw [if_pos hplane]
  dsimp only
  cases hparse : parseFrameDeclared bytes (retainDeclaredLen bytes) defaultOptions with
  | error err => exact t.sends_fail _ _
  | ok frame =>
    dsimp only
    cases hingest : t.engine.session.ingestFrame frame with
    | mk result session =>
    cases result with
    | error err => exact t.sends_fail _ _
    | ok effects =>
      dsimp only
      by_cases hopcode : frame.opcode = opcodeControlCbor
      · rw [if_pos hopcode, if_pos hopcode]
        by_cases hseq : frame.sequence = UInt64.ofNat t.engine.controlSeqIn
        · rw [if_neg (by exact not_not_intro hseq), if_neg (not_not_intro hseq)]
          cases hpayload : frame.payload with
          | application payload => exact sends_taken hingest rfl rfl
          | control msg =>
            obtain ⟨-, value, hvalid⟩ := valid_of_parse hparse hpayload
            exact sends_handleControl hroom hingest hopcode hpayload hvalid
        · rw [if_pos (by exact hseq), if_pos hseq]
          exact sends_taken hingest rfl rfl
      · rw [if_neg hopcode, if_neg hopcode]
        have hquiet {u : Turn}
            (hdial : u.engine.dial =
              (t.modify fun e => { e with session := session }).engine.dial)
            (houtbound : u.outcome.outbound = t.outcome.outbound) : t.Sends u [] :=
          sends_taken hingest (hdial.trans rfl) houtbound
        by_cases hsample : frame.opcode = opcodeRosSample
        · rw [if_pos hsample]
          exact hquiet (dial_handleSample ..) (outbound_handleSample ..)
        rw [if_neg hsample]
        by_cases hoperation : isServiceOrActionOpcode frame.opcode = true
        · rw [if_pos hoperation]
          exact hquiet (dial_handleServiceAction ..) (outbound_handleServiceAction ..)
        · rw [if_neg hoperation]
          exact hquiet rfl rfl

theorem dial_retain (t : Turn) (bufferId : UInt32) (bytes : List UInt8) :
    (t.retain bufferId bytes).2.engine.dial = t.engine.dial := by
  unfold retain
  dsimp only
  split_ifs <;> rfl

/-- The answer does not depend on where the bytes are kept. -/
theorem recordedAnswer_of_dial (hdial : u.engine.dial = t.engine.dial)
    (hseq : u.engine.controlSeqIn = t.engine.controlSeqIn)
    (hcounter : u.engine.heartbeatCounter = t.engine.heartbeatCounter) (bytes : List UInt8) :
    u.recordedAnswer bytes = t.recordedAnswer bytes := by
  have hsession : u.engine.session = t.engine.session := congrArg ClientEngine.Dial.session hdial
  have hcontrol (session : Session) (message : CborValue) :
      (u.modify fun e => { e with session := session }).recordedControl message =
        (t.modify fun e => { e with session := session }).recordedControl message := by
    refine recordedControl_of_dial ?_ message
    exact congrArg (fun d : ClientEngine.Dial => { d with session := session }) hdial
  unfold recordedAnswer
  rw [hsession, hseq, hcounter]
  split_ifs
  · cases parseFrameDeclared bytes (retainDeclaredLen bytes) defaultOptions with
    | error err => rfl
    | ok frame =>
      dsimp only
      cases t.engine.session.ingestFrame frame with
      | mk result session =>
      cases result with
      | error err => rfl
      | ok effects =>
        dsimp only
        cases frame.payload with
        | application payload => rfl
        | control msg =>
          dsimp only
          rw [hcontrol]
  · rfl

theorem recordedAnswer_retain (t : Turn) (bufferId : UInt32) (bytes bytes' : List UInt8) :
    (t.retain bufferId bytes).2.recordedAnswer bytes' = t.recordedAnswer bytes' := by
  unfold retain
  dsimp only
  split_ifs
  · refine recordedAnswer_of_dial ?_ ?_ ?_ bytes' <;> rfl
  · refine recordedAnswer_of_dial ?_ ?_ ?_ bytes' <;> rfl

theorem sends_handleWsBytes (hroom : t.outcome.outbound.length < maxOutboundPerPoll)
    (lib : Library) (wasm32 : Bool) (bufferId : UInt32) (bytes : List UInt8) :
    t.Sends (handleWsBytes lib wasm32 t bufferId bytes) (t.recordedAnswer bytes).toList := by
  have houtcome := t.outbound_retain bufferId bytes
  have houtbound : (t.retain bufferId bytes).2.outcome.outbound = t.outcome.outbound := by
    rw [houtcome]
  unfold handleWsBytes
  dsimp only
  rw [← recordedAnswer_retain t bufferId bytes bytes]
  refine Sends.after (u := (t.retain bufferId bytes).2) ?_ (dial_retain ..) houtbound
  refine Sends.before (u := if (t.retain bufferId bytes).2.engine.session.phase.inSelectedPlane
    then handleFrame lib wasm32 (t.retain bufferId bytes).2 (t.retain bufferId bytes).1 bytes
    else (t.retain bufferId bytes).2.handleBootstrap bytes) ?_ rfl rfl
  by_cases hplane : (t.retain bufferId bytes).2.engine.session.phase.inSelectedPlane = true
  · rw [if_pos hplane]
    exact sends_handleFrame (houtbound ▸ hroom) hplane lib wasm32 _ bytes
  · rw [if_neg hplane, recordedAnswer, if_neg hplane]
    exact sends_handleBootstrap bytes

/-- A heartbeat that is due, and what is set around it. -/
theorem sends_beat {w : Turn} {f : ClientEngine → ClientEngine}
    (hroom : t.outcome.outbound.length < maxOutboundPerPoll)
    (hdial : w.engine.dial = t.engine.dial) (houtcome : w.outcome = t.outcome)
    (message : CborValue) (hf : ∀ e, (f e).dial = e.dial) :
    t.Sends (((w.pushControl message).getD w).modify f) (t.recordedControl message).toList := by
  have houtbound : w.outcome.outbound = t.outcome.outbound := by rw [houtcome]
  have hpush := sends_pushControl_getD (houtbound ▸ hroom) message (.refl w)
  rw [recordedControl_of_dial hdial] at hpush
  exact (hpush.after hdial houtbound).before (hf _) rfl

theorem sends_handleTimer (hroom : t.outcome.outbound.length < maxOutboundPerPoll)
    (nowMs : UInt64) : t.Sends (t.handleTimer nowMs) (t.recordedTimer nowMs).toList := by
  unfold handleTimer recordedTimer
  dsimp only
  rw [engine_modify]
  dsimp only
  by_cases hready : (!t.engine.session.phase.isReady) = true
  · rw [if_pos hready, if_pos hready]
    exact sends_of_dial rfl rfl
  rw [if_neg hready, if_neg hready]
  cases t.engine.nextHeartbeatMs with
  | none => exact sends_of_dial rfl rfl
  | some deadline =>
    dsimp only
    by_cases hdue : deadline ≤ nowMs
    · rw [if_pos hdue, if_pos hdue]
      refine sends_beat (t := t) hroom (w := (t.modify fun e =>
        { e with lastTimerMs := some nowMs }).modify fun e =>
          { e with heartbeatCounter := e.heartbeatCounter + 1 }) rfl rfl _ fun _ => rfl
    · rw [if_neg hdue, if_neg hdue]
      exact sends_of_dial rfl rfl

/-- **Every host event sends what it records.** -/
theorem sends_handleEvent (hroom : t.outcome.outbound.length < maxOutboundPerPoll)
    (lib : Library) (wasm32 : Bool) (event : HostEvent) :
    t.Sends (handleEvent lib wasm32 t event) (recorded lib t event).toList := by
  cases event with
  | command cmd => exact sends_handleCommand hroom lib cmd
  | wsBytes bufferId bytes => exact sends_handleWsBytes hroom lib wasm32 bufferId bytes
  | timer nowMs => exact sends_handleTimer hroom nowMs
  | releaseLease leaseId =>
    exact sends_of_dial (dial_releaseLease t leaseId) (by rw [handleEvent, outbound_releaseLease])

theorem filterMap_cons_toList {α β : Type} (f : α → Option β) (a : α) (l : List α) :
    (a :: l).filterMap f = (f a).toList ++ l.filterMap f := by
  cases h : f a with
  | none => exact List.filterMap_cons_none h
  | some b => exact List.filterMap_cons_some h

/-- A host event adds one outbound message at most. -/
theorem length_outbound_handleEvent (hroom : t.outcome.outbound.length < maxOutboundPerPoll)
    (lib : Library) (wasm32 : Bool) (event : HostEvent) :
    (handleEvent lib wasm32 t event).outcome.outbound.length ≤ t.outcome.outbound.length + 1 := by
  have hmap := congrArg List.length (sends_handleEvent hroom lib wasm32 event).outbound
  rw [List.length_map, List.length_append, List.length_map] at hmap
  have hone : (recorded lib t event).toList.length ≤ 1 := by
    cases recorded lib t event <;> simp
  omega

/-- **A batch within the bound sends what it records.** -/
theorem sends_handleEvents (lib : Library) (wasm32 : Bool) {events : List HostEvent}
    (hroom : t.outcome.outbound.length + events.length ≤ maxOutboundPerPoll) :
    t.Sends (handleEvents lib wasm32 t events)
      ((steps lib wasm32 t events).filterMap fun p => recorded lib p.1 p.2) := by
  induction events generalizing t with
  | nil => exact .refl t
  | cons event events ih =>
    rw [List.length_cons] at hroom
    have hfirst := sends_handleEvent (t := t) (by omega) lib wasm32 event
    have hlength := length_outbound_handleEvent (t := t) (by omega) lib wasm32 event
    rw [handleEvents, steps, filterMap_cons_toList]
    by_cases hclosed : (handleEvent lib wasm32 t event).engine.closed = true
    · rw [if_pos hclosed, if_pos hclosed, List.filterMap_nil, List.append_nil]
      exact hfirst
    · rw [if_neg hclosed, if_neg hclosed]
      exact hfirst.trans (ih (by omega))

end Turn
end Engine

/-! ## Runs -/

namespace ClientEngine

open Engine Turn

/-- **Everything recorded in a poll turn is sent in it**, in the order it was recorded. -/
theorem map_outbound_poll (lib : Library) (wasm32 : Bool) (e : ClientEngine)
    (events : List HostEvent) :
    (e.poll lib wasm32 events).2.outbound.map (·.bytes) =
        (e.steps lib wasm32 events).filterMap (fun p => recorded lib p.1 p.2) ∧
      ∀ out, e.Numbered out → (e.poll lib wasm32 events).1.Numbered
        (out ++ (e.poll lib wasm32 events).2.outbound.map (·.bytes)) := by
  by_cases hclosed : e.closed = true
  · rw [poll, if_pos hclosed, steps, if_pos hclosed]
    refine ⟨rfl, fun out hout => ?_⟩
    rw [List.map_nil, List.append_nil]
    exact hout
  · have hroom : (⟨e, {}⟩ : Turn).outcome.outbound.length +
        (events.take maxHostEventsPerPoll).length ≤ maxOutboundPerPoll := by
      rw [List.length_take]
      exact (Nat.zero_add _).trans_le (Nat.min_le_left _ _)
    have hsends := sends_handleEvents lib wasm32 hroom
    rw [poll, if_neg hclosed, steps, if_neg hclosed]
    refine ⟨hsends.outbound, fun out hout => ?_⟩
    have hnumbered := (hsends.numbered out hout).of_dial
      (show (handleEvents lib wasm32 ⟨e, {}⟩
        (events.take maxHostEventsPerPoll)).sweepReleased.engine.dial = _ from rfl)
    have houtbound : (handleEvents lib wasm32 ⟨e, {}⟩
        (events.take maxHostEventsPerPoll)).outcome.outbound.map (·.bytes) =
          (Turn.steps lib wasm32 ⟨e, {}⟩ (events.take maxHostEventsPerPoll)).filterMap
            (fun p => recorded lib p.1 p.2) := hsends.outbound
    rw [← houtbound] at hnumbered
    exact hnumbered

/-- **What a run sends**, over all its poll turns. -/
def sent (lib : Library) (wasm32 : Bool) : ClientEngine → List (List HostEvent) →
    List (List UInt8)
  | _, [] => []
  | e, events :: rest =>
    (e.poll lib wasm32 events).2.outbound.map (·.bytes) ++
      sent lib wasm32 (e.poll lib wasm32 events).1 rest

theorem Numbered.run {lib : Library} {wasm32 : Bool} {e : ClientEngine}
    {out : List (List UInt8)} (h : e.Numbered out) (polls : List (List HostEvent)) :
    (e.run lib wasm32 polls).Numbered (out ++ sent lib wasm32 e polls) := by
  induction polls generalizing e out with
  | nil =>
    rw [sent, List.append_nil]
    exact h
  | cons events rest ih =>
    rw [sent, ← List.append_assoc]
    exact ih ((map_outbound_poll lib wasm32 e events).2 out h)

/-- The first sequences, as numbers. -/
theorem toNat_firstSequences {n : ℕ} (h : n ≤ 2 ^ 64) :
    (firstSequences n).map UInt64.toNat = List.range n := by
  rw [firstSequences, List.map_map]
  refine (List.map_congr_left fun i hi => ?_).trans (List.map_id _)
  have hlt : i < 2 ^ 64 := (List.mem_range.mp hi).trans_le h
  exact UInt64.toNat_ofNat_of_lt' hlt

/-- **Nothing recorded as sent is lost.**  What the session records in a poll turn is what the
turn sends, in order; and in every run of less than `2 ^ 64` messages the control frames are
numbered `0, 1, 2, …`, and so are the samples of every channel. -/
theorem nothing_lost (lib : Library) (wasm32 : Bool) (polls : List (List HostEvent)) :
    (∀ front events back, polls = front ++ events :: back →
      (poll lib wasm32 (run lib wasm32 {} front) events).2.outbound.map (·.bytes) =
        (steps lib wasm32 (run lib wasm32 {} front) events).filterMap
          fun p => recorded lib p.1 p.2) ∧
      ((sent lib wasm32 {} polls).length < 2 ^ 64 →
        (((sent lib wasm32 {} polls).filterMap controlSequence?).map UInt64.toNat =
            List.range ((sent lib wasm32 {} polls).filterMap controlSequence?).length) ∧
          ∀ id, (((sent lib wasm32 {} polls).filterMap (sampleSequence? id)).map UInt64.toNat =
            List.range ((sent lib wasm32 {} polls).filterMap (sampleSequence? id)).length)) := by
  refine ⟨fun front events _ _ => (map_outbound_poll lib wasm32 _ events).1, fun hlength => ?_⟩
  have hnumbered := @Numbered.run lib wasm32 _ _ numbered_new polls
  rw [List.nil_append] at hnumbered
  have hfirst {f : List UInt8 → Option UInt64} {n : ℕ}
      (h : (sent lib wasm32 {} polls).filterMap f = firstSequences n) :
      ((sent lib wasm32 {} polls).filterMap f).map UInt64.toNat =
        List.range ((sent lib wasm32 {} polls).filterMap f).length := by
    have hn : ((sent lib wasm32 {} polls).filterMap f).length = n := by
      rw [h, firstSequences, List.length_map, List.length_range]
    have hle := List.length_filterMap_le f (sent lib wasm32 {} polls)
    rw [hn, h]
    exact toNat_firstSequences (by omega)
  refine ⟨hfirst hnumbered.control, fun id => ?_⟩
  obtain ⟨n, hn, -⟩ := hnumbered.sample id
  exact hfirst hn

theorem nothing_lost_of_subscription :
    ((sent Pair.noLibrary false {} subscription).filterMap controlSequence?).map UInt64.toNat =
      [0, 1] := by
  have hlength : ((sent Pair.noLibrary false {} subscription).filterMap controlSequence?).length =
        2 ∧ (sent Pair.noLibrary false {} subscription).length < 2 ^ 64 := by decide +kernel
  rw [((nothing_lost Pair.noLibrary false subscription).2 hlength.2).1, hlength.1]
  rfl

end ClientEngine
end Rclweb
