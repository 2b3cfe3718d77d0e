import Rclweb.Gateway.Outbound
import Rclweb.Session.ActiveChannels

/-!
# What a handler leaves alone

Most of what a handler does changes nothing about the channels: it queues a message, advances a
counter, notes a sequence.  `Turn.Keeps` collects what all these steps leave alone: for every
channel its kind, entity and priority, how often an entity is held, the subject, the active
channels of the session, what was queued and a decision to close; and no sample is queued.  There
is one lemma for each way of queueing a message; the messages about channels have their own.
-/

namespace Rclweb

open Rclweb.Frame Control Transition

namespace Gateway

variable {jwt : JwtLibrary}

/-- What stays of a runtime for as long as its channel is open. -/
def ChannelRuntime.stem (runtime : ChannelRuntime) : OperationKind × EntityId × UInt8 :=
  (runtime.kind, runtime.entity, runtime.priority)

namespace ConnState

/-- How many channels hold an entity. -/
def held (conn : ConnState) (entity : EntityId) : ℕ :=
  conn.channels.count fun runtime => runtime.entity == entity

/-- What both peers see of the session. -/
abbrev view (conn : ConnState) : View := conn.session.inner.view

/-- The entity of a channel is held. -/
theorem held_pos {conn : ConnState} {id : UInt32} {runtime : ChannelRuntime}
    (h : conn.channels.find? id = some runtime) : 0 < conn.held runtime.entity := by
  rw [held, Table.count_remove h, if_pos (beq_self_eq_true runtime.entity)]
  exact Nat.succ_pos _

end ConnState

/-! ## Samples on the wire -/

/-- The header says that the bytes are a sample. -/
def IsSample (bytes : List UInt8) : Prop := (readHeader bytes).opcode = opcodeRosSample

instance (bytes : List UInt8) : Decidable (IsSample bytes) := by
  unfold IsSample
  infer_instance

theorem not_isSample_of_encodeFrame {header : FrameHeader} {area payload bytes : List UInt8}
    (hbytes : Encode.encodeFrame header area payload = .ok bytes)
    (hopcode : header.opcode ≠ opcodeRosSample) : ¬ IsSample bytes := by
  rw [IsSample, (encodeFrame_eq_ok_iff.mp hbytes).eq, readHeader_headerBytes]
  exact hopcode

theorem not_isSample_of_control {sequence : UInt64} {message : CborValue} {bytes : List UInt8}
    (hbytes : Encode.encodeControlFrame 0 sequence message = .ok bytes) : ¬ IsSample bytes := by
  obtain ⟨payload, -, hframe⟩ := encodeControlFrame_eq_ok hbytes
  exact not_isSample_of_encodeFrame (encodeFrame_eq_ok_iff.mpr hframe)
    (by simp only [controlHeader]; decide)

/-- The second byte of a bootstrap record is that of its magic. -/
theorem not_isSample_of_bootstrap {kind : UInt8} {payload : CborValue} {bytes : List UInt8}
    (hbytes : Encode.bootstrapRecord kind payload = .ok bytes) : ¬ IsSample bytes := by
  unfold Encode.bootstrapRecord at hbytes
  obtain ⟨body, -, hbytes⟩ := bind_eq_ok.mp hbytes
  split_ifs at hbytes
  obtain rfl := Except.ok.inj hbytes
  have hopcode (rest : List UInt8) : (readHeader (Bootstrap.magic ++ rest)).opcode = 50 := rfl
  rw [IsSample, List.append_assoc, List.append_assoc, List.append_assoc, hopcode]
  decide

namespace Turn

/-- **From `t` to `u` nothing about the channels changed.** -/
structure Keeps (t u : Turn) : Prop where
  runtime : ∀ id, (u.conn.channels.find? id).map ChannelRuntime.stem =
    (t.conn.channels.find? id).map ChannelRuntime.stem
  held : ∀ entity, u.conn.held entity = t.conn.held entity
  subject : u.conn.subject = t.conn.subject
  server : t.conn.session.inner.role = .server →
    u.conn.session.inner.role = .server ∧ t.conn.view.Quiet u.conn.view
  outbound : t.outcome.outbound <+: u.outcome.outbound
  close : t.outcome.close = true → u.outcome.close = true
  unsampled : (∀ b ∈ t.outcome.outbound, ¬ IsSample b) → ∀ b ∈ u.outcome.outbound, ¬ IsSample b

@[refl] theorem Keeps.refl (t : Turn) : t.Keeps t where
  runtime _ := rfl
  held _ := rfl
  subject := rfl
  server h := ⟨h, .refl _⟩
  outbound := List.prefix_refl _
  close h := h
  unsampled h := h

theorem Keeps.trans {t u w : Turn} (h : t.Keeps u) (h' : u.Keeps w) : t.Keeps w where
  runtime id := (h'.runtime id).trans (h.runtime id)
  held entity := (h'.held entity).trans (h.held entity)
  subject := h'.subject.trans h.subject
  server hrole :=
    have ⟨hu, hquiet⟩ := h.server hrole
    have ⟨hw, hquiet'⟩ := h'.server hu
    ⟨hw, hquiet.trans hquiet'⟩
  outbound := h.outbound.trans h'.outbound
  close hclose := h'.close (h.close hclose)
  unsampled hnone := h'.unsampled (h.unsampled hnone)

variable (t : Turn)

theorem keeps_close : t.Keeps t.close := { Keeps.refl t with close := fun _ => rfl }

theorem keeps_assertionFailed : t.Keeps t.assertionFailed :=
  { Keeps.refl t with close := fun _ => rfl }

theorem keeps_queue {bytes : List UInt8} (hbytes : ¬ IsSample bytes) : t.Keeps (t.queue bytes) :=
  { Keeps.refl t with
    outbound := List.prefix_append _ _
    unsampled := fun hnone b hb => by
      rcases List.mem_append.mp hb with hb | hb
      · exact hnone b hb
      · exact List.mem_singleton.mp hb ▸ hbytes }

variable {t}

/-- A change that does not concern channels, subject or session. -/
theorem keeps_modify {f : ConnState → ConnState} (hchannels : (f t.conn).channels = t.conn.channels)
    (hsubject : (f t.conn).subject = t.conn.subject)
    (hsession : (f t.conn).session = t.conn.session) : t.Keeps (t.modify f) where
  runtime id := by
    show ((f t.conn).channels.find? id).map _ = _
    rw [hchannels]
  held entity := by
    show (f t.conn).held entity = _
    rw [ConnState.held, hchannels]
    rfl
  subject := hsubject
  server h := by
    show (f t.conn).session.inner.role = _ ∧ t.conn.view.Quiet (f t.conn).session.inner.view
    rw [hsession]
    exact ⟨h, .refl _⟩
  outbound := List.prefix_refl _
  close h := h
  unsampled h := h

/-- A new session after a quiet act. -/
theorem keeps_session {f : ConnState → ConnState} (hchannels : (f t.conn).channels = t.conn.channels)
    (hsubject : (f t.conn).subject = t.conn.subject)
    (hserver : t.conn.session.inner.role = .server →
      (f t.conn).session.inner.role = .server ∧
        t.conn.view.Quiet (f t.conn).session.inner.view) : t.Keeps (t.modify f) where
  runtime id := by
    show ((f t.conn).channels.find? id).map _ = _
    rw [hchannels]
  held entity := by
    show (f t.conn).held entity = _
    rw [ConnState.held, hchannels]
    rfl
  subject := hsubject
  server := hserver
  outbound := List.prefix_refl _
  close h := h
  unsampled h := h

/-- A runtime is replaced by one of the same kind, entity and priority. -/
theorem keeps_setRuntime {id : UInt32} {runtime runtime' : ChannelRuntime}
    (h : t.conn.channels.find? id = some runtime) (hstem : runtime'.stem = runtime.stem) :
    t.Keeps (t.setRuntime id runtime') where
  runtime id' := by
    show ((t.conn.channels.set id runtime').find? id').map _ = _
    rw [Table.find?_set]
    split_ifs with hid
    · rw [hid, h]
      exact congrArg some hstem
    · rfl
  held entity := by
    refine Table.count_set_of_eq h ?_
    have hentity : runtime'.entity = runtime.entity := congrArg (fun s => s.2.1) hstem
    rw [hentity]
  subject := rfl
  server hrole := ⟨hrole, .refl _⟩
  outbound := List.prefix_refl _
  close h := h
  unsampled h := h

/-! ## Queueing messages -/

/-- What a recorded message does, when what it says is quiet. -/
theorem keeps_recorded {bytes : List UInt8} {session : Session} {f : ConnState → ConnState}
    (hrecorded : t.recorded bytes = some session) (hbytes : ¬ IsSample bytes)
    (hsession : (f t.conn).session = session)
    (hchannels : (f t.conn).channels = t.conn.channels)
    (hsubject : (f t.conn).subject = t.conn.subject)
    (hquiet : ∀ frame, parseFrame bytes defaultOptions = .ok frame →
      (Act.ofFrame .server frame).quiet = true) : t.Keeps ((t.modify f).queue bytes) := by
  refine Keeps.trans ?_ (keeps_queue _ hbytes)
  refine keeps_session hchannels hsubject fun hrole => ?_
  obtain ⟨frame, effects, hparse, hrecord⟩ := parse_of_recorded hrecorded
  obtain ⟨hserver, hstep⟩ := Session.recordSendFrame_ok hrole hrecord
  rw [hsession]
  exact ⟨hserver, View.step_quiet (hquiet frame hparse) hstep⟩

/-- The act a control message of the gateway is recorded as. -/
theorem ofFrame_ofControl (sender : Role) (sequence : UInt64) (payloadLen : UInt32)
    (msg : ControlMessage) :
    Act.ofFrame sender (ofControl sequence payloadLen msg) = Act.ofControl sender msg := by
  have hopcode : (ofControl sequence payloadLen msg).opcode = opcodeControlCbor := rfl
  rw [Act.ofFrame, if_pos hopcode]
  rfl

/-- **A control message that is not about a channel** keeps them. -/
theorem keeps_pushControl (t : Turn) {raw : List (UInt64 × CborValue)} {k : UInt64}
    (hk : raw.lookup 1 = some (.unsigned k))
    (hkind : k.toUInt8 ∉ [kindSessionReady, kindOpenChannel, kindChannelReady, kindCloseChannel]) :
    t.Keeps (t.pushControl (.map raw)).1 := by
  simp only [List.mem_cons, List.not_mem_nil, or_false, not_or] at hkind
  obtain ⟨hsession, hopen, hready, hclose⟩ := hkind
  unfold Turn.pushControl
  split
  · exact keeps_close t
  · next bytes hbytes =>
    split
    · exact keeps_assertionFailed t
    · next session hrecorded =>
      refine keeps_recorded hrecorded (not_isSample_of_control hbytes) rfl rfl rfl
        fun frame hparse => ?_
      obtain ⟨msg, payloadLen, hsendable, rfl⟩ := sendable_of_parse hbytes hparse
      have hmsg : msg.kind = k.toUInt8 := (hsendable.keeps hk).1
      rw [ofFrame_ofControl]
      exact Act.ofControl_quiet (hmsg ▸ hsession) (hmsg ▸ hopen) (hmsg ▸ hready) (hmsg ▸ hclose)

theorem keeps_pushAppFrame (t : Turn) {header : FrameHeader} (operationId : Option OperationId)
    (payload : List UInt8) (hopcode : header.opcode ∉ [opcodeControlCbor, opcodeRosSample]) :
    t.Keeps (t.pushAppFrame header operationId payload) := by
  simp only [List.mem_cons, List.not_mem_nil, or_false, not_or] at hopcode
  unfold Turn.pushAppFrame
  dsimp only
  split
  · exact keeps_close t
  · split
    · exact keeps_close t
    · next bytes hbytes =>
      split
      · exact keeps_assertionFailed t
      · next session hrecorded =>
        refine keeps_recorded hrecorded (not_isSample_of_encodeFrame hbytes hopcode.2) rfl rfl rfl
          fun frame hparse => Act.ofFrame_quiet ?_
        obtain ⟨_, _, rfl⟩ := header_of_parse hbytes hparse
        exact hopcode.1

theorem keeps_pushBootstrapError (t : Turn) (code : UInt8) (message : String) :
    t.Keeps (t.pushBootstrapError code message) := by
  unfold Turn.pushBootstrapError
  split
  · next hbytes => exact (keeps_queue t (not_isSample_of_bootstrap hbytes)).trans (keeps_close _)
  · exact keeps_close t

theorem keeps_sessionError (t : Turn) (correlation : List UInt8) (code : UInt8)
    (message : String) :
    t.Keeps (t.pushControl (sessionErrorWithCorrelation correlation code message)).1 :=
  keeps_pushControl t rfl (by decide)

theorem keeps_failSession (t : Turn) (err : ProtocolError) : t.Keeps (t.failSession err) := by
  unfold Turn.failSession
  split_ifs
  · exact (keeps_sessionError t _ _ _).trans (keeps_close _)
  · exact (keeps_pushBootstrapError t _ _).trans (keeps_close _)

theorem keeps_pushChannelError (t : Turn) (channelId : UInt32) (err : BackendError) :
    t.Keeps (t.pushChannelError channelId err) :=
  keeps_pushControl t rfl (by decide)

theorem keeps_handleHeartbeat (t : Turn) : t.Keeps t.handleHeartbeat :=
  (keeps_modify rfl rfl rfl).trans (keeps_pushControl _ rfl (by decide))

theorem keeps_pushGraphDelta (t : Turn) (config : GatewayConfig jwt)
    (endpoint : GraphEndpointInfo) : t.Keeps (t.pushGraphDeltaForEndpoint config endpoint) := by
  unfold Turn.pushGraphDeltaForEndpoint
  split
  · exact .refl t
  · next base _ =>
    have hpush : t.Keeps (t.pushControl (graphDelta config zeroCorrelation base
        (saturatingSucc base) [graphDeltaAddEndpoint endpoint config.supportRow])).1 :=
      keeps_pushControl t rfl (by decide)
    dsimp only
    split
    · next u hu =>
      rw [hu] at hpush
      exact hpush.trans (keeps_modify rfl rfl rfl)
    · next u hu =>
      rw [hu] at hpush
      exact hpush

theorem keeps_graphSnapshot (t : Turn) (config : GatewayConfig jwt) (generation : UInt64)
    (view : GraphView) :
    t.Keeps (t.pushControl (graphSnapshot config zeroCorrelation generation view)).1 :=
  keeps_pushControl t rfl (by decide)

/-- An operation frame keeps the channels. -/
theorem keeps_pushOperation {channelId : UInt32} {runtime : ChannelRuntime}
    (h : t.conn.channels.find? channelId = some runtime) {opcode : UInt8}
    (hopcode : opcode ∉ [opcodeControlCbor, opcodeRosSample]) (opid : OperationId)
    (payload : List UInt8) :
    t.Keeps (t.pushOperation channelId runtime opcode opid payload) := by
  have hset : t.Keeps (t.setRuntime channelId (nextOpSeqOut runtime opid).2) :=
    keeps_setRuntime h rfl
  refine hset.trans ?_
  unfold pushOperation
  exact keeps_pushAppFrame _ _ _ hopcode

/-! ## Messages about channels -/

/-- **`u` gives up where `t` was**: the connection closes as it is. -/
structure GivesUp (t u : Turn) : Prop where
  close : u.outcome.close = true
  conn : u.conn = t.conn
  outbound : u.outcome.outbound = t.outcome.outbound

/-- **What pushing a control message does**: it fails, and the connection closes as it is, or the
message is recorded and queued. -/
theorem pushControl_cases (t : Turn) (message : CborValue) :
    (t.pushControl message).2 = false ∧ t.GivesUp (t.pushControl message).1 ∨
      ∃ bytes session frame msg effects sequence payloadLen,
        t.pushControl message = ((t.modify fun c =>
          { c with session := session, controlSeqOut := c.controlSeqOut + 1 }).queue bytes, true) ∧
        parseFrame bytes defaultOptions = .ok frame ∧ Sendable message msg ∧
        frame = ofControl sequence payloadLen msg ∧
        t.conn.session.recordSendFrame frame = (.ok effects, session) ∧ ¬ IsSample bytes := by
  unfold Turn.pushControl
  split
  · exact .inl ⟨rfl, rfl, rfl, rfl⟩
  · next bytes hbytes =>
    split
    · exact .inl ⟨rfl, rfl, rfl, rfl⟩
    · next session hrecorded =>
      obtain ⟨frame, effects, hparse, hrecord⟩ := parse_of_recorded hrecorded
      obtain ⟨msg, payloadLen, hsendable, hframe⟩ := sendable_of_parse hbytes hparse
      exact .inr ⟨bytes, session, frame, msg, effects, _, payloadLen, rfl, hparse, hsendable,
        hframe, hrecord, not_isSample_of_control hbytes⟩

/-- What a ChannelReady for a channel says to the session. -/
theorem ofControl_channelReady {msg : ControlMessage} {id : UInt32} {result : UInt64}
    {r : ChannelResult} (hkind : msg.kind = kindChannelReady)
    (hid : msg.get 29 = some (.unsigned id.toUInt64))
    (hresult : msg.get 33 = some (.unsigned result)) (hle : ¬ result > 255)
    (hr : ChannelResult.fromU8 result.toUInt8 = some r) :
    Act.ofControl .server msg = .ready (.channel id (.ready r.isSuccess)) := by
  have hfield : Transition.fieldUint msg fieldChannelId = some id.toUInt64 := by
    rw [Transition.fieldUint, show msg.get fieldChannelId = _ from hid]
  have hfield' : Transition.fieldUint msg fieldChannelResult = some result := by
    rw [Transition.fieldUint, show msg.get fieldChannelResult = _ from hresult]
  have hwrong : wrongSender kindChannelReady .server = false := by decide
  have hact : Act.ofControl .server msg = .ready (Act.ofChannelReady msg) := by
    unfold Act.ofControl
    rw [hkind, hwrong]
    rfl
  rw [hact, Act.ofChannelReady, hfield, hfield']
  dsimp only
  rw [if_neg hle, hr, UInt32.toUInt32_toUInt64]

/-- **Pushing a ChannelReady** for a pending channel: it fails, and the connection closes as it
is, or the channel becomes active or failed. -/
theorem pushControl_channelReady {t : Turn} {id : UInt32} (raw : List (UInt64 × CborValue))
    {result : UInt64} {r : ChannelResult} {kind : OperationKind}
    (hserver : t.conn.session.inner.role = .server)
    (hpending : t.conn.view.channel id = some (.pending, kind))
    (hk : raw.lookup 1 = some (.unsigned 9)) (hid : raw.lookup 29 = some (.unsigned id.toUInt64))
    (hresult : raw.lookup 33 = some (.unsigned result)) (hle : ¬ result > 255)
    (hr : ChannelResult.fromU8 result.toUInt8 = some r) :
    (t.pushControl (.map raw)).2 = false ∧ t.GivesUp (t.pushControl (.map raw)).1 ∨
      ∃ bytes session msg,
        t.pushControl (.map raw) = ((t.modify fun c =>
          { c with session := session, controlSeqOut := c.controlSeqOut + 1 }).queue bytes, true) ∧
        session.inner.role = .server ∧
        session.inner.view = t.conn.view.setChannel id
          (some (if r.isSuccess then .active else .failed, kind)) ∧
        (∃ frame, parseFrame bytes defaultOptions = .ok frame ∧ frame.payload = .control msg) ∧
        msg.kind = kindChannelReady ∧ msg.get 29 = some (.unsigned id.toUInt64) ∧
        msg.get 33 = some (.unsigned result) ∧ ¬ IsSample bytes := by
  rcases pushControl_cases t (.map raw) with hfail | ⟨bytes, session, frame, msg, effects, sequence,
    payloadLen, hpush, hparse, hsendable, rfl, hrecord, hbytes⟩
  · exact .inl hfail
  · right
    obtain ⟨hkind, hkept⟩ := hsendable.keeps hk
    have hmsgId : msg.get 29 = some (.unsigned id.toUInt64) := (hkept 29).2 _ hid
    have hmsgResult : msg.get 33 = some (.unsigned result) := (hkept 33).2 _ hresult
    obtain ⟨hrole, hstep⟩ := Session.recordSendFrame_ok hserver hrecord
    rw [ofFrame_ofControl, ofControl_channelReady hkind hmsgId hmsgResult hle hr] at hstep
    obtain ⟨-, hstep⟩ := Option.ite_none_right_eq_some.mp hstep
    rw [View.readyStep, hpending] at hstep
    exact ⟨bytes, session, msg, hpush, hrole, (Option.some.inj hstep).symm, ⟨_, hparse, rfl⟩, hkind,
      hmsgId, hmsgResult, hbytes⟩

/-- **Pushing a SessionReady**: it fails, and the connection closes as it is, or the session is
ready. -/
theorem pushControl_sessionReady {t : Turn} (raw : List (UInt64 × CborValue))
    (hserver : t.conn.session.inner.role = .server)
    (hk : raw.lookup 1 = some (.unsigned 2)) :
    (t.pushControl (.map raw)).2 = false ∧ t.GivesUp (t.pushControl (.map raw)).1 ∨
      ∃ bytes session msg,
        t.pushControl (.map raw) = ((t.modify fun c =>
          { c with session := session, controlSeqOut := c.controlSeqOut + 1 }).queue bytes, true) ∧
        session.inner.role = .server ∧
        session.inner.view = { t.conn.view with phase := .ready } ∧
        (∃ frame, parseFrame bytes defaultOptions = .ok frame ∧ frame.payload = .control msg) ∧
        msg.kind = kindSessionReady ∧ ¬ IsSample bytes := by
  rcases pushControl_cases t (.map raw) with hfail | ⟨bytes, session, frame, msg, effects, sequence,
    payloadLen, hpush, hparse, hsendable, rfl, hrecord, hbytes⟩
  · exact .inl hfail
  · right
    obtain ⟨hkind, -⟩ := hsendable.keeps hk
    obtain ⟨hrole, hstep⟩ := Session.recordSendFrame_ok hserver hrecord
    have hact : Act.ofControl .server msg = .sessionReady := by
      have hwrong : wrongSender (UInt64.toUInt8 2) .server = false := by decide
      unfold Act.ofControl
      rw [hkind, hwrong]
      rfl
    rw [ofFrame_ofControl, hact] at hstep
    obtain ⟨-, hstep⟩ := Option.ite_none_right_eq_some.mp hstep
    exact ⟨bytes, session, msg, hpush, hrole, (Option.some.inj hstep).symm, ⟨_, hparse, rfl⟩, hkind,
      hbytes⟩

end Turn
end Gateway
end Rclweb
