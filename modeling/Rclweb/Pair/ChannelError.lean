import Rclweb.Engine.Outbound
import Rclweb.Pair.System
import Rclweb.Session.Precedence

/-!
# Errors of channel scope

An Error with channel scope is meant to end one channel.  In the ready phase it does so only
while the channel it names waits for its ChannelReady.  On an active channel, where the gateway
reports failures of its backend, the session machine reports a session error, and the client
engine closes the connection; the recorded sessions of the two sides agree all the same, since
neither of them changes.
-/

namespace Rclweb

open Rclweb.Frame Control Transition OrderedCheck Engine Gateway

namespace Pair

/-- A control Error of channel scope. -/
structure IsChannelError (frame : DecodedFrame) (msg : ControlMessage) : Prop where
  control : controlOf frame = some msg
  kind : msg.kind = kindError
  scope : Transition.fieldUint msg fieldErrorScope = some 1

/-- The channel an Error names. -/
def errorChannel (msg : ControlMessage) : Option UInt32 :=
  (Transition.fieldUint msg fieldChannelId).map UInt64.toUInt32

/-- The Error names a channel that waits for its ChannelReady. -/
def NamesPending (s : SessionState) (msg : ControlMessage) : Prop :=
  ∃ id, errorChannel msg = some id ∧ s.channels.state id = .pending

/-- **The Error stays on its channel**: no session error, and no other channel changes. -/
def StaysOnChannel (s : SessionState) (frame : DecodedFrame) (msg : ControlMessage)
    (sender : Role) : Prop :=
  ∀ f s', applyFrame s frame sender = (.ok f, s') →
    f.sessionError = false ∧
      ∀ id, errorChannel msg ≠ some id → s'.channels.state id = s.channels.state id

variable {s : SessionState} {frame : DecodedFrame} {msg : ControlMessage} {sender : Role}

variable (sender) in
/-- A ready session accepts the Error, and reports a session error unless its channel is
pending. -/
theorem applyFrame_channelError (hready : s.phase = .ready) (h : IsChannelError frame msg) :
    ∃ f s', applyFrame s frame sender = (.ok f, s') ∧
      (f.sessionError = false ↔ NamesPending s msg) ∧
      ∀ id, errorChannel msg ≠ some id → s'.channels.state id = s.channels.state id := by
  have happly : applyFrame s frame sender = applyReadyError s msg (errorChannel msg) := by
    rw [applyFrame_error h.control (live_of_ready hready) h.kind]
    simp [applyError, hready, SessionPhase.isReady, h.scope, errorChannel]
  rw [happly]
  cases hid : errorChannel msg with
  | none => exact ⟨_, _, rfl, by simp [NamesPending, hid], fun _ _ => rfl⟩
  | some id =>
    by_cases hpending : s.channels.state id = .pending
    · refine ⟨_, _, if_pos hpending, by simp [NamesPending, hid, hpending], fun id' hne => ?_⟩
      have hne' : id' ≠ id := fun heq => hne (by rw [heq])
      simp [ChannelTable.state, ChannelTable.get_setState, hne']
    · exact ⟨_, _, if_neg hpending, by simp [NamesPending, hid, hpending], fun _ _ => rfl⟩

theorem staysOnChannel_iff (hready : s.phase = .ready) (h : IsChannelError frame msg) :
    StaysOnChannel s frame msg sender ↔ NamesPending s msg := by
  obtain ⟨f, s', happly, herror, hothers⟩ := applyFrame_channelError sender hready h
  rw [← herror]
  constructor
  · intro hstays
    exact (hstays f s' happly).1
  · intro hquiet f' s'' happly'
    rw [happly] at happly'
    obtain ⟨hf, rfl⟩ := Prod.mk.inj happly'
    obtain rfl := Except.ok.inj hf
    exact ⟨hquiet, hothers⟩

/-- The engine closes on a session error and on no other accepted Error. -/
theorem closed_handleError (t : Engine.Turn) (fields : Fields) (effects : SessionEffects) :
    (t.handleError fields effects).engine.closed = (effects.sessionError || t.engine.closed) := by
  unfold Engine.Turn.handleError
  cases effects.sessionError with
  | true => rfl
  | false =>
    rw [if_neg (by simp)]
    split <;> rfl

theorem session_handleError (t : Engine.Turn) (fields : Fields) (effects : SessionEffects) :
    (t.handleError fields effects).engine.session = t.engine.session := by
  unfold Engine.Turn.handleError
  split
  · rfl
  · split <;> rfl

/-- An Error in turn reaches its handler, and the buffers do not matter. -/
theorem poll_error (lib : Library) (wasm32 : Bool) {e : ClientEngine} (bufferId : UInt32)
    {bytes : List UInt8} {effects : SessionEffects} {session : Session}
    (hready : e.session.phase = .ready) (hopen : e.closed = false)
    (hparse : parseFrame bytes defaultOptions = .ok frame)
    (hcontrol : controlOf frame = some msg) (hkind : msg.kind = kindError)
    (hseq : frame.sequence = UInt64.ofNat e.controlSeqIn)
    (hingest : e.session.ingestFrame frame = (.ok effects, session)) :
    (e.poll lib wasm32 [.wsBytes bufferId bytes]).1.closed = effects.sessionError ∧
      (e.poll lib wasm32 [.wsBytes bufferId bytes]).1.session = session := by
  obtain ⟨hopcode, hpayload⟩ := opcode_of_controlOf hcontrol
  obtain ⟨hlinkPoll, -⟩ := ClientEngine.poll_wsBytes lib wasm32 e bufferId bytes hopen
    (by rw [hready]; rfl)
  set r := Engine.Turn.retain ⟨e, {}⟩ bufferId bytes
  have hlink : r.2.engine.link = e.link := Engine.Turn.link_retain ..
  have hsession : r.2.engine.session = e.session := congrArg Link.session hlink
  have hframe := ClientEngine.handleFrame_control lib wasm32 r.1 hparse hopcode hpayload
    (by rw [hsession]; exact hingest)
    (by rw [hseq]; exact congrArg UInt64.ofNat (congrArg Link.controlSeqIn hlink).symm)
  set u := r.2.modify fun c =>
    { c with session := session, controlSeqIn := c.controlSeqIn + 1 }
  have hhandle : u.handleControl msg effects = u.handleError msg.fields effects := by
    unfold Engine.Turn.handleControl
    rw [hkind, if_neg (by decide), if_neg (by decide), if_neg (by decide), if_neg (by decide),
      if_neg (by decide), if_pos rfl]
  rw [hframe, hhandle] at hlinkPoll
  have hclosed : u.engine.closed = false := (congrArg Link.closed hlink).trans hopen
  constructor
  · refine (congrArg Link.closed hlinkPoll).trans ?_
    rw [ClientEngine.link, closed_handleError, hclosed, Bool.or_false]
  · exact (congrArg Link.session hlinkPoll).trans (session_handleError u _ _)

/-- **An Error of channel scope stays on its channel exactly while the channel is pending**; the
client engine stays open exactly then, and its session agrees with the one the gateway recorded
the Error in either way. -/
theorem channelError_iff_pending (s : SessionState) (frame : DecodedFrame) (msg : ControlMessage)
    (sender : Role) (hready : s.phase = .ready) (herror : IsChannelError frame msg) :
    (StaysOnChannel s frame msg sender ↔ NamesPending s msg) ∧
      ∀ (lib : Library) (wasm32 : Bool) (e : ClientEngine) (bufferId : UInt32)
        (bytes : List UInt8),
        e.session.inner = s → s.role = .client → e.closed = false →
        parseFrame bytes defaultOptions = .ok frame →
        frame.sequence = UInt64.ofNat e.controlSeqIn →
        ((e.poll lib wasm32 [.wsBytes bufferId bytes]).1.closed = false ↔ NamesPending s msg) ∧
          ∀ g : Session, g.inner.role = .server → g.inner.view = s.view →
            (g.recordSendFrame frame).2.inner.view =
              (e.poll lib wasm32 [.wsBytes bufferId bytes]).1.session.inner.view := by
  refine ⟨staysOnChannel_iff hready herror, ?_⟩
  rintro lib wasm32 e bufferId bytes rfl hrole hopen hparse hseq
  obtain ⟨f, s', happly, hflag, -⟩ := applyFrame_channelError .server hready herror
  have hingest : e.session.ingestFrame frame = (.ok f, ⟨s'⟩) := by
    rw [Session.ingestFrame, hrole]
    exact congrArg Session.ofOutcome happly
  obtain ⟨hclosed, hsession⟩ := poll_error lib wasm32 bufferId hready hopen hparse herror.control
    herror.kind hseq hingest
  refine ⟨by rw [hclosed, hflag], fun g hserver hview => ?_⟩
  -- both sides take the same step of the shared view
  have hclient := Session.apply_refines e.session.inner (.frame frame) .server
  have hgateway := Session.apply_refines g.inner (.frame frame) .server
  simp only [Session.apply, happly, Refines] at hclient
  rw [hview, hclient.1] at hgateway
  rw [hsession, Session.recordSendFrame, hserver]
  simp only [Session.apply, Refines] at hgateway
  simp only [Session.ofOutcome]
  split at hgateway
  · exact Option.some.inj hgateway.1.symm
  · exact absurd hgateway.1 (by simp)

/-! ## A failed service call -/

/-- A backend whose calls fail. -/
def failingBackend : (op : BackendOp) → op.Answer
  | .call _ _ _ => (Except.error ⟨13, "call_failed"⟩ : Except BackendError (List UInt8))
  | op => sampleBackend op

/-- The settings of a service client on channel 1. -/
def serviceClient : EndpointOptions := ⟨zeroCorrelation, 1, "/name", "pkg/Type", 0, true⟩

/-- A service client, and a call the backend fails: its Error is on the way to the client. -/
def failedCall : List Move :=
  handshake ++ command (.openService serviceClient) 1 ++
    [Move.host (.command (.callService 1 (sampleOpid 9) [1, 2, 3])), Move.toGateway failingBackend]

/-- Whether bytes are an Error of channel scope, for a client that is ready and open. -/
def isFailing (p : Pair) : Bool :=
  p.engine.session.phase == .ready && !p.engine.closed &&
    match p.toClient with
    | [bytes] =>
      match parseFrame bytes defaultOptions with
      | .ok frame =>
        (controlOf frame).any (fun msg => msg.kind == kindError &&
          Transition.fieldUint msg fieldErrorScope == some 1) &&
        (p.engine.poll noLibrary false [.wsBytes 0 bytes]).1.closed
      | .error _ => false
    | _ => false

theorem of_isFailing {p : Pair} (h : isFailing p = true) :
    p.engine.session.phase = .ready ∧ p.engine.closed = false ∧ ∃ bytes frame msg,
      p.toClient = [bytes] ∧ parseFrame bytes defaultOptions = .ok frame ∧
        IsChannelError frame msg ∧
        (p.engine.poll noLibrary false [.wsBytes 0 bytes]).1.closed = true := by
  simp only [isFailing, Bool.and_eq_true, beq_iff_eq, Bool.not_eq_true'] at h
  obtain ⟨⟨hready, hopen⟩, h⟩ := h
  refine ⟨hready, hopen, ?_⟩
  split at h
  · next bytes hbox =>
    split at h
    · next frame hparse =>
      rw [Bool.and_eq_true, Option.any_eq_true] at h
      obtain ⟨⟨msg, hcontrol, hmsg⟩, hclosed⟩ := h
      rw [Bool.and_eq_true, beq_iff_eq, beq_iff_eq] at hmsg
      exact ⟨bytes, frame, msg, hbox, hparse, ⟨hcontrol, hmsg.1, hmsg.2⟩, hclosed⟩
    · contradiction
  · contradiction

/-- The Error of a failed service call closes the client's connection. -/
theorem not_open_of_failedCall :
    ¬ ∀ p, Reachable sampleSetup p → p.engine.session.phase = .ready → p.engine.closed = false →
      ∀ bytes rest frame msg, p.toClient = bytes :: rest →
        parseFrame bytes defaultOptions = .ok frame → IsChannelError frame msg →
        (p.engine.poll noLibrary false [.wsBytes 0 bytes]).1.closed = false := by
  intro h
  obtain ⟨p, hreach, hcheck⟩ := reachable_of_check failedCall isFailing (by decide +kernel)
  obtain ⟨hready, hopen, bytes, frame, msg, hbox, hparse, herror, hclosed⟩ := of_isFailing hcheck
  have hstays := h p hreach hready hopen bytes [] frame msg hbox hparse herror
  rw [hclosed] at hstays
  contradiction

/-- The Error of an OpenChannel that waits for its answer stays on its channel. -/
theorem channelError_of_pending :
    ∃ s frame msg, s.channels.state 1 = .pending ∧ IsChannelError frame msg ∧
      (StaysOnChannel s frame msg .server ↔ NamesPending s msg) := by
  let s : SessionState :=
    { SessionState.new .client with
      phase := .ready, channels := ChannelTable.empty.insertPending 1 .topicSubscribe [] }
  let frame : DecodedFrame := TwoPeer.controlFrame kindError
    [(29, .unsigned 1), (48, .unsigned 25), (49, .unsigned 1)]
  obtain ⟨msg, hcontrol, hkind, hscope⟩ : ∃ msg, controlOf frame = some msg ∧
      msg.kind = kindError ∧ Transition.fieldUint msg fieldErrorScope = some 1 :=
    ⟨_, rfl, rfl, rfl⟩
  exact ⟨s, frame, msg, rfl, ⟨hcontrol, hkind, hscope⟩,
    (channelError_iff_pending s frame msg .server rfl ⟨hcontrol, hkind, hscope⟩).1⟩

end Pair
end Rclweb
