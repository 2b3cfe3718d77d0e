import Rclweb.Engine.SequenceDomains
import Rclweb.Engine.SessionRuns

/-!
# Unsubscribing

Unsubscribing sends a CloseChannel and forgets the channel.  Its command takes any channel id and
removes it from the pending opens as well as from the tables of active channels, but the message
has to be recorded as sent before, and the session machine takes a CloseChannel of an active
channel only.  A message that cannot be recorded counts as one that could not be encoded, which
closes the engine.  So the command does what it is for exactly on active channels; between
OpenChannel and ChannelReady it ends the whole session (`unsubscribed_iff_active`).
-/

namespace Rclweb

open Rclweb.Frame Control Transition Encode

/-! ## The message -/

/-- A CloseChannel of any channel but 0 survives its own check. -/
theorem sendable_closeChannel (correlation : ByteArrayOf 16) {channelId : UInt32}
    (hid : channelId ≠ 0) :
    ∃ msg, Sendable (Engine.closeChannel correlation channelId) msg ∧
      msg.kind = kindCloseChannel ∧
        fieldUint msg fieldChannelId = some channelId.toUInt64 := by
  have hnodup : ([1, 2, 29, 34] : List UInt64).Nodup := by decide
  have hk : List.lookup 1 [((1 : UInt64), CborValue.unsigned 10), (2, .bytes correlation.1),
      (29, .unsigned channelId.toUInt64), (34, .unsigned 1)] = some (.unsigned 10) := rfl
  have hpos : 1 ≤ channelId.toNat := by
    rcases Nat.eq_zero_or_pos channelId.toNat with hzero | hpos
    · exact absurd (UInt32.toNat_inj.mp hzero) hid
    · exact hpos
  have hlt : channelId.toNat ≤ uint32Max := Nat.le_of_lt_succ channelId.toNat_lt
  have haccepts : Accepts (validateSchema closeChannelSchema)
      (Engine.closeChannel correlation channelId) := by
    rw [validateSchema, closeChannelSchema, Engine.closeChannel, map, accepts_mapDyn]
    refine ⟨hnodup, by simp, ?_⟩
    simp [AcceptsField, req, opt, bytes16, bytes, appChannelId, closeReason, uint64, u, hpos, hlt,
      correlation.2, List.lookup_cons]
    exact fun h => absurd h (by decide)
  obtain ⟨msg, hmsg⟩ := (validateControlMessage_accepts hk (by decide) rfl (by decide)
    (by decide)).mpr ⟨hnodup, haccepts⟩
  obtain ⟨hkind, hkept⟩ := validateControlMessage_keeps hk hmsg
  refine ⟨msg, ⟨?_, ?_, hmsg⟩, hkind, ?_⟩
  · rw [Engine.closeChannel, encodes_map_iff]
    exact ⟨by decide, by simp [Cbor.maxMapEntries], hnodup, by simp⟩
  · have hhead := CborValue.headSize_le channelId.toNat
    simp [Engine.closeChannel, CborValue.size, CborValue.sizeEntries, CborValue.sizeEntry,
      controlPayloadMaxBytes, CborValue.headSize, correlation.2] at hhead ⊢
    omega
  · rw [fieldUint, show msg.get fieldChannelId = _ from (hkept 29).2 _ rfl]

/-- **A CloseChannel of an active channel is recorded**: the channel is closed. -/
theorem recordSendFrame_closeChannel {s : Session} {frame : DecodedFrame} {msg : ControlMessage}
    (hready : s.phase = .ready) (hopcode : frame.opcode = opcodeControlCbor)
    (hpayload : frame.payload = .control msg) (hkind : msg.kind = kindCloseChannel)
    {channelId : UInt32} (hfield : fieldUint msg fieldChannelId = some channelId.toUInt64)
    (hactive : s.channelState channelId = .active) :
    s.recordSendFrame frame = (.ok { channelClosed := some channelId },
      ⟨{ s.inner with channels := s.inner.channels.setState channelId .closed }⟩) := by
  have hphase : s.inner.phase = .ready := hready
  have hstate : s.inner.channels.state channelId = .active := hactive
  have hsender : wrongSender kindCloseChannel s.inner.role = false := by
    cases s.inner.role <;> decide
  have hclose : applyCloseChannel s.inner msg = accept
      { s.inner with channels := s.inner.channels.setState channelId .closed }
      { channelClosed := some channelId } := by
    unfold applyCloseChannel
    rw [hfield]
    dsimp only
    rw [UInt32.toUInt32_toUInt64, hstate]
  have happly : applyControl s.inner msg s.inner.role = applyCloseChannel s.inner msg := by
    unfold applyControl
    rw [hkind, hsender]
    simp [hphase, kindSessionResume, kindSessionResumeResult, kindAuthenticate,
      kindSessionReady, kindError, kindOpenChannel, kindChannelReady, kindCloseChannel]
  rw [Session.recordSendFrame, applyFrame]
  simp [hphase, hopcode, hpayload, happly, hclose, SessionPhase.isTerminal,
    SessionPhase.inSelectedPlane, Session.ofOutcome, accept]

namespace Engine

/-! ## What the command should do -/

/-- An event that tells the host of the end of the session. -/
def AppEvent.endsSession : AppEvent → Bool
  | .error _ _ | .closed _ => true
  | _ => false

end Engine

namespace ClientEngine

/-- What the engine holds of a channel: the entry of the pending opens and those of the four
tables of active channels. -/
def entries (e : ClientEngine) (id : UInt32) : Option Engine.PendingOpen ×
    Option Engine.PendingOpen × Option Engine.ActivePublish × Option Engine.ActiveOperations ×
      Option Engine.ActiveOperations :=
  (e.pendingOpens.find? id, e.activeSubscribes.find? id, e.activePublishes.find? id,
    e.activeServices.find? id, e.activeActions.find? id)

theorem entries_removeAll (e : ClientEngine) (id id' : UInt32) :
    ({ e with
        pendingOpens := e.pendingOpens.remove id
        activeSubscribes := e.activeSubscribes.remove id
        activePublishes := e.activePublishes.remove id
        activeServices := e.activeServices.remove id
        activeActions := e.activeActions.remove id } : ClientEngine).entries id' =
      if id' = id then (none, none, none, none, none) else e.entries id' := by
  simp only [entries, Table.find?_remove]
  split_ifs <;> rfl

end ClientEngine

namespace Engine
namespace Turn

/-- **A channel is unsubscribed and nothing else happened**: the engine is still open and has told
nobody of an end, it holds nothing of the channel any more, and the other channels are as they
were. -/
structure Unsubscribed (t u : Turn) (id : UInt32) : Prop where
  stays_open : u.engine.closed = false
  quiet : ∃ events, u.outcome.events = t.outcome.events ++ events ∧
    ∀ event ∈ events, event.endsSession = false
  removed : u.engine.entries id = (none, none, none, none, none)
  others : ∀ other, other ≠ id →
    u.engine.session.channelState other = t.engine.session.channelState other ∧
      u.engine.entries other = t.engine.entries other

variable {t u : Turn} {id : UInt32}

theorem engine_pushOutbound (t : Turn) (bytes : List UInt8) :
    ∃ n, (t.pushOutbound bytes).engine = { t.engine with nextBufferId := n } ∧
      (t.pushOutbound bytes).outcome.events = t.outcome.events := by
  unfold pushOutbound
  split_ifs
  · exact ⟨t.engine.nextBufferId, rfl, rfl⟩
  · exact ⟨_, rfl, rfl⟩

/-- The command on an active channel. -/
theorem unsubscribed_of_active (hopen : t.engine.closed = false)
    (hready : t.engine.session.phase = .ready) (correlation : ByteArrayOf 16) (hid : id ≠ 0)
    (hactive : t.engine.session.channelState id = .active) :
    t.Unsubscribed (t.unsubscribe correlation id) id := by
  obtain ⟨msg, hsendable, hkind, hfield⟩ := sendable_closeChannel correlation hid
  obtain ⟨bytes, -, hpush⟩ := t.pushControl_of_sendable hsendable fun _ =>
    recordSendFrame_closeChannel hready rfl rfl hkind hfield hactive
  rw [unsubscribe, hpush]
  dsimp only
  generalize hw : (t.modify fun e => { e with
    session := ⟨{ t.engine.session.inner with
      channels := t.engine.session.inner.channels.setState id .closed }⟩
    controlSeqOut := e.controlSeqOut + 1 }) = w
  obtain ⟨n, hengine, hevents⟩ := w.engine_pushOutbound bytes
  have hentries (id' : UInt32) : w.engine.entries id' = t.engine.entries id' := by
    rw [← hw]
    rfl
  refine ⟨?_, ⟨[], ?_, nofun⟩, ?_, fun other hother => ⟨?_, ?_⟩⟩
  · show (w.pushOutbound bytes).engine.closed = false
    rw [hengine, ← hw]
    exact hopen
  · show (w.pushOutbound bytes).outcome.events = _
    rw [hevents, ← hw, List.append_nil]
    rfl
  · exact ((w.pushOutbound bytes).engine.entries_removeAll id id).trans (if_pos rfl)
  · show (w.pushOutbound bytes).engine.session.channelState other = _
    rw [hengine, ← hw]
    show (((t.engine.session.inner.channels.setState id .closed).get other).map _).getD _ = _
    rw [ChannelTable.get_setState, if_neg hother]
    rfl
  · refine ((w.pushOutbound bytes).engine.entries_removeAll id other).trans ?_
    rw [if_neg hother, hengine]
    exact hentries other

/-- **The command on any other channel** closes the engine. -/
theorem closed_of_unsubscribe (correlation : ByteArrayOf 16)
    (hinactive : t.engine.session.channelState id ≠ .active) :
    (t.unsubscribe correlation id).engine.closed = true := by
  unfold unsubscribe
  split
  · rfl
  · next u hpush =>
    obtain ⟨msg, effects, session, hsendable, happly, -⟩ := pushControl_some hpush
    obtain ⟨hmsg, hkept⟩ := hsendable.keeps (k := 10) rfl
    obtain ⟨named, kind, hnamed, hactive, -⟩ :=
      applyCloseChannel_ok (applyControl_closeChannel hmsg happly)
    obtain rfl : named = id :=
      Option.some.inj (hnamed.symm.trans (namedChannel_of_kept hkept rfl))
    refine absurd ?_ hinactive
    rw [Session.channelState, SessionState.state_eq, hactive]
    rfl

theorem active_of_unsubscribed {correlation : ByteArrayOf 16}
    (h : t.Unsubscribed (t.unsubscribe correlation id) id) :
    t.engine.session.channelState id = .active := by
  by_contra hinactive
  have hclosed := closed_of_unsubscribe correlation hinactive
  exact absurd (h.stays_open.symm.trans hclosed) Bool.noConfusion

/-! ## Every command of every run -/

/-- The sessions of a batch come from that of its first turn. -/
theorem calls_of_mem_steps {lib : Library} {wasm32 : Bool} {events : List HostEvent}
    {p : Turn × HostEvent} (hp : p ∈ steps lib wasm32 t events) : t.Calls p.1 := by
  induction events generalizing t with
  | nil => cases hp
  | cons event events ih =>
    rw [steps] at hp
    rcases List.mem_cons.mp hp with rfl | hp
    · exact .refl t
    · split_ifs at hp
      · cases hp
      · exact (calls_handleEvent lib wasm32 event).trans (ih hp)

end Turn
end Engine

namespace ClientEngine

open Engine Turn

/-- The turns of every run are open, and the session in them is a client's after some calls. -/
theorem Reachable.open_of_mem_steps {lib : Library} {wasm32 : Bool}
    {allowed : ClientEngine → List HostEvent → Bool} {e : ClientEngine}
    (h : Reachable lib wasm32 allowed e) {events : List HostEvent} {p : Turn × HostEvent}
    (hp : p ∈ e.steps lib wasm32 events) :
    p.1.engine.closed = false ∧
      ∃ cs, p.1.engine.session = (Session.new .client).calls cs := by
  unfold ClientEngine.steps at hp
  split_ifs at hp with hclosed
  · cases hp
  · obtain ⟨cs, hcs⟩ := h.calls
    obtain ⟨cs', hcs'⟩ := calls_of_mem_steps hp
    refine ⟨Turn.open_of_mem_steps lib wasm32 (Bool.eq_false_of_not_eq_true hclosed) hp,
      cs ++ cs', ?_⟩
    rw [hcs', Session.calls, Session.calls, List.foldl_append]
    exact congrArg (Session.calls · cs') hcs

/-- **When unsubscribing does what it is for.**  In every run, an Unsubscribe that is handled in a
ready session for a channel that is pending or active leaves the engine open and everything else
alone if and only if the channel is active. -/
theorem unsubscribed_iff_active (lib : Library) (wasm32 : Bool) {e : ClientEngine}
    (hreach : Reachable lib wasm32 (fun _ _ => true) e) {events : List HostEvent} {t : Turn}
    {correlation : ByteArrayOf 16} {id : UInt32}
    (ht : (t, .command (.unsubscribe correlation id)) ∈ e.steps lib wasm32 events)
    (hready : t.engine.session.phase = .ready)
    (hid : t.engine.session.channelState id = .pending ∨
      t.engine.session.channelState id = .active) :
    t.Unsubscribed (handleEvent lib wasm32 t (.command (.unsubscribe correlation id))) id ↔
      t.engine.session.channelState id = .active := by
  obtain ⟨hopen, cs, hcs⟩ := hreach.open_of_mem_steps ht
  constructor
  · exact active_of_unsubscribed
  · intro hactive
    refine unsubscribed_of_active hopen hready correlation ?_ hactive
    rintro rfl
    rw [hcs, Session.channelState_zero] at hactive
    cases hactive

/-- Whether an open engine is ready, with channel 1 in the given state. -/
def isReadyInState (state : ChannelState) (e : ClientEngine) : Bool :=
  isInState state e && e.session.phase == .ready

theorem of_isReadyInState {state : ChannelState} {e : ClientEngine}
    (h : isReadyInState state e = true) :
    e.closed = false ∧ e.session.channelState 1 = state ∧ e.session.phase = .ready := by
  rw [isReadyInState, Bool.and_eq_true, beq_iff_eq] at h
  obtain ⟨hopen, hstate⟩ := of_isInState h.1
  exact ⟨hopen, hstate, h.2⟩

/-- The one step of a poll turn of one event. -/
theorem mem_steps_single {lib : Library} {wasm32 : Bool} {e : ClientEngine}
    (hopen : e.closed = false) (event : HostEvent) :
    ((⟨e, {}⟩, event) : Turn × HostEvent) ∈ e.steps lib wasm32 [event] := by
  rw [ClientEngine.steps, hopen]
  exact List.mem_cons_self

theorem unsubscribed_of_subscription :
    ∃ t : Turn, t.Unsubscribed (handleEvent Pair.noLibrary false t
      (.command (.unsubscribe zeroCorrelation 1))) 1 := by
  obtain ⟨e, hreach, hcheck⟩ := reachable_of_check Pair.noLibrary false (fun _ _ => true)
    subscription (isReadyInState .active) (by decide +kernel)
  obtain ⟨hopen, hactive, hready⟩ := of_isReadyInState hcheck
  exact ⟨⟨e, {}⟩, (unsubscribed_iff_active Pair.noLibrary false hreach
    (mem_steps_single hopen _) hready (.inr hactive)).mpr hactive⟩

/-- Unsubscribing from a channel the gateway has not answered yet ends the session. -/
theorem not_unsubscribed_of_pending :
    ¬ ∀ e, Reachable Pair.noLibrary false (fun _ _ => true) e → e.closed = false →
      e.session.phase = .ready → ∀ id, e.session.channelState id = .pending ∨
        e.session.channelState id = .active →
      Unsubscribed ⟨e, {}⟩ (handleEvent Pair.noLibrary false ⟨e, {}⟩
        (.command (.unsubscribe zeroCorrelation id))) id := by
  intro h
  obtain ⟨e, hreach, hcheck⟩ := reachable_of_check Pair.noLibrary false (fun _ _ => true)
    subscription.dropLast (isReadyInState .pending) (by decide +kernel)
  obtain ⟨hopen, hpending, hready⟩ := of_isReadyInState hcheck
  have hinactive : (⟨e, {}⟩ : Turn).engine.session.channelState 1 ≠ .active := by
    show e.session.channelState 1 ≠ .active
    rw [hpending]
    decide
  have hdone : Unsubscribed ⟨e, {}⟩ (unsubscribe ⟨e, {}⟩ zeroCorrelation 1) 1 :=
    h e hreach hopen hready 1 (.inl hpending)
  exact hinactive (active_of_unsubscribed hdone)

end ClientEngine
end Rclweb
