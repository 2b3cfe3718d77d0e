import Rclweb.Engine.Sent

/-!
# The session of an engine

The engine owns a session machine and never writes into it: whatever a host event does, the
session afterwards is the session before it after some calls of `ingest` and `recordSend`.  So the
session of a reachable engine is that of a client after a list of calls
(`ClientEngine.Reachable.calls`), and what holds in every run of a session machine holds of it.
-/

namespace Rclweb

open Rclweb.Frame Control Transition

namespace Engine
namespace Turn

variable {t u v : Turn}

/-- **The session is moved by its own calls only.** -/
def Calls (t u : Turn) : Prop := ∃ cs, u.engine.session = t.engine.session.calls cs

theorem Calls.of_eq (h : u.engine.session = t.engine.session) : t.Calls u := ⟨[], h⟩

@[refl] theorem Calls.refl (t : Turn) : t.Calls t := .of_eq rfl

theorem Calls.trans (h : t.Calls u) (h' : u.Calls v) : t.Calls v := by
  obtain ⟨cs, hcs⟩ := h
  obtain ⟨cs', hcs'⟩ := h'
  refine ⟨cs ++ cs', ?_⟩
  rw [hcs', hcs, Session.calls, Session.calls, Session.calls, List.foldl_append]

theorem Calls.of_dial (h : u.engine.dial = t.engine.dial) : t.Calls u :=
  .of_eq (congrArg ClientEngine.Dial.session h)

/-- One call, whatever it answered. -/
theorem Calls.call {session : Session} (c : Session.Call)
    (hcall : t.engine.session.call c = session) (h : u.engine.session = session) : t.Calls u := by
  refine ⟨[c], ?_⟩
  rw [h, ← hcall]
  rfl

theorem calls_fail (t : Turn) (code : UInt8) (message : String) : t.Calls (t.fail code message) :=
  .of_eq rfl

theorem calls_emit (t : Turn) (event : AppEvent) : t.Calls (t.emit event) := .of_eq rfl

/-! ## Sending -/

theorem session_pushOutbound (t : Turn) (bytes : List UInt8) :
    (t.pushOutbound bytes).engine.session = t.engine.session := by
  unfold pushOutbound
  split_ifs <;> rfl

theorem calls_recordFrame {bytes : List UInt8} (h : t.recordFrame bytes = some u) :
    t.Calls u := by
  unfold recordFrame at h
  split at h
  · cases h
  · next frame _ =>
    split at h
    · cases h
    · next effects session hrecord =>
      obtain rfl := Option.some.inj h
      exact .call (.recordSend (.frame frame)) (congrArg Prod.snd hrecord) rfl

theorem calls_pushControl {message : CborValue} (h : t.pushControl message = some u) :
    t.Calls u := by
  unfold pushControl at h
  split at h
  · cases h
  · next bytes _ =>
    obtain ⟨w, hw, rfl⟩ := Option.map_eq_some_iff.mp h
    exact (calls_recordFrame hw).trans (.of_eq (session_pushOutbound _ _))

theorem calls_pushControl_getD (message : CborValue) (h : t.Calls u) :
    t.Calls ((t.pushControl message).getD u) := by
  cases hpush : t.pushControl message with
  | none => exact h
  | some v => exact calls_pushControl hpush

theorem calls_pushBootstrapOutbound {bytes : List UInt8}
    (h : t.pushBootstrapOutbound bytes = some u) : t.Calls u := by
  unfold pushBootstrapOutbound at h
  split at h
  · cases h
  · next record _ =>
    split at h
    · cases h
    · next effects session hrecord =>
      obtain rfl := Option.some.inj h
      exact .call (.recordSend (.bootstrap record)) (congrArg Prod.snd hrecord)
        (session_pushOutbound _ _)

theorem calls_sendSamplePayload (channelId : UInt32) (payload : List UInt8) :
    t.Calls (t.sendSamplePayload channelId payload) := by
  unfold sendSamplePayload
  split
  · exact t.calls_emit _
  · split
    · exact t.calls_emit _
    · split
      · exact t.calls_emit _
      · next frame _ =>
        split
        · exact t.calls_emit _
        · next effects session hrecord =>
          exact .call (.recordSend (.frame frame)) (congrArg Prod.snd hrecord)
            (session_pushOutbound _ _)

theorem calls_sendServiceActionFrame (channelId : UInt32) (opcode : UInt8)
    (operationId : OperationId) (payload : List UInt8) (reliable : Bool) :
    t.Calls (t.sendServiceActionFrame channelId opcode operationId payload reliable) := by
  unfold sendServiceActionFrame
  split
  · exact t.calls_emit _
  · next sequence u htake =>
    refine Calls.trans (.of_dial (dial_takeOperationSequence htake).1) ?_
    split
    · exact u.calls_emit _
    · split
      · exact u.calls_emit _
      · split
        · exact u.calls_emit _
        · next frame _ =>
          split
          · exact u.calls_emit _
          · next effects session hrecord =>
            exact .call (.recordSend (.frame frame)) (congrArg Prod.snd hrecord)
              (session_pushOutbound _ _)

theorem calls_sendOperation (lib : Library) (channelId : UInt32) (op : GeneratedOpKind)
    (opcode : UInt8) (operationId : OperationId) (bytes : List UInt8) (reliable : Bool)
    (failure : AppEvent) :
    t.Calls (sendOperation lib t channelId op opcode operationId bytes reliable failure) := by
  unfold sendOperation
  split
  · exact calls_sendServiceActionFrame _ _ _ _ _
  · exact t.calls_emit _

/-! ## Commands -/

theorem calls_start (transferable webtransport : Bool) :
    t.Calls (t.start transferable webtransport) := by
  unfold start
  split_ifs
  · exact .refl t
  · dsimp only
    split
    · exact .of_eq rfl
    · split
      · exact .of_eq rfl
      · next u hpush =>
        exact Calls.trans (u := t.modify fun e => { e with started := true }) (.of_eq rfl)
          (calls_pushBootstrapOutbound hpush)

theorem calls_pushOpen (message : CborValue) (failure : String) (channelId : UInt32)
    (pending : PendingOpen) : t.Calls (t.pushOpen message failure channelId pending) := by
  unfold pushOpen
  split
  · exact t.calls_fail _ _
  · next u hpush => exact (calls_pushControl hpush).trans (.of_eq rfl)

theorem calls_openChannelCmd (lib : Library) (options : TopicOptions) (operationKind : UInt64)
    (kind : PendingKind) : t.Calls (openChannelCmd lib t options operationKind kind) := by
  unfold openChannelCmd
  split
  · exact t.calls_emit _
  · exact calls_pushOpen _ _ _ _

theorem calls_openEndpoint (lib : Library) (options : EndpointOptions) (kind : PendingKind)
    (message : CborValue) (failure : String) :
    t.Calls (openEndpoint lib t options kind message failure) := by
  unfold openEndpoint
  split
  · exact t.calls_emit _
  · exact calls_pushOpen _ _ _ _

theorem calls_unsubscribe (correlation : ByteArrayOf 16) (channelId : UInt32) :
    t.Calls (t.unsubscribe correlation channelId) := by
  unfold unsubscribe
  split
  · exact t.calls_fail _ _
  · next u hpush => exact (calls_pushControl hpush).trans (.of_eq rfl)

theorem calls_sendEncoded (channelId : UInt32) (payload : Option (List UInt8)) (event : AppEvent) :
    t.Calls (match payload with
      | some payload => t.sendSamplePayload channelId payload
      | none => t.emit event) := by
  cases payload with
  | none => exact t.calls_emit event
  | some payload => exact calls_sendSamplePayload channelId payload

theorem calls_handleCommand (lib : Library) (cmd : AppCommand) :
    t.Calls (handleCommand lib t cmd) := by
  cases cmd with
  | start transferable webtransport => exact calls_start _ _
  | authenticate correlation scheme token =>
    exact calls_pushControl_getD _ (t.calls_fail _ _)
  | subscribe options => exact calls_openChannelCmd lib options _ _
  | publish options => exact calls_openChannelCmd lib options _ _
  | sendSample channelId stringData =>
    show t.Calls (sendSample lib t channelId stringData)
    unfold sendSample
    split
    · exact t.calls_emit _
    · exact calls_sendSamplePayload _ _
  | sendPointCloud2 channelId view => exact calls_sendEncoded _ _ _
  | sendGenerated channelId typeName value => exact calls_sendEncoded _ _ _
  | openService options => exact calls_openEndpoint lib options _ _ _
  | openAction options => exact calls_openEndpoint lib options _ _ _
  | callService | sendServiceResponse | sendActionGoal | sendActionFeedback | sendActionResult =>
    exact calls_sendOperation lib _ _ _ _ _ _ _
  | cancelAction | sendActionStatus => exact calls_sendServiceActionFrame _ _ _ _ _
  | unsubscribe correlation channelId => exact calls_unsubscribe _ _
  | close => exact .of_eq rfl

/-! ## Inbound messages -/

theorem session_activate (t : Turn) (channelId : UInt32) (pending : PendingOpen)
    (effectiveRel : UInt8) :
    (t.activate channelId pending effectiveRel).engine.session = t.engine.session := by
  unfold activate
  cases pending.kind <;> rfl

theorem session_handleChannelReady (t : Turn) (fields : Fields) (effects : SessionEffects) :
    (t.handleChannelReady fields effects).engine.session = t.engine.session := by
  unfold handleChannelReady
  dsimp only
  split_ifs
  · exact session_activate _ _ _ _
  · rfl

theorem calls_handleControl (msg : ControlMessage) (effects : SessionEffects) :
    t.Calls (t.handleControl msg effects) := by
  refine handleControl_cases (.of_dial (dial_handleSessionReady _ _))
    (fun _ => .of_eq (session_handleChannelReady _ _ _)) (fun _ => ?_)
    (fun _ _ _ => t.calls_emit _) (fun _ => t.calls_emit _)
    (fun _ => .of_dial (dial_handleError _ _ _)) (.refl t)
  exact Calls.trans (.of_eq rfl) (calls_pushControl_getD _ (.refl _))

theorem calls_handleBootstrap (bytes : List UInt8) : t.Calls (t.handleBootstrap bytes) := by
  unfold handleBootstrap
  split
  · exact t.calls_fail _ _
  · next record _ =>
    split
    · exact t.calls_fail _ _
    · next effects session hingest =>
      have hcall : t.engine.session.call (.ingest (.bootstrap record)) = session :=
        congrArg Prod.snd hingest
      dsimp only
      split_ifs
      all_goals exact .call _ hcall rfl

theorem calls_handleFrame (lib : Library) (wasm32 : Bool) (bufferId : UInt32)
    (bytes : List UInt8) : t.Calls (handleFrame lib wasm32 t bufferId bytes) := by
  unfold handleFrame
  dsimp only
  split
  · exact t.calls_fail _ _
  · next frame _ =>
    split
    · exact t.calls_fail _ _
    · next effects session hingest =>
      have hcall : t.Calls (t.modify fun e => { e with session := session }) :=
        .call (.ingest (.frame frame)) (congrArg Prod.snd hingest) rfl
      refine hcall.trans ?_
      split_ifs
      · exact calls_fail _ _ _
      · split
        · exact Calls.trans (.of_eq rfl) (calls_handleControl _ _)
        · exact .of_eq rfl
      · exact .of_dial (dial_handleSample ..)
      · exact .of_dial (dial_handleServiceAction ..)
      · exact .refl _

theorem calls_handleWsBytes (lib : Library) (wasm32 : Bool) (bufferId : UInt32)
    (bytes : List UInt8) : t.Calls (handleWsBytes lib wasm32 t bufferId bytes) := by
  unfold handleWsBytes
  dsimp only
  refine Calls.trans (u := (t.retain bufferId bytes).2) (.of_dial (dial_retain ..)) ?_
  refine Calls.trans (u := if (t.retain bufferId bytes).2.engine.session.phase.inSelectedPlane
    then handleFrame lib wasm32 (t.retain bufferId bytes).2 (t.retain bufferId bytes).1 bytes
    else (t.retain bufferId bytes).2.handleBootstrap bytes) ?_ (.of_eq rfl)
  split_ifs
  · exact calls_handleFrame lib wasm32 _ _
  · exact calls_handleBootstrap _

/-- A heartbeat that is due, and what is set around it. -/
theorem calls_beat {w : Turn} {f : ClientEngine → ClientEngine} (message : CborValue)
    (hw : w.engine.session = t.engine.session) (hf : ∀ e, (f e).session = e.session) :
    t.Calls (((w.pushControl message).getD w).modify f) := by
  have hpush : w.Calls ((w.pushControl message).getD w) := calls_pushControl_getD message (.refl w)
  exact (Calls.of_eq hw).trans (hpush.trans (.of_eq (hf _)))

theorem calls_handleTimer (nowMs : UInt64) : t.Calls (t.handleTimer nowMs) := by
  unfold handleTimer
  dsimp only
  split_ifs
  · exact .of_eq rfl
  · split
    · exact .of_eq rfl
    · split_ifs
      · exact calls_beat _ rfl fun _ => rfl
      · exact .of_eq rfl

/-- **A host event moves the session by calls.** -/
theorem calls_handleEvent (lib : Library) (wasm32 : Bool) (event : HostEvent) :
    t.Calls (handleEvent lib wasm32 t event) := by
  cases event with
  | command cmd => exact calls_handleCommand lib cmd
  | wsBytes bufferId bytes => exact calls_handleWsBytes lib wasm32 bufferId bytes
  | timer nowMs => exact calls_handleTimer nowMs
  | releaseLease leaseId => exact .of_dial (dial_releaseLease t leaseId)

theorem calls_handleEvents (lib : Library) (wasm32 : Bool) (events : List HostEvent) :
    t.Calls (handleEvents lib wasm32 t events) := by
  induction events generalizing t with
  | nil => exact .refl t
  | cons event events ih =>
    rw [handleEvents]
    split_ifs
    · exact calls_handleEvent lib wasm32 event
    · exact (calls_handleEvent lib wasm32 event).trans ih

end Turn
end Engine

namespace ClientEngine

open Engine Turn

/-- **The session of a reachable engine** is a client's after a list of calls. -/
theorem Reachable.calls {lib : Library} {wasm32 : Bool}
    {allowed : ClientEngine → List HostEvent → Bool} {e : ClientEngine}
    (h : Reachable lib wasm32 allowed e) : ∃ cs, e.session = (Session.new .client).calls cs := by
  induction h with
  | refl => exact ⟨[], rfl⟩
  | @tail e e' _ hstep ih =>
    obtain ⟨cs, hcs⟩ := ih
    obtain ⟨events, -, rfl⟩ := hstep
    by_cases hclosed : e.closed = true
    · rw [poll, if_pos hclosed]
      exact ⟨cs, hcs⟩
    · obtain ⟨cs', hcs'⟩ := calls_handleEvents (t := ⟨e, {}⟩) lib wasm32
        (events.take maxHostEventsPerPoll)
      rw [poll, if_neg hclosed]
      refine ⟨cs ++ cs', ?_⟩
      rw [Session.calls, List.foldl_append]
      exact hcs'.trans (congrArg (Session.calls · cs') hcs)

/-- No channel has the id 0. -/
theorem Reachable.channelState_zero {lib : Library} {wasm32 : Bool}
    {allowed : ClientEngine → List HostEvent → Bool} {e : ClientEngine}
    (h : Reachable lib wasm32 allowed e) : e.session.channelState 0 = .unused := by
  obtain ⟨cs, hcs⟩ := h.calls
  rw [hcs]
  exact Session.channelState_zero .client cs

end ClientEngine
end Rclweb
