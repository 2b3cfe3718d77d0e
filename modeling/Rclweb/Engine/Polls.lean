import Rclweb.Engine.Leases
import Rclweb.Engine.Sent
import Rclweb.Pair.System

/-!
# Poll turns one after another

A poll turn looks at the first `maxHostEventsPerPoll` events of its list.  Within that bound a list
may be cut anywhere: polling `xs ++ ys` is polling `xs` and then `ys`, as long as the engine is
still open in between (`poll_append`).

Two things tell the second turn from the rest of the first.  It begins with an empty outcome, and
the idle buffers were given back before it.  `Turn.onto` puts both back: a turn with an outcome
before its own and another table of retained buffers.  The handlers never look at what is in the
outcome, except for the bound of the outbound queue, and they never look at an idle buffer
(`Covers`), so each of them commutes with `onto`.
-/

namespace Rclweb

open Rclweb.Frame Control Transition

namespace Engine

/-- A buffer that the next sweep gives back. -/
def RetainedBuffer.isIdle (buf : RetainedBuffer) : Bool := buf.ingestDone && buf.leaseRefs == 0

/-- The table `all` holds what `swept` does and, besides, idle buffers only. -/
def Covers (swept all : Table UInt32 RetainedBuffer) : Prop :=
  ∀ id, all.find? id = swept.find? id ∨
    swept.find? id = none ∧ ∃ buf, all.find? id = some buf ∧ buf.isIdle = true

theorem Covers.refl (table : Table UInt32 RetainedBuffer) : Covers table table :=
  fun _ => .inl rfl

variable {swept all : Table UInt32 RetainedBuffer}

/-- What is held after the sweep is held as it was. -/
theorem Covers.find? (h : Covers swept all) {id : UInt32} {buf : RetainedBuffer}
    (hbuf : swept.find? id = some buf) : all.find? id = some buf := by
  rcases h id with heq | ⟨hnone, -⟩
  · rw [heq, hbuf]
  · rw [hnone] at hbuf
    cases hbuf

theorem Covers.set (h : Covers swept all) (id : UInt32) (buf : RetainedBuffer) :
    Covers (swept.set id buf) (all.set id buf) := by
  intro id'
  rw [Table.find?_set, Table.find?_set]
  split_ifs
  · exact .inl rfl
  · exact h id'

/-- A change of the buffers that leaves idle ones idle. -/
theorem Covers.map {swept' all' : Table UInt32 RetainedBuffer}
    {f : UInt32 → RetainedBuffer → RetainedBuffer} (h : Covers swept all)
    (hswept : ∀ id, swept'.find? id = (swept.find? id).map (f id))
    (hall : ∀ id, all'.find? id = (all.find? id).map (f id))
    (hf : ∀ id buf, buf.isIdle = true → (f id buf).isIdle = true) : Covers swept' all' := by
  intro id
  rw [hswept, hall]
  rcases h id with heq | ⟨hnone, buf, hbuf, hidle⟩
  · exact .inl (congrArg _ heq)
  · rw [hnone, hbuf]
    exact .inr ⟨rfl, f id buf, rfl, hf id buf hidle⟩

namespace Turn

/-- The turn with another table of retained buffers, and an outcome that came before. -/
def onto (t : Turn) (r : Table UInt32 RetainedBuffer) (o : PollOutcome) : Turn :=
  { engine := { t.engine with retained := r }
    outcome :=
      { o with
        events := o.events ++ t.outcome.events
        outbound := o.outbound ++ t.outcome.outbound } }

/-- Room for one more outbound message behind an outcome that came before. -/
def HasRoom (o : PollOutcome) (t : Turn) : Prop :=
  o.outbound.length + t.outcome.outbound.length < maxOutboundPerPoll

variable {t u : Turn} {r : Table UInt32 RetainedBuffer} {o : PollOutcome}

theorem session_onto : (t.onto r o).engine.session = t.engine.session := rfl

theorem HasRoom.of_eq (h : HasRoom o t) (heq : u.outcome.outbound = t.outcome.outbound) :
    HasRoom o u := by
  rw [HasRoom, heq]
  exact h

theorem onto_emit (t : Turn) (event : AppEvent) :
    (t.onto r o).emit event = (t.emit event).onto r o := by
  simp only [emit, onto, List.append_assoc]

theorem onto_fail (t : Turn) (code : UInt8) (message : String) :
    (t.onto r o).fail code message = (t.fail code message).onto r o := by
  unfold fail
  rw [← onto_emit, ← onto_emit]
  rfl

theorem onto_failProtocol (t : Turn) (err : ProtocolError) :
    (t.onto r o).failProtocol err = (t.failProtocol err).onto r o :=
  onto_fail t _ _

theorem onto_pushOutbound (hroom : HasRoom o t) (bytes : List UInt8) :
    (t.onto r o).pushOutbound bytes = (t.pushOutbound bytes).onto r o := by
  have hlength : (t.onto r o).outcome.outbound.length < maxOutboundPerPoll := by
    rw [onto, List.length_append]
    exact hroom
  have hlength' : t.outcome.outbound.length < maxOutboundPerPoll :=
    (Nat.le_add_left _ _).trans_lt hroom
  rw [pushOutbound, pushOutbound, if_neg (by omega), if_neg (by omega)]
  simp only [onto, List.append_assoc]

/-! ## Sending -/

theorem onto_recordFrame (t : Turn) (bytes : List UInt8) :
    (t.onto r o).recordFrame bytes = (t.recordFrame bytes).map fun u => u.onto r o := by
  unfold recordFrame
  cases parseFrame bytes defaultOptions with
  | error err => rfl
  | ok frame =>
    dsimp only
    rw [session_onto]
    cases t.engine.session.recordSendFrame frame with
    | mk result session => cases result <;> rfl

theorem outcome_recordFrame {bytes : List UInt8} (h : t.recordFrame bytes = some u) :
    u.outcome = t.outcome := by
  unfold recordFrame at h
  split at h
  · cases h
  · split at h
    · cases h
    · rw [← Option.some.inj h]
      rfl

theorem onto_pushControl (hroom : HasRoom o t) (message : CborValue) :
    (t.onto r o).pushControl message = (t.pushControl message).map fun u => u.onto r o := by
  unfold pushControl
  rw [show (t.onto r o).engine.controlSeqOut = t.engine.controlSeqOut from rfl]
  cases Encode.encodeControlFrame 0 (UInt64.ofNat t.engine.controlSeqOut) message with
  | error err => rfl
  | ok bytes =>
    dsimp only
    rw [onto_recordFrame]
    cases hrecord : t.recordFrame bytes with
    | none => rfl
    | some u =>
      have hroom' : HasRoom o u := hroom.of_eq (by rw [outcome_recordFrame hrecord])
      simp only [Option.map_some]
      refine congrArg some ?_
      exact onto_pushOutbound
        (t := u.modify fun e => { e with controlSeqOut := e.controlSeqOut + 1 }) hroom' bytes

theorem onto_pushControl_getD (hroom : HasRoom o t) (message : CborValue) {v : Turn} :
    ((t.onto r o).pushControl message).getD (v.onto r o) =
      ((t.pushControl message).getD v).onto r o := by
  rw [onto_pushControl hroom]
  cases t.pushControl message <;> rfl

theorem onto_pushBootstrapOutbound (hroom : HasRoom o t) (bytes : List UInt8) :
    (t.onto r o).pushBootstrapOutbound bytes =
      (t.pushBootstrapOutbound bytes).map fun u => u.onto r o := by
  unfold pushBootstrapOutbound
  cases Bootstrap.parseBootstrap bytes with
  | error err => rfl
  | ok record =>
    dsimp only
    rw [session_onto]
    cases t.engine.session.recordSendBootstrap record with
    | mk result session =>
    cases result with
    | error err => rfl
    | ok effects =>
      refine congrArg some ?_
      exact onto_pushOutbound (t := t.modify fun e => { e with session := session }) hroom bytes

theorem onto_sendSamplePayload (hroom : HasRoom o t) (channelId : UInt32)
    (payload : List UInt8) :
    (t.onto r o).sendSamplePayload channelId payload =
      (t.sendSamplePayload channelId payload).onto r o := by
  unfold sendSamplePayload
  rw [show (t.onto r o).engine.activePublishes = t.engine.activePublishes from rfl]
  cases t.engine.activePublishes.find? channelId with
  | none => exact onto_emit t _
  | some pub =>
    dsimp only
    cases Encode.encodeFrame (appHeader opcodeRosSample pub.reliable channelId pub.seqOut) []
        payload with
    | error err => exact onto_emit t _
    | ok bytes =>
      dsimp only
      cases parseFrame bytes defaultOptions with
      | error err => exact onto_emit t _
      | ok frame =>
        dsimp only
        rw [session_onto]
        cases t.engine.session.recordSendFrame frame with
        | mk result session =>
        cases result with
        | error err => exact onto_emit t _
        | ok effects =>
          exact onto_pushOutbound (t := t.modify fun e =>
            { e with
              session := session
              activePublishes :=
                e.activePublishes.set channelId { pub with seqOut := pub.seqOut + 1 } }) hroom bytes

theorem onto_takeOperationSequence (t : Turn) (channelId : UInt32) (operationId : OperationId) :
    (t.onto r o).takeOperationSequence channelId operationId =
      (t.takeOperationSequence channelId operationId).map fun p => (p.1, p.2.onto r o) := by
  unfold takeOperationSequence
  dsimp only
  rw [show (t.onto r o).engine.activeServices = t.engine.activeServices from rfl,
    show (t.onto r o).engine.activeActions = t.engine.activeActions from rfl]
  cases t.engine.activeServices.find? channelId with
  | some svc => rfl
  | none =>
    dsimp only
    cases t.engine.activeActions.find? channelId with
    | some act => rfl
    | none => rfl

theorem onto_sendServiceActionFrame (hroom : HasRoom o t) (channelId : UInt32) (opcode : UInt8)
    (operationId : OperationId) (payload : List UInt8) (reliable : Bool) :
    (t.onto r o).sendServiceActionFrame channelId opcode operationId payload reliable =
      (t.sendServiceActionFrame channelId opcode operationId payload reliable).onto r o := by
  unfold sendServiceActionFrame
  rw [onto_takeOperationSequence]
  cases htake : t.takeOperationSequence channelId operationId with
  | none => exact onto_emit t _
  | some taken =>
    obtain ⟨sequence, u⟩ := taken
    have hroom' : HasRoom o u := hroom.of_eq (by rw [(dial_takeOperationSequence htake).2])
    simp only [Option.map_some]
    cases Encode.encodeExtensionArea [operationIdExtension operationId] with
    | error err => exact onto_emit u _
    | ok area =>
      dsimp only
      cases Encode.encodeFrame (appHeader opcode reliable channelId sequence) area payload with
      | error err => exact onto_emit u _
      | ok bytes =>
        dsimp only
        cases parseFrame bytes defaultOptions with
        | error err => exact onto_emit u _
        | ok frame =>
          dsimp only
          rw [session_onto]
          cases u.engine.session.recordSendFrame frame with
          | mk result session =>
          cases result with
          | error err => exact onto_emit u _
          | ok effects =>
            exact onto_pushOutbound (t := u.modify fun e => { e with session := session }) hroom'
              bytes

theorem onto_sendOperation (hroom : HasRoom o t) (lib : Library) (channelId : UInt32)
    (op : GeneratedOpKind) (opcode : UInt8) (operationId : OperationId) (bytes : List UInt8)
    (reliable : Bool) (failure : AppEvent) :
    sendOperation lib (t.onto r o) channelId op opcode operationId bytes reliable failure =
      (sendOperation lib t channelId op opcode operationId bytes reliable failure).onto r o := by
  unfold sendOperation
  rw [show encodeOpPayload lib (t.onto r o) channelId op bytes =
    encodeOpPayload lib t channelId op bytes from rfl]
  cases encodeOpPayload lib t channelId op bytes with
  | some payload => exact onto_sendServiceActionFrame hroom _ _ _ _ _
  | none => exact onto_emit t _

/-! ## Commands -/

theorem onto_start (hroom : HasRoom o t) (transferable webtransport : Bool) :
    (t.onto r o).start transferable webtransport =
      (t.start transferable webtransport).onto r o := by
  unfold start
  rw [show (t.onto r o).engine.started = t.engine.started from rfl]
  split_ifs
  · rfl
  · dsimp only
    cases Encode.encodeClientHello (startHello transferable webtransport) with
    | error err => exact onto_fail (t.modify fun e => { e with started := true }) _ _
    | ok bytes =>
      have hpush := onto_pushBootstrapOutbound (r := r)
        (t := t.modify fun e => { e with started := true }) hroom bytes
      dsimp only
      rw [show ((t.onto r o).modify fun e => { e with started := true }) =
        (t.modify fun e => { e with started := true }).onto r o from rfl, hpush]
      cases (t.modify fun e => { e with started := true }).pushBootstrapOutbound bytes with
      | none => exact onto_fail (t.modify fun e => { e with started := true }) _ _
      | some u => rfl

theorem onto_pushOpen (hroom : HasRoom o t) (message : CborValue) (failure : String)
    (channelId : UInt32) (pending : PendingOpen) :
    (t.onto r o).pushOpen message failure channelId pending =
      (t.pushOpen message failure channelId pending).onto r o := by
  unfold pushOpen
  rw [onto_pushControl hroom]
  cases t.pushControl message with
  | none => exact onto_fail t _ _
  | some u => rfl

theorem onto_openChannelCmd (hroom : HasRoom o t) (lib : Library) (options : TopicOptions)
    (operationKind : UInt64) (kind : PendingKind) :
    openChannelCmd lib (t.onto r o) options operationKind kind =
      (openChannelCmd lib t options operationKind kind).onto r o := by
  unfold openChannelCmd
  rw [show schemaUnavailable lib (t.onto r o) options.typeName options.channelId kind =
    schemaUnavailable lib t options.typeName options.channelId kind from rfl]
  cases schemaUnavailable lib t options.typeName options.channelId kind with
  | some event => exact onto_emit t event
  | none => exact onto_pushOpen hroom _ _ _ _

theorem onto_openEndpoint (hroom : HasRoom o t) (lib : Library) (options : EndpointOptions)
    (kind : PendingKind) (message : CborValue) (failure : String) :
    openEndpoint lib (t.onto r o) options kind message failure =
      (openEndpoint lib t options kind message failure).onto r o := by
  unfold openEndpoint
  rw [show schemaUnavailable lib (t.onto r o) options.typeName options.channelId kind =
    schemaUnavailable lib t options.typeName options.channelId kind from rfl]
  cases schemaUnavailable lib t options.typeName options.channelId kind with
  | some event => exact onto_emit t event
  | none => exact onto_pushOpen hroom _ _ _ _

theorem onto_unsubscribe (hroom : HasRoom o t) (correlation : ByteArrayOf 16)
    (channelId : UInt32) :
    (t.onto r o).unsubscribe correlation channelId =
      (t.unsubscribe correlation channelId).onto r o := by
  unfold unsubscribe
  rw [onto_pushControl hroom]
  cases t.pushControl (closeChannel correlation channelId) with
  | none => exact onto_fail t _ _
  | some u => rfl

/-- **Commands do not look behind**: neither at what was said before nor at the buffers. -/
theorem onto_sendEncoded (hroom : HasRoom o t) (channelId : UInt32)
    (payload : Option (List UInt8)) (event : AppEvent) :
    (match payload with
      | some payload => (t.onto r o).sendSamplePayload channelId payload
      | none => (t.onto r o).emit event) =
    (match payload with
      | some payload => t.sendSamplePayload channelId payload
      | none => t.emit event).onto r o := by
  cases payload with
  | none => exact onto_emit t event
  | some payload => exact onto_sendSamplePayload hroom channelId payload

theorem onto_handleCommand (hroom : HasRoom o t) (lib : Library) (cmd : AppCommand) :
    handleCommand lib (t.onto r o) cmd = (handleCommand lib t cmd).onto r o := by
  cases cmd with
  | start transferable webtransport => exact onto_start hroom _ _
  | authenticate correlation scheme token =>
    show ((t.onto r o).pushControl _).getD ((t.onto r o).fail 1 "authenticate_encode_failed") = _
    rw [onto_fail]
    exact onto_pushControl_getD hroom _
  | subscribe options => exact onto_openChannelCmd hroom lib options _ _
  | publish options => exact onto_openChannelCmd hroom lib options _ _
  | sendSample channelId stringData =>
    show sendSample lib (t.onto r o) channelId stringData = (sendSample lib t channelId _).onto r o
    unfold sendSample
    cases lib.encodeStdMsgsString stringData with
    | none => exact onto_emit t _
    | some payload => exact onto_sendSamplePayload hroom channelId payload
  | sendPointCloud2 channelId view => exact onto_sendEncoded hroom _ _ _
  | sendGenerated channelId typeName value => exact onto_sendEncoded hroom _ _ _
  | openService options => exact onto_openEndpoint hroom lib options _ _ _
  | openAction options => exact onto_openEndpoint hroom lib options _ _ _
  | callService | sendServiceResponse | sendActionGoal | sendActionFeedback | sendActionResult =>
    exact onto_sendOperation hroom lib _ _ _ _ _ _ _
  | cancelAction | sendActionStatus => exact onto_sendServiceActionFrame hroom _ _ _ _ _
  | unsubscribe correlation channelId => exact onto_unsubscribe hroom _ _
  | close => exact onto_emit (t.modify fun e => { e with closed := true }) _

/-! ## Control messages and timers -/

theorem onto_handleSessionReady (t : Turn) (fields : Fields) :
    (t.onto r o).handleSessionReady fields = (t.handleSessionReady fields).onto r o := by
  have hemit (f : ClientEngine → ClientEngine)
      (hf : ∀ e, f { e with retained := r } = { f e with retained := r }) (event : AppEvent) :
      ((t.onto r o).modify f).emit event = ((t.modify f).emit event).onto r o := by
    rw [← onto_emit]
    show emit { t.onto r o with engine := f { t.engine with retained := r } } event = _
    rw [hf]
    rfl
  unfold handleSessionReady
  dsimp only
  rw [hemit _ fun _ => rfl]
  obtain ⟨engine, outcome⟩ := t
  cases hlast : engine.lastTimerMs with
  | none =>
    unfold Turn.emit Turn.modify Turn.onto
    dsimp only
    rw [hlast]
  | some now =>
    unfold Turn.emit Turn.modify Turn.onto
    dsimp only
    rw [hlast]

theorem onto_activate (t : Turn) (channelId : UInt32) (pending : PendingOpen)
    (effectiveRel : UInt8) :
    (t.onto r o).activate channelId pending effectiveRel =
      (t.activate channelId pending effectiveRel).onto r o := by
  unfold activate
  cases pending.kind
  all_goals
    dsimp only
    rw [onto_emit]
    rfl

theorem onto_handleChannelReady (t : Turn) (fields : Fields) (effects : SessionEffects) :
    (t.onto r o).handleChannelReady fields effects =
      (t.handleChannelReady fields effects).onto r o := by
  unfold handleChannelReady
  dsimp only
  split_ifs
  · exact onto_activate (t.modify fun e => { e with pendingOpens := e.pendingOpens.remove _ }) ..
  · exact onto_emit (t.modify fun e => { e with pendingOpens := e.pendingOpens.remove _ }) _

theorem onto_handleHeartbeat (hroom : HasRoom o t) (fields : Fields) :
    (t.onto r o).handleHeartbeat fields = (t.handleHeartbeat fields).onto r o := by
  unfold handleHeartbeat
  dsimp only
  rw [onto_emit]
  generalize hv : t.emit (.heartbeat ((fieldUint fields 40).getD 0)) = v
  rw [show ((v.onto r o).modify fun e => { e with heartbeatCounter := e.heartbeatCounter + 1 }) =
    (v.modify fun e => { e with heartbeatCounter := e.heartbeatCounter + 1 }).onto r o from rfl]
  generalize hw : (v.modify fun e => { e with heartbeatCounter := e.heartbeatCounter + 1 }) = w
  have hroom' : HasRoom o w := hroom.of_eq (by rw [← hw, ← hv]; rfl)
  exact onto_pushControl_getD hroom' _

theorem onto_handleError (t : Turn) (fields : Fields) (effects : SessionEffects) :
    (t.onto r o).handleError fields effects = (t.handleError fields effects).onto r o := by
  unfold handleError
  split_ifs
  · exact onto_fail t _ _
  · split
    · exact onto_emit t _
    · exact onto_emit (t.modify fun e => { e with pendingOpens := e.pendingOpens.remove _ }) _
    · rfl

theorem onto_ite {c : Prop} [Decidable c] {u v u' v' : Turn} (hu : u' = u.onto r o)
    (hv : v' = v.onto r o) : (if c then u' else v') = (if c then u else v).onto r o := by
  rw [hu, hv]
  exact (apply_ite (Turn.onto · r o) c u v).symm

theorem onto_handleControl (hroom : HasRoom o t) (msg : ControlMessage)
    (effects : SessionEffects) :
    (t.onto r o).handleControl msg effects = (t.handleControl msg effects).onto r o := by
  unfold handleControl
  refine onto_ite (onto_ite (onto_handleSessionReady t _) rfl) ?_
  refine onto_ite (onto_handleChannelReady t _ _) (onto_ite (onto_handleHeartbeat hroom _) ?_)
  refine onto_ite ?_ (onto_ite ?_ (onto_ite (onto_handleError t _ _) rfl))
  · split
    · exact onto_emit t _
    · rfl
  · split
    · exact onto_emit t _
    · rfl

theorem onto_handleBootstrap (t : Turn) (bytes : List UInt8) :
    (t.onto r o).handleBootstrap bytes = (t.handleBootstrap bytes).onto r o := by
  unfold handleBootstrap
  cases Bootstrap.parseBootstrap bytes with
  | error err => exact onto_failProtocol t err
  | ok record =>
    dsimp only
    rw [session_onto]
    cases t.engine.session.ingestBootstrap record with
    | mk result session =>
    cases result with
    | error err => exact onto_failProtocol t err
    | ok effects =>
      dsimp only
      split_ifs
      · show (((t.onto r o).modify fun e => { e with session := session, closed := true }).emit
          _).emit _ = _
        rw [show ((t.onto r o).modify fun e => { e with session := session, closed := true }) =
          (t.modify fun e => { e with session := session, closed := true }).onto r o from rfl,
          onto_emit, onto_emit]
        rfl
      · exact onto_emit (t.modify fun e => { e with session := session }) _
      · rfl

theorem onto_handleTimer (hroom : HasRoom o t) (nowMs : UInt64) :
    (t.onto r o).handleTimer nowMs = (t.handleTimer nowMs).onto r o := by
  unfold handleTimer
  dsimp only
  rw [show ((t.onto r o).modify fun e => { e with lastTimerMs := some nowMs }) =
    (t.modify fun e => { e with lastTimerMs := some nowMs }).onto r o from rfl]
  generalize hw : (t.modify fun e => { e with lastTimerMs := some nowMs }) = w
  have hroom' : HasRoom o w := hroom.of_eq (by rw [← hw]; rfl)
  rw [session_onto, show (w.onto r o).engine.nextHeartbeatMs = w.engine.nextHeartbeatMs from rfl]
  split_ifs
  · rfl
  · cases w.engine.nextHeartbeatMs with
    | none => rfl
    | some deadline =>
      dsimp only
      split_ifs
      · rw [show ((w.onto r o).modify fun e =>
            { e with heartbeatCounter := e.heartbeatCounter + 1 }) =
          (w.modify fun e => { e with heartbeatCounter := e.heartbeatCounter + 1 }).onto r o
          from rfl]
        generalize hu : (w.modify fun e =>
          { e with heartbeatCounter := e.heartbeatCounter + 1 }) = u
        have hroom'' : HasRoom o u := hroom'.of_eq (by rw [← hu]; rfl)
        rw [onto_pushControl_getD hroom'',
          show (u.onto r o).engine.heartbeatCounter = u.engine.heartbeatCounter from rfl]
        generalize (u.pushControl _).getD u = v
        rfl
      · rfl

/-! ## Buffers and leases -/

/-- `t'` is the turn `t` behind an earlier outcome, with more idle buffers. -/
def Over (o : PollOutcome) (t' t : Turn) : Prop :=
  ∃ r, t' = t.onto r o ∧ Covers t.engine.retained r

variable {t' : Turn}

theorem Over.engine_eq (h : Over o t' t) :
    ∃ r, t'.engine = { t.engine with retained := r } ∧ Covers t.engine.retained r := by
  obtain ⟨r, rfl, hr⟩ := h
  exact ⟨r, rfl, hr⟩

/-- A handler that does not look at the buffers. -/
theorem Over.of_onto {f : Turn → Turn} (h : Over o t' t)
    (hf : ∀ r, f (t.onto r o) = (f t).onto r o)
    (hretained : (f t).engine.retained = t.engine.retained) : Over o (f t') (f t) := by
  obtain ⟨r, rfl, hr⟩ := h
  exact ⟨r, hf r, hretained ▸ hr⟩

theorem Over.emit (h : Over o t' t) (event : AppEvent) : Over o (t'.emit event) (t.emit event) :=
  h.of_onto (f := fun t => t.emit event) (fun _ => onto_emit t event) rfl

theorem Over.fail (h : Over o t' t) (code : UInt8) (message : String) :
    Over o (t'.fail code message) (t.fail code message) :=
  h.of_onto (f := fun t => t.fail code message) (fun _ => onto_fail t code message) rfl

theorem Over.session (h : Over o t' t) (session : Session) :
    Over o (t'.modify fun e => { e with session := session })
      (t.modify fun e => { e with session := session }) :=
  h.of_onto (f := fun t => t.modify fun e => { e with session := session }) (fun _ => rfl) rfl

/-- Bytes are kept under the same id, and held there. -/
theorem Over.retain (h : Over o t' t) (bufferId : UInt32) (bytes : List UInt8) :
    (t'.retain bufferId bytes).1 = (t.retain bufferId bytes).1 ∧
      Over o (t'.retain bufferId bytes).2 (t.retain bufferId bytes).2 ∧
        ((t.retain bufferId bytes).2.engine.retained.find?
          (t.retain bufferId bytes).1).isSome = true := by
  obtain ⟨r, rfl, hr⟩ := h
  unfold Turn.retain
  dsimp only
  split_ifs
  · refine ⟨rfl, ⟨_, rfl, hr.set t.engine.nextBufferId ⟨bytes, retainDeclaredLen bytes, 0, false⟩⟩,
      ?_⟩
    rw [engine_modify]
    dsimp only
    rw [Table.find?_set_self]
    rfl
  · refine ⟨rfl, ⟨_, rfl, hr.set bufferId ⟨bytes, retainDeclaredLen bytes, 0, false⟩⟩, ?_⟩
    rw [engine_modify]
    dsimp only
    rw [Table.find?_set_self]
    rfl

/-- A lease on a buffer that is held. -/
theorem Over.issueLease (h : Over o t' t) {bufferId : UInt32} (frame : DecodedFrame)
    (hheld : (t.engine.retained.find? bufferId).isSome = true) :
    (t'.issueLease bufferId frame).1 = (t.issueLease bufferId frame).1 ∧
      Over o (t'.issueLease bufferId frame).2 (t.issueLease bufferId frame).2 := by
  obtain ⟨r, rfl, hr⟩ := h
  obtain ⟨buf, hbuf⟩ := Option.isSome_iff_exists.mp hheld
  refine ⟨rfl, ((t.onto r o).issueLease bufferId frame).2.engine.retained, rfl, ?_⟩
  have hall : (t.onto r o).engine.retained.find? bufferId = some buf := hr.find? hbuf
  rw [ClientEngine.retained_issueLease frame hbuf, ClientEngine.retained_issueLease frame hall]
  exact hr.set bufferId _

theorem Over.noteDone (h : Over o t' t) (bufferId : UInt32) :
    Over o (t'.modify (ClientEngine.noteDone bufferId))
      (t.modify (ClientEngine.noteDone bufferId)) := by
  obtain ⟨r, rfl, hr⟩ := h
  refine ⟨(ClientEngine.noteDone bufferId (t.onto r o).engine).retained, rfl, ?_⟩
  refine hr.map (ClientEngine.find?_noteDone t.engine bufferId)
    (ClientEngine.find?_noteDone (t.onto r o).engine bufferId) fun id buf hidle => ?_
  split_ifs
  · rw [RetainedBuffer.isIdle, Bool.and_eq_true] at hidle
    rw [RetainedBuffer.isIdle, hidle.2]
    rfl
  · exact hidle

theorem Over.releaseLease (h : Over o t' t) (leaseId : UInt32) :
    Over o (t'.releaseLease leaseId) (t.releaseLease leaseId) := by
  obtain ⟨r, rfl, hr⟩ := h
  cases hlease : t.engine.leases.find? leaseId with
  | none =>
    have hnone : (t.onto r o).engine.leases.find? leaseId = none := hlease
    rw [Turn.releaseLease, Turn.releaseLease, hlease, hnone]
    exact ⟨r, rfl, hr⟩
  | some lease =>
    have hsome : (t.onto r o).engine.leases.find? leaseId = some lease := hlease
    refine ⟨((t.onto r o).releaseLease leaseId).engine.retained, ?_, ?_⟩
    · rw [Turn.releaseLease, Turn.releaseLease, hlease, hsome]
      rfl
    · refine hr.map (ClientEngine.find?_releaseLease hlease)
        (ClientEngine.find?_releaseLease hsome) fun id buf hidle => ?_
      split_ifs
      · rw [RetainedBuffer.isIdle, Bool.and_eq_true, beq_iff_eq] at hidle
        rw [RetainedBuffer.isIdle, hidle.1, hidle.2]
        rfl
      · exact hidle

/-! ## Inbound frames -/

theorem Over.handleSample (h : Over o t' t) (lib : Library) (wasm32 : Bool) {bufferId : UInt32}
    (frame : DecodedFrame) (declaredLen : ℕ)
    (hheld : (t.engine.retained.find? bufferId).isSome = true) :
    Over o (Turn.handleSample lib wasm32 t' bufferId frame declaredLen)
      (Turn.handleSample lib wasm32 t bufferId frame declaredLen) := by
  obtain ⟨hid, hlease⟩ := h.issueLease frame hheld
  obtain ⟨r, hr, -⟩ := h.engine_eq
  unfold Turn.handleSample
  split
  · exact h
  · next payload _ =>
    have htext : sampleText lib wasm32 t' frame payload =
        sampleText lib wasm32 t frame payload := by
      rw [sampleText, sampleText, hr]
    split_ifs
    · exact h.fail _ _
    · dsimp only
      rw [hid, htext]
      exact hlease.emit _

theorem Over.handleServiceAction (h : Over o t' t) {bufferId : UInt32} (frame : DecodedFrame)
    (declaredLen : ℕ) (hheld : (t.engine.retained.find? bufferId).isSome = true) :
    Over o (t'.handleServiceAction bufferId frame declaredLen)
      (t.handleServiceAction bufferId frame declaredLen) := by
  obtain ⟨hid, hlease⟩ := h.issueLease frame hheld
  unfold Turn.handleServiceAction
  split
  · exact h
  · by_cases hbounds : payloadOutOfBounds frame declaredLen = true
    · rw [if_pos hbounds, if_pos hbounds]
      exact h.fail _ _
    rw [if_neg hbounds, if_neg hbounds]
    by_cases hcancel : frame.opcode = opcodeActionCancel
    · rw [if_pos hcancel, if_pos hcancel]
      exact h
    rw [if_neg hcancel, if_neg hcancel]
    dsimp only
    split
    · exact h.fail _ _
    · rw [hid]
      split
      · exact hlease.emit _
      · exact hlease.releaseLease _

theorem Over.handleControl (h : Over o t' t) (hroom : HasRoom o t) (msg : ControlMessage)
    (effects : SessionEffects) :
    Over o (t'.handleControl msg effects) (t.handleControl msg effects) :=
  h.of_onto (f := fun t => t.handleControl msg effects)
    (fun _ => onto_handleControl hroom msg effects)
    (congrArg Shelf.retained (idles_handleControl msg effects).shelf)

theorem Over.handleFrame (h : Over o t' t) (hroom : HasRoom o t) (lib : Library) (wasm32 : Bool)
    {bufferId : UInt32} (bytes : List UInt8)
    (hheld : (t.engine.retained.find? bufferId).isSome = true) :
    Over o (Turn.handleFrame lib wasm32 t' bufferId bytes)
      (Turn.handleFrame lib wasm32 t bufferId bytes) := by
  obtain ⟨r, hr, -⟩ := h.engine_eq
  unfold Turn.handleFrame
  dsimp only
  rw [hr]
  cases parseFrameDeclared bytes (retainDeclaredLen bytes) defaultOptions with
  | error err => exact h.fail _ _
  | ok frame =>
    dsimp only
    cases t.engine.session.ingestFrame frame with
    | mk result session =>
    cases result with
    | error err => exact h.fail _ _
    | ok effects =>
      have hsession := h.session session
      obtain ⟨r', hr', -⟩ := hsession.engine_eq
      dsimp only
      by_cases hopcode : frame.opcode = opcodeControlCbor
      · rw [if_pos hopcode, if_pos hopcode, hr']
        dsimp only
        split_ifs
        · exact hsession.fail _ _
        · have hnext := hsession.of_onto
            (f := fun t => t.modify fun e => { e with controlSeqIn := e.controlSeqIn + 1 })
            (fun _ => rfl) rfl
          cases frame.payload with
          | control msg =>
            exact hnext.handleControl (hroom.of_eq rfl) msg effects
          | application payload => exact hnext.fail _ _
      · rw [if_neg hopcode, if_neg hopcode]
        split_ifs
        · exact hsession.handleSample lib wasm32 frame _ hheld
        · exact hsession.handleServiceAction frame _ hheld
        · exact hsession

theorem Over.handleWsBytes (h : Over o t' t) (hroom : HasRoom o t) (lib : Library) (wasm32 : Bool)
    (bufferId : UInt32) (bytes : List UInt8) :
    Over o (Turn.handleWsBytes lib wasm32 t' bufferId bytes)
      (Turn.handleWsBytes lib wasm32 t bufferId bytes) := by
  obtain ⟨hid, hretain, hheld⟩ := h.retain bufferId bytes
  obtain ⟨r, hr, -⟩ := hretain.engine_eq
  have hroom' : HasRoom o (t.retain bufferId bytes).2 :=
    hroom.of_eq (by rw [t.outbound_retain bufferId bytes])
  unfold Turn.handleWsBytes
  dsimp only
  rw [hid]
  refine Over.noteDone ?_ _
  rw [show (t'.retain bufferId bytes).2.engine.session =
    (t.retain bufferId bytes).2.engine.session by rw [hr]]
  split_ifs
  · exact hretain.handleFrame hroom' lib wasm32 bytes hheld
  · exact hretain.of_onto (f := fun t => t.handleBootstrap bytes)
      (fun _ => onto_handleBootstrap _ bytes)
      (congrArg Shelf.retained (idles_handleBootstrap bytes).shelf)

/-- **No handler looks behind.** -/
theorem Over.handleEvent (h : Over o t' t) (hroom : HasRoom o t) (lib : Library) (wasm32 : Bool)
    (event : HostEvent) :
    Over o (Turn.handleEvent lib wasm32 t' event) (Turn.handleEvent lib wasm32 t event) := by
  cases event with
  | command cmd =>
    exact h.of_onto (f := fun t => handleCommand lib t cmd)
      (fun _ => onto_handleCommand hroom lib cmd)
      (congrArg Shelf.retained (idles_handleCommand lib cmd).shelf)
  | wsBytes bufferId bytes => exact h.handleWsBytes hroom lib wasm32 bufferId bytes
  | timer nowMs =>
    exact h.of_onto (f := fun t => t.handleTimer nowMs) (fun _ => onto_handleTimer hroom nowMs)
      (congrArg Shelf.retained (idles_handleTimer nowMs).shelf)
  | releaseLease leaseId => exact h.releaseLease leaseId

/-- **No batch looks behind**, as long as there is room for what it sends. -/
theorem Over.handleEvents (h : Over o t' t) (lib : Library) (wasm32 : Bool)
    {events : List HostEvent}
    (hroom : o.outbound.length + t.outcome.outbound.length + events.length ≤ maxOutboundPerPoll) :
    Over o (Turn.handleEvents lib wasm32 t' events) (Turn.handleEvents lib wasm32 t events) := by
  induction events generalizing t t' with
  | nil => exact h
  | cons event events ih =>
    rw [List.length_cons] at hroom
    have hroom' : HasRoom o t := by
      unfold HasRoom
      omega
    have hlength := length_outbound_handleEvent (t := t) (by omega) lib wasm32 event
    have hstep := h.handleEvent hroom' lib wasm32 event
    obtain ⟨r, hr, -⟩ := hstep.engine_eq
    have hclosed : (Turn.handleEvent lib wasm32 t' event).engine.closed =
        (Turn.handleEvent lib wasm32 t event).engine.closed := by rw [hr]
    rw [Turn.handleEvents, Turn.handleEvents, hclosed]
    split_ifs
    · exact hstep
    · exact ih hstep (by omega)

/-! ## Cutting a batch -/

theorem length_outbound_handleEvents (lib : Library) (wasm32 : Bool) {events : List HostEvent}
    (hroom : t.outcome.outbound.length + events.length ≤ maxOutboundPerPoll) :
    (handleEvents lib wasm32 t events).outcome.outbound.length ≤
      t.outcome.outbound.length + events.length := by
  induction events generalizing t with
  | nil => exact Nat.le_refl _
  | cons event events ih =>
    rw [List.length_cons] at hroom ⊢
    have hfirst := length_outbound_handleEvent (t := t) (by omega) lib wasm32 event
    rw [handleEvents]
    split_ifs
    · omega
    · have hrest := ih (t := handleEvent lib wasm32 t event) (by omega)
      omega

theorem handleEvents_append (lib : Library) (wasm32 : Bool) {xs : List HostEvent}
    (ys : List HostEvent) (ht : t.engine.closed = false)
    (hopen : (handleEvents lib wasm32 t xs).engine.closed = false) :
    handleEvents lib wasm32 t (xs ++ ys) =
      handleEvents lib wasm32 (handleEvents lib wasm32 t xs) ys := by
  induction xs generalizing t with
  | nil => rfl
  | cons event xs ih =>
    rw [List.cons_append, handleEvents, handleEvents]
    rw [handleEvents] at hopen
    by_cases hclosed : (handleEvent lib wasm32 t event).engine.closed = true
    · rw [if_pos hclosed, hclosed] at hopen
      cases hopen
    · rw [if_neg hclosed, if_neg hclosed]
      rw [if_neg hclosed] at hopen
      exact ih (Bool.eq_false_of_not_eq_true hclosed) hopen

/-- A batch that ends open was handled to its end. -/
theorem handleEvents_eq_foldl (lib : Library) (wasm32 : Bool) {events : List HostEvent}
    (hopen : (handleEvents lib wasm32 t events).engine.closed = false) :
    handleEvents lib wasm32 t events = events.foldl (handleEvent lib wasm32) t := by
  induction events generalizing t with
  | nil => rfl
  | cons event events ih =>
    rw [handleEvents] at hopen ⊢
    by_cases hclosed : (handleEvent lib wasm32 t event).engine.closed = true
    · rw [if_pos hclosed, hclosed] at hopen
      cases hopen
    · rw [if_neg hclosed] at hopen ⊢
      exact ih hopen

/-! ## The sweep in between -/

theorem mem_idleBuffers_iff {e : ClientEngine} {id : UInt32} :
    id ∈ (ClientEngine.idleBuffers e).map (·.bufferId) ↔
      ∃ buf, e.retained.find? id = some buf ∧ buf.isIdle = true := by
  rw [ClientEngine.idleBuffers, List.map_filterMap, List.mem_filterMap]
  constructor
  · rintro ⟨key, -, hkey⟩
    cases hbuf : e.retained.find? key with
    | none =>
      rw [hbuf] at hkey
      cases hkey
    | some buf =>
      rw [hbuf, Option.bind_some] at hkey
      split_ifs at hkey with hidle
      · obtain rfl : key = id := Option.some.inj hkey
        exact ⟨buf, hbuf, hidle⟩
      · cases hkey
  · rintro ⟨buf, hbuf, hidle⟩
    have hmem : id ∈ e.retained.keys :=
      AList.lookup_isSome.mp (by rw [show e.retained.lookup id = _ from hbuf]; rfl)
    refine ⟨id, hmem, ?_⟩
    rw [hbuf, Option.bind_some, if_pos (by exact hidle)]
    rfl

/-- **What a sweep leaves** is what is not idle. -/
theorem find?_sweepReleased (t : Turn) (id : UInt32) :
    t.sweepReleased.engine.retained.find? id =
      (t.engine.retained.find? id).filter fun buf => !buf.isIdle := by
  rw [ClientEngine.retained_sweepReleased]
  simp only [mem_idleBuffers_iff]
  cases t.engine.retained.find? id with
  | none => simp
  | some buf => cases hidle : buf.isIdle <;> simp [Option.filter, hidle]

theorem covers_sweepReleased (t : Turn) :
    Covers t.sweepReleased.engine.retained t.engine.retained := by
  intro id
  rw [find?_sweepReleased]
  cases t.engine.retained.find? id with
  | none => exact .inl rfl
  | some buf =>
    cases hidle : buf.isIdle with
    | false => exact .inl (by simp [Option.filter, hidle])
    | true => exact .inr ⟨by simp [Option.filter, hidle], buf, rfl, hidle⟩

/-- A new turn after the sweep is the old one seen from behind. -/
theorem over_sweepReleased (t : Turn) : Over t.outcome t ⟨t.sweepReleased.engine, {}⟩ := by
  refine ⟨t.engine.retained, ?_, covers_sweepReleased t⟩
  simp only [onto, List.append_nil]
  rfl

end Turn
end Engine

/-! ## Poll turns -/

namespace ClientEngine

open Engine Turn

/-- Two engines that hold the same, whatever the order in which the buffers came. -/
structure Alike (e e' : ClientEngine) : Prop where
  rest : { e' with retained := e.retained } = e
  retained : ∀ id, e'.retained.find? id = e.retained.find? id

theorem alike_of_over {o : PollOutcome} {t' t : Turn} (h : Over o t' t) :
    Alike t'.sweepReleased.engine t.sweepReleased.engine := by
  obtain ⟨r, rfl, hr⟩ := h
  refine ⟨rfl, fun id => ?_⟩
  rw [find?_sweepReleased, find?_sweepReleased]
  show _ = (r.find? id).filter _
  rcases hr id with heq | ⟨hnone, buf, hbuf, hidle⟩
  · rw [heq]
  · rw [hnone, hbuf]
    simp [Option.filter, hidle]

variable {lib : Library} {wasm32 : Bool} {e : ClientEngine}

/-- Within the bound every event of the list is looked at. -/
theorem poll_of_le (hopen : e.closed = false) {events : List HostEvent}
    (hle : events.length ≤ maxHostEventsPerPoll) :
    e.poll lib wasm32 events =
      ((handleEvents lib wasm32 ⟨e, {}⟩ events).sweepReleased.engine,
        { (handleEvents lib wasm32 ⟨e, {}⟩ events).sweepReleased.outcome with
          nextDeadlineMs :=
            (handleEvents lib wasm32 ⟨e, {}⟩ events).sweepReleased.engine.nextHeartbeatMs }) := by
  rw [poll, hopen, List.take_of_length_le hle]
  rfl

/-- **A list within the bound may be cut anywhere**, as long as the engine is open at the cut. -/
theorem poll_append (hopen : e.closed = false) {xs ys : List HostEvent}
    (hlength : xs.length + ys.length ≤ maxHostEventsPerPoll)
    (hxs : (e.poll lib wasm32 xs).1.closed = false) :
    Alike (e.poll lib wasm32 (xs ++ ys)).1
        ((e.poll lib wasm32 xs).1.poll lib wasm32 ys).1 ∧
      (e.poll lib wasm32 (xs ++ ys)).2.outbound =
        (e.poll lib wasm32 xs).2.outbound ++
          ((e.poll lib wasm32 xs).1.poll lib wasm32 ys).2.outbound ∧
      (e.poll lib wasm32 (xs ++ ys)).2.events =
        (e.poll lib wasm32 xs).2.events ++
          ((e.poll lib wasm32 xs).1.poll lib wasm32 ys).2.events := by
  have hboth : (xs ++ ys).length ≤ maxHostEventsPerPoll := by
    rw [List.length_append]
    exact hlength
  have hfirst : xs.length ≤ maxHostEventsPerPoll := (Nat.le_add_right _ _).trans hlength
  have hsecond : ys.length ≤ maxHostEventsPerPoll := (Nat.le_add_left _ _).trans hlength
  have hbound : maxHostEventsPerPoll = maxOutboundPerPoll := rfl
  rw [poll_of_le hxs hsecond, poll_of_le hopen hboth]
  rw [poll_of_le hopen hfirst] at hxs ⊢
  have hsent : (handleEvents lib wasm32 ⟨e, {}⟩ xs).outcome.outbound.length ≤ 0 + xs.length :=
    length_outbound_handleEvents lib wasm32 ((Nat.zero_add _).trans_le (hbound ▸ hfirst))
  rw [handleEvents_append lib wasm32 ys hopen hxs]
  generalize handleEvents lib wasm32 ⟨e, {}⟩ xs = u at *
  have hroom : u.outcome.outbound.length + 0 + ys.length ≤ maxOutboundPerPoll := by omega
  have hover := (over_sweepReleased u).handleEvents lib wasm32 hroom
  refine ⟨alike_of_over hover, ?_⟩
  obtain ⟨r, hr, -⟩ := hover
  rw [hr]
  exact ⟨rfl, rfl⟩

/-- **Events within the bound of a poll turn are handled one by one.**  A poll turn is that of the
first `maxHostEventsPerPoll` events of its list.  If a list within the bound leaves the engine
open, all of its events were handled, in order; and polling `xs ++ ys` comes to the same engine,
the same outbound messages and the same events as polling `xs` and then `ys`, unless the engine was
closed in between. -/
theorem poll_handles_one_by_one (lib : Library) (wasm32 : Bool) {e : ClientEngine}
    (hopen : e.closed = false) :
    (∀ events, e.poll lib wasm32 events = e.poll lib wasm32 (events.take maxHostEventsPerPoll)) ∧
      (∀ events : List HostEvent, events.length ≤ maxHostEventsPerPoll →
        (e.poll lib wasm32 events).1.closed = false →
          (e.poll lib wasm32 events).1 =
              (events.foldl (handleEvent lib wasm32) ⟨e, {}⟩).sweepReleased.engine ∧
            (e.poll lib wasm32 events).2.outbound =
              (events.foldl (handleEvent lib wasm32) ⟨e, {}⟩).outcome.outbound ∧
            (e.poll lib wasm32 events).2.events =
              (events.foldl (handleEvent lib wasm32) ⟨e, {}⟩).outcome.events) ∧
      ∀ xs ys : List HostEvent, xs.length + ys.length ≤ maxHostEventsPerPoll →
        (e.poll lib wasm32 xs).1.closed = false →
          Alike (e.poll lib wasm32 (xs ++ ys)).1
              ((e.poll lib wasm32 xs).1.poll lib wasm32 ys).1 ∧
            (e.poll lib wasm32 (xs ++ ys)).2.outbound =
              (e.poll lib wasm32 xs).2.outbound ++
                ((e.poll lib wasm32 xs).1.poll lib wasm32 ys).2.outbound ∧
            (e.poll lib wasm32 (xs ++ ys)).2.events =
              (e.poll lib wasm32 xs).2.events ++
                ((e.poll lib wasm32 xs).1.poll lib wasm32 ys).2.events := by
  refine ⟨fun events => ?_, fun events hle hend => ?_, fun xs ys => poll_append hopen⟩
  · rw [poll, poll, hopen, List.take_take, Nat.min_self]
  · rw [poll_of_le hopen hle] at hend ⊢
    rw [← handleEvents_eq_foldl lib wasm32 hend]
    exact ⟨rfl, rfl, rfl⟩

/-- A start command and a tick, in one poll turn or in two. -/
theorem poll_handles_one_by_one_of_start :
    ((({} : ClientEngine).poll Pair.noLibrary false
      ([HostEvent.command (.start true false)] ++
        [HostEvent.timer 5])).2.outbound.map (·.bytes)).length = 1 ∧
    (({} : ClientEngine).poll Pair.noLibrary false
        ([HostEvent.command (.start true false)] ++ [HostEvent.timer 5])).2.outbound =
      (({} : ClientEngine).poll Pair.noLibrary false [.command (.start true false)]).2.outbound ++
        ((({} : ClientEngine).poll Pair.noLibrary false
          [.command (.start true false)]).1.poll Pair.noLibrary false [.timer 5]).2.outbound :=
  ⟨by decide +kernel,
    ((poll_handles_one_by_one Pair.noLibrary false rfl).2.2 _ _ (by decide)
      (by decide +kernel)).2.1⟩

/-- The 65th event of a list is dropped: a start command behind 64 ticks starts nothing, and the
engine stays open. -/
theorem not_handled_beyond_bound :
    ¬ ∀ (e : ClientEngine) (events : List HostEvent), e.closed = false →
      (e.poll Pair.noLibrary false events).1.closed = false →
        (e.poll Pair.noLibrary false events).1.started =
          (events.foldl (handleEvent Pair.noLibrary false) ⟨e, {}⟩).engine.started := by
  intro h
  have hticks := h {}
    (List.replicate 64 (HostEvent.timer 0) ++ [HostEvent.command (.start true false)]) rfl
    (by decide +kernel)
  exact absurd hticks (by decide +kernel)

end ClientEngine
end Rclweb
