import Rclweb.Engine.Runs
import Rclweb.Library.Lending

/-!
# Leases

An inbound message is kept in a buffer under an id, and the payload of an application frame is
leased to the host, which gives the lease back by its id; at the end of a poll turn the buffers
nothing is leased from are returned.  `ClientEngine.store` is this part of an engine, an instance
of buffers that are lent.

Only inbound bytes, released leases and the end of a poll turn touch it; every other handler
*idles* (`Turn.Idles`).
-/

namespace Rclweb

open Rclweb.Frame Control

namespace Engine

/-- The lease an event carries. -/
def AppEvent.lease? : AppEvent → Option UInt32
  | .sample _ leaseId _ _ _ => some leaseId
  | .serviceRequest e | .serviceResponse e | .actionGoal e | .actionFeedback e
  | .actionResult e | .actionStatus e => some e.leaseId
  | _ => none

/-! ## Saturating ids -/

theorem toNat_saturatingSucc32 (n : UInt32) :
    n.toNat < (saturatingSucc32 n).toNat ∨ saturatingSucc32 n = 0xffffffff := by
  unfold saturatingSucc32
  split_ifs with h
  · exact .inr h
  · left
    have hlt := n.toNat_lt
    have hne : n.toNat ≠ 0xffffffff := fun heq => h (UInt32.toNat_inj.mp heq)
    rw [UInt32.toNat_add]
    show n.toNat < (n.toNat + 1) % 2 ^ 32
    omega

theorem le_saturatingSucc32 (n : UInt32) : n.toNat ≤ (saturatingSucc32 n).toNat := by
  rcases toNat_saturatingSucc32 n with h | h
  · exact h.le
  · have hlt := n.toNat_lt
    rw [h]
    show n.toNat ≤ 0xffffffff
    omega

namespace Turn

/-! ## Handlers that idle -/

/-- The buffers and leases of a turn, and what it returned of them. -/
structure Shelf where
  retained : Table UInt32 RetainedBuffer
  leases : Table UInt32 Lease
  nextLeaseId : UInt32
  released : List ReleasedBuffer

def shelf (t : Turn) : Shelf :=
  ⟨t.engine.retained, t.engine.leases, t.engine.nextLeaseId, t.outcome.releasedBuffers⟩

/-- **Nothing happens to buffers and leases**, except that buffer ids may be used up. -/
structure Idles (t u : Turn) : Prop where
  shelf : u.shelf = t.shelf
  nextBuffer : t.engine.nextBufferId.toNat ≤ u.engine.nextBufferId.toNat
  events : ∃ fresh, u.outcome.events = t.outcome.events ++ fresh ∧
    ∀ event ∈ fresh, event.lease? = none

variable {t u v : Turn}

@[refl] theorem Idles.refl (t : Turn) : t.Idles t :=
  ⟨rfl, le_rfl, [], (List.append_nil _).symm, fun _ h => absurd h List.not_mem_nil⟩

theorem Idles.trans (h : t.Idles u) (h' : u.Idles v) : t.Idles v := by
  obtain ⟨fresh, hfresh, hnone⟩ := h.events
  obtain ⟨fresh', hfresh', hnone'⟩ := h'.events
  refine ⟨h'.shelf.trans h.shelf, h.nextBuffer.trans h'.nextBuffer, fresh ++ fresh', ?_, ?_⟩
  · rw [hfresh', hfresh, List.append_assoc]
  · intro event hevent
    rcases List.mem_append.mp hevent with hevent | hevent
    · exact hnone event hevent
    · exact hnone' event hevent

variable (t)

theorem idles_emit {event : AppEvent} (h : event.lease? = none) : t.Idles (t.emit event) :=
  ⟨rfl, le_rfl, [event], rfl, fun _ hmem => List.mem_singleton.mp hmem ▸ h⟩

/-- A change of the engine that leaves buffers, leases and their ids alone. -/
theorem idles_modify {f : ClientEngine → ClientEngine} (hshelf : (t.modify f).shelf = t.shelf)
    (hnext : (f t.engine).nextBufferId = t.engine.nextBufferId) : t.Idles (t.modify f) :=
  ⟨hshelf, (congrArg UInt32.toNat hnext).ge, [], (List.append_nil _).symm,
    fun _ h => absurd h List.not_mem_nil⟩

theorem idles_session (session : Session) :
    t.Idles (t.modify fun e => { e with session := session }) := t.idles_modify rfl rfl

theorem idles_fail (code : UInt8) (message : String) : t.Idles (t.fail code message) :=
  ((t.idles_modify rfl rfl).trans (idles_emit _ rfl)).trans (idles_emit _ rfl)

theorem idles_pushOutbound (bytes : List UInt8) : t.Idles (t.pushOutbound bytes) := by
  unfold pushOutbound
  split_ifs
  · rfl
  · exact ⟨rfl, le_saturatingSucc32 _, [], (List.append_nil _).symm,
      fun _ h => absurd h List.not_mem_nil⟩

variable {t}

theorem idles_pushControl {message : CborValue} (h : t.pushControl message = some u) :
    t.Idles u := by
  unfold pushControl at h
  split at h
  · cases h
  · next bytes _ =>
    obtain ⟨w, hw, rfl⟩ := Option.map_eq_some_iff.mp h
    unfold recordFrame at hw
    split at hw
    · cases hw
    · split at hw
      · cases hw
      · next session _ =>
        obtain rfl := Option.some.inj hw
        refine ((t.idles_session session).trans ?_).trans (idles_pushOutbound _ bytes)
        exact idles_modify _ rfl rfl

theorem idles_heartbeat (counter : UInt64) :
    t.Idles ((t.pushControl (heartbeat counter)).getD t) := by
  cases h : t.pushControl (heartbeat counter) with
  | none => rfl
  | some u => exact idles_pushControl h

/-! ## Commands -/

theorem lease?_openFailed (kind : PendingKind) (id : UInt32) (code : UInt8) (message : String) :
    (openFailed kind id code message).lease? = none := by
  cases kind <;> rfl

theorem idles_start (transferable webtransport : Bool) :
    t.Idles (t.start transferable webtransport) := by
  unfold start
  split_ifs
  · rfl
  · refine Idles.trans (idles_modify (f := fun e => { e with started := true }) t rfl rfl) ?_
    dsimp only
    split
    · exact idles_fail ..
    · split
      · exact idles_fail ..
      · next w hw =>
        unfold pushBootstrapOutbound at hw
        split at hw
        · cases hw
        · split at hw
          · cases hw
          · obtain rfl := Option.some.inj hw
            exact (idles_session _ _).trans (idles_pushOutbound _ _)

theorem idles_pushOpen (message : CborValue) (failure : String) (channelId : UInt32)
    (pending : PendingOpen) : t.Idles (t.pushOpen message failure channelId pending) := by
  unfold pushOpen
  split
  · exact t.idles_fail ..
  · next u hu => exact (idles_pushControl hu).trans (u.idles_modify rfl rfl)

theorem idles_openChannelCmd (lib : Library) (options : TopicOptions) (operationKind : UInt64)
    (kind : PendingKind) : t.Idles (openChannelCmd lib t options operationKind kind) := by
  unfold openChannelCmd
  split
  · next event hevent =>
    refine t.idles_emit ?_
    unfold schemaUnavailable at hevent
    split at hevent
    · cases hevent
    · exact Option.some.inj hevent ▸ lease?_openFailed ..
  · exact idles_pushOpen ..

theorem idles_openEndpoint (lib : Library) (options : EndpointOptions) (kind : PendingKind)
    (message : CborValue) (failure : String) :
    t.Idles (openEndpoint lib t options kind message failure) := by
  unfold openEndpoint
  split
  · next event hevent =>
    refine t.idles_emit ?_
    unfold schemaUnavailable at hevent
    split at hevent
    · cases hevent
    · exact Option.some.inj hevent ▸ lease?_openFailed ..
  · exact idles_pushOpen ..

theorem idles_sendSamplePayload (channelId : UInt32) (payload : List UInt8) :
    t.Idles (t.sendSamplePayload channelId payload) := by
  unfold sendSamplePayload
  split
  · exact t.idles_emit rfl
  · split
    · exact t.idles_emit rfl
    · split
      · exact t.idles_emit rfl
      · split
        · exact t.idles_emit rfl
        · refine Idles.trans ?_ (idles_pushOutbound _ _)
          exact t.idles_modify rfl rfl

theorem idles_sendServiceActionFrame (channelId : UInt32) (opcode : UInt8)
    (operationId : OperationId) (payload : List UInt8) (reliable : Bool) :
    t.Idles (t.sendServiceActionFrame channelId opcode operationId payload reliable) := by
  have hnotReady : (t.operationNotReady channelId).lease? = none := by
    unfold operationNotReady
    split <;> rfl
  unfold sendServiceActionFrame
  split
  · exact t.idles_emit hnotReady
  · next sequence w htake =>
    have hw : t.Idles w := by
      unfold takeOperationSequence at htake
      dsimp only at htake
      split at htake
      · cases htake
        exact t.idles_modify rfl rfl
      · split at htake
        · cases htake
          exact t.idles_modify rfl rfl
        · cases htake
    refine hw.trans ?_
    split
    · exact w.idles_emit rfl
    · split
      · exact w.idles_emit rfl
      · split
        · exact w.idles_emit rfl
        · split
          · exact w.idles_emit rfl
          · exact (w.idles_session _).trans (idles_pushOutbound _ _)

theorem idles_sendOperation (lib : Library) (channelId : UInt32) (op : GeneratedOpKind)
    (opcode : UInt8) (operationId : OperationId) (bytes : List UInt8) (reliable : Bool)
    {failure : AppEvent} (hfailure : failure.lease? = none) :
    t.Idles (sendOperation lib t channelId op opcode operationId bytes reliable failure) := by
  unfold sendOperation
  split
  · exact idles_sendServiceActionFrame ..
  · exact t.idles_emit hfailure

theorem idles_unsubscribe (correlation : ByteArrayOf 16) (channelId : UInt32) :
    t.Idles (t.unsubscribe correlation channelId) := by
  unfold unsubscribe
  split
  · exact t.idles_fail ..
  · next u hu => exact (idles_pushControl hu).trans (u.idles_modify rfl rfl)

/-- **Commands idle.** -/
theorem idles_sendEncoded (channelId : UInt32) (payload : Option (List UInt8))
    (message : String) :
    t.Idles (match payload with
      | some payload => t.sendSamplePayload channelId payload
      | none => t.emit (.publishFailed channelId 1 message)) := by
  cases payload with
  | none => exact t.idles_emit rfl
  | some payload => exact idles_sendSamplePayload channelId payload

theorem idles_handleCommand (lib : Library) (cmd : AppCommand) :
    t.Idles (handleCommand lib t cmd) := by
  cases cmd with
  | start transferable webtransport => exact idles_start ..
  | authenticate correlation scheme token =>
    show t.Idles ((t.pushControl _).getD _)
    cases h : t.pushControl (Engine.authenticate correlation scheme token) with
    | none => exact t.idles_fail ..
    | some u => exact idles_pushControl h
  | subscribe options => exact idles_openChannelCmd ..
  | publish options => exact idles_openChannelCmd ..
  | sendSample channelId stringData =>
    show t.Idles (sendSample lib t channelId stringData)
    unfold sendSample
    split
    · exact t.idles_emit rfl
    · exact idles_sendSamplePayload ..
  | sendPointCloud2 channelId view => exact idles_sendEncoded ..
  | sendGenerated channelId typeName value => exact idles_sendEncoded ..
  | openService options => exact idles_openEndpoint ..
  | openAction options => exact idles_openEndpoint ..
  | callService | sendServiceResponse | sendActionGoal | sendActionFeedback | sendActionResult =>
    exact idles_sendOperation lib _ _ _ _ _ _ rfl
  | cancelAction | sendActionStatus => exact idles_sendServiceActionFrame ..
  | unsubscribe correlation channelId => exact idles_unsubscribe ..
  | close =>
    refine Idles.trans (idles_modify (f := fun e => { e with closed := true }) t rfl rfl) ?_
    exact idles_emit _ rfl

/-! ## Control messages and timers -/

theorem idles_handleBootstrap (bytes : List UInt8) : t.Idles (t.handleBootstrap bytes) := by
  unfold handleBootstrap
  split
  · exact t.idles_fail ..
  · split
    · exact t.idles_fail ..
    · next effects session _ =>
      refine (t.idles_session session).trans ?_
      dsimp only
      split_ifs
      · refine (Idles.trans ?_ (idles_emit _ rfl)).trans (idles_emit _ rfl)
        exact idles_modify _ rfl rfl
      · exact idles_emit _ rfl
      · rfl

theorem idles_handleSessionReady (fields : Fields) : t.Idles (t.handleSessionReady fields) := by
  unfold handleSessionReady
  dsimp only
  split
  · refine Idles.trans (Idles.trans ?_ (idles_emit _ rfl)) (idles_modify _ rfl rfl)
    exact t.idles_modify rfl rfl
  · refine Idles.trans ?_ (idles_emit _ rfl)
    exact t.idles_modify rfl rfl

theorem idles_activate (id : UInt32) (pending : PendingOpen) (rel : UInt8) :
    t.Idles (t.activate id pending rel) := by
  unfold activate
  dsimp only
  split <;> exact (t.idles_emit rfl).trans (idles_modify _ rfl rfl)

theorem idles_handleChannelReady (fields : Fields) (effects : SessionEffects) :
    t.Idles (t.handleChannelReady fields effects) := by
  unfold handleChannelReady
  dsimp only
  split_ifs
  · refine Idles.trans ?_ (idles_activate _ _ _)
    exact t.idles_modify rfl rfl
  · refine Idles.trans ?_ (idles_emit _ (lease?_openFailed ..))
    exact t.idles_modify rfl rfl

theorem idles_handleHeartbeat (fields : Fields) : t.Idles (t.handleHeartbeat fields) := by
  unfold handleHeartbeat
  refine Idles.trans ?_ (idles_heartbeat _)
  exact Idles.trans (t.idles_emit rfl) (idles_modify _ rfl rfl)

theorem idles_handleError (fields : Fields) (effects : SessionEffects) :
    t.Idles (t.handleError fields effects) := by
  unfold handleError
  split_ifs
  · exact t.idles_fail ..
  · split
    · exact t.idles_emit rfl
    · refine Idles.trans ?_ (idles_emit _ (lease?_openFailed ..))
      exact t.idles_modify rfl rfl
    · rfl

/-- **Control messages idle.** -/
theorem idles_handleControl (msg : ControlMessage) (effects : SessionEffects) :
    t.Idles (t.handleControl msg effects) := by
  exact handleControl_cases (idles_handleSessionReady _) (fun _ => idles_handleChannelReady _ _)
    (fun _ => idles_handleHeartbeat _) (fun _ _ _ => t.idles_emit rfl)
    (fun _ => t.idles_emit rfl) (fun _ => idles_handleError _ _) (.refl t)

theorem idles_handleTimer (nowMs : UInt64) : t.Idles (t.handleTimer nowMs) := by
  have hrearm (u : Turn) (deadline : UInt64) :
      u.Idles (u.modify fun e => { e with nextHeartbeatMs := some deadline }) :=
    u.idles_modify rfl rfl
  unfold handleTimer
  dsimp only
  refine Idles.trans (idles_modify (f := fun e => { e with lastTimerMs := some nowMs }) t rfl rfl) ?_
  split_ifs
  · rfl
  · split
    · exact hrearm _ _
    · split_ifs
      · refine Idles.trans ?_ ((idles_heartbeat _).trans (hrearm _ _))
        exact idles_modify _ rfl rfl
      · rfl

/-! ## Inbound frames -/

/-- Whether the payload of inbound bytes is leased: they are an application frame the session
takes, and no cancel. -/
def leasesPayload (e : ClientEngine) (bytes : List UInt8) : Bool :=
  e.session.phase.inSelectedPlane &&
    match parseFrameDeclared bytes (retainDeclaredLen bytes) defaultOptions with
    | .error _ => false
    | .ok frame =>
      (e.session.ingestFrame frame).1.isOk && frame.opcode != opcodeControlCbor &&
        frame.opcode != opcodeActionCancel

/-- **What leasing the payload of a frame does**: a lease with the next id is issued, and one
event carries it. -/
structure Leasing (t u : Turn) (bufferId : UInt32) (bytes : List UInt8) (frame : DecodedFrame)
    (payload : List UInt8) : Prop where
  parse : parseFrameDeclared bytes (retainDeclaredLen bytes) defaultOptions = .ok frame
  payload : frame.payload = .application payload
  opcode : frame.opcode ≠ opcodeControlCbor
  leases : leasesPayload t.engine bytes = true
  shelf : u.shelf = (t.issueLease bufferId frame).2.shelf
  nextBuffer : u.engine.nextBufferId = t.engine.nextBufferId
  events : ∃ event : AppEvent, u.outcome.events = t.outcome.events ++ [event] ∧
    event.lease? = some t.engine.nextLeaseId

/-- The session a frame was taken by is not part of the shelf. -/
theorem Leasing.of_session {session : Session} {bufferId : UInt32} {bytes : List UInt8}
    {frame : DecodedFrame} {payload : List UInt8} {event : AppEvent}
    (hparse : parseFrameDeclared bytes (retainDeclaredLen bytes) defaultOptions = .ok frame)
    (hpayload : frame.payload = .application payload) (hopcode : frame.opcode ≠ opcodeControlCbor)
    (hleases : leasesPayload t.engine bytes = true)
    (hevent : event.lease? = some t.engine.nextLeaseId) :
    t.Leasing ((((t.modify fun e => { e with session := session }).issueLease bufferId
      frame).2).emit event) bufferId bytes frame payload :=
  ⟨hparse, hpayload, hopcode, hleases, rfl, rfl, event, rfl, hevent⟩

theorem lease?_operationEvent {opcode : UInt8} {op : OperationEvent} {event : AppEvent}
    (h : operationEvent opcode op = some event) : event.lease? = some op.leaseId := by
  rcases operationEvent_cases h with rfl | rfl | rfl | rfl | rfl | rfl <;> rfl

/-- Every opcode of a service or an action but the cancel has an event. -/
theorem operationEvent_ne_none {opcode : UInt8}
    (h : Transition.isServiceOrActionOpcode opcode = true) (hcancel : opcode ≠ opcodeActionCancel)
    (op : OperationEvent) : operationEvent opcode op ≠ none := by
  intro hnone
  unfold operationEvent at hnone
  split_ifs at hnone with h1 h2 h3 h4 h5 h6
  simp [Transition.isServiceOrActionOpcode, h1, h2, h3, h4, h5, h6, hcancel] at h

/-- **A frame idles or leases its payload.** -/
theorem handleFrame_cases (lib : Library) (wasm32 : Bool) (bufferId : UInt32) (bytes : List UInt8)
    (hplane : t.engine.session.phase.inSelectedPlane = true) :
    t.Idles (handleFrame lib wasm32 t bufferId bytes) ∨
      ∃ frame payload,
        t.Leasing (handleFrame lib wasm32 t bufferId bytes) bufferId bytes frame payload := by
  unfold handleFrame
  dsimp only
  split
  · exact .inl (t.idles_fail ..)
  · next frame hparse =>
    split
    · exact .inl (t.idles_fail ..)
    · next effects session hingest =>
      have hsession := t.idles_session session
      by_cases hcontrol : frame.opcode = opcodeControlCbor
      · rw [if_pos hcontrol]
        left
        split_ifs
        · exact hsession.trans (idles_fail ..)
        · refine hsession.trans (Idles.trans (u := Turn.modify _ fun e =>
            { e with controlSeqIn := e.controlSeqIn + 1 }) (idles_modify _ rfl rfl) ?_)
          split
          · exact idles_handleControl _ _
          · exact idles_fail ..
      rw [if_neg hcontrol]
      have hleases (hcancel : frame.opcode ≠ opcodeActionCancel) :
          leasesPayload t.engine bytes = true := by
        simp [leasesPayload, hparse, hplane, hingest, Except.isOk, Except.toBool, hcontrol,
          hcancel]
      by_cases hsample : frame.opcode = opcodeRosSample
      · rw [if_pos hsample]
        unfold handleSample
        cases hpayload : frame.payload with
        | control msg => exact .inl hsession
        | application payload =>
          dsimp only
          split_ifs
          · exact .inl (hsession.trans (idles_fail ..))
          · refine .inr ⟨frame, payload, Leasing.of_session hparse hpayload hcontrol ?_ rfl⟩
            exact hleases (by rw [hsample]; decide)
      rw [if_neg hsample]
      by_cases hoperation : Transition.isServiceOrActionOpcode frame.opcode = true
      · rw [if_pos hoperation]
        unfold handleServiceAction
        cases hpayload : frame.payload with
        | control msg => exact .inl hsession
        | application payload =>
          dsimp only
          by_cases hbounds : payloadOutOfBounds frame (retainDeclaredLen bytes) = true
          · rw [if_pos hbounds]
            exact .inl (hsession.trans (idles_fail ..))
          rw [if_neg hbounds]
          by_cases hcancel : frame.opcode = opcodeActionCancel
          · rw [if_pos hcancel]
            exact .inl hsession
          rw [if_neg hcancel]
          split
          · exact .inl (hsession.trans (idles_fail ..))
          · next operationId _ =>
            split
            · next event hevent =>
              exact .inr ⟨frame, payload, Leasing.of_session hparse hpayload hcontrol
                (hleases hcancel) (lease?_operationEvent hevent)⟩
            · next hnone => exact absurd hnone (operationEvent_ne_none hoperation hcancel _)
      · rw [if_neg hoperation]
        exact .inl hsession

end Turn
end Engine

/-! ## The store of an engine -/

namespace ClientEngine

open Engine Turn

/-- **Buffers and leases**, as buffers that are lent. -/
def store (e : ClientEngine) : Lending.Store UInt32 UInt32 (List UInt8) Lease :=
  ⟨fun id => (e.retained.find? id).map fun buf => (buf.bytes, buf.leaseRefs.toNat), e.leases⟩

/-- **What holds between host events**: the counts are right, all bytes were looked at, and ids in
use are behind the next one, until the ids are used up. -/
structure Tidy (e : ClientEngine) : Prop where
  consistent : Lending.Consistent Lease.bufferId e.store
  ingested : ∀ id buf, e.retained.find? id = some buf → buf.ingestDone = true
  freshBuffer : ∀ id, (e.retained.find? id).isSome = true →
    id.toNat < e.nextBufferId.toNat ∨ e.nextBufferId = 0xffffffff
  freshLease : ∀ id, (e.leases.find? id).isSome = true →
    id.toNat < e.nextLeaseId.toNat ∨ e.nextLeaseId = 0xffffffff

/-- A new engine has no buffers. -/
theorem tidy_new : ({} : ClientEngine).Tidy where
  consistent := ⟨fun _ _ _ h => (by cases h), fun _ _ h => (by cases h)⟩
  ingested _ _ h := by cases h
  freshBuffer _ h := by cases h
  freshLease _ h := by cases h

/-- Whether inbound bytes can be kept, and their payload leased: the last id of either kind is
not handed out while it is in use. -/
def hasIds (e : ClientEngine) (bytes : List UInt8) : Bool :=
  (e.nextBufferId != 0xffffffff || (e.retained.find? 0xffffffff).isNone) &&
    (!leasesPayload e bytes || e.nextLeaseId != 0xffffffff || (e.leases.find? 0xffffffff).isNone)

variable {e : ClientEngine}

/-- An id that is not used up is not in use. -/
theorem none_of_fresh {ν : Type} {table : Table UInt32 ν} {next : UInt32}
    (hfresh : ∀ id, (table.find? id).isSome = true → id.toNat < next.toNat ∨ next = 0xffffffff)
    (hnext : next ≠ 0xffffffff ∨ table.find? 0xffffffff = none) : table.find? next = none := by
  by_contra hsome
  have hlt := hfresh next (Option.isSome_iff_ne_none.mpr hsome)
  rcases hlt with hlt | hmax
  · exact absurd hlt (Nat.lt_irrefl _)
  · rw [hmax] at hsome
    exact hsome (hnext.resolve_left (not_not_intro hmax))

theorem Tidy.nextBuffer_none (h : e.Tidy) {bytes : List UInt8} (hids : e.hasIds bytes = true) :
    e.retained.find? e.nextBufferId = none := by
  refine none_of_fresh h.freshBuffer ?_
  rw [hasIds, Bool.and_eq_true] at hids
  simpa using hids.1

theorem Tidy.nextLease_none (h : e.Tidy) {bytes : List UInt8} (hids : e.hasIds bytes = true)
    (hleases : leasesPayload e bytes = true) : e.leases.find? e.nextLeaseId = none := by
  refine none_of_fresh h.freshLease ?_
  rw [hasIds, Bool.and_eq_true, hleases] at hids
  simpa using hids.2

/-- Ids that are behind one id are behind a later one. -/
theorem behind_mono {id n n' : UInt32} (h : id.toNat < n.toNat ∨ n = 0xffffffff)
    (hle : n.toNat ≤ n'.toNat) : id.toNat < n'.toNat ∨ n' = 0xffffffff := by
  rcases h with h | h
  · exact .inl (h.trans_le hle)
  · right
    have hlt := n'.toNat_lt
    rw [h] at hle
    refine UInt32.toNat_inj.mp (Nat.le_antisymm ?_ hle)
    show n'.toNat ≤ 0xffffffff
    omega

/-- The store is a matter of buffers and leases. -/
theorem store_of_shelf {t u : Turn} (h : u.shelf = t.shelf) :
    u.engine.store = t.engine.store := by
  have hretained : u.engine.retained = t.engine.retained := congrArg Shelf.retained h
  have hleases : u.engine.leases = t.engine.leases := congrArg Shelf.leases h
  rw [store, hretained, hleases]
  rfl

/-- A handler that idles keeps everything. -/
theorem Tidy.idles {t u : Turn} (ht : t.engine.Tidy) (h : t.Idles u) : u.engine.Tidy := by
  have hretained : u.engine.retained = t.engine.retained := congrArg Shelf.retained h.shelf
  have hleases : u.engine.leases = t.engine.leases := congrArg Shelf.leases h.shelf
  have hnext : u.engine.nextLeaseId = t.engine.nextLeaseId := congrArg Shelf.nextLeaseId h.shelf
  refine ⟨store_of_shelf h.shelf ▸ ht.consistent, fun id buf hbuf => ?_, fun id hid => ?_,
    fun id hid => ?_⟩
  · rw [hretained] at hbuf
    exact ht.ingested id buf hbuf
  · rw [hretained] at hid
    exact behind_mono (ht.freshBuffer id hid) h.nextBuffer
  · rw [hleases] at hid
    rw [hnext]
    exact ht.freshLease id hid

/-! ## Keeping and leasing -/

/-- Keeping inbound bytes retains them. -/
theorem store_retain {t : Turn} (bytes : List UInt8) :
    (t.retain 0 bytes).2.engine.store =
      { t.engine.store with
        buffer := Function.update t.engine.store.buffer t.engine.nextBufferId
          (some (bytes, 0)) } := by
  show Lending.Store.mk _ _ = Lending.Store.mk _ _
  congr 1
  funext id
  show ((t.engine.retained.set t.engine.nextBufferId _).find? id).map _ = _
  rw [Table.find?_set]
  by_cases hid : id = t.engine.nextBufferId
  · rw [if_pos hid, hid, Function.update_self]
    rfl
  · rw [if_neg hid, Function.update_of_ne hid]
    rfl

theorem retained_issueLease {t : Turn} {bufferId : UInt32} (frame : DecodedFrame)
    {buf : RetainedBuffer} (hbuf : t.engine.retained.find? bufferId = some buf) :
    (t.issueLease bufferId frame).2.engine.retained =
      t.engine.retained.set bufferId { buf with leaseRefs := saturatingSucc32 buf.leaseRefs } := by
  unfold issueLease Turn.modify
  dsimp only
  rw [hbuf]

/-- Issuing a lease lends a part of the buffer. -/
theorem store_issueLease {t : Turn} {bufferId : UInt32} (frame : DecodedFrame)
    {buf : RetainedBuffer} (hbuf : t.engine.retained.find? bufferId = some buf)
    (hrefs : buf.leaseRefs ≠ 0xffffffff) :
    (t.issueLease bufferId frame).2.engine.store =
      ⟨t.engine.store.recount bufferId (· + 1),
        t.engine.leases.set t.engine.nextLeaseId
          ⟨bufferId, payloadStart frame, frame.payloadLen.toNat⟩⟩ := by
  have hcount : (saturatingSucc32 buf.leaseRefs).toNat = buf.leaseRefs.toNat + 1 := by
    have hlt := buf.leaseRefs.toNat_lt
    have hne : buf.leaseRefs.toNat ≠ 0xffffffff := fun h => hrefs (UInt32.toNat_inj.mp h)
    rw [saturatingSucc32, if_neg hrefs, UInt32.toNat_add]
    show (buf.leaseRefs.toNat + 1) % 2 ^ 32 = _
    omega
  show Lending.Store.mk _ _ = Lending.Store.mk _ _
  congr 1
  funext id
  rw [retained_issueLease frame hbuf, Table.find?_set]
  by_cases hid : id = bufferId
  · have hstore : t.engine.store.buffer bufferId = some (buf.bytes, buf.leaseRefs.toNat) := by
      show (t.engine.retained.find? bufferId).map _ = _
      rw [hbuf]
      rfl
    rw [if_pos hid, hid, Lending.Store.recount_self _ hstore, Option.map_some, hcount]
  · rw [if_neg hid, Lending.Store.recount_of_ne _ hid]
    rfl

/-- `u32::saturating_sub(1)`. -/
theorem toNat_sub_min (n : UInt32) : (n - min n 1).toNat = n.toNat - 1 := by
  by_cases h : n ≤ 1
  · have hmin : min n 1 = n := if_pos h
    have hle : n.toNat ≤ 1 := UInt32.le_iff_toNat_le.mp h
    rw [hmin, UInt32.sub_self]
    show 0 = n.toNat - 1
    omega
  · have hmin : min n 1 = 1 := if_neg h
    have hlt : 1 ≤ n := by
      have hnat : ¬ n.toNat ≤ 1 := fun hle => h (UInt32.le_iff_toNat_le.mpr hle)
      refine UInt32.le_iff_toNat_le.mpr ?_
      show 1 ≤ n.toNat
      omega
    rw [hmin, UInt32.toNat_sub_of_le _ _ hlt]
    rfl

theorem find?_releaseLease {t : Turn} {leaseId : UInt32} {lease : Lease}
    (hlease : t.engine.leases.find? leaseId = some lease) (id : UInt32) :
    (t.releaseLease leaseId).engine.retained.find? id =
      (t.engine.retained.find? id).map fun buf =>
        if id = lease.bufferId then { buf with leaseRefs := buf.leaseRefs - min buf.leaseRefs 1 }
        else buf := by
  unfold releaseLease
  rw [hlease]
  refine Table.find?_change
    (fun buf : RetainedBuffer => { buf with leaseRefs := buf.leaseRefs - min buf.leaseRefs 1 })
    (fun buf hbuf => ?_)
    (fun hnone => ?_) id
  · rw [engine_modify, hbuf]
  · rw [engine_modify, hnone]

/-- Releasing a lease gives it back. -/
theorem store_releaseLease {t : Turn} {leaseId : UInt32} {lease : Lease}
    (hlease : t.engine.leases.find? leaseId = some lease) :
    (t.releaseLease leaseId).engine.store =
      ⟨t.engine.store.recount lease.bufferId (· - 1), t.engine.leases.remove leaseId⟩ := by
  have hleases : (t.releaseLease leaseId).engine.leases = t.engine.leases.remove leaseId := by
    rw [releaseLease, hlease]
    rfl
  rw [store, hleases]
  congr 1
  funext id
  rw [find?_releaseLease hlease]
  have hstore : t.engine.store.buffer id =
      (t.engine.retained.find? id).map fun buf => (buf.bytes, buf.leaseRefs.toNat) := rfl
  by_cases hid : id = lease.bufferId
  · rw [hid] at hstore ⊢
    rw [Lending.Store.recount, Function.update_self, hstore]
    cases t.engine.retained.find? lease.bufferId with
    | none => rfl
    | some buf =>
      simp only [Option.map_some, if_true, toNat_sub_min]
  · rw [Lending.Store.recount_of_ne _ hid, hstore, Option.map_map]
    simp only [if_neg hid]
    rfl

/-- The act of keeping inbound bytes. -/
abbrev keeping (t : Turn) (bytes : List UInt8) : Lending.Act UInt32 UInt32 (List UInt8) Lease :=
  .retain t.engine.nextBufferId bytes

/-- The act of leasing the payload of a frame in the next buffer. -/
abbrev leasing (t : Turn) (frame : DecodedFrame) :
    Lending.Act UInt32 UInt32 (List UInt8) Lease :=
  .lend t.engine.nextLeaseId
    ⟨t.engine.nextBufferId, payloadStart frame, frame.payloadLen.toNat⟩

/-- **Inbound bytes were handled**, up to the note that this is done. -/
structure Kept (t u : Turn) (acts : List (Lending.Act UInt32 UInt32 (List UInt8) Lease)) :
    Prop where
  steps : Lending.Steps Lease.bufferId t.engine.store acts u.engine.store
  other : ∀ id, id ≠ t.engine.nextBufferId →
    u.engine.retained.find? id = t.engine.retained.find? id
  here : (u.engine.retained.find? t.engine.nextBufferId).isSome = true
  nextBuffer : (saturatingSucc32 t.engine.nextBufferId).toNat ≤ u.engine.nextBufferId.toNat
  freshLease : ∀ id, (u.engine.leases.find? id).isSome = true →
    id.toNat < u.engine.nextLeaseId.toNat ∨ u.engine.nextLeaseId = 0xffffffff
  released : u.outcome.releasedBuffers = t.outcome.releasedBuffers

/-- The note that bytes were handled. -/
def noteDone (bufferId : UInt32) (e : ClientEngine) : ClientEngine :=
  { e with
    retained :=
      match e.retained.find? bufferId with
      | some buf => e.retained.set bufferId { buf with ingestDone := true }
      | none => e.retained }

theorem find?_noteDone (e : ClientEngine) (bufferId id : UInt32) :
    (noteDone bufferId e).retained.find? id =
      (e.retained.find? id).map fun buf =>
        if id = bufferId then { buf with ingestDone := true } else buf := by
  refine Table.find?_change (fun buf : RetainedBuffer => { buf with ingestDone := true })
    (fun buf hbuf => ?_)
    (fun hnone => ?_) id
  · rw [noteDone, hbuf]
  · rw [noteDone, hnone]

theorem store_noteDone (e : ClientEngine) (bufferId : UInt32) :
    (noteDone bufferId e).store = e.store := by
  show Lending.Store.mk _ _ = Lending.Store.mk _ _
  congr 1
  funext id
  rw [find?_noteDone, Option.map_map]
  congr 1
  funext buf
  show ((if id = bufferId then { buf with ingestDone := true } else buf).bytes, _) = _
  dsimp only [Function.comp_apply]
  split_ifs <;> rfl

/-- **Handled bytes leave a tidy engine.** -/
theorem Kept.tidy {t u : Turn} {acts : List (Lending.Act UInt32 UInt32 (List UInt8) Lease)}
    (ht : t.engine.Tidy) (h : Kept t u acts) :
    (noteDone t.engine.nextBufferId u.engine).Tidy := by
  refine ⟨?_, fun id buf hbuf => ?_, fun id hid => ?_, h.freshLease⟩
  · rw [store_noteDone]
    exact ht.consistent.steps h.steps
  · rw [find?_noteDone] at hbuf
    obtain ⟨buf', hbuf', rfl⟩ := Option.map_eq_some_iff.mp hbuf
    split_ifs with hhere
    · rfl
    · rw [h.other id hhere] at hbuf'
      exact ht.ingested id buf' hbuf'
  · rw [find?_noteDone, Option.isSome_map] at hid
    show id.toNat < u.engine.nextBufferId.toNat ∨ u.engine.nextBufferId = 0xffffffff
    by_cases hhere : id = t.engine.nextBufferId
    · rw [hhere]
      exact behind_mono (toNat_saturatingSucc32 _) h.nextBuffer
    · rw [h.other id hhere] at hid
      exact behind_mono (ht.freshBuffer id hid) ((le_saturatingSucc32 _).trans h.nextBuffer)

theorem kept_retain {t : Turn} (ht : t.engine.Tidy) {bytes : List UInt8}
    (hids : t.engine.hasIds bytes = true) :
    Kept t (t.retain 0 bytes).2 [keeping t bytes] where
  steps := by
    rw [store_retain]
    refine .cons (.retain _ _ _ ?_) (.nil _)
    show (t.engine.retained.find? t.engine.nextBufferId).map _ = none
    rw [ht.nextBuffer_none hids]
    rfl
  other id hid := by
    show (t.engine.retained.set t.engine.nextBufferId _).find? id = _
    rw [Table.find?_set, if_neg hid]
  here := by
    show ((t.engine.retained.set t.engine.nextBufferId _).find? _).isSome = true
    rw [Table.find?_set_self]
    rfl
  nextBuffer := le_rfl
  freshLease := ht.freshLease
  released := rfl

/-- What was kept is a matter of buffers and leases. -/
theorem Kept.of_shelf {t u v : Turn} {acts : List (Lending.Act UInt32 UInt32 (List UInt8) Lease)}
    (h : Kept t u acts) (hshelf : v.shelf = u.shelf)
    (hbuffer : u.engine.nextBufferId.toNat ≤ v.engine.nextBufferId.toNat) : Kept t v acts := by
  have hretained : v.engine.retained = u.engine.retained := congrArg Shelf.retained hshelf
  have hleases : v.engine.leases = u.engine.leases := congrArg Shelf.leases hshelf
  have hnext : v.engine.nextLeaseId = u.engine.nextLeaseId := congrArg Shelf.nextLeaseId hshelf
  have hreleased : v.outcome.releasedBuffers = u.outcome.releasedBuffers :=
    congrArg Shelf.released hshelf
  exact
    { steps := store_of_shelf hshelf ▸ h.steps
      other := fun id hid => hretained ▸ h.other id hid
      here := hretained ▸ h.here
      nextBuffer := h.nextBuffer.trans hbuffer
      freshLease := fun id hid => by
        rw [hleases] at hid
        rw [hnext]
        exact h.freshLease id hid
      released := hreleased.trans h.released }

/-- The first lease on a buffer that was just kept. -/
theorem kept_issueLease {t : Turn} (ht : t.engine.Tidy) {bytes : List UInt8}
    (hids : t.engine.hasIds bytes = true) (hleases : leasesPayload t.engine bytes = true)
    (frame : DecodedFrame) :
    Kept t ((t.retain 0 bytes).2.issueLease t.engine.nextBufferId frame).2
      [keeping t bytes, leasing t frame] := by
  have hkept := kept_retain ht hids
  have hbuf : (t.retain 0 bytes).2.engine.retained.find? t.engine.nextBufferId =
      some ⟨bytes, retainDeclaredLen bytes, 0, false⟩ := by
    show (t.engine.retained.set t.engine.nextBufferId _).find? _ = _
    rw [Table.find?_set_self]
  have hretained := retained_issueLease frame hbuf
  have hstore := store_issueLease frame hbuf (show (0 : UInt32) ≠ 0xffffffff by decide)
  refine ⟨?_, fun id hid => ?_, ?_, le_rfl, fun id hid => ?_, rfl⟩
  · rw [hstore, store_retain]
    refine .cons (.retain _ _ _ ?_) (.cons (.lend _ _ _ ?_ ?_) (.nil _))
    · show (t.engine.retained.find? t.engine.nextBufferId).map _ = none
      rw [ht.nextBuffer_none hids]
      rfl
    · exact ht.nextLease_none hids hleases
    · show (Function.update t.engine.store.buffer t.engine.nextBufferId _ _).isSome = true
      rw [Function.update_self]
      rfl
  · rw [hretained, Table.find?_set, if_neg hid]
    exact hkept.other id hid
  · rw [hretained, Table.find?_set_self]
    rfl
  · show id.toNat < (saturatingSucc32 t.engine.nextLeaseId).toNat ∨
      saturatingSucc32 t.engine.nextLeaseId = 0xffffffff
    have hsome : ((t.engine.leases.set t.engine.nextLeaseId
        ⟨t.engine.nextBufferId, payloadStart frame, frame.payloadLen.toNat⟩).find? id).isSome =
          true := hid
    rw [Table.find?_set] at hsome
    split_ifs at hsome with hlast
    · rw [hlast]
      exact toNat_saturatingSucc32 _
    · exact behind_mono (ht.freshLease id hsome) (le_saturatingSucc32 _)

/-! ## Host events -/

/-- The leases that events carry which were added. -/
def leasesSince (t u : Turn) : List UInt32 :=
  (u.outcome.events.drop t.outcome.events.length).filterMap AppEvent.lease?

/-- The buffers that were returned meanwhile. -/
def releasedSince (t u : Turn) : List UInt32 :=
  (u.outcome.releasedBuffers.drop t.outcome.releasedBuffers.length).map (·.bufferId)

theorem leasesSince_of_idles {t u : Turn} (h : t.Idles u) : leasesSince t u = [] := by
  obtain ⟨fresh, hfresh, hnone⟩ := h.events
  rw [leasesSince, hfresh, List.drop_left]
  exact List.filterMap_eq_nil_iff.mpr hnone

theorem releasedSince_of_eq {t u : Turn}
    (h : u.outcome.releasedBuffers = t.outcome.releasedBuffers) : releasedSince t u = [] := by
  rw [releasedSince, h, List.drop_length]
  rfl

/-- **What inbound bytes do**: they are kept, and the payload may be leased. -/
theorem handleWsBytes_spec (lib : Library) (wasm32 : Bool) {t : Turn} (ht : t.engine.Tidy)
    {bytes : List UInt8} (hids : t.engine.hasIds bytes = true) :
    ∃ u, handleWsBytes lib wasm32 t 0 bytes = u.modify (noteDone t.engine.nextBufferId) ∧
      (Kept t u [keeping t bytes] ∧ leasesSince t u = [] ∨
        ∃ frame payload,
          parseFrameDeclared bytes (retainDeclaredLen bytes) defaultOptions = .ok frame ∧
          frame.payload = .application payload ∧ frame.opcode ≠ opcodeControlCbor ∧
          Kept t u [keeping t bytes, leasing t frame] ∧
          leasesSince t u = [t.engine.nextLeaseId]) := by
  have hkept := kept_retain ht hids
  have hidle {u : Turn} (h : (t.retain 0 bytes).2.Idles u) :
      Kept t u [keeping t bytes] ∧ leasesSince t u = [] :=
    ⟨hkept.of_shelf h.shelf h.nextBuffer, leasesSince_of_idles (t := (t.retain 0 bytes).2) h⟩
  by_cases hplane : t.engine.session.phase.inSelectedPlane = true
  · refine ⟨handleFrame lib wasm32 (t.retain 0 bytes).2 t.engine.nextBufferId bytes, ?_, ?_⟩
    · have hnext : (t.retain 0 bytes).2.engine.session.phase.inSelectedPlane = true := hplane
      unfold handleWsBytes
      dsimp only
      rw [if_pos hnext]
      rfl
    · rcases handleFrame_cases lib wasm32 (t := (t.retain 0 bytes).2) t.engine.nextBufferId bytes
        hplane with h | ⟨frame, payload, h⟩
      · exact .inl (hidle h)
      · refine .inr ⟨frame, payload, h.parse, h.payload, h.opcode, ?_, ?_⟩
        · have hlease := kept_issueLease ht hids h.leases frame
          exact hlease.of_shelf h.shelf (congrArg UInt32.toNat h.nextBuffer).ge
        · obtain ⟨event, hevents, hevent⟩ := h.events
          rw [leasesSince, hevents]
          show List.filterMap _ ((t.outcome.events ++ [event]).drop _) = _
          rw [List.drop_left, List.filterMap_cons, hevent]
          rfl
  · refine ⟨(t.retain 0 bytes).2.handleBootstrap bytes, ?_, .inl (hidle (idles_handleBootstrap bytes))⟩
    have hnext : ¬ (t.retain 0 bytes).2.engine.session.phase.inSelectedPlane = true := hplane
    unfold handleWsBytes
    dsimp only
    rw [if_neg hnext]
    rfl

/-! ## The end of a poll turn -/

/-- The buffers a sweep gives back. -/
def idleBuffers (e : ClientEngine) : List ReleasedBuffer :=
  e.retained.keys.filterMap fun id =>
    (e.retained.find? id).bind fun buf =>
      if buf.ingestDone && buf.leaseRefs == 0 then
        some ⟨id, UInt32.ofNat buf.bytes.length⟩
      else none

theorem returns_eq (e : ClientEngine) (id : UInt32) :
    e.store.returns id = (e.retained.find? id).any fun buf => buf.leaseRefs.toNat == 0 := by
  have hstore : e.store.buffer id =
      (e.retained.find? id).map fun buf => (buf.bytes, buf.leaseRefs.toNat) := rfl
  rw [Lending.Store.returns, hstore]
  cases e.retained.find? id <;> rfl

/-- **A sweep gives back the buffers the store returns**, each once. -/
theorem map_idleBuffers (he : e.Tidy) :
    (idleBuffers e).map (·.bufferId) = e.retained.keys.filter fun id => e.store.returns id := by
  rw [idleBuffers, List.map_filterMap, ← List.filterMap_eq_filter]
  refine List.filterMap_congr fun id _ => ?_
  rw [Option.guard, returns_eq]
  cases hbuf : e.retained.find? id with
  | none => rfl
  | some buf =>
    have hdone := he.ingested id buf hbuf
    by_cases hrefs : buf.leaseRefs = 0
    · simp [hdone, hrefs]
    · have hnat : buf.leaseRefs.toNat ≠ 0 := fun h => hrefs (UInt32.toNat_inj.mp h)
      simp [hdone, hrefs, hnat]

theorem mem_idleBuffers (he : e.Tidy) {id : UInt32} :
    id ∈ (idleBuffers e).map (·.bufferId) ↔ e.store.returns id = true := by
  rw [map_idleBuffers he, List.mem_filter]
  refine ⟨And.right, fun h => ⟨?_, h⟩⟩
  rw [returns_eq] at h
  cases hbuf : e.retained.find? id with
  | none =>
    rw [hbuf] at h
    cases h
  | some buf => exact AList.lookup_isSome.mp (by rw [show e.retained.lookup id = _ from hbuf]; rfl)

theorem retained_sweepReleased (t : Turn) (id : UInt32) :
    t.sweepReleased.engine.retained.find? id =
      if id ∈ (idleBuffers t.engine).map (·.bufferId) then none
      else t.engine.retained.find? id :=
  Table.find?_foldl_remove ReleasedBuffer.bufferId (idleBuffers t.engine) t.engine.retained id

/-- **The end of a poll turn sweeps the store.** -/
theorem store_sweepReleased {t : Turn} (ht : t.engine.Tidy) :
    t.sweepReleased.engine.store =
      { t.engine.store with
        buffer := fun b => (t.engine.store.buffer b).filter fun p => p.2 != 0 } := by
  show Lending.Store.mk _ _ = Lending.Store.mk _ _
  congr 1
  funext id
  have hstore : t.engine.store.buffer id =
      (t.engine.retained.find? id).map fun buf => (buf.bytes, buf.leaseRefs.toNat) := rfl
  rw [retained_sweepReleased]
  simp only [mem_idleBuffers ht]
  rw [returns_eq, hstore]
  cases t.engine.retained.find? id with
  | none => simp
  | some buf =>
    by_cases hrefs : buf.leaseRefs.toNat = 0 <;> simp [hrefs, Option.filter]

theorem tidy_sweepReleased {t : Turn} (ht : t.engine.Tidy) : t.sweepReleased.engine.Tidy := by
  have hsub {id : UInt32} {buf : RetainedBuffer}
      (h : t.sweepReleased.engine.retained.find? id = some buf) :
      t.engine.retained.find? id = some buf := by
    rw [retained_sweepReleased] at h
    split_ifs at h
    exact h
  refine ⟨?_, fun id buf hbuf => ht.ingested id buf (hsub hbuf), fun id hid => ?_, ht.freshLease⟩
  · rw [store_sweepReleased ht]
    exact ht.consistent.sweep
  · obtain ⟨buf, hbuf⟩ := Option.isSome_iff_exists.mp hid
    exact ht.freshBuffer id (by rw [hsub hbuf]; rfl)

theorem releasedSince_sweepReleased (t : Turn) :
    releasedSince t t.sweepReleased = (idleBuffers t.engine).map (·.bufferId) := by
  show List.map _ (List.drop _ (t.outcome.releasedBuffers ++ idleBuffers t.engine)) = _
  rw [List.drop_left]

/-- Releasing a lease leaves a tidy engine. -/
theorem tidy_releaseLease {t : Turn} (ht : t.engine.Tidy) (leaseId : UInt32) :
    (t.releaseLease leaseId).engine.Tidy := by
  cases hlease : t.engine.leases.find? leaseId with
  | none =>
    rw [releaseLease, hlease]
    exact ht
  | some lease =>
    have hstep : Lending.Step Lease.bufferId t.engine.store (.giveBack leaseId)
        (t.releaseLease leaseId).engine.store :=
      store_releaseLease hlease ▸ .giveBack _ _ _ hlease
    refine ⟨ht.consistent.step hstep, fun id buf hbuf => ?_, fun id hid => ?_, fun id hid => ?_⟩
    · rw [find?_releaseLease hlease] at hbuf
      obtain ⟨buf', hbuf', rfl⟩ := Option.map_eq_some_iff.mp hbuf
      have hdone := ht.ingested id buf' hbuf'
      split_ifs <;> exact hdone
    · rw [find?_releaseLease hlease, Option.isSome_map] at hid
      have hnext : (t.releaseLease leaseId).engine.nextBufferId = t.engine.nextBufferId := by
        rw [releaseLease, hlease]
        rfl
      rw [hnext]
      exact ht.freshBuffer id hid
    · have hrest : (t.releaseLease leaseId).engine.leases = t.engine.leases.remove leaseId ∧
          (t.releaseLease leaseId).engine.nextLeaseId = t.engine.nextLeaseId := by
        rw [releaseLease, hlease]
        exact ⟨rfl, rfl⟩
      rw [hrest.1, Table.find?_remove] at hid
      rw [hrest.2]
      split_ifs at hid
      · cases hid
      · exact ht.freshLease id hid

/-! ## Moments of a run -/

/-- **A moment of a run**: a host event is handled or, without one, a poll turn ends. -/
structure Moment where
  before : Turn
  event : Option HostEvent
  after : Turn

namespace Moment

/-- Leases that are emitted. -/
def leases (m : Moment) : List UInt32 := leasesSince m.before m.after

/-- Buffers that are returned. -/
def released (m : Moment) : List UInt32 := releasedSince m.before m.after

/-- Inbound messages leave the choice of the buffer to the engine, and there are ids for them. -/
def hasIds (m : Moment) : Bool :=
  match m.event with
  | some (.wsBytes bufferId bytes) => bufferId == 0 && m.before.engine.hasIds bytes
  | _ => true

/-- What an event or its absence does. -/
def Moves (lib : Library) (wasm32 : Bool) (m : Moment) : Prop :=
  match m.event with
  | some event => m.after = handleEvent lib wasm32 m.before event
  | none => m.after = m.before.sweepReleased

end Moment

/-- The moments of a poll turn. -/
def moments (lib : Library) (wasm32 : Bool) (e : ClientEngine) (events : List HostEvent) :
    List Moment :=
  if e.closed then []
  else
    let last := handleEvents lib wasm32 ⟨e, {}⟩ (events.take maxHostEventsPerPoll)
    (e.steps lib wasm32 events).map (fun p => ⟨p.1, some p.2, handleEvent lib wasm32 p.1 p.2⟩) ++
      [⟨last, none, last.sweepReleased⟩]

/-- **The moments of a run**, one poll turn after the other. -/
def trace (lib : Library) (wasm32 : Bool) : ClientEngine → List (List HostEvent) → List Moment
  | _, [] => []
  | e, events :: rest =>
    e.moments lib wasm32 events ++ trace lib wasm32 (e.poll lib wasm32 events).1 rest

/-- **What a moment does to the store**, and which acts show. -/
structure Does (m : Moment) (acts : List (Lending.Act UInt32 UInt32 (List UInt8) Lease)) :
    Prop where
  steps : Lending.Steps Lease.bufferId m.before.engine.store acts m.after.engine.store
  tidy : m.after.engine.Tidy
  leases : ∀ id ∈ m.leases, ∃ lease, .lend id lease ∈ acts
  released : ∀ id, m.released.count id =
    if m.event = none ∧ m.before.engine.store.returns id = true then 1 else 0
  giveBack : ∀ id, .giveBack id ∈ acts → m.event = some (.releaseLease id)
  retain : ∀ id bytes, .retain id bytes ∈ acts →
    m.event = some (.wsBytes 0 bytes) ∧ id = m.before.engine.nextBufferId
  sweep : .sweep ∈ acts → m.event = none

/-- A handler that idles does nothing. -/
theorem does_of_idles {m : Moment} (hm : m.before.engine.Tidy) (h : m.before.Idles m.after)
    (hevent : m.event ≠ none) : Does m [] where
  steps := store_of_shelf h.shelf ▸ .nil _
  tidy := hm.idles h
  leases id hid := by
    rw [Moment.leases, leasesSince_of_idles h] at hid
    exact absurd hid List.not_mem_nil
  released id := by
    rw [Moment.released, releasedSince_of_eq (congrArg Shelf.released h.shelf),
      if_neg fun hnone => hevent hnone.1]
    rfl
  giveBack id h := absurd h List.not_mem_nil
  retain id bytes h := absurd h List.not_mem_nil
  sweep h := absurd h List.not_mem_nil

theorem does_releaseLease {m : Moment} (hm : m.before.engine.Tidy) {leaseId : UInt32}
    (hevent : m.event = some (.releaseLease leaseId))
    (hafter : m.after = m.before.releaseLease leaseId) : Does m [.giveBack leaseId] := by
  have houtcome : m.after.outcome = m.before.outcome := by
    rw [hafter]
    exact m.before.outbound_releaseLease leaseId
  refine ⟨?_, hafter ▸ tidy_releaseLease hm leaseId, fun id hid => ?_, fun id => ?_, ?_, ?_, ?_⟩
  · rw [hafter]
    cases hlease : m.before.engine.leases.find? leaseId with
    | none =>
      rw [releaseLease, hlease]
      exact .cons (.unknown _ _ hlease) (.nil _)
    | some lease =>
      rw [store_releaseLease hlease]
      exact .cons (.giveBack _ _ _ hlease) (.nil _)
  · rw [Moment.leases, leasesSince, houtcome, List.drop_length] at hid
    exact absurd hid List.not_mem_nil
  · rw [Moment.released, releasedSince_of_eq (by rw [houtcome]), if_neg (by simp [hevent])]
    rfl
  · intro id hid
    cases List.mem_singleton.mp hid
    exact hevent
  · intro id bytes hid
    cases List.mem_singleton.mp hid
  · intro hsweep
    cases List.mem_singleton.mp hsweep

theorem does_sweep {m : Moment} (hm : m.before.engine.Tidy) (hevent : m.event = none)
    (hafter : m.after = m.before.sweepReleased) : Does m [.sweep] := by
  refine ⟨?_, hafter ▸ tidy_sweepReleased hm, fun id hid => ?_, fun id => ?_, ?_, ?_, ?_⟩
  · rw [hafter, store_sweepReleased hm]
    exact .cons (.sweep _) (.nil _)
  · have hevents : m.after.outcome.events = m.before.outcome.events := by
      rw [hafter]
      rfl
    rw [Moment.leases, leasesSince, hevents, List.drop_length] at hid
    exact absurd hid List.not_mem_nil
  · have hnodup : ((idleBuffers m.before.engine).map (·.bufferId)).Nodup := by
      rw [map_idleBuffers hm]
      exact (AList.keys_nodup _).filter _
    rw [Moment.released, hafter, releasedSince_sweepReleased, hnodup.count]
    simp only [mem_idleBuffers hm, hevent, true_and]
  · intro id hid
    cases List.mem_singleton.mp hid
  · intro id bytes hid
    cases List.mem_singleton.mp hid
  · intro _
    exact hevent

/-- What inbound bytes do, and the lease that shows. -/
theorem does_wsBytes (lib : Library) (wasm32 : Bool) {m : Moment} (hm : m.before.engine.Tidy)
    {bytes : List UInt8} (hevent : m.event = some (.wsBytes 0 bytes))
    (hafter : m.after = handleWsBytes lib wasm32 m.before 0 bytes)
    (hids : m.before.engine.hasIds bytes = true) :
    Does m [keeping m.before bytes] ∧ m.leases = [] ∨
      ∃ frame payload,
        parseFrameDeclared bytes (retainDeclaredLen bytes) defaultOptions = .ok frame ∧
        frame.payload = .application payload ∧ frame.opcode ≠ opcodeControlCbor ∧
        Does m [keeping m.before bytes, leasing m.before frame] ∧
        m.leases = [m.before.engine.nextLeaseId] := by
  obtain ⟨u, hu, hcases⟩ := handleWsBytes_spec lib wasm32 hm hids
  have hdoes {acts} (hkept : Kept m.before u acts)
      (hleases : ∀ id ∈ leasesSince m.before u, ∃ lease, .lend id lease ∈ acts)
      (hacts : ∀ a ∈ acts, a = keeping m.before bytes ∨ ∃ id lease, a = .lend id lease) :
      Does m acts := by
    have hengine : m.after.engine = noteDone m.before.engine.nextBufferId u.engine := by
      rw [hafter, hu]
      rfl
    have houtcome : m.after.outcome = u.outcome := by
      rw [hafter, hu]
      rfl
    refine ⟨?_, ?_, ?_, fun id => ?_, fun id hid => ?_, fun id b hid => ?_, fun hsweep => ?_⟩
    · rw [hengine, store_noteDone]
      exact hkept.steps
    · rw [hengine]
      exact hkept.tidy hm
    · rw [Moment.leases, leasesSince, houtcome]
      exact hleases
    · rw [Moment.released, releasedSince_of_eq (by rw [houtcome]; exact hkept.released),
        if_neg (by simp [hevent])]
      rfl
    · rcases hacts _ hid with h | ⟨_, _, h⟩ <;> cases h
    · rcases hacts _ hid with h | ⟨_, _, h⟩
      · cases h
        exact ⟨hevent, rfl⟩
      · cases h
    · rcases hacts _ hsweep with h | ⟨_, _, h⟩ <;> cases h
  have hleases : m.leases = leasesSince m.before u := by
    rw [Moment.leases, hafter, hu]
    rfl
  rcases hcases with ⟨hkept, hnone⟩ | ⟨frame, payload, hparse, hpayload, hopcode, hkept, hone⟩
  · refine .inl ⟨hdoes hkept (by simp [hnone]) (by simp), hleases.trans hnone⟩
  · refine .inr ⟨frame, payload, hparse, hpayload, hopcode, hdoes hkept ?_ (by simp),
      hleases.trans hone⟩
    intro id hid
    rw [hone, List.mem_singleton] at hid
    subst hid
    exact ⟨_, List.mem_cons_of_mem _ List.mem_cons_self⟩

/-- **Every moment is a few acts on the store.** -/
theorem does (lib : Library) (wasm32 : Bool) {m : Moment} (hm : m.before.engine.Tidy)
    (hmoves : m.Moves lib wasm32) (hids : m.hasIds = true) : ∃ acts, Does m acts := by
  unfold Moment.Moves at hmoves
  unfold Moment.hasIds at hids
  cases hevent : m.event with
  | none =>
    rw [hevent] at hmoves
    exact ⟨_, does_sweep hm hevent hmoves⟩
  | some event =>
    rw [hevent] at hmoves hids
    have hsome : m.event ≠ none := by simp [hevent]
    cases event with
    | wsBytes bufferId bytes =>
      rw [Bool.and_eq_true, beq_iff_eq] at hids
      obtain ⟨rfl, hids⟩ := hids
      rcases does_wsBytes lib wasm32 hm hevent hmoves hids with h | ⟨_, _, -, -, -, h, -⟩
      · exact ⟨_, h.1⟩
      · exact ⟨_, h⟩
    | timer nowMs => exact ⟨_, does_of_idles hm (hmoves ▸ idles_handleTimer nowMs) hsome⟩
    | command cmd => exact ⟨_, does_of_idles hm (hmoves ▸ idles_handleCommand lib cmd) hsome⟩
    | releaseLease leaseId => exact ⟨_, does_releaseLease hm hevent hmoves⟩

end ClientEngine
end Rclweb
