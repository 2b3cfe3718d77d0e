import Rclweb.Engine.LeaseRuns

/-!
# Application frames in the engine

An application frame comes to one of three verdicts: it closes the engine, it is passed over, or
its payload is leased and one event names the lease.  The verdict is read off the session and
the header; on a host that decodes samples itself the payload bytes have no part in it.

`poll_application` says what a poll turn with one such frame does.  Only the retained buffers
depend on the bytes behind the header.
-/

namespace Rclweb

open Rclweb.Frame Control Engine.Turn

namespace Engine

/-- **What an application frame comes to**; a leased payload is told under the id of the lease. -/
inductive Verdict where
  | fails (code : UInt8) (message : String)
  | ignored
  | leased (event : UInt32 → AppEvent)

namespace Verdict

/-- The events of a poll turn with one frame. -/
def events (v : Verdict) (phase : SessionPhase) (leaseId : UInt32) : List AppEvent :=
  match v with
  | .fails code message => [.error code message, .closed phase]
  | .ignored => []
  | .leased event => [event leaseId]

/-- What a frame does to the engine, but for the retained buffers. -/
def engine (v : Verdict) (e : ClientEngine) (lease : Lease) : ClientEngine :=
  match v with
  | .fails _ _ => { e with closed := true }
  | .ignored => e
  | .leased _ =>
    { e with
      nextLeaseId := saturatingSucc32 e.nextLeaseId
      leases := e.leases.set e.nextLeaseId lease }

end Verdict

/-- The verdict on a sample the session takes. -/
def sampleVerdict (frame : DecodedFrame) (declaredLen : ℕ) : Verdict :=
  if payloadOutOfBounds frame declaredLen then .fails 25 "sample_payload_out_of_bounds"
  else
    .leased fun id => .sample frame.channelId id frame.sequence frame.sourceTimeNs none

/-- The verdict on an operation frame the session takes. -/
def operationVerdict (frame : DecodedFrame) (declaredLen : ℕ) : Verdict :=
  if payloadOutOfBounds frame declaredLen then .fails 25 "service_action_payload_out_of_bounds"
  else if frame.opcode = opcodeActionCancel then .ignored
  else
    match (frameOperationId frame).or
        (if frame.opcode = opcodeActionStatus then some OperationId.zero.1 else none) with
    | none => .fails 25 "missing_operation_id"
    | some operationId =>
      .leased fun id =>
        (operationEvent frame.opcode ⟨frame.channelId, operationId, id, frame.sequence⟩).getD
          (.error 0 "")

/-- **The verdict on an application frame.** -/
def verdict (s : Session) (frame : DecodedFrame) (declaredLen : ℕ) : Verdict :=
  match (s.ingestFrame frame).1 with
  | .error err => .fails (UInt8.ofNat err.code) err.reason
  | .ok _ =>
    if frame.opcode = opcodeRosSample then sampleVerdict frame declaredLen
    else if Transition.isServiceOrActionOpcode frame.opcode then operationVerdict frame declaredLen
    else .ignored

/-- An application frame leaves the session as it is. -/
theorem session_ingestFrame_application {s : Session} {frame : DecodedFrame}
    (h : frame.opcode ≠ opcodeControlCbor) : (s.ingestFrame frame).2 = s := by
  show Session.mk (Transition.applyFrame s.inner frame s.inner.role.peer).2 = s
  rw [Transition.applyFrame]
  split_ifs
  · rfl
  · rfl
  · rw [Transition.state_applyRosSample]
  · rw [Transition.state_applyServiceActionFrame]
  · rw [Transition.state_applyParkedFrame]

/-- The session looks at the payload of control frames only. -/
theorem ingestFrame_payload (s : Session) {frame : DecodedFrame} (payload : FramePayload)
    (h : frame.opcode ≠ opcodeControlCbor) :
    s.ingestFrame { frame with payload := payload } = s.ingestFrame frame := by
  show Session.ofOutcome (Transition.applyFrame ..) = Session.ofOutcome (Transition.applyFrame ..)
  rw [Transition.applyFrame, Transition.applyFrame, if_neg h, if_neg h]
  rfl

/-- **The verdict does not depend on the payload.** -/
theorem verdict_payload (s : Session) {frame : DecodedFrame} (payload : FramePayload)
    (declaredLen : ℕ) (h : frame.opcode ≠ opcodeControlCbor) :
    verdict s { frame with payload := payload } declaredLen = verdict s frame declaredLen := by
  unfold verdict
  rw [ingestFrame_payload s payload h]
  rfl

/-- A leased payload is told under its lease. -/
theorem lease?_of_verdict {s : Session} {frame : DecodedFrame} {declaredLen : ℕ}
    {event : UInt32 → AppEvent} (h : verdict s frame declaredLen = .leased event) (id : UInt32) :
    (event id).lease? = some id := by
  unfold verdict at h
  split at h
  · cases h
  split_ifs at h with hsample hoperation
  · unfold sampleVerdict at h
    split_ifs at h
    cases h
    rfl
  · unfold operationVerdict at h
    by_cases hbounds : payloadOutOfBounds frame declaredLen = true
    · rw [if_pos hbounds] at h
      cases h
    by_cases hcancel : frame.opcode = opcodeActionCancel
    · rw [if_neg hbounds, if_pos hcancel] at h
      cases h
    rw [if_neg hbounds, if_neg hcancel] at h
    split at h
    · cases h
    · next operationId _ =>
      cases h
      obtain ⟨event, hevent⟩ := Option.ne_none_iff_exists'.mp <|
        operationEvent_ne_none hoperation hcancel ⟨frame.channelId, operationId, id, frame.sequence⟩
      dsimp only
      rw [hevent, Option.getD_some]
      exact lease?_operationEvent hevent

namespace Turn

/-- Carry out a verdict. -/
def settle (t : Turn) (v : Verdict) (bufferId : UInt32) (frame : DecodedFrame) : Turn :=
  match v with
  | .fails code message => t.fail code message
  | .ignored => t
  | .leased event => (t.issueLease bufferId frame).2.emit (event t.engine.nextLeaseId)

theorem handleServiceAction_eq (t : Turn) (bufferId : UInt32) {frame : DecodedFrame}
    (declaredLen : ℕ) {payload : List UInt8} (hpayload : frame.payload = .application payload)
    (hopcode : Transition.isServiceOrActionOpcode frame.opcode = true) :
    t.handleServiceAction bufferId frame declaredLen =
      t.settle (operationVerdict frame declaredLen) bufferId frame := by
  unfold handleServiceAction operationVerdict
  rw [hpayload]
  dsimp only
  by_cases hbounds : payloadOutOfBounds frame declaredLen = true
  · rw [if_pos hbounds, if_pos hbounds]
    rfl
  rw [if_neg hbounds, if_neg hbounds]
  by_cases hcancel : frame.opcode = opcodeActionCancel
  · rw [if_pos hcancel, if_pos hcancel]
    rfl
  rw [if_neg hcancel, if_neg hcancel]
  cases hid : (frameOperationId frame).or
      (if frame.opcode = opcodeActionStatus then some OperationId.zero.1 else none) with
  | none => rfl
  | some operationId =>
    obtain ⟨event, hevent⟩ := Option.ne_none_iff_exists'.mp <|
      operationEvent_ne_none hopcode hcancel
        ⟨frame.channelId, operationId, t.engine.nextLeaseId, frame.sequence⟩
    have hlease : t.issueLease bufferId frame =
        (t.engine.nextLeaseId, (t.issueLease bufferId frame).2) := rfl
    unfold settle
    rw [hlease]
    dsimp only
    rw [hevent]
    rfl

/-- **An application frame is settled by its verdict.** -/
theorem handleFrame_application (lib : Library) (t : Turn) (bufferId : UInt32)
    {bytes : List UInt8} {frame : DecodedFrame}
    (hparse : parseFrameDeclared bytes (retainDeclaredLen bytes) defaultOptions = .ok frame)
    (hopcode : frame.opcode ≠ opcodeControlCbor) :
    handleFrame lib true t bufferId bytes =
      t.settle (verdict t.engine.session frame (retainDeclaredLen bytes)) bufferId frame := by
  obtain ⟨payload, hpayload⟩ : ∃ payload, frame.payload = .application payload := by
    rcases payload_of_parseDeclared hparse hopcode with ⟨-, h⟩ | ⟨-, -, h⟩
    · exact ⟨_, h⟩
    · exact ⟨_, h⟩
  have hsession := session_ingestFrame_application (s := t.engine.session) hopcode
  have hmodify : (t.modify fun e => { e with session := t.engine.session }) = t := rfl
  unfold handleFrame verdict
  dsimp only
  rw [hparse]
  dsimp only
  cases hingest : t.engine.session.ingestFrame frame with
  | mk result session =>
  rw [hingest] at hsession
  obtain rfl : session = t.engine.session := hsession
  cases result with
  | error err => rfl
  | ok effects =>
    dsimp only
    rw [if_neg hopcode, hmodify]
    by_cases hsample : frame.opcode = opcodeRosSample
    · rw [if_pos hsample, if_pos hsample, handleSample, hpayload]
      dsimp only
      unfold sampleVerdict
      split_ifs <;> rfl
    rw [if_neg hsample, if_neg hsample]
    by_cases hoperation : Transition.isServiceOrActionOpcode frame.opcode = true
    · rw [if_pos hoperation, if_pos hoperation]
      exact handleServiceAction_eq t bufferId _ hpayload hoperation
    · rw [if_neg hoperation, if_neg hoperation]
      rfl

/-- What is kept of inbound bytes, and under which id. -/
theorem find?_retain (t : Turn) (bufferId : UInt32) (bytes : List UInt8) :
    (t.retain bufferId bytes).2.engine.retained.find? (t.retain bufferId bytes).1 =
      some ⟨bytes, retainDeclaredLen bytes, 0, false⟩ := by
  unfold retain
  dsimp only
  split_ifs <;> exact Table.find?_set_self ..

/-- But for the buffers, retaining does not depend on the bytes. -/
theorem retain_bytes (t : Turn) (bufferId : UInt32) (bytes bytes' : List UInt8) :
    (t.retain bufferId bytes).1 = (t.retain bufferId bytes').1 ∧
      (t.retain bufferId bytes).2.engine =
        { (t.retain bufferId bytes').2.engine with
          retained := (t.retain bufferId bytes).2.engine.retained } := by
  unfold retain
  dsimp only
  split_ifs <;> exact ⟨rfl, rfl⟩

end Turn
end Engine

namespace ClientEngine

open Engine

/-- A buffer that something is leased from stays when the turn ends. -/
theorem find?_sweepReleased_of_leased {t : Turn} {id : UInt32} {buf : RetainedBuffer}
    (hbuf : t.engine.retained.find? id = some buf) (hrefs : buf.leaseRefs ≠ 0) :
    t.sweepReleased.engine.retained.find? id = some buf := by
  rw [retained_sweepReleased, if_neg, hbuf]
  intro hidle
  obtain ⟨b, hb, rfl⟩ := List.mem_map.mp hidle
  obtain ⟨k, -, hk⟩ := List.mem_filterMap.mp hb
  obtain ⟨buf', hbuf', hk⟩ := Option.bind_eq_some_iff.mp hk
  split_ifs at hk with hdone
  obtain rfl := Option.some.inj hk
  obtain rfl := Option.some.inj (hbuf.symm.trans hbuf')
  rw [Bool.and_eq_true, beq_iff_eq] at hdone
  exact hrefs hdone.2

/-- **A poll turn with one inbound message** that comes to a verdict.  The turn is told by the
verdict; the buffer of a leased payload is still held. -/
theorem poll_settled (lib : Library) (wasm32 : Bool) {e : ClientEngine} (bufferId : UInt32)
    (bytes : List UInt8) (v : Verdict) (frame : DecodedFrame) (hopen : e.closed = false)
    (hhandle :
      let r := Turn.retain ⟨e, {}⟩ bufferId bytes
      (if e.session.phase.inSelectedPlane then handleFrame lib wasm32 r.2 r.1 bytes
        else r.2.handleBootstrap bytes) = r.2.settle v r.1 frame) :
    let r := Turn.retain ⟨e, {}⟩ bufferId bytes
    let turn := e.poll lib wasm32 [.wsBytes bufferId bytes]
    turn.2.events = v.events e.session.phase e.nextLeaseId ∧ turn.2.outbound = [] ∧
      turn.2.nextDeadlineMs = e.nextHeartbeatMs ∧
      ∃ retained : Table UInt32 RetainedBuffer,
        turn.1 = { v.engine r.2.engine ⟨r.1, payloadStart frame, frame.payloadLen.toNat⟩ with
          retained := retained } ∧
        ∀ event, v = .leased event →
          ∃ buf, retained.find? r.1 = some buf ∧ buf.bytes = bytes := by
  intro r turn
  have hbuf : r.2.engine.retained.find? r.1 = _ := find?_retain ⟨e, {}⟩ bufferId bytes
  have hkept : ∃ n retained, r.2 =
      ⟨{ e with nextBufferId := n, retained := retained }, {}⟩ := by
    show ∃ n retained, (Turn.retain ⟨e, {}⟩ bufferId bytes).2 = _
    unfold retain
    dsimp only
    split_ifs <;> exact ⟨_, _, rfl⟩
  obtain ⟨n, kept, hr⟩ := hkept
  have hevent : handleEvent lib wasm32 ⟨e, {}⟩ (.wsBytes bufferId bytes) =
      (r.2.settle v r.1 frame).modify (noteDone r.1) := by
    rw [← hhandle]
    have hphase : r.2.engine.session.phase = e.session.phase := by rw [hr]
    rw [← hphase]
    rfl
  have hturn : turn = _ := poll_singleton lib wasm32 e (.wsBytes bufferId bytes) hopen
  rw [hevent] at hturn
  rw [hturn]
  cases hv : v with
  | fails code message =>
    rw [hr]
    exact ⟨rfl, rfl, rfl, _, rfl, by rintro _ ⟨⟩⟩
  | ignored =>
    rw [hr]
    exact ⟨rfl, rfl, rfl, _, rfl, by rintro _ ⟨⟩⟩
  | leased event =>
    have hleased : ((r.2.settle (.leased event) r.1 frame).modify
        (noteDone r.1)).engine.retained.find? r.1 =
          some ⟨bytes, retainDeclaredLen bytes, 1, true⟩ := by
      show (noteDone r.1 _).retained.find? r.1 = _
      rw [find?_noteDone]
      unfold settle issueLease Turn.modify Turn.emit
      dsimp only
      rw [hbuf]
      simp only [Table.find?_set_self, Option.map_some, if_pos]
      rfl
    have hfind := find?_sweepReleased_of_leased hleased (show (1 : UInt32) ≠ 0 by decide)
    rw [hr] at hfind ⊢
    exact ⟨rfl, rfl, rfl, _, rfl, fun _ _ => ⟨_, hfind, rfl⟩⟩

/-- How a parsed application frame is handled. -/
theorem handles_application (lib : Library) {e : ClientEngine} (bufferId : UInt32)
    {bytes : List UInt8} {frame : DecodedFrame}
    (hplane : e.session.phase.inSelectedPlane = true)
    (hparse : parseFrameDeclared bytes (retainDeclaredLen bytes) defaultOptions = .ok frame)
    (hopcode : frame.opcode ≠ opcodeControlCbor) :
    let r := Turn.retain ⟨e, {}⟩ bufferId bytes
    (if e.session.phase.inSelectedPlane then handleFrame lib true r.2 r.1 bytes
      else r.2.handleBootstrap bytes) =
      r.2.settle (verdict e.session frame (retainDeclaredLen bytes)) r.1 frame := by
  intro r
  have hsession : r.2.engine.session = e.session :=
    congrArg Link.session (link_retain ⟨e, {}⟩ bufferId bytes)
  rw [if_pos hplane, handleFrame_application lib r.2 r.1 hparse hopcode, hsession]

/-- **A leased payload is denoted by its lease** when the turn has ended. -/
theorem denotes_of_poll (lib : Library) {e : ClientEngine} (bufferId : UInt32)
    {bytes : List UInt8} {frame : DecodedFrame} {event : UInt32 → AppEvent}
    (hopen : e.closed = false) (hplane : e.session.phase.inSelectedPlane = true)
    (hparse : parseFrameDeclared bytes (retainDeclaredLen bytes) defaultOptions = .ok frame)
    (hopcode : frame.opcode ≠ opcodeControlCbor)
    (hverdict : verdict e.session frame (retainDeclaredLen bytes) = .leased event) :
    (e.poll lib true [.wsBytes bufferId bytes]).1.Denotes e.nextLeaseId frame := by
  obtain ⟨-, -, -, retained, hengine, hkept⟩ :=
    poll_settled lib true bufferId bytes _ frame hopen
      (handles_application lib bufferId hplane hparse hopcode)
  obtain ⟨buf, hbuf, hbytes⟩ := hkept event hverdict
  suffices hholds : Lending.Holds Lease.bufferId
      (e.poll lib true [.wsBytes bufferId bytes]).1.store e.nextLeaseId
      ⟨(Turn.retain ⟨e, {}⟩ bufferId bytes).1, payloadStart frame, frame.payloadLen.toNat⟩ bytes from
    denotes_of_holds hparse hopcode hholds
  constructor
  · rw [hengine, hverdict]
    have hnext : (Turn.retain ⟨e, {}⟩ bufferId bytes).2.engine.nextLeaseId = e.nextLeaseId := by
      unfold retain
      dsimp only
      split_ifs <;> rfl
    rw [← hnext]
    exact Table.find?_set_self ..
  · rw [hengine]
    show ((retained.find? _).map _).map _ = _
    rw [hbuf, ← hbytes]
    rfl

end ClientEngine
end Rclweb
