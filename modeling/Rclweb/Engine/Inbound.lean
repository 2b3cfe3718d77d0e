import Rclweb.Engine.Application

/-!
# Inbound application frames, on any host

`Engine.Application` follows an application frame on a host that decodes samples itself.  Here the
host may be any; then the event of a sample can carry its text, and nothing else is different.
`handleWsBytes_application` says what the engine makes of the bytes of one frame.
-/

namespace Rclweb

open Rclweb.Frame Control

namespace Engine

/-- The operation a frame belongs to; the status stream of a channel may leave it out. -/
def operationOfFrame (frame : DecodedFrame) : Option (List UInt8) :=
  (frameOperationId frame).or
    (if frame.opcode = opcodeActionStatus then some OperationId.zero.1 else none)

/-- **The event that tells of an application frame**, whose payload is under a lease. -/
def Tells (frame : DecodedFrame) (leaseId : UInt32) (event : AppEvent) : Prop :=
  if frame.opcode = opcodeRosSample then
    ∃ text, event = .sample frame.channelId leaseId frame.sequence frame.sourceTimeNs text
  else
    ∃ operationId, operationOfFrame frame = some operationId ∧
      Turn.operationEvent frame.opcode ⟨frame.channelId, operationId, leaseId, frame.sequence⟩ =
        some event

namespace Turn

variable (lib : Library) (wasm32 : Bool)

/-- A frame under no opcode of the engine is refused by the session. -/
theorem verdict_fails_of_parked (s : Session) {frame : DecodedFrame} (declaredLen : ℕ)
    (hcontrol : frame.opcode ≠ opcodeControlCbor) (hsample : frame.opcode ≠ opcodeRosSample)
    (hoperation : ¬ Transition.isServiceOrActionOpcode frame.opcode = true) :
    ∃ code message, verdict s frame declaredLen = .fails code message := by
  have hrefused : ∃ err, (s.ingestFrame frame).1 = .error err := by
    show ∃ err, (Session.ofOutcome (Transition.applyFrame ..)).1 = _
    unfold Transition.applyFrame
    split_ifs
    · exact ⟨_, rfl⟩
    · exact ⟨_, rfl⟩
    · unfold Transition.applyParkedFrame
      split_ifs
      · exact ⟨_, rfl⟩
      · split <;> exact ⟨_, rfl⟩
  obtain ⟨err, herr⟩ := hrefused
  exact ⟨UInt8.ofNat err.code, err.reason, by rw [verdict, herr]⟩

/-- **What the engine makes of an application frame** that parses. -/
theorem handleFrame_verdict {t : Turn} (bufferId : UInt32) {bytes : List UInt8}
    {frame : DecodedFrame}
    (hparse : parseFrameDeclared bytes (retainDeclaredLen bytes) defaultOptions = .ok frame)
    (hopcode : frame.opcode ≠ opcodeControlCbor) :
    match verdict t.engine.session frame (retainDeclaredLen bytes) with
    | .fails code message => handleFrame lib wasm32 t bufferId bytes = t.fail code message
    | .ignored =>
      frame.opcode = opcodeActionCancel ∧ handleFrame lib wasm32 t bufferId bytes = t
    | .leased _ =>
      frame.opcode ≠ opcodeActionCancel ∧ ∃ event, Tells frame t.engine.nextLeaseId event ∧
        handleFrame lib wasm32 t bufferId bytes = (t.issueLease bufferId frame).2.emit event := by
  obtain ⟨payload, hpayload⟩ : ∃ payload, frame.payload = .application payload := by
    rcases payload_of_parseDeclared hparse hopcode with ⟨-, h⟩ | ⟨-, -, h⟩
    · exact ⟨_, h⟩
    · exact ⟨_, h⟩
  have hsession := session_ingestFrame_application (s := t.engine.session) hopcode
  have hmodify : (t.modify fun e => { e with session := t.engine.session }) = t := rfl
  have hparked := verdict_fails_of_parked t.engine.session (retainDeclaredLen bytes) hopcode
  unfold handleFrame
  unfold verdict at hparked ⊢
  dsimp only
  rw [hparse]
  dsimp only
  cases hingest : t.engine.session.ingestFrame frame with
  | mk result session =>
  rw [hingest] at hsession hparked
  obtain rfl : session = t.engine.session := hsession
  cases result with
  | error err => rfl
  | ok effects =>
    dsimp only at hparked ⊢
    rw [if_neg hopcode, hmodify]
    by_cases hsample : frame.opcode = opcodeRosSample
    · rw [if_pos hsample, if_pos hsample, handleSample, hpayload]
      dsimp only
      unfold sampleVerdict
      by_cases hbounds : payloadOutOfBounds frame (retainDeclaredLen bytes) = true
      · rw [if_pos hbounds, if_pos hbounds]
      · rw [if_neg hbounds, if_neg hbounds]
        have hcancel : frame.opcode ≠ opcodeActionCancel := by
          rw [hsample]
          decide
        refine ⟨hcancel, _, ?_, rfl⟩
        rw [Tells, if_pos hsample]
        exact ⟨_, rfl⟩
    · by_cases hoperation : Transition.isServiceOrActionOpcode frame.opcode = true
      · rw [if_neg hsample, if_neg hsample, if_pos hoperation, if_pos hoperation,
          handleServiceAction, hpayload]
        dsimp only
        unfold operationVerdict
        by_cases hbounds : payloadOutOfBounds frame (retainDeclaredLen bytes) = true
        · rw [if_pos hbounds, if_pos hbounds]
        rw [if_neg hbounds, if_neg hbounds]
        by_cases hcancel : frame.opcode = opcodeActionCancel
        · rw [if_pos hcancel, if_pos hcancel]
          exact ⟨hcancel, rfl⟩
        rw [if_neg hcancel, if_neg hcancel]
        cases hid : (frameOperationId frame).or
            (if frame.opcode = opcodeActionStatus then some OperationId.zero.1 else none) with
        | none => rfl
        | some operationId =>
          obtain ⟨event, hevent⟩ := Option.ne_none_iff_exists'.mp <|
            operationEvent_ne_none hoperation hcancel
              ⟨frame.channelId, operationId, t.engine.nextLeaseId, frame.sequence⟩
          refine ⟨hcancel, event, ?_, ?_⟩
          · rw [Tells, if_neg hsample]
            exact ⟨operationId, hid, hevent⟩
          · have hlease : t.issueLease bufferId frame =
                (t.engine.nextLeaseId, (t.issueLease bufferId frame).2) := rfl
            rw [hlease]
            dsimp only
            rw [hevent]
      · obtain ⟨code, message, hfails⟩ := hparked hsample hoperation
        rw [if_neg hsample, if_neg hoperation] at hfails
        cases hfails

/-- The application frame in the bytes of a host event, when the session has it looked at. -/
def application? (t : Turn) (event : HostEvent) : Option DecodedFrame :=
  match event with
  | .wsBytes _ bytes =>
    if t.engine.session.phase.inSelectedPlane then
      match parseFrameDeclared bytes (retainDeclaredLen bytes) defaultOptions with
      | .error _ => none
      | .ok frame => if frame.opcode = opcodeControlCbor then none else some frame
    else none
  | _ => none

/-- The verdict on the application frame of an event. -/
def verdictOn (t : Turn) (event : HostEvent) (frame : DecodedFrame) : Verdict :=
  verdict t.engine.session frame (retainDeclaredLen (event.bytes?.getD []))

/-- **What the engine makes of the bytes of an application frame**, but for the buffers. -/
theorem handleEvent_application {t : Turn} {event : HostEvent} {frame : DecodedFrame}
    (h : t.application? event = some frame) :
    match t.verdictOn event frame with
    | .fails code message =>
      (handleEvent lib wasm32 t event).outcome.events =
          t.outcome.events ++
            [AppEvent.error code message, AppEvent.closed t.engine.session.phase] ∧
        (handleEvent lib wasm32 t event).engine.closed = true
    | .ignored =>
      frame.opcode = opcodeActionCancel ∧
        (handleEvent lib wasm32 t event).outcome.events = t.outcome.events ∧
        (handleEvent lib wasm32 t event).engine.closed = t.engine.closed
    | .leased _ =>
      frame.opcode ≠ opcodeActionCancel ∧ ∃ told, Tells frame t.engine.nextLeaseId told ∧
        (handleEvent lib wasm32 t event).outcome.events = t.outcome.events ++ [told] ∧
        (handleEvent lib wasm32 t event).engine.closed = t.engine.closed := by
  cases event with
  | timer nowMs => cases h
  | command cmd => cases h
  | releaseLease leaseId => cases h
  | wsBytes bufferId bytes =>
    unfold application? at h
    dsimp only at h
    split_ifs at h with hplane
    cases hparse : parseFrameDeclared bytes (retainDeclaredLen bytes) defaultOptions with
    | error err =>
      rw [hparse] at h
      cases h
    | ok parsed =>
      rw [hparse] at h
      dsimp only at h
      split_ifs at h with hopcode
      obtain rfl := Option.some.inj h
      have hkept : ∃ n retained, (t.retain bufferId bytes).2 =
          ⟨{ t.engine with nextBufferId := n, retained := retained }, t.outcome⟩ := by
        unfold retain
        dsimp only
        split_ifs <;> exact ⟨_, _, rfl⟩
      obtain ⟨n, kept, hr⟩ := hkept
      have hevent : handleEvent lib wasm32 t (.wsBytes bufferId bytes) =
          (handleFrame lib wasm32 (t.retain bufferId bytes).2 (t.retain bufferId bytes).1
            bytes).modify (ClientEngine.noteDone (t.retain bufferId bytes).1) := by
        have hphase : (t.retain bufferId bytes).2.engine.session.phase.inSelectedPlane = true := by
          rw [hr]
          exact hplane
        rw [handleEvent, handleWsBytes]
        dsimp only
        rw [if_pos hphase]
        rfl
      have hframe := handleFrame_verdict lib wasm32 (t := (t.retain bufferId bytes).2)
        (t.retain bufferId bytes).1 hparse hopcode
      have hsession : (t.retain bufferId bytes).2.engine.session = t.engine.session := by rw [hr]
      rw [hsession] at hframe
      rw [hevent, verdictOn, HostEvent.bytes?, Option.getD_some]
      cases hv : verdict t.engine.session parsed (retainDeclaredLen bytes) with
      | fails code message =>
        rw [hv] at hframe
        dsimp only at hframe ⊢
        rw [hframe, hr]
        exact ⟨List.append_assoc .., rfl⟩
      | ignored =>
        rw [hv] at hframe
        dsimp only at hframe ⊢
        rw [hframe.2, hr]
        exact ⟨hframe.1, rfl, rfl⟩
      | leased told =>
        rw [hv] at hframe
        dsimp only at hframe ⊢
        obtain ⟨hcancel, event, htells, heq⟩ := hframe
        rw [heq]
        rw [hr] at htells ⊢
        exact ⟨hcancel, event, htells, rfl, rfl⟩

end Turn
end Engine
end Rclweb
